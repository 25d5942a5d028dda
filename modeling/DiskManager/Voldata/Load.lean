import DiskManager.Voldata.Files

/-!
# Loading the mapping

`LoadFromFile` and `Init`, for files of any content. `LoadSource` names the mapping a load may end
with: the empty one, the one in the main file or the one in the backup. What a load writes is
always that mapping.
-/

namespace DiskManager

open Interact

section

variable [JsonLib]

/-- The mapping a load of the files `w` may choose. With reliable reads the empty mapping is chosen
when the main file is missing or both files are unreadable, the backup when only it is readable. -/
inductive LoadSource (reliable : Bool) (w : Files) : UuidMap → Prop
  | fresh :
    (reliable = true →
      w jsonFilePath = none ∨ decodeFile w jsonFilePath = none ∧ decodeFile w backupFilePath = none) →
    LoadSource reliable w ∅
  | main {m : UuidMap} : decodeFile w jsonFilePath = some m → LoadSource reliable w m
  | backup {m : UuidMap} :
    (reliable = true → (w jsonFilePath).isSome = true ∧ decodeFile w jsonFilePath = none) →
    decodeFile w backupFilePath = some m → LoadSource reliable w m

variable {reliable : Bool} {crash : Files → Prop} {memory : UuidMap → Prop} {s : StoreState}
  {w : Files}

theorem wp_loadJsonFromPath {path : CppString} (start : s.uuidMap = ∅) (atCrash : crash w)
    (memEmpty : memory ∅) (mem : ∀ m, decodeFile w path = some m → memory m) :
    wp (storeContract reliable crash memory) (loadJsonFromPath path)
      (fun ret s' w' => w = w' ∧
        ((ret = E_OK ∧ ∃ m, decodeFile w path = some m ∧ s' = { s with uuidMap := m }) ∨
          (ret ≠ E_OK ∧ s' = s ∧ (reliable = true → decodeFile w path = none)))) s w := by
  have err : DISK_MGR_ERR ≠ E_OK := by decide
  rw [loadJsonFromPath]
  refine wp_ask_bind.mpr ⟨atCrash, ?_⟩
  rintro content _ ⟨rfl, read, truthful⟩
  cases content with
  | none =>
      refine ⟨rfl, .inr ⟨err, rfl, fun sure => ?_⟩⟩
      rw [decodeFile, ← truthful sure, Option.bind_none]
  | some jsonStr =>
      have there : w path = some jsonStr := by
        rcases read with absent | same
        · cases absent
        · exact same.symm
      have decode : decodeFile w path = decodeContent jsonStr := by
        rw [decodeFile, there, Option.bind_some]
      cases jsonStr with
      | nil => exact ⟨rfl, .inl ⟨rfl, ∅, decode, by rw [← start]⟩⟩
      | cons c cs =>
          have notEmpty : (c :: cs).isEmpty = false := rfl
          simp only [notEmpty, Bool.false_eq_true, if_false, JsonLib.accept]
          simp only [decodeContent, notEmpty, Bool.false_eq_true, if_false] at decode
          rcases Option.eq_none_or_eq_some (JsonLib.parse (c :: cs)) with parsed | ⟨root, parsed⟩
          · simp only [parsed] at decode ⊢
            exact ⟨rfl, .inr ⟨err, rfl, fun _ => decode⟩⟩
          · simp only [parsed] at decode ⊢
            cases root with
            | array items =>
                simp only [Option.isSome_some, Bool.not_true, Bool.false_eq_true, if_false,
                  wp_bind, wp_getUuidMap, wp_setUuidMap, start]
                exact ⟨memEmpty, mem _ decode, rfl, .inl ⟨rfl, _, decode, rfl⟩⟩
            | null | bool | number | string | object =>
                exact ⟨rfl, .inr ⟨err, rfl, fun _ => decode⟩⟩

theorem wp_loadFromFile (memEmpty : memory ∅)
    (mem : ∀ m, LoadSource reliable w m → memory m)
    (atCrash : ∀ m w', LoadSource reliable w m → SavingMap m w w' → crash w') (now : crash w) :
    wp (storeContract reliable crash memory) loadFromFile
      (fun ret s' w' => s'.initialized = s.initialized ∧ LoadSource reliable w s'.uuidMap ∧
        SavingMap s'.uuidMap w w' ∧
        (ret = E_OK → Holds w' jsonFilePath s'.uuidMap ∨
          decodeFile w jsonFilePath = some s'.uuidMap ∧ w' jsonFilePath = w jsonFilePath) ∧
        (reliable = true → (decodeFile w jsonFilePath).isSome = true → ret = E_OK)) s w := by
  -- Every case that saves does so from a mapping that a load may choose.
  have save : ∀ {s₁ : StoreState}, s₁.initialized = s.initialized →
      LoadSource reliable w s₁.uuidMap →
      (reliable = true → decodeFile w jsonFilePath = none) →
      wp (storeContract reliable crash memory) saveToFile
        (fun ret s' w' => s'.initialized = s.initialized ∧ LoadSource reliable w s'.uuidMap ∧
          SavingMap s'.uuidMap w w' ∧
          (ret = E_OK → Holds w' jsonFilePath s'.uuidMap ∨
            decodeFile w jsonFilePath = some s'.uuidMap ∧ w' jsonFilePath = w jsonFilePath) ∧
          (reliable = true → (decodeFile w jsonFilePath).isSome = true → ret = E_OK)) s₁ w := by
    intro s₁ flag source unread
    refine wp_mono ?_ (wp_saveToFile (mem _ source) fun w' saving => atCrash _ w' source saving)
    rintro ret s' w' ⟨rfl, saving, done, -⟩
    refine ⟨flag, source, saving, fun ok => .inl (done ok), fun sure readable => ?_⟩
    rw [unread sure] at readable
    cases readable
  rw [loadFromFile, wp_bind, wp_setUuidMap]
  refine ⟨memEmpty, wp_ask_bind.mpr ⟨now, ?_⟩⟩
  rintro mainExists _ ⟨rfl, mainTrue, mainSure⟩
  cases mainExists with
  | false =>
      have absent : reliable = true → w jsonFilePath = none := fun sure => by
        simpa using (mainSure sure).symm
      refine save rfl (.fresh fun sure => .inl (absent sure)) fun sure => ?_
      rw [decodeFile, absent sure, Option.bind_none]
  | true =>
  have present : (w jsonFilePath).isSome = true := mainTrue rfl
  refine wp_seq (wp_loadJsonFromPath rfl now memEmpty fun m read => mem m (.main read)) ?_
  rintro loadRet s₁ _ ⟨rfl, ⟨rfl, m, read, rfl⟩ | ⟨bad, rfl, unread⟩⟩
  · -- Case 2: the main file is read; the backup is rebuilt when it is missing.
    refine wp_ask_bind.mpr ⟨now, ?_⟩
    rintro backupExists _ ⟨rfl, -, -⟩
    cases backupExists with
    | true =>
        exact ⟨rfl, .main read, ⟨.inl rfl, .inl rfl⟩, fun _ => .inr ⟨read, rfl⟩, fun _ _ => rfl⟩
    | false =>
        have source : LoadSource reliable w m := .main read
        refine wp_seq (wp_saveToFile (mem m source) fun w' saving => atCrash m w' source saving) ?_
        rintro ret s' w' ⟨rfl, saving, -, -⟩
        refine ⟨rfl, source, saving, fun _ => ?_, fun _ _ => rfl⟩
        rcases saving.main with same | written
        · exact .inr ⟨read, same⟩
        · exact .inl written
  · -- Cases 3 and 4: the main file is unreadable.
    rw [if_neg bad]
    refine wp_ask_bind.mpr ⟨now, ?_⟩
    rintro backupExists _ ⟨rfl, -, backupSure⟩
    cases backupExists with
    | false =>
        refine save rfl (.fresh fun sure => .inr ⟨unread sure, ?_⟩) unread
        have absent : w backupFilePath = none := by simpa using (backupSure sure).symm
        rw [decodeFile, absent, Option.bind_none]
    | true =>
        have chosen : ∀ m, decodeFile w backupFilePath = some m → LoadSource reliable w m :=
          fun m read => .backup (fun sure => ⟨present, unread sure⟩) read
        refine wp_seq (wp_loadJsonFromPath rfl now memEmpty fun m read => mem m (chosen m read)) ?_
        rintro loadRet' s₂ _ ⟨rfl, ⟨rfl, m, read, rfl⟩ | ⟨bad', rfl, unread'⟩⟩
        · exact save rfl (chosen m read) unread
        · rw [if_neg bad']
          exact save rfl (.fresh fun sure => .inr ⟨unread sure, unread' sure⟩) unread

end

end DiskManager
