import DiskManager.Voldata.Mapping

/-!
# The mapping file

How the file system answers the store, what a mapping file holds, and what the save path does to
the two files at every point of a save, so also when the process is killed there.

* `fileEnv`: any request may fail. A write that fails leaves any bytes in the temporary file, which
  is also what a kill inside the write leaves.
* `LawfulJsonLib`: what is assumed of the JSON library.
* `wp_saveJsonToFile`, `wp_saveToFile`: a save either leaves the main file alone or replaces it by
  the whole new mapping.
-/

namespace DiskManager

open Interact

/-! ## The file system -/

/-- The contents of the files, by path. -/
abbrev Files : Type := CppString → Option CppString

/-- Only `path` may have changed. -/
def SameExcept (path : CppString) (w w' : Files) : Prop := ∀ p, p ≠ path → w' p = w p

/-- What the file system may answer. `reliable` excludes failing reads: otherwise `exists` may
report an error as absence and a file that is there may fail to open. `rename` is atomic. -/
def fileEnv (reliable : Bool) (_ : StoreState) (w : Files) :
    (q : FileReq) → q.Resp → Files → Prop
  | .exists path, there, w' =>
      w = w' ∧ (there = true → (w path).isSome = true) ∧
        (reliable = true → there = (w path).isSome)
  | .read path, content, w' =>
      w = w' ∧ (content = none ∨ content = w path) ∧ (reliable = true → content = w path)
  | .createDirectories _, _, w' => w = w'
  | .openTrunc path, done, w' => SameExcept path w w' ∧ (done = true → w' path = some [])
  | .writeClose path content, done, w' =>
      SameExcept path w w' ∧ (done = true → w' path = some content)
  | .fsync _, _, w' => w = w'
  | .rename source target, done, w' =>
      if done = true then
        (w source).isSome = true ∧
          w' = fun p => if p = target then w source else if p = source then none else w p
      else w = w'
  | .remove path, _, w' => SameExcept path w w'
  | .iterate m, order, w' => w = w' ∧ Walk m order

/-! ## What a file holds -/

section

variable [JsonLib]

/-- The mapping `LoadJsonFromPath` reads from a content, starting from an empty map. -/
def decodeContent (content : CppString) : Option UuidMap :=
  if content.isEmpty then some ∅
  else
    match JsonLib.parse content with
    | some (.array root) => some (loadItems root ∅)
    | _ => none

/-- The mapping a file holds. -/
def decodeFile (w : Files) (path : CppString) : Option UuidMap := (w path).bind decodeContent

/-- The mapping that survives the process. -/
def persisted (w : Files) : UuidMap := (decodeFile w jsonFilePath).getD ∅

/-- The text `SaveToFile` builds when it walks the map in the given order. -/
def encodeWalk (order : List (CppString × VoldataUuidEntry)) : CppString :=
  JsonLib.dump (.array (order.map fun pair => pair.2.toJson))

/-- `content` was written for `m`. -/
def Encodes (content : CppString) (m : UuidMap) : Prop :=
  ∃ order, Walk m order ∧ content = encodeWalk order

/-- The file at `path` was written for `m`. -/
def Holds (w : Files) (path : CppString) (m : UuidMap) : Prop :=
  ∃ content, w path = some content ∧ Encodes content m

/-- What the store relies on: parsing undoes dumping on the arrays it writes, as long as the
strings in them are UTF-8; the empty text is not JSON; a parsed string is UTF-8. -/
class LawfulJsonLib : Prop where
  parse_dump (es : List VoldataUuidEntry) :
    (∀ e ∈ es, CppString.isUtf8 e.fsUuid = true ∧ CppString.isUtf8 e.mountPath = true) →
      JsonLib.parse (JsonLib.dump (.array (es.map VoldataUuidEntry.toJson))) =
        some (.array (es.map VoldataUuidEntry.toJson))
  parse_nil : JsonLib.parse [] = none
  parse_utf8 {text : CppString} {items : List Json} : JsonLib.parse text = some (.array items) →
    ∀ item ∈ items, ∀ key s, item.stringMember? key = some s → CppString.isUtf8 s = true

end

/-- A mapping the JSON library can write. -/
structure Writable (m : UuidMap) : Prop where
  loadable : Loadable m
  utf8 {k : CppString} {e : VoldataUuidEntry} :
    m[k]? = some e → CppString.isUtf8 e.fsUuid = true ∧ CppString.isUtf8 e.mountPath = true

section

variable [JsonLib] [LawfulJsonLib]

/-- Loading a written mapping gives it back. -/
theorem Writable.decode {m : UuidMap} (writable : Writable m) {content : CppString}
    (encodes : Encodes content m) : decodeContent content = some m := by
  obtain ⟨order, walk, rfl⟩ := encodes
  have texts : ∀ e ∈ order.map (·.2),
      CppString.isUtf8 e.fsUuid = true ∧ CppString.isUtf8 e.mountPath = true := by
    intro e mem
    obtain ⟨⟨k, e'⟩, inOrder, rfl⟩ := List.mem_map.mp mem
    exact writable.utf8 (walk.mem.mp inOrder)
  have back := LawfulJsonLib.parse_dump (order.map (·.2)) texts
  rw [List.map_map] at back
  have parsed : JsonLib.parse (encodeWalk order) =
      some (.array (order.map fun pair => pair.2.toJson)) := back
  have text : (encodeWalk order).isEmpty = false := by
    cases empty : encodeWalk order with
    | nil =>
        rw [empty, LawfulJsonLib.parse_nil] at parsed
        cases parsed
    | cons c cs => rfl
  simp only [decodeContent, text, parsed, writable.loadable.loadItems_walk walk,
    Bool.false_eq_true, if_false]

theorem Writable.decodeFile {m : UuidMap} (writable : Writable m) {w : Files} {path : CppString}
    (holds : Holds w path m) : DiskManager.decodeFile w path = some m := by
  obtain ⟨content, there, encodes⟩ := holds
  rw [DiskManager.decodeFile, there, Option.bind_some, writable.decode encodes]

end

/-- A slot table the JSON library can write. -/
structure Stored (m : UuidMap) : Prop where
  table : SlotTable m
  utf8 {k : CppString} {e : VoldataUuidEntry} : m[k]? = some e → CppString.isUtf8 k = true

theorem Stored.empty : Stored ∅ := ⟨SlotTable.empty, fun hit => by simp at hit⟩

theorem isUtf8_buildMountPathForSlot (slot : Nat) :
    CppString.isUtf8 (buildMountPathForSlot slot) = true := by
  refine CppString.isUtf8_of_ascii fun c mem => ?_
  rcases List.mem_append.mp mem with front | digit
  · have ascii : (VOLDATA_MOUNT_PREFIX.all fun c => c.toNat < 0x80) = true := by decide
    exact of_decide_eq_true (List.all_eq_true.mp ascii c front)
  · exact CppString.ascii_of_isDigit (CppString.isDigit_of_mem_ofNat digit)

theorem Stored.writable {m : UuidMap} (stored : Stored m) : Writable m where
  loadable := stored.table.loadable
  utf8 hit := by
    rw [stored.table.key hit, stored.table.path hit]
    exact ⟨stored.utf8 hit, isUtf8_buildMountPathForSlot _⟩

theorem Stored.persisted [JsonLib] [LawfulJsonLib] {m : UuidMap} (stored : Stored m) {w : Files}
    (holds : Holds w jsonFilePath m) : persisted w = m := by
  rw [DiskManager.persisted, stored.writable.decodeFile holds, Option.getD_some]

/-! ## Saving -/

/-- The contract of the store: it runs against the file system, `crash` holds of the files at
every request and `memory` of the mapping after every section. -/
def storeContract (reliable : Bool) (crash : Files → Prop) (memory : UuidMap → Prop) :
    Contract StoreState Files FileReq FileReq.Resp :=
  ⟨fileEnv reliable, fun _ w _ => crash w, fun _ _ s' => memory s'.uuidMap⟩

section

variable {reliable : Bool} {crash : Files → Prop} {memory : UuidMap → Prop} {s : StoreState}
  {w : Files}

theorem wp_ask_bind {α : Type} {q : FileReq} {f : q.Resp → StoreProg α}
    {post : α → StoreState → Files → Prop} :
    wp (storeContract reliable crash memory) (ask q >>= f) post s w ↔
      crash w ∧ ∀ r w', fileEnv reliable s w q r w' →
        wp (storeContract reliable crash memory) (f r) post s w' :=
  wp_bind

@[simp] theorem wp_setUuidMap {m : UuidMap} {post : Unit → StoreState → Files → Prop} :
    wp (storeContract reliable crash memory) (setUuidMap m) post s w ↔
      memory m ∧ post () { s with uuidMap := m } w := Iff.rfl

@[simp] theorem wp_getUuidMap {post : UuidMap → StoreState → Files → Prop} :
    wp (storeContract reliable crash memory) getUuidMap post s w ↔
      memory s.uuidMap ∧ post s.uuidMap s w := Iff.rfl

theorem tmp_ne (path : CppString) : path ≠ path ++ TMP_FILE_SUFFIX := by
  intro same
  have sizes := congrArg List.length same
  rw [List.length_append] at sizes
  have : TMP_FILE_SUFFIX.length = 4 := rfl
  omega

/-- The files while `content` is being saved to `path`: the temporary file holds anything, `path`
is as before or complete. -/
structure Saving (path content : CppString) (w w' : Files) : Prop where
  frame : ∀ p, p ≠ path → p ≠ path ++ TMP_FILE_SUFFIX → w' p = w p
  whole : w' path = w path ∨ w' path = some content

theorem Saving.of_tmp {path content : CppString} {w w' : Files}
    (tmp : SameExcept (path ++ TMP_FILE_SUFFIX) w w') : Saving path content w w' where
  frame p _ notTmp := tmp p notTmp
  whole := .inl (tmp path (tmp_ne path))

variable [JsonLib]

theorem wp_saveJsonToFile {path : CppString} {json : Json}
    (atCrash : ∀ w', Saving path (JsonLib.dump json) w w' → crash w') :
    wp (storeContract reliable crash memory) (saveJsonToFile path json)
      (fun ret s' w' => s' = s ∧ Saving path (JsonLib.dump json) w w' ∧
        (ret = E_OK → w' path = some (JsonLib.dump json)) ∧ (ret ≠ E_OK → w' path = w path)) s w := by
  have tmpOnly : ∀ {w'}, SameExcept (path ++ TMP_FILE_SUFFIX) w w' → crash w' :=
    fun tmp => atCrash _ (.of_tmp tmp)
  have failed : ∀ {w'}, SameExcept (path ++ TMP_FILE_SUFFIX) w w' →
      s = s ∧ Saving path (JsonLib.dump json) w w' ∧
        (DISK_MGR_ERR = E_OK → w' path = some (JsonLib.dump json)) ∧
        (DISK_MGR_ERR ≠ E_OK → w' path = w path) := fun tmp =>
    ⟨rfl, .of_tmp tmp, fun bad => absurd bad (by decide), fun _ => tmp path (tmp_ne path)⟩
  have start : SameExcept (path ++ TMP_FILE_SUFFIX) w w := fun p _ => rfl
  rw [saveJsonToFile]
  refine wp_ask_bind.mpr ⟨tmpOnly start, ?_⟩
  rintro made _ rfl
  cases made with
  | false => exact failed start
  | true =>
  refine wp_ask_bind.mpr ⟨tmpOnly start, ?_⟩
  rintro opened w₁ ⟨same₁, -⟩
  cases opened with
  | false => exact failed same₁
  | true =>
  refine wp_ask_bind.mpr ⟨tmpOnly same₁, ?_⟩
  rintro written w₂ ⟨same₂, full⟩
  have tmp₂ : SameExcept (path ++ TMP_FILE_SUFFIX) w w₂ := fun p ne =>
    (same₂ p ne).trans (same₁ p ne)
  cases written with
  | false =>
      refine wp_ask_bind.mpr ⟨tmpOnly tmp₂, ?_⟩
      rintro ⟨⟩ w₃ same₃
      exact failed fun p ne => (same₃ p ne).trans (tmp₂ p ne)
  | true =>
  refine wp_ask_bind.mpr ⟨tmpOnly tmp₂, ?_⟩
  rintro ⟨⟩ _ rfl
  refine wp_ask_bind.mpr ⟨tmpOnly tmp₂, ?_⟩
  rintro renamed w₄ moved
  cases renamed with
  | false =>
      obtain rfl : w₂ = w₄ := moved
      refine wp_ask_bind.mpr ⟨tmpOnly tmp₂, ?_⟩
      rintro ⟨⟩ w₅ same₅
      exact failed fun p ne => (same₅ p ne).trans (tmp₂ p ne)
  | true =>
      obtain ⟨-, rfl⟩ := moved
      have complete : (fun p => if p = path then w₂ (path ++ TMP_FILE_SUFFIX) else
          if p = path ++ TMP_FILE_SUFFIX then none else w₂ p) path = some (JsonLib.dump json) := by
        simpa using full rfl
      refine ⟨rfl, ⟨fun p notPath notTmp => ?_, .inr complete⟩, fun _ => complete,
        fun bad => absurd rfl bad⟩
      simp only [if_neg notPath, if_neg notTmp]
      exact tmp₂ p notTmp

/-- The two files while `m` is being saved. -/
structure SavingMap (m : UuidMap) (w w' : Files) : Prop where
  main : w' jsonFilePath = w jsonFilePath ∨ Holds w' jsonFilePath m
  backup : w' backupFilePath = w backupFilePath ∨ Holds w' backupFilePath m

theorem Holds.of_eq {w w' : Files} {path : CppString} {m : UuidMap} (same : w' path = w path)
    (holds : Holds w path m) : Holds w' path m := by
  obtain ⟨content, there, encodes⟩ := holds
  exact ⟨content, same.trans there, encodes⟩

theorem wp_saveToFile (mem : memory s.uuidMap)
    (atCrash : ∀ w', SavingMap s.uuidMap w w' → crash w') :
    wp (storeContract reliable crash memory) saveToFile
      (fun ret s' w' => s' = s ∧ SavingMap s.uuidMap w w' ∧
        (ret = E_OK → Holds w' jsonFilePath s.uuidMap) ∧
        (ret ≠ E_OK → w' jsonFilePath = w jsonFilePath ∧ w' backupFilePath = w backupFilePath))
      s w := by
  rw [saveToFile, wp_bind, wp_getUuidMap]
  refine ⟨mem, wp_ask_bind.mpr ⟨atCrash w ⟨.inl rfl, .inl rfl⟩, ?_⟩⟩
  rintro order _ ⟨rfl, walk⟩
  have written : Encodes (encodeWalk order) s.uuidMap := ⟨order, walk, rfl⟩
  have others : backupFilePath ≠ jsonFilePath ∧
      backupFilePath ≠ jsonFilePath ++ TMP_FILE_SUFFIX ∧
      jsonFilePath ≠ backupFilePath ++ TMP_FILE_SUFFIX := by decide
  -- The main file: the backup is not touched.
  have first : ∀ {w'}, Saving jsonFilePath (encodeWalk order) w w' → SavingMap s.uuidMap w w' := by
    intro w' saving
    refine ⟨?_, .inl (saving.frame _ others.1 others.2.1)⟩
    rcases saving.whole with same | whole
    · exact .inl same
    · exact .inr ⟨_, whole, written⟩
  rw [wp_bind]
  refine wp_mono ?_ (wp_saveJsonToFile fun w' saving => atCrash w' (first saving))
  rintro mainRet s₁ w₁ ⟨rfl, saving, done, undone⟩
  by_cases ok : mainRet = E_OK
  swap
  · rw [if_pos ok]
    refine ⟨rfl, first saving, fun good => absurd good ok, fun _ => ⟨undone ok, ?_⟩⟩
    exact saving.frame _ others.1 others.2.1
  -- The backup: the main file stays complete.
  have main : Holds w₁ jsonFilePath s₁.uuidMap := ⟨_, done ok, written⟩
  have untouched : w₁ backupFilePath = w backupFilePath :=
    saving.frame _ others.1 others.2.1
  have second : ∀ {w'}, Saving backupFilePath (encodeWalk order) w₁ w' →
      Holds w' jsonFilePath s₁.uuidMap ∧ SavingMap s₁.uuidMap w w' := by
    intro w' saving'
    have kept : Holds w' jsonFilePath s₁.uuidMap :=
      main.of_eq (saving'.frame _ others.1.symm others.2.2)
    refine ⟨kept, .inr kept, ?_⟩
    rcases saving'.whole with same | whole
    · exact .inl (same.trans untouched)
    · exact .inr ⟨_, whole, written⟩
  rw [if_neg (not_not.mpr ok)]
  rw [wp_bind]
  refine wp_mono ?_ (wp_saveJsonToFile fun w' saving' => atCrash w' (second saving').2)
  rintro backupRet s₂ w₂ ⟨rfl, saving', -, -⟩
  exact ⟨rfl, (second saving').2, fun _ => (second saving').1, fun bad => absurd rfl bad⟩

end

end DiskManager
