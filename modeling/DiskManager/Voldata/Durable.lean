import DiskManager.Voldata.Load

/-!
# The store over whole runs

Runs of the store start from no files; files may fail to save or to load at any request and the
process may be killed at any point and started again.

* `StoreInv`: memory holds a slot table, each file is missing or holds one, and once the store is
  initialised the main file holds the one in memory.
* `wp_store`: every operation keeps it, and says what it does to the persisted mapping at every
  point at which it may be killed.
* `uuidMap_slots_injective`, `voldata_durable`: the two promises of the store.
-/

namespace DiskManager

open Interact

section

variable [JsonLib]

/-- A file is missing or was written for a slot table. -/
def FileOk (w : Files) (path : CppString) : Prop :=
  w path = none ∨ ∃ m, Stored m ∧ Holds w path m

structure FilesOk (w : Files) : Prop where
  main : FileOk w jsonFilePath
  backup : FileOk w backupFilePath

structure StoreInv (s : StoreState) (w : Files) : Prop where
  stored : Stored s.uuidMap
  files : FilesOk w
  synced : s.initialized = true → Holds w jsonFilePath s.uuidMap

theorem FileOk.of_eq {w w' : Files} {path : CppString} (same : w' path = w path)
    (ok : FileOk w path) : FileOk w' path := by
  rcases ok with absent | ⟨m, stored, holds⟩
  · exact .inl (same.trans absent)
  · exact .inr ⟨m, stored, holds.of_eq same⟩

theorem FilesOk.saving {w w' : Files} {m : UuidMap} (ok : FilesOk w) (stored : Stored m)
    (saving : SavingMap m w w') : FilesOk w' where
  main := by
    rcases saving.main with same | holds
    · exact ok.main.of_eq same
    · exact .inr ⟨m, stored, holds⟩
  backup := by
    rcases saving.backup with same | holds
    · exact ok.backup.of_eq same
    · exact .inr ⟨m, stored, holds⟩

theorem StoreInv.boot {w : Files} (files : FilesOk w) : StoreInv .boot w where
  stored := Stored.empty
  files := files
  synced flag := by cases flag

theorem persisted_of_eq {w w' : Files} (same : w' jsonFilePath = w jsonFilePath) :
    persisted w' = persisted w := by
  simp only [persisted, decodeFile, same]

variable [LawfulJsonLib]

theorem StoreInv.persisted {s : StoreState} {w : Files} (inv : StoreInv s w)
    (flag : s.initialized = true) : persisted w = s.uuidMap :=
  inv.stored.persisted (inv.synced flag)

theorem StoreInv.readable {s : StoreState} {w : Files} (inv : StoreInv s w)
    (up : s.initialized = true) : (decodeFile w jsonFilePath).isSome = true := by
  rw [inv.stored.writable.decodeFile (inv.synced up), Option.isSome_some]

theorem FileOk.stored_of_decode {w : Files} {path : CppString} {m : UuidMap} (ok : FileOk w path)
    (decode : decodeFile w path = some m) : Stored m := by
  rcases ok with absent | ⟨m', stored, holds⟩
  · rw [decodeFile, absent, Option.bind_none] at decode
    cases decode
  · rw [stored.writable.decodeFile holds] at decode
    cases decode
    exact stored

theorem LoadSource.stored {reliable : Bool} {w : Files} {m : UuidMap} (files : FilesOk w)
    (source : LoadSource reliable w m) : Stored m := by
  cases source with
  | fresh => exact Stored.empty
  | main decode => exact files.main.stored_of_decode decode
  | backup _ decode => exact files.backup.stored_of_decode decode

/-- With reliable reads a load of well-formed files gives what the main file holds. -/
theorem LoadSource.eq_persisted {w : Files} {m : UuidMap} (files : FilesOk w)
    (source : LoadSource true w m) : m = persisted w := by
  have unreadable : decodeFile w jsonFilePath = none → w jsonFilePath = none := by
    intro none
    rcases files.main with absent | ⟨m', stored, holds⟩
    · exact absent
    · rw [stored.writable.decodeFile holds] at none
      cases none
  cases source with
  | fresh why =>
      have absent : w jsonFilePath = none := by
        rcases why rfl with absent | ⟨none, -⟩
        · exact absent
        · exact unreadable none
      rw [persisted, decodeFile, absent, Option.bind_none, Option.getD_none]
  | main decode => rw [persisted, decode, Option.getD_some]
  | backup why =>
      obtain ⟨there, none⟩ := why rfl
      rw [unreadable none] at there
      cases there

theorem SavingMap.persisted {w w' : Files} {m : UuidMap} (stored : Stored m)
    (saving : SavingMap m w w') :
    DiskManager.persisted w' = DiskManager.persisted w ∨ DiskManager.persisted w' = m := by
  rcases saving.main with same | holds
  · exact .inl (persisted_of_eq same)
  · exact .inr (stored.persisted holds)

/-! ## Initialisation -/

variable {reliable : Bool} {crash : Files → Prop} {s : StoreState} {w : Files}

theorem wp_init (inv : StoreInv s w)
    (atCrash : ∀ w', s.initialized = false → FilesOk w' →
      (reliable = true → persisted w' = persisted w) → crash w') :
    wp (storeContract reliable crash Stored) init
      (fun ret s' w' => StoreInv s' w' ∧ (ret = E_OK → s'.initialized = true) ∧
        (s.initialized = true → ret = E_OK ∧ s = s' ∧ w = w') ∧
        (reliable = true ∨ s.initialized = true → persisted w' = persisted w) ∧
        (reliable = true → (decodeFile w jsonFilePath).isSome = true → ret = E_OK)) s w := by
  rw [init, wp_bind, wp_read]
  refine ⟨inv.stored, ?_⟩
  cases flag : s.initialized with
  | true => exact ⟨inv, fun _ => flag, fun _ => ⟨rfl, rfl, rfl⟩, fun _ => rfl, fun _ _ => rfl⟩
  | false =>
      have same : ∀ {m : UuidMap} {w'}, LoadSource reliable w m → SavingMap m w w' →
          reliable = true → persisted w' = persisted w := by
        rintro m w' source saving rfl
        rcases saving.persisted (source.stored inv.files) with kept | taken
        · exact kept
        · rw [taken, source.eq_persisted inv.files]
      refine wp_seq (wp_loadFromFile Stored.empty (fun m source => source.stored inv.files)
        (fun m w' source saving => atCrash w' flag
          (inv.files.saving (source.stored inv.files) saving) (same source saving))
        (atCrash w flag inv.files fun _ => rfl)) ?_
      rintro ret s₁ w₁ ⟨flag₁, source, saving, done, sure⟩
      have kept : reliable = true ∨ false = true → persisted w₁ = persisted w :=
        fun anchored => same source saving (anchored.resolve_right nofun)
      have stored₁ : Stored s₁.uuidMap := source.stored inv.files
      have files₁ : FilesOk w₁ := inv.files.saving stored₁ saving
      by_cases ok : ret = E_OK
      swap
      · rw [if_pos ok]
        refine ⟨⟨stored₁, files₁, fun up => ?_⟩, fun good => absurd good ok, nofun, kept, sure⟩
        rw [flag₁, flag] at up
        cases up
      · rw [if_neg (not_not.mpr ok), wp_bind, wp_modify]
        refine ⟨stored₁, ⟨stored₁, files₁, fun _ => ?_⟩, fun _ => rfl, nofun, kept,
          fun _ _ => rfl⟩
        rcases done ok with holds | ⟨decode, same₁⟩
        · exact holds
        · rcases inv.files.main with absent | ⟨m, stored, holds⟩
          · rw [decodeFile, absent, Option.bind_none] at decode
            cases decode
          · rw [stored.writable.decodeFile holds] at decode
            cases decode
            exact holds.of_eq same₁

/-! ## Changes -/

/-- The save that ends every change: `old` is in the main file, `s` holds the new mapping. -/
theorem wp_saveToFile_change {old : UuidMap} (stored : Stored s.uuidMap) (oldStored : Stored old)
    (files : FilesOk w) (holds : Holds w jsonFilePath old)
    (atCrash : ∀ w', FilesOk w' → (decodeFile w' jsonFilePath).isSome = true →
      persisted w' = old ∨ persisted w' = s.uuidMap → crash w') :
    wp (storeContract reliable crash Stored) saveToFile
      (fun ret s' w' => s' = s ∧ FilesOk w' ∧ (ret = E_OK → Holds w' jsonFilePath s.uuidMap) ∧
        (ret ≠ E_OK → w' jsonFilePath = w jsonFilePath)) s w := by
  have before : persisted w = old := oldStored.persisted holds
  have readable : ∀ {w'}, SavingMap s.uuidMap w w' →
      (decodeFile w' jsonFilePath).isSome = true := by
    intro w' saving
    rcases saving.main with same | written
    · rw [oldStored.writable.decodeFile (holds.of_eq same), Option.isSome_some]
    · rw [stored.writable.decodeFile written, Option.isSome_some]
  refine wp_mono ?_ (wp_saveToFile stored fun w' saving => atCrash w' (files.saving stored saving)
    (readable saving) (by rw [← before]; exact saving.persisted stored))
  rintro ret s' w' ⟨rfl, saving, done, undone⟩
  exact ⟨rfl, files.saving stored saving, done, fun bad => (undone bad).1⟩

/-- The files at every point of an operation. -/
structure StoreOp.Crash (op : StoreOp) (reliable : Bool) (s : StoreState) (w w' : Files) :
    Prop where
  files : FilesOk w'
  readable : s.initialized = true → (decodeFile w' jsonFilePath).isSome = true
  persisted : reliable = true ∨ s.initialized = true →
    persisted w' = persisted w ∨ DiskManager.persisted w' = op.effect (DiskManager.persisted w)

/-- What an operation owes from `s` and `w`: the invariant; the effect when it succeeds on a
mapping it could read; nothing changed when it fails on an initialised store. -/
structure StoreOp.Done (op : StoreOp) (reliable : Bool) (s : StoreState) (w : Files) (ret : ErrCode)
    (s' : StoreState) (w' : Files) : Prop where
  inv : StoreInv s' w'
  effect : reliable = true ∨ s.initialized = true → ret = E_OK → s'.initialized = true →
    s'.uuidMap = op.effect (persisted w)
  crash : op.Crash reliable s w w'
  undone : s.initialized = true → ret ≠ E_OK →
    s'.uuidMap = s.uuidMap ∧ w' jsonFilePath = w jsonFilePath

/-- Where an operation stands once the store is initialised. -/
structure Ready (reliable : Bool) (s : StoreState) (w : Files) (s₁ : StoreState) (w₁ : Files) :
    Prop where
  inv : StoreInv s₁ w₁
  up : s₁.initialized = true
  same : reliable = true ∨ s.initialized = true → persisted w₁ = persisted w
  still : s.initialized = true → s = s₁ ∧ w = w₁

section

variable {op : StoreOp} {s₁ : StoreState} {w₁ : Files}

theorem Ready.mapping (ready : Ready reliable s w s₁ w₁) :
    reliable = true ∨ s.initialized = true → persisted w = s₁.uuidMap := fun anchored => by
  rw [← ready.same anchored, ready.inv.persisted ready.up]

theorem Ready.atCrash (ready : Ready reliable s w s₁ w₁) : op.Crash reliable s w w₁ where
  files := ready.inv.files
  readable _ := ready.inv.readable ready.up
  persisted anchored := .inl (ready.same anchored)

/-- An operation that returns without a change. -/
theorem Ready.unchanged (ready : Ready reliable s w s₁ w₁) {ret : ErrCode}
    (effect : ret = E_OK → op.effect s₁.uuidMap = s₁.uuidMap) : op.Done reliable s w ret s₁ w₁ where
  inv := ready.inv
  effect anchored ok _ := by rw [ready.mapping anchored, effect ok]
  crash := ready.atCrash
  undone up _ := by
    obtain ⟨rfl, rfl⟩ := ready.still up
    exact ⟨rfl, rfl⟩

/-- A change: the new mapping is in memory and is saved, or memory goes back to the old one. -/
theorem Ready.wp_change (ready : Ready reliable s w s₁ w₁)
    (stored : Stored (op.effect s₁.uuidMap)) :
    wp (storeContract reliable (op.Crash reliable s w) Stored) saveToFile
      (fun ret s' w' =>
        (ret = E_OK → op.Done reliable s w E_OK s' w') ∧
        (ret ≠ E_OK → op.Done reliable s w ret { s' with uuidMap := s₁.uuidMap } w'))
      { s₁ with uuidMap := op.effect s₁.uuidMap } w₁ := by
  have holds : Holds w₁ jsonFilePath s₁.uuidMap := ready.inv.synced ready.up
  refine wp_mono ?_ (wp_saveToFile_change stored ready.inv.stored ready.inv.files holds ?_)
  · rintro ret s' w' ⟨rfl, files, done, undone⟩
    refine ⟨fun ok => ?_, fun bad => ?_⟩
    · have inv' : StoreInv { s₁ with uuidMap := op.effect s₁.uuidMap } w' :=
        ⟨stored, files, fun _ => done ok⟩
      refine ⟨inv', ?_, ⟨files, fun _ => inv'.readable ready.up, ?_⟩, fun _ bad => absurd rfl bad⟩
      · intro anchored _ _
        rw [ready.mapping anchored]
      · intro anchored
        rw [ready.mapping anchored, stored.persisted (done ok)]
        exact .inr rfl
    · have kept : w' jsonFilePath = w₁ jsonFilePath := undone bad
      have inv' : StoreInv s₁ w' := ⟨ready.inv.stored, files, fun _ => holds.of_eq kept⟩
      refine ⟨inv', fun _ ok => absurd ok bad, ⟨files, fun _ => inv'.readable ready.up, ?_⟩, ?_⟩
      · intro anchored
        rw [persisted_of_eq kept]
        exact .inl (ready.same anchored)
      · intro up _
        obtain ⟨rfl, rfl⟩ := ready.still up
        exact ⟨rfl, kept⟩
  · intro w' files readable either
    refine ⟨files, fun _ => readable, fun anchored => ?_⟩
    rw [ready.mapping anchored]
    exact either

end

omit [LawfulJsonLib] in
theorem StoreOp.Crash.initialising {op : StoreOp} {w' : Files} (down : s.initialized = false)
    (files : FilesOk w') (same : reliable = true → DiskManager.persisted w' = DiskManager.persisted w) :
    op.Crash reliable s w w' where
  files := files
  readable up := by
    rw [down] at up
    cases up
  persisted anchored := by
    rcases anchored with sure | up
    · exact .inl (same sure)
    · rw [down] at up
      cases up

/-- The frame shared by the operations: initialise first, give up when that fails. -/
theorem wp_withInit {β : Type} {op : StoreOp} {post : β → StoreState → Files → Prop}
    (bad : ErrCode → β) {body : StoreProg β} (inv : StoreInv s w)
    (fails : ∀ ret s' w', op.Done reliable s w ret s' w' → post (bad ret) s' w')
    (rest : ∀ s₁ w₁, Ready reliable s w s₁ w₁ →
      wp (storeContract reliable (op.Crash reliable s w) Stored) body post s₁ w₁) :
    wp (storeContract reliable (op.Crash reliable s w) Stored)
      (do
        let initRet ← init
        if initRet ≠ E_OK then pure (bad initRet) else body) post s w := by
  refine wp_seq (wp_init inv fun w' down files same => .initialising down files same) ?_
  rintro ret s₁ w₁ ⟨inv₁, up, still, same, -⟩
  by_cases ok : ret = E_OK
  · rw [if_neg (not_not.mpr ok)]
    exact rest s₁ w₁ ⟨inv₁, up ok, same, fun was => (still was).2⟩
  · rw [if_pos ok]
    have down : s.initialized = true → False := fun was => ok (still was).1
    exact fails ret s₁ w₁ ⟨inv₁, fun _ good => absurd good ok,
      ⟨inv₁.files, fun was => (down was).elim, fun anchored => .inl (same anchored)⟩,
      fun was => (down was).elim⟩

/-- An operation that is refused before it looks at the store. -/
theorem StoreOp.Done.refused {op : StoreOp} {ret : ErrCode} (inv : StoreInv s w)
    (effect : ret = E_OK → ∀ m, op.effect m = m) : op.Done reliable s w ret s w where
  inv := inv
  effect _ ok up := by rw [effect ok, inv.persisted up]
  crash := ⟨inv.files, inv.readable, fun _ => .inl rfl⟩
  undone _ _ := ⟨rfl, rfl⟩

/-! ## The operations -/

theorem wp_unInit (inv : StoreInv s w) :
    wp (storeContract reliable (StoreOp.unInit.Crash reliable s w) Stored) unInit
      (StoreOp.unInit.Done reliable s w) s w := by
  rw [unInit, wp_bind, wp_read]
  refine ⟨inv.stored, ?_⟩
  cases flag : s.initialized with
  | false => exact .refused inv fun _ _ => rfl
  | true =>
      rw [Bool.not_true, if_neg Bool.false_ne_true, wp_bind, wp_modify]
      refine ⟨Stored.empty, ?_⟩
      exact
        { inv := ⟨Stored.empty, inv.files, nofun⟩
          effect := fun _ _ up => by cases up
          crash := ⟨inv.files, inv.readable, fun _ => .inl rfl⟩
          undone := fun _ bad => absurd rfl bad }

omit [JsonLib] [LawfulJsonLib] in
theorem Stored.evictSlotOne {m : UuidMap} (stored : Stored m) : Stored (evictSlotOne m) := by
  refine ⟨stored.table.evictSlotOne.1, fun {k e} hit => ?_⟩
  rw [DiskManager.evictSlotOne] at hit
  split at hit
  next => exact stored.utf8 hit
  next =>
    rw [StdMap.get_filter, Option.filter_eq_some_iff] at hit
    exact stored.utf8 hit.1

omit [JsonLib] [LawfulJsonLib] in
theorem wp_allocateNextSlotLocked (stored : Stored s.uuidMap) (now : crash w) :
    wp (storeContract reliable crash Stored) allocateNextSlotLocked
      (fun slot s' w' => w = w' ∧ s' = { s with uuidMap := evictSlotOne s.uuidMap } ∧
        slot = findMinimumFreeSlotLocked (evictSlotOne s.uuidMap)) s w := by
  rw [allocateNextSlotLocked, wp_bind, wp_getUuidMap]
  refine ⟨stored, ?_⟩
  by_cases full : MAX_VOLDATA_SLOT_COUNT ≤ s.uuidMap.size
  · rw [if_pos full]
    refine wp_ask_bind.mpr ⟨now, ?_⟩
    rintro order _ ⟨rfl, walk⟩
    rw [evictSlotOneIfFullLocked_eq stored.table.distinct walk]
    exact ⟨stored.evictSlotOne, stored.evictSlotOne, rfl, rfl, rfl⟩
  · rw [if_neg full]
    have same : evictSlotOne s.uuidMap = s.uuidMap := if_pos (Nat.lt_of_not_le full)
    rw [same]
    exact ⟨stored, rfl, rfl, rfl⟩

omit [JsonLib] [LawfulJsonLib] in
/-- A change keeps the keys UTF-8 when its new key is. -/
theorem Stored.effect {m : UuidMap} (stored : Stored m) (op : StoreOp)
    (utf8 : ∀ u ∈ op.uuids, CppString.isUtf8 u = true) : Stored (op.effect m) := by
  refine ⟨stored.table.effect op, fun {k e} hit => ?_⟩
  have inserted : ∀ {m' : UuidMap} {u : CppString} {e' : VoldataUuidEntry},
      Stored m' → CppString.isUtf8 u = true → (m'.insert u e')[k]? = some e →
      CppString.isUtf8 k = true := by
    intro m' u e' stored' ascii there
    rw [StdMap.get_insert] at there
    split at there
    next same => exact same ▸ ascii
    next => exact stored'.utf8 there
  have erased : ∀ u, Stored (m.erase u) := fun u =>
    ⟨stored.table.erase u, fun there => stored.utf8 (get_of_get_erase there)⟩
  cases op with
  | init => exact stored.utf8 hit
  | unInit => exact stored.utf8 hit
  | resolveMountPath u =>
      rw [StoreOp.effect] at hit
      split at hit
      next => exact inserted stored.evictSlotOne (utf8 u (by simp [StoreOp.uuids])) hit
      next => exact stored.utf8 hit
  | removeByFsUuid u =>
      rw [StoreOp.effect] at hit
      split at hit
      next => exact (erased u).utf8 hit
      next => exact stored.utf8 hit
  | replaceFsUuid old new =>
      rw [StoreOp.effect] at hit
      split at hit
      next =>
        rw [renameKey] at hit
        split at hit
        next => exact inserted (erased old) (utf8 new (by simp [StoreOp.uuids])) hit
        next => exact stored.utf8 hit
      next => exact stored.utf8 hit

theorem wp_resolveMountPath {u : CppString} (inv : StoreInv s w)
    (utf8 : CppString.isUtf8 u = true) :
    wp (storeContract reliable ((StoreOp.resolveMountPath u).Crash reliable s w) Stored)
      (resolveMountPath u)
      (fun r s' w' => (StoreOp.resolveMountPath u).Done reliable s w r.1 s' w') s w := by
  rw [resolveMountPath]
  cases valid : isUuidValid u with
  | false => exact .refused inv fun bad => absurd bad (by decide)
  | true =>
      refine wp_withInit (fun ret => (ret, [], false)) inv (fun _ _ _ done => done) ?_
      intro s₁ w₁ ready
      rw [wp_bind, wp_getUuidMap]
      refine ⟨ready.inv.stored, ?_⟩
      cases hit : s₁.uuidMap[u]? with
      | some existing =>
          refine ready.unchanged fun _ => ?_
          rw [StoreOp.effect, hit, if_neg (by simp)]
      | none =>
          have effect : (StoreOp.resolveMountPath u).effect s₁.uuidMap = assignSlot s₁.uuidMap u :=
            if_pos ⟨valid, hit⟩
          have stored := ready.inv.stored.effect (.resolveMountPath u) (by simpa [StoreOp.uuids])
          have change := ready.wp_change stored
          rw [effect] at stored change
          refine wp_seq (wp_allocateNextSlotLocked ready.inv.stored ready.atCrash) ?_
          rintro slot s₂ _ ⟨rfl, rfl, rfl⟩
          rw [wp_bind, wp_getUuidMap]
          refine ⟨ready.inv.stored.evictSlotOne, ?_⟩
          rw [wp_bind, wp_setUuidMap]
          refine ⟨stored, wp_seq change ?_⟩
          rintro ret s' w' ⟨done, undone⟩
          by_cases ok : ret = E_OK
          · rw [if_neg (not_not.mpr ok)]
            exact done ok
          · rw [if_pos ok]
            exact ⟨ready.inv.stored, undone ok⟩

theorem wp_removeByFsUuid {u : CppString} (inv : StoreInv s w)
    (utf8 : CppString.isUtf8 u = true) :
    wp (storeContract reliable ((StoreOp.removeByFsUuid u).Crash reliable s w) Stored)
      (removeByFsUuid u) ((StoreOp.removeByFsUuid u).Done reliable s w) s w := by
  rw [removeByFsUuid]
  cases valid : isUuidValid u with
  | false => exact .refused inv fun bad => absurd bad (by decide)
  | true =>
      refine wp_withInit id inv (fun _ _ _ done => done) ?_
      intro s₁ w₁ ready
      have effect : (StoreOp.removeByFsUuid u).effect s₁.uuidMap = s₁.uuidMap.erase u :=
        if_pos valid
      rw [wp_bind, wp_getUuidMap]
      refine ⟨ready.inv.stored, ?_⟩
      cases hit : s₁.uuidMap[u]? with
      | none =>
          refine ready.unchanged fun _ => effect.trans (StdMap.ext fun k => ?_)
          rw [StdMap.get_erase]
          split
          next same => rw [← same, hit]
          next => rfl
      | some entry =>
          have stored := ready.inv.stored.effect (.removeByFsUuid u) (by simpa [StoreOp.uuids])
          have change := ready.wp_change stored
          rw [effect] at stored change
          simp only [wp_bind, wp_setUuidMap]
          refine ⟨stored, wp_mono ?_ change⟩
          rintro ret s' w' ⟨done, undone⟩
          by_cases ok : ret = E_OK
          · rw [if_neg (not_not.mpr ok)]
            exact done ok
          · rw [if_pos ok]
            exact ⟨ready.inv.stored, undone ok⟩

theorem wp_replaceFsUuid {old new : CppString} (inv : StoreInv s w)
    (utf8 : CppString.isUtf8 old = true ∧ CppString.isUtf8 new = true) :
    wp (storeContract reliable ((StoreOp.replaceFsUuid old new).Crash reliable s w) Stored)
      (replaceFsUuid old new) ((StoreOp.replaceFsUuid old new).Done reliable s w) s w := by
  rw [replaceFsUuid]
  split
  next => exact .refused inv fun bad => absurd bad (by decide)
  next valid =>
  simp only [Bool.or_eq_true, Bool.not_eq_true', not_or, Bool.not_eq_false] at valid
  split
  next same =>
    refine .refused inv fun _ m => ?_
    rw [StoreOp.effect, if_neg (by simp [same])]
  next differ =>
  refine wp_withInit id inv (fun _ _ _ done => done) ?_
  intro s₁ w₁ ready
  have effect : (StoreOp.replaceFsUuid old new).effect s₁.uuidMap =
      renameKey s₁.uuidMap old new := if_pos ⟨valid.1, valid.2, differ⟩
  rw [wp_bind, wp_getUuidMap]
  refine ⟨ready.inv.stored, ?_⟩
  cases hit : s₁.uuidMap[old]? with
  | none =>
      refine ready.unchanged fun _ => ?_
      rw [effect, renameKey, hit]
  | some oldEntry =>
      cases taken : s₁.uuidMap[new]? with
      | some _ => exact ready.unchanged fun bad => absurd bad (by decide)
      | none =>
          have renamed : renameKey s₁.uuidMap old new =
              (s₁.uuidMap.erase old).insert new { oldEntry with fsUuid := new } := by
            rw [renameKey, hit, taken]
          have stored := ready.inv.stored.effect (.replaceFsUuid old new)
            (by simpa [StoreOp.uuids])
          have change := ready.wp_change stored
          rw [effect, renamed] at stored change
          simp only [Option.isSome_none, Bool.false_eq_true, if_false, wp_bind, wp_setUuidMap]
          refine ⟨stored, wp_mono ?_ change⟩
          rintro ret s' w' ⟨done, undone⟩
          by_cases ok : ret = E_OK
          · rw [if_neg (not_not.mpr ok)]
            exact done ok
          · rw [if_pos ok]
            exact ⟨ready.inv.stored, undone ok⟩

/-- The code of an operation, with its result code. -/
def StoreOp.prog : StoreOp → StoreProg ErrCode
  | .init => DiskManager.init
  | .unInit => DiskManager.unInit
  | .resolveMountPath fsUuid => do
      let (ret, _, _) ← DiskManager.resolveMountPath fsUuid
      return ret
  | .removeByFsUuid fsUuid => DiskManager.removeByFsUuid fsUuid
  | .replaceFsUuid oldFsUuid newFsUuid => DiskManager.replaceFsUuid oldFsUuid newFsUuid

/-- Every operation does what it owes, at its return and at every point before. -/
theorem wp_store (reliable : Bool) (op : StoreOp) (utf8 : ∀ u ∈ op.uuids, CppString.isUtf8 u = true)
    (inv : StoreInv s w) :
    wp (storeContract reliable (op.Crash reliable s w) Stored) op.prog (op.Done reliable s w) s w := by
  cases op with
  | init =>
      refine wp_mono ?_ (wp_init inv fun w' down files same => .initialising down files same)
      rintro ret s' w' ⟨inv', up, still, same, -⟩
      refine ⟨inv', fun anchored ok up' => ?_, ⟨inv'.files, fun was => ?_, fun anchored => ?_⟩,
        fun was bad => absurd (still was).1 bad⟩
      · rw [StoreOp.effect, ← same anchored, inv'.persisted up']
      · obtain ⟨-, rfl, rfl⟩ := still was
        exact inv.readable was
      · exact .inl (same anchored)
  | unInit => exact wp_unInit inv
  | resolveMountPath u =>
      exact wp_seq (wp_resolveMountPath inv (utf8 u (by simp [StoreOp.uuids]))) fun _ _ _ done => done
  | removeByFsUuid u => exact wp_removeByFsUuid inv (utf8 u (by simp [StoreOp.uuids]))
  | replaceFsUuid old new =>
      exact wp_replaceFsUuid inv
        ⟨utf8 old (by simp [StoreOp.uuids]), utf8 new (by simp [StoreOp.uuids])⟩

end

end DiskManager
