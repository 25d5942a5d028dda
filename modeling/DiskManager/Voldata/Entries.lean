import DiskManager.Interact.Frame
import DiskManager.Voldata.Mapping

/-!
# What holds of every entry

Whatever the files hold and however the file operations end, an entry in memory was checked when it
was loaded, made for a valid uuid, or renamed to one. What holds of such entries, an `EntryRule`, is
kept by every operation. The facts here need no assumption on the files, so they hold inside every
operation of the manager.
-/

namespace DiskManager

open Interact

/-- Every entry of the mapping is good under its key. -/
def Entries (good : CppString → VoldataUuidEntry → Prop) (m : UuidMap) : Prop :=
  ∀ (k : CppString) (e : VoldataUuidEntry), m[k]? = some e → good k e

/-- The entries the store may enter are good. -/
structure EntryRule (good : CppString → VoldataUuidEntry → Prop) : Prop where
  loaded {item : Json} {e : VoldataUuidEntry} :
    VoldataUuidEntry.fromJson item = some e → good e.fsUuid e
  made {u : CppString} (slot : Nat) :
    isUuidValid u = true → good u ⟨u, buildMountPathForSlot slot, slot⟩
  renamed {old new : CppString} {e : VoldataUuidEntry} :
    isUuidValid new = true → good old e → good new { e with fsUuid := new }

variable {good : CppString → VoldataUuidEntry → Prop} {m : UuidMap}

theorem Entries.empty : Entries good ∅ := by
  intro k e hit
  rw [StdMap.get_empty] at hit
  cases hit

theorem Entries.erase (entries : Entries good m) (u : CppString) : Entries good (m.erase u) :=
  fun k e hit => entries k e (get_of_get_erase hit)

theorem Entries.insert (entries : Entries good m) {u : CppString} {e : VoldataUuidEntry}
    (new : good u e) : Entries good (m.insert u e) := by
  intro k e' hit
  rw [StdMap.get_insert] at hit
  split at hit
  next same =>
    cases hit
    rwa [← same]
  next => exact entries k e' hit

theorem Entries.loadItems (entries : Entries good m) (rule : EntryRule good) (items : List Json) :
    Entries good (DiskManager.loadItems items m) := by
  intro k e hit
  rcases get_loadItems hit with old | ⟨rfl, item, -, read⟩
  · exact entries k e old
  · exact rule.loaded read

theorem Entries.evict (entries : Entries good m) (order : List (CppString × VoldataUuidEntry)) :
    Entries good (evictSlotOneIfFullLocked order m) := by
  unfold evictSlotOneIfFullLocked
  split
  · exact entries
  · split
    · exact entries.erase _
    · split
      · exact entries
      · exact entries.erase _

/-- The uuids of the entries are valid. -/
theorem validKeys_rule : EntryRule fun k _ => isUuidValid k = true where
  loaded read := (fromJson_eq_some read).2.2.2
  made _ valid := valid
  renamed valid _ := valid

/-! ## Sections and saves -/

/-- Every entry of the store's mapping is good. -/
abbrev StoreState.entries (good : CppString → VoldataUuidEntry → Prop) (s : StoreState) : Prop :=
  Entries good s.uuidMap

theorem within_ask {α : Type} {G : StoreState → StoreState → Prop} {q : FileReq}
    {f : q.Resp → StoreProg α} {post : α → Prop} :
    Within G (ask q >>= f) post ↔ ∀ r, Within G (f r) post := within_bind

theorem keeps_ask {α : Type} {I : StoreState → Prop} {q : FileReq} {f : q.Resp → StoreProg α}
    {post : α → Prop} : Keeps I (ask q >>= f) post ↔ ∀ r, Keeps I (f r) post := keeps_bind

theorem keeps_setUuidMap_bind {α : Type} {f : Unit → StoreProg α} {post : α → Prop}
    (entries : Entries good m) (rest : Keeps (StoreState.entries good) (f ()) post) :
    Keeps (StoreState.entries good) (setUuidMap m >>= f) post :=
  keeps_modify_bind (fun _ _ => entries) rest

theorem keeps_getUuidMap_bind {α : Type} {f : UuidMap → StoreProg α} {post : α → Prop}
    (rest : ∀ m, Entries good m → Keeps (StoreState.entries good) (f m) post) :
    Keeps (StoreState.entries good) (getUuidMap >>= f) post :=
  keeps_read_bind fun s entries => rest s.uuidMap entries

section

variable [JsonLib]

/-- Saving does not change memory. -/
theorem within_saveJsonToFile (filePath : CppString) (jsonData : Json) :
    Within Eq (saveJsonToFile filePath jsonData) fun _ => True := by
  rw [saveJsonToFile]
  apply within_ask.mpr
  intro made
  split
  · trivial
  apply within_ask.mpr
  intro opened
  split
  · trivial
  apply within_ask.mpr
  intro written
  split
  · exact within_ask.mpr fun _ => trivial
  apply within_ask.mpr
  intro synced
  apply within_ask.mpr
  intro renamed
  split
  · exact within_ask.mpr fun _ => trivial
  · trivial

theorem within_saveToFile : Within Eq saveToFile fun _ => True := by
  rw [saveToFile, getUuidMap, within_bind, within_read]
  refine fun s => ⟨rfl, within_ask.mpr fun pairs => ?_⟩
  refine within_seq (within_saveJsonToFile _ _) fun mainRet _ => ?_
  split
  · trivial
  · exact within_seq (within_saveJsonToFile _ _) fun _ _ => trivial

theorem keeps_saveToFile_bind {α : Type} {I : StoreState → Prop} {f : ErrCode → StoreProg α}
    {post : α → Prop} (rest : ∀ ret, Keeps I (f ret) post) : Keeps I (saveToFile >>= f) post :=
  keeps_seq within_saveToFile.keeps fun ret _ => rest ret

/-! ## The operations -/

theorem keepsEntries_loadJsonFromPath (rule : EntryRule good) (filePath : CppString) :
    Keeps (StoreState.entries good) (loadJsonFromPath filePath) fun _ => True := by
  rw [loadJsonFromPath]
  apply keeps_ask.mpr
  intro content
  cases content with
  | none => trivial
  | some jsonStr =>
      dsimp only
      split
      · trivial
      split
      · trivial
      split
      · apply keeps_getUuidMap_bind
        intro uuidMap entries
        exact keeps_setUuidMap_bind (entries.loadItems rule _) trivial
      · trivial

theorem keepsEntries_loadFromFile (rule : EntryRule good) :
    Keeps (StoreState.entries good) loadFromFile fun _ => True := by
  rw [loadFromFile]
  apply keeps_setUuidMap_bind .empty
  apply keeps_ask.mpr
  intro mainExists
  cases mainExists with
  | false => exact within_saveToFile.keeps
  | true =>
      refine keeps_seq (keepsEntries_loadJsonFromPath rule jsonFilePath) fun loadRet _ => ?_
      split
      · apply keeps_ask.mpr
        intro backupExists
        cases backupExists with
        | true => trivial
        | false => exact keeps_saveToFile_bind fun _ => trivial
      · apply keeps_ask.mpr
        intro backupExists
        cases backupExists with
        | false => exact within_saveToFile.keeps
        | true =>
            refine keeps_seq (keepsEntries_loadJsonFromPath rule backupFilePath) fun loadRet _ => ?_
            split
            · exact within_saveToFile.keeps
            · exact within_saveToFile.keeps

theorem keepsEntries_init (rule : EntryRule good) :
    Keeps (StoreState.entries good) init fun _ => True := by
  rw [init]
  apply keeps_read_bind
  intro s _
  split
  · trivial
  · refine keeps_seq (keepsEntries_loadFromFile rule) fun loadRet _ => ?_
    split
    · trivial
    · exact keeps_modify_bind (fun _ entries => entries) trivial

/-- `ResolveMountPath` gives out the path of a good entry. -/
theorem keepsEntries_resolveMountPath (rule : EntryRule good) (fsUuid : CppString) :
    Keeps (StoreState.entries good) (resolveMountPath fsUuid) fun result =>
      result.1 = E_OK → ∃ e, good fsUuid e ∧ result.2.1 = e.mountPath := by
  rw [resolveMountPath]
  split
  · exact fun ok => absurd ok (by decide)
  next valid =>
  have valid : isUuidValid fsUuid = true := by simpa using valid
  refine keeps_seq (keepsEntries_init rule) fun initRet _ => ?_
  split
  next failed => exact fun ok => absurd ok failed
  apply keeps_getUuidMap_bind
  intro backup entries
  split
  next existing found => exact fun _ => ⟨existing, entries _ _ found, rfl⟩
  -- The entry is added after an eviction that may have been needed, then saved or taken back.
  have allocate : Keeps (StoreState.entries good) allocateNextSlotLocked fun _ => True := by
    rw [allocateNextSlotLocked]
    apply keeps_getUuidMap_bind
    intro uuidMap entries'
    split
    · apply keeps_ask.mpr
      intro order
      exact keeps_setUuidMap_bind (entries'.evict order) (keeps_getUuidMap_bind fun _ _ => trivial)
    · exact keeps_getUuidMap_bind fun _ _ => trivial
  refine keeps_seq allocate fun slot _ => ?_
  have made := rule.made slot valid
  apply keeps_getUuidMap_bind
  intro uuidMap entries'
  apply keeps_setUuidMap_bind (entries'.insert made)
  apply keeps_saveToFile_bind
  intro saveRet
  split
  next failed => exact keeps_setUuidMap_bind entries fun ok => absurd ok failed
  · exact fun _ => ⟨_, made, rfl⟩

theorem keepsEntries_removeByFsUuid (rule : EntryRule good) (fsUuid : CppString) :
    Keeps (StoreState.entries good) (removeByFsUuid fsUuid) fun _ => True := by
  rw [removeByFsUuid]
  split
  · trivial
  refine keeps_seq (keepsEntries_init rule) fun initRet _ => ?_
  split
  · trivial
  apply keeps_getUuidMap_bind
  intro backup entries
  split
  · trivial
  apply keeps_setUuidMap_bind (entries.erase fsUuid)
  apply keeps_saveToFile_bind
  intro saveRet
  split
  · exact keeps_setUuidMap_bind entries trivial
  · trivial

theorem keepsEntries_replaceFsUuid (rule : EntryRule good) (oldFsUuid newFsUuid : CppString) :
    Keeps (StoreState.entries good) (replaceFsUuid oldFsUuid newFsUuid) fun _ => True := by
  rw [replaceFsUuid]
  split
  · trivial
  next valid =>
  simp only [Bool.or_eq_true, Bool.not_eq_true', not_or, Bool.not_eq_false] at valid
  split
  · trivial
  refine keeps_seq (keepsEntries_init rule) fun initRet _ => ?_
  split
  · trivial
  apply keeps_getUuidMap_bind
  intro backup entries
  split
  · trivial
  next oldEntry found =>
    split
    · trivial
    have moved := rule.renamed valid.2 (entries _ _ found)
    refine keeps_setUuidMap_bind ((entries.erase oldFsUuid).insert moved) ?_
    apply keeps_saveToFile_bind
    intro saveRet
    split
    · exact keeps_setUuidMap_bind entries trivial
    · trivial

end

end DiskManager
