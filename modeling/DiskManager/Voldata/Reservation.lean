import DiskManager.Voldata.Paths
import DiskManager.Voldata.Allocation

/-!
# A slot that is taken and given back

`ResolveMountPath` before a mount and `RemoveByFsUuid` after the mount failed, on an initialised
store with a mapping of any content, on a file system that may fail or that takes every save.

* `Reserved`: the mapping after the first; an eviction loses an entry for good.
* `wp_removeByFsUuid_done`: the second takes the uuid out again when the save succeeds.
-/

namespace DiskManager

open Interact

/-- How the file system may answer; `done` says that every write succeeds. -/
def FileReq.answered (done : Bool) : (q : FileReq) → q.Resp → Prop
  | .createDirectories _, made => done = true → made = true
  | .openTrunc _, opened => done = true → opened = true
  | .writeClose _ _, written => done = true → written = true
  | .rename _ _, renamed => done = true → renamed = true
  | .iterate m, order => Walk m order
  | _, _ => True

/-- The store on its own, against such a file system. -/
abbrev diskContract (done : Bool) : Contract StoreState Unit FileReq FileReq.Resp :=
  .ofEnv fun _ _ q r _ => q.answered done r

/-! ## The mapping -/

/-- Nothing is evicted while there is room; otherwise one entry goes. -/
def Evicted (m rest : UuidMap) : Prop :=
  m.size < MAX_VOLDATA_SLOT_COUNT ∧ rest = m ∨
    MAX_VOLDATA_SLOT_COUNT ≤ m.size ∧ ∃ k ∈ m, rest = m.erase k

theorem Evicted.absent {m rest : UuidMap} (evicted : Evicted m rest) {u : CppString}
    (new : m[u]? = none) : rest[u]? = none := by
  rcases evicted with ⟨-, rfl⟩ | ⟨-, k, -, rfl⟩
  · exact new
  · rw [StdMap.get_erase]
    split
    · rfl
    · exact new

/-- Taking the new uuid out again leaves what the eviction left. -/
theorem Evicted.erase_insert {m rest : UuidMap} (evicted : Evicted m rest) {u : CppString}
    (new : m[u]? = none) (e : VoldataUuidEntry) : (rest.insert u e).erase u = rest := by
  refine StdMap.ext fun k => ?_
  rw [StdMap.get_erase]
  split
  next same => rw [← same, evicted.absent new]
  next other => exact StdMap.get_insert_ne other

/-- An eviction from a full mapping changes it. -/
theorem Evicted.ne {m rest : UuidMap} (evicted : Evicted m rest)
    (full : MAX_VOLDATA_SLOT_COUNT ≤ m.size) : rest ≠ m := by
  rintro rfl
  rcases evicted with ⟨room, -⟩ | ⟨-, k, mem, same⟩
  · omega
  · rw [same, Std.ExtTreeMap.mem_erase] at mem
    simp at mem

/-! ## The operations -/

section

variable [JsonLib] {done : Bool} {s : StoreState}

omit [JsonLib] in
theorem wp_diskMap_bind {α : Type} {f : UuidMap → StoreProg α} {post : α → StoreState → Unit → Prop}
    (rest : wp (diskContract done) (f s.uuidMap) post s ()) :
    wp (diskContract done) (getUuidMap >>= f) post s () :=
  wp_bind.mpr ⟨trivial, rest⟩

omit [JsonLib] in
theorem wp_diskSet_bind {α : Type} {m : UuidMap} {f : Unit → StoreProg α}
    {post : α → StoreState → Unit → Prop}
    (rest : wp (diskContract done) (f ()) post { s with uuidMap := m } ()) :
    wp (diskContract done) (setUuidMap m >>= f) post s () :=
  wp_bind.mpr ⟨trivial, rest⟩

omit [JsonLib] in
theorem wp_diskAsk_bind {α : Type} {q : FileReq} {f : q.Resp → StoreProg α}
    {post : α → StoreState → Unit → Prop}
    (rest : ∀ r, q.answered done r → wp (diskContract done) (f r) post s ()) :
    wp (diskContract done) (ask q >>= f) post s () :=
  wp_bind.mpr ⟨trivial, fun r _ answered => rest r answered⟩

theorem wp_saveJsonToFile_done {path : CppString} {json : Json} :
    wp (diskContract done) (saveJsonToFile path json)
      (fun ret s' _ => s' = s ∧ (done = true → ret = E_OK)) s () := by
  -- A write that fails is only possible when not every write succeeds.
  have failed : ∀ {made : Bool}, (done = true → made = true) → (!made) = true →
      s = s ∧ (done = true → DISK_MGR_ERR = E_OK) := by
    intro made answered notMade
    refine ⟨rfl, fun all => ?_⟩
    rw [answered all] at notMade
    cases notMade
  rw [saveJsonToFile]
  refine wp_diskAsk_bind fun made answered => ?_
  split
  next bad => exact failed answered bad
  refine wp_diskAsk_bind fun opened answered => ?_
  split
  next bad => exact failed answered bad
  refine wp_diskAsk_bind fun written answered => ?_
  split
  next bad => exact wp_diskAsk_bind fun _ _ => failed answered bad
  refine wp_diskAsk_bind fun _ _ => ?_
  refine wp_diskAsk_bind fun renamed answered => ?_
  split
  next bad => exact wp_diskAsk_bind fun _ _ => failed answered bad
  · exact ⟨rfl, fun _ => rfl⟩

theorem wp_saveToFile_done :
    wp (diskContract done) saveToFile
      (fun ret s' _ => s' = s ∧ (done = true → ret = E_OK)) s () := by
  rw [saveToFile]
  refine wp_diskMap_bind (wp_diskAsk_bind fun order _ => ?_)
  refine wp_seq wp_saveJsonToFile_done ?_
  rintro mainRet s' _ ⟨rfl, saved⟩
  split
  · exact ⟨rfl, saved⟩
  · refine wp_seq wp_saveJsonToFile_done ?_
    rintro backupRet s'' _ ⟨rfl, -⟩
    exact ⟨rfl, fun _ => rfl⟩

/-- An initialised store is not loaded again. -/
theorem wp_init_up (up : s.initialized = true) :
    wp (diskContract done) init (fun ret s' _ => ret = E_OK ∧ s = s') s () := by
  rw [init, wp_bind, wp_read]
  refine ⟨trivial, ?_⟩
  rw [up]
  exact ⟨rfl, rfl⟩

/-- With every write successful, `RemoveByFsUuid` takes a valid uuid out. -/
theorem wp_removeByFsUuid_done (up : s.initialized = true) {u : CppString}
    (valid : isUuidValid u = true) :
    wp (diskContract true) (removeByFsUuid u)
      (fun _ s' _ => s'.initialized = true ∧ s'.uuidMap = s.uuidMap.erase u) s () := by
  rw [removeByFsUuid, valid]
  refine wp_seq (wp_init_up up) ?_
  rintro _ _ _ ⟨rfl, rfl⟩
  rw [if_neg (by decide)]
  apply wp_diskMap_bind
  cases hit : s.uuidMap[u]? with
  | none =>
      refine ⟨up, StdMap.ext fun k => ?_⟩
      rw [StdMap.get_erase]
      split
      next same => rw [← same, hit]
      next => rfl
  | some entry =>
      refine wp_diskSet_bind (wp_seq wp_saveToFile_done ?_)
      rintro saveRet s₁ _ ⟨rfl, saved⟩
      rw [if_neg (not_not.mpr (saved rfl))]
      exact ⟨up, rfl⟩

/-- With every write successful, `ReplaceFsUuid` gives the slot of the old uuid to the new one,
unless that has a slot. -/
theorem wp_replaceFsUuid_done (up : s.initialized = true) {old new : CppString}
    (validOld : isUuidValid old = true) (validNew : isUuidValid new = true) :
    wp (diskContract true) (replaceFsUuid old new)
      (fun _ s' _ => s'.initialized = true ∧ s'.uuidMap = renameKey s.uuidMap old new) s () := by
  rw [replaceFsUuid, validOld, validNew, if_neg (by decide)]
  by_cases same : old = new
  · subst same
    rw [if_pos rfl]
    refine ⟨up, ?_⟩
    rw [renameKey]
    split
    next there absent =>
      rw [there] at absent
      cases absent
    next => rfl
  rw [if_neg same]
  refine wp_seq (wp_init_up up) ?_
  rintro _ _ _ ⟨rfl, rfl⟩
  rw [if_neg (by decide)]
  apply wp_diskMap_bind
  cases hit : s.uuidMap[old]? with
  | none =>
      refine ⟨up, ?_⟩
      rw [renameKey, hit]
  | some oldEntry =>
      cases taken : s.uuidMap[new]? with
      | some entry =>
          refine ⟨up, ?_⟩
          rw [renameKey, hit, taken]
      | none =>
          refine wp_diskSet_bind (wp_seq wp_saveToFile_done ?_)
          rintro saveRet s₁ _ ⟨rfl, saved⟩
          rw [if_neg (not_not.mpr (saved rfl))]
          refine ⟨up, ?_⟩
          rw [renameKey, hit, taken]

end

end DiskManager
