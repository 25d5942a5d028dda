import DiskManager.Voldata.Load

/-!
# Slot allocation

What `ResolveMountPath` and `ReplaceFsUuid` do to a mapping whose uuids have slots of their own,
whatever else the mapping holds and whatever the file system answers.

* `Allocated`: a new uuid gets the least free slot; only a full mapping gives up an entry, the one
  in slot 1.
* `WorksOn`: the mapping an operation works on, which is the loaded one when the store was not yet
  initialised.
* `slot_allocation`: the two operations.
-/

namespace DiskManager

open Interact

/-! ## The mapping before and after -/

/-- `u` is given `slot`: the least free one next to the entries that stay. -/
structure Allocated (m m' : UuidMap) (u : CppString) (slot : Nat) : Prop where
  least : IsLeast (freeSlots (m'.erase u)) slot
  entry : m'[u]? = some ⟨u, buildMountPathForSlot slot, slot⟩
  kept : m.size < MAX_VOLDATA_SLOT_COUNT → ∀ k : CppString, k ≠ u → m'[k]? = m[k]?
  evicted : m.size = MAX_VOLDATA_SLOT_COUNT → slot = 1 ∧ ∃ (first : CppString) (e : VoldataUuidEntry),
    m[first]? = some e ∧ e.slotIndex = 1 ∧ m'[first]? = none ∧
      ∀ k : CppString, k ≠ u → k ≠ first → m'[k]? = m[k]?

/-- `new` has taken over the slot and the path of `old`. -/
structure TakenOver (m m' : UuidMap) (old new : CppString) (e : VoldataUuidEntry) : Prop where
  gone : m'[old]? = none
  entry : m'[new]? = some { e with fsUuid := new }
  kept : ∀ k : CppString, k ≠ old → k ≠ new → m'[k]? = m[k]?

/-! ## Eviction -/

theorem evictSlotOne_room {m : UuidMap} (room : m.size < MAX_VOLDATA_SLOT_COUNT) :
    evictSlotOne m = m := if_pos room

/-- A full mapping loses the entry in slot 1 and no other. -/
theorem DistinctSlots.evictSlotOne_full {m : UuidMap} (distinct : DistinctSlots m)
    (full : m.size = MAX_VOLDATA_SLOT_COUNT) :
    ∃ (first : CppString) (e : VoldataUuidEntry),
      m[first]? = some e ∧ e.slotIndex = 1 ∧ evictSlotOne m = m.erase first := by
  obtain ⟨first, e, hit, one⟩ := mem_usedSlots.mp (distinct.slot_one_used full.ge)
  refine ⟨first, e, hit, one, StdMap.ext fun k => ?_⟩
  rw [evictSlotOne, if_neg full.ge.not_gt, StdMap.get_filter, StdMap.get_erase]
  split
  next same =>
    subst same
    simp [hit, Option.filter_some, one]
  next other =>
    cases there : m[k]? with
    | none => rfl
    | some e' =>
        have kept : e'.slotIndex ≠ 1 := fun one' =>
          other (distinct.slot_inj hit there (one.trans one'.symm))
        simp [Option.filter_some, kept]

theorem DistinctSlots.evictSlotOne_size {m : UuidMap} (distinct : DistinctSlots m) :
    (evictSlotOne m).size < MAX_VOLDATA_SLOT_COUNT := by
  rcases Nat.lt_or_ge m.size MAX_VOLDATA_SLOT_COUNT with room | full
  · rwa [evictSlotOne_room room]
  · have sizeEq : m.size = MAX_VOLDATA_SLOT_COUNT := Nat.le_antisymm distinct.size full
    obtain ⟨first, e, hit, -, erased⟩ := distinct.evictSlotOne_full sizeEq
    have present : first ∈ m := StdMap.mem_iff_get.mpr ⟨e, hit⟩
    rw [erased, Std.ExtTreeMap.size_erase, if_pos (Std.ExtTreeMap.mem_iff_contains.mp present)]
    simp only [MAX_VOLDATA_SLOT_COUNT] at sizeEq ⊢
    omega

/-- The assignment of a slot to a new uuid. -/
theorem DistinctSlots.allocated {m : UuidMap} (distinct : DistinctSlots m) {u : CppString}
    (new : m[u]? = none) :
    Allocated m (assignSlot m u) u (findMinimumFreeSlotLocked (evictSlotOne m)) := by
  have fresh : (evictSlotOne m)[u]? = none := by
    rw [evictSlotOne]
    split
    next => exact new
    next => rw [StdMap.get_filter, new, Option.filter_none]
  have rest : (assignSlot m u).erase u = evictSlotOne m := by
    refine StdMap.ext fun k => ?_
    rw [StdMap.get_erase]
    split
    next same => rw [← same, fresh]
    next other => exact StdMap.get_insert_ne other
  have others : ∀ k : CppString, k ≠ u → (assignSlot m u)[k]? = (evictSlotOne m)[k]? :=
    fun k other => StdMap.get_insert_ne other.symm
  refine ⟨?_, StdMap.get_insert_self _ _ _, ?_, ?_⟩
  · rw [rest]
    exact findMinimumFreeSlotLocked_least distinct.evictSlotOne_size
  · intro room k other
    rw [others k other, evictSlotOne_room room]
  · intro full
    obtain ⟨first, e, hit, one, erased⟩ := distinct.evictSlotOne_full full
    have differ : first ≠ u := by
      rintro rfl
      rw [hit] at new
      cases new
    have least := findMinimumFreeSlotLocked_least distinct.evictSlotOne_size
    have freed : 1 ∈ freeSlots (evictSlotOne m) := by
      refine ⟨Nat.le_refl 1, by decide, fun used => ?_⟩
      obtain ⟨k, e', there, one'⟩ := mem_usedSlots.mp used
      rw [erased] at there
      have same := distinct.slot_inj hit (get_of_get_erase there) (one.trans one'.symm)
      rw [same, StdMap.get_erase_self] at there
      cases there
    refine ⟨Nat.le_antisymm (least.2 freed) least.1.1, first, e, hit, one, ?_, ?_⟩
    · rw [others first differ, erased, StdMap.get_erase_self]
    · intro k notNew notFirst
      rw [others k notNew, erased, StdMap.get_erase_ne notFirst.symm]

theorem takenOver {m : UuidMap} {old new : CppString} {e : VoldataUuidEntry} (differ : old ≠ new) :
    TakenOver m ((m.erase old).insert new { e with fsUuid := new }) old new e where
  gone := by rw [StdMap.get_insert_ne differ.symm, StdMap.get_erase_self]
  entry := StdMap.get_insert_self _ _ _
  kept k notOld notNew := by
    rw [StdMap.get_insert_ne notNew.symm, StdMap.get_erase_ne notOld.symm]

/-! ## The operations -/

section

variable [JsonLib]

/-- The mapping an operation works on once `Init` has succeeded: the one in memory, or the one a
load of the files may choose. -/
def WorksOn (reliable : Bool) (s : StoreState) (w : Files) (m : UuidMap) : Prop :=
  if s.initialized then m = s.uuidMap else LoadSource reliable w m

/-- No condition on the files at a request or on the mapping after a section. -/
abbrev anyCrash (reliable : Bool) : Contract StoreState Files FileReq FileReq.Resp :=
  storeContract reliable (fun _ => True) fun _ => True

variable {reliable : Bool} {s : StoreState} {w : Files}

theorem wp_init_worksOn :
    wp (anyCrash reliable) init
      (fun ret s' w' => (ret = E_OK → WorksOn reliable s w s'.uuidMap) ∧
        (s.initialized = true → ret = E_OK ∧ s' = s ∧ w' = w)) s w := by
  rw [init, wp_bind, wp_read]
  refine ⟨trivial, ?_⟩
  cases up : s.initialized with
  | true => exact ⟨fun _ => by rw [WorksOn, if_pos up], fun _ => ⟨rfl, rfl, rfl⟩⟩
  | false =>
      refine wp_seq (wp_loadFromFile trivial (fun _ _ => trivial) (fun _ _ _ _ => trivial)
        trivial) ?_
      rintro ret s₁ w₁ ⟨-, source, -⟩
      have works : WorksOn reliable s w s₁.uuidMap := by
        rw [WorksOn, if_neg (by simp [up])]
        exact source
      by_cases ok : ret = E_OK
      · rw [if_neg (not_not.mpr ok)]
        exact ⟨trivial, fun _ => works, nofun⟩
      · rw [if_pos ok]
        exact ⟨fun _ => works, nofun⟩

omit [JsonLib] in
theorem wp_allocateNextSlotLocked_distinct :
    wp (anyCrash reliable) allocateNextSlotLocked
      (fun slot s' _ => DistinctSlots s.uuidMap →
        s' = { s with uuidMap := evictSlotOne s.uuidMap } ∧
          slot = findMinimumFreeSlotLocked (evictSlotOne s.uuidMap)) s w := by
  rw [allocateNextSlotLocked, wp_bind, wp_getUuidMap]
  refine ⟨trivial, ?_⟩
  by_cases full : MAX_VOLDATA_SLOT_COUNT ≤ s.uuidMap.size
  · rw [if_pos full]
    refine wp_ask_bind.mpr ⟨trivial, ?_⟩
    rintro order _ ⟨rfl, walk⟩
    refine ⟨trivial, trivial, fun distinct => ?_⟩
    rw [evictSlotOneIfFullLocked_eq distinct walk]
    exact ⟨rfl, rfl⟩
  · rw [if_neg full]
    refine ⟨trivial, fun _ => ?_⟩
    rw [evictSlotOne_room (Nat.lt_of_not_le full)]
    exact ⟨rfl, rfl⟩

/-- What `ResolveMountPath` does for a valid uuid. -/
structure PathResolved (reliable : Bool) (s : StoreState) (w : Files) (u : CppString)
    (r : ErrCode × CppString × Bool) (s' : StoreState) (w' : Files) : Prop where
  created : r.1 = E_OK → ∃ m, WorksOn reliable s w m ∧
    (DistinctSlots m → m[u]? = none → ∃ slot, Allocated m s'.uuidMap u slot ∧
      r = (E_OK, buildMountPathForSlot slot, true)) ∧
    ∀ e, m[u]? = some e → r = (E_OK, e.mountPath, false) ∧ s'.uuidMap = m
  mapped : s.initialized = true → ∀ e, s.uuidMap[u]? = some e →
    r = (E_OK, e.mountPath, false) ∧ s' = s ∧ w' = w

theorem wp_resolveMountPath_pathResolved {u : CppString} (valid : isUuidValid u = true) :
    wp (anyCrash reliable) (resolveMountPath u) (PathResolved reliable s w u) s w := by
  rw [resolveMountPath, valid]
  refine wp_seq wp_init_worksOn ?_
  rintro ret s₁ w₁ ⟨works, still⟩
  by_cases ok : ret = E_OK
  swap
  · rw [if_pos ok]
    exact ⟨fun good => absurd good ok, fun up => absurd (still up).1 ok⟩
  rw [if_neg (not_not.mpr ok), wp_bind, wp_getUuidMap]
  refine ⟨trivial, ?_⟩
  cases hit : s₁.uuidMap[u]? with
  | some existing =>
      refine ⟨fun _ => ⟨s₁.uuidMap, works ok, fun _ new => ?_, fun e there => ?_⟩, ?_⟩
      · rw [hit] at new
        cases new
      · rw [hit] at there
        cases there
        exact ⟨rfl, rfl⟩
      · intro up e there
        obtain ⟨-, rfl, rfl⟩ := still up
        rw [hit] at there
        cases there
        exact ⟨rfl, rfl, rfl⟩
  | none =>
      -- The initialised store holds `u` only if the mapping worked on does.
      have unmapped : s.initialized = true → ∀ e, s.uuidMap[u]? ≠ some e := by
        intro up e there
        obtain ⟨-, rfl, rfl⟩ := still up
        rw [hit] at there
        cases there
      refine wp_seq wp_allocateNextSlotLocked_distinct ?_
      rintro slot s₂ w₂ taken
      rw [wp_bind, wp_getUuidMap]
      refine ⟨trivial, ?_⟩
      rw [wp_bind, wp_setUuidMap]
      refine ⟨trivial, wp_seq (wp_saveToFile trivial fun _ _ => trivial) ?_⟩
      rintro saveRet s₃ w₃ ⟨rfl, -⟩
      by_cases saved : saveRet = E_OK
      · rw [if_neg (not_not.mpr saved)]
        refine ⟨fun _ => ⟨s₁.uuidMap, works ok, fun distinct new => ?_, fun e there => ?_⟩,
          fun up e there => absurd there (unmapped up e)⟩
        · obtain ⟨rfl, rfl⟩ := taken distinct
          exact ⟨_, distinct.allocated new, rfl⟩
        · rw [hit] at there
          cases there
      · rw [if_pos saved]
        exact ⟨trivial, fun good => absurd good saved,
          fun up e there => absurd there (unmapped up e)⟩

theorem wp_replaceFsUuid_takenOver {old new : CppString} :
    wp (anyCrash reliable) (replaceFsUuid old new)
      (fun ret s' _ => ret = E_OK → old ≠ new → ∃ m, WorksOn reliable s w m ∧
        ∀ e, m[old]? = some e → m[new]? = none → TakenOver m s'.uuidMap old new e) s w := by
  rw [replaceFsUuid]
  split
  next => exact fun bad => absurd bad (by decide)
  next =>
  split
  next same => exact fun _ differ => absurd same differ
  next differ =>
  refine wp_seq wp_init_worksOn ?_
  rintro ret s₁ w₁ ⟨works, -⟩
  by_cases ok : ret = E_OK
  swap
  · rw [if_pos ok]
    exact fun good => absurd good ok
  rw [if_neg (not_not.mpr ok), wp_bind, wp_getUuidMap]
  refine ⟨trivial, ?_⟩
  cases hit : s₁.uuidMap[old]? with
  | none =>
      refine fun _ _ => ⟨s₁.uuidMap, works ok, fun e there => ?_⟩
      rw [hit] at there
      cases there
  | some oldEntry =>
      cases taken : s₁.uuidMap[new]? with
      | some _ => exact fun bad => absurd bad (by decide)
      | none =>
          simp only [Option.isSome_none, Bool.false_eq_true, if_false, wp_bind, wp_setUuidMap]
          refine ⟨trivial, wp_mono ?_ (wp_saveToFile trivial fun _ _ => trivial)⟩
          rintro saveRet s₂ w₂ ⟨rfl, -⟩
          by_cases saved : saveRet = E_OK
          · rw [if_neg (not_not.mpr saved)]
            refine fun _ _ => ⟨s₁.uuidMap, works ok, fun e there _ => ?_⟩
            rw [hit] at there
            cases there
            exact takenOver differ
          · rw [if_pos saved]
            exact ⟨trivial, fun good => absurd good saved⟩

/-- A successful `ResolveMountPath` gives a new uuid the least slot that is free after eviction
and gives up at most the entry in slot 1, of a full mapping; for a mapped uuid it changes nothing.
A successful `ReplaceFsUuid` moves one entry. -/
theorem slot_allocation (reliable : Bool) (s : StoreState) (w : Files) :
    (∀ u, isUuidValid u = true →
      wp (anyCrash reliable) (resolveMountPath u) (PathResolved reliable s w u) s w) ∧
    ∀ old new, wp (anyCrash reliable) (replaceFsUuid old new)
      (fun ret s' _ => ret = E_OK → old ≠ new → ∃ m, WorksOn reliable s w m ∧
        ∀ e, m[old]? = some e → m[new]? = none → TakenOver m s'.uuidMap old new e) s w :=
  ⟨fun _ valid => wp_resolveMountPath_pathResolved valid, fun _ _ => wp_replaceFsUuid_takenOver⟩

end

end DiskManager
