import Mathlib.Data.Finset.Card
import Mathlib.Order.Interval.Finset.Nat
import DiskManager.Voldata.Store

/-!
# What the mapping is

A `SlotTable` is a mapping as the store promises it: entries under their own uuid, slots between
1 and 1000, the mount path of the slot, and no slot given out twice. `StoreOp.effect` says what an
operation that succeeds does to the mapping, without files and without the order in which the map
is walked.

* `SlotTable.effect`: every operation keeps a slot table.
* `evictSlotOneIfFullLocked_eq`: on a slot table the eviction does not depend on the walk.
* `Loadable.loadItems_walk`: loading what was written gives the mapping back.
-/

namespace DiskManager

/-! ## Slot tables -/

structure SlotTable (m : UuidMap) : Prop where
  key {k : CppString} {e : VoldataUuidEntry} : m[k]? = some e → e.fsUuid = k
  valid {k : CppString} {e : VoldataUuidEntry} : m[k]? = some e → isUuidValid k = true
  slot {k : CppString} {e : VoldataUuidEntry} :
    m[k]? = some e → 1 ≤ e.slotIndex ∧ e.slotIndex ≤ MAX_VOLDATA_SLOT_COUNT
  path {k : CppString} {e : VoldataUuidEntry} :
    m[k]? = some e → e.mountPath = buildMountPathForSlot e.slotIndex
  slot_inj {k k' : CppString} {e e' : VoldataUuidEntry} :
    m[k]? = some e → m[k']? = some e' → e.slotIndex = e'.slotIndex → k = k'
  size : m.size ≤ MAX_VOLDATA_SLOT_COUNT

/-- Different uuids have different slots, all between 1 and 1000. -/
structure DistinctSlots (m : UuidMap) : Prop where
  slot {k : CppString} {e : VoldataUuidEntry} :
    m[k]? = some e → 1 ≤ e.slotIndex ∧ e.slotIndex ≤ MAX_VOLDATA_SLOT_COUNT
  slot_inj {k k' : CppString} {e e' : VoldataUuidEntry} :
    m[k]? = some e → m[k']? = some e' → e.slotIndex = e'.slotIndex → k = k'

theorem SlotTable.distinct {m : UuidMap} (table : SlotTable m) : DistinctSlots m where
  slot := table.slot
  slot_inj := table.slot_inj

theorem buildMountPathForSlot_injective {i j : Nat}
    (same : buildMountPathForSlot i = buildMountPathForSlot j) : i = j :=
  CppString.ofNat_injective (List.append_cancel_left same)

theorem SlotTable.path_inj {m : UuidMap} (table : SlotTable m) {k k' : CppString}
    {e e' : VoldataUuidEntry} (left : m[k]? = some e) (right : m[k']? = some e')
    (same : e.mountPath = e'.mountPath) : k = k' := by
  rw [table.path left, table.path right] at same
  exact table.slot_inj left right (buildMountPathForSlot_injective same)

/-! ## Free slots -/

/-- The slots in use, in the order of the keys. -/
def usedSlots (m : UuidMap) : List Nat := m.toList.map fun pair => pair.2.slotIndex

theorem usedSlots_length (m : UuidMap) : (usedSlots m).length = m.size := by
  rw [usedSlots, List.length_map, Std.ExtTreeMap.length_toList]

theorem mem_usedSlots {m : UuidMap} {slot : Nat} :
    slot ∈ usedSlots m ↔ ∃ (k : CppString) (e : VoldataUuidEntry), m[k]? = some e ∧ e.slotIndex = slot := by
  simp only [usedSlots, List.mem_map, Prod.exists, StdMap.mem_toList]

theorem slotUsed_iff {m : UuidMap} {slot : Nat} : slotUsed m slot = true ↔ slot ∈ usedSlots m := by
  simp only [slotUsed, List.any_eq_true, decide_eq_true_eq, usedSlots, List.mem_map]

theorem DistinctSlots.usedSlots_nodup {m : UuidMap} (distinctSlots : DistinctSlots m) :
    (usedSlots m).Nodup := by
  refine List.Pairwise.map _ ?_ (List.Pairwise.and_mem.mp Std.ExtTreeMap.distinct_keys_toList)
  rintro ⟨k, e⟩ ⟨k', e'⟩ ⟨left, right, distinct⟩ same
  have keys : k = k' :=
    distinctSlots.slot_inj (StdMap.mem_toList.mp left) (StdMap.mem_toList.mp right) same
  exact distinct (Std.LawfulEqCmp.compare_eq_iff_eq.mpr keys)

/-- Fewer entries than slots leave a slot free. -/
theorem exists_free_slot {m : UuidMap} (room : m.size < MAX_VOLDATA_SLOT_COUNT) :
    ∃ slot ∈ List.range' 1 MAX_VOLDATA_SLOT_COUNT, slot ∉ usedSlots m := by
  by_contra full
  push Not at full
  have sub : List.range' 1 MAX_VOLDATA_SLOT_COUNT ⊆ usedSlots m := full
  have count := (List.subperm_of_subset List.nodup_range' sub).length_le
  rw [List.length_range', usedSlots_length] at count
  omega

/-- There are no more uuids than slots. -/
theorem DistinctSlots.size {m : UuidMap} (distinct : DistinctSlots m) :
    m.size ≤ MAX_VOLDATA_SLOT_COUNT := by
  have sub : usedSlots m ⊆ List.range' 1 MAX_VOLDATA_SLOT_COUNT := by
    intro slot mem
    obtain ⟨k, e, hit, rfl⟩ := mem_usedSlots.mp mem
    have bounds := distinct.slot hit
    rw [List.mem_range'_1]
    omega
  have count := (List.subperm_of_subset distinct.usedSlots_nodup sub).length_le
  rwa [List.length_range', usedSlots_length] at count

/-- When every slot is taken, so is slot 1. -/
theorem DistinctSlots.slot_one_used {m : UuidMap} (distinct : DistinctSlots m)
    (full : MAX_VOLDATA_SLOT_COUNT ≤ m.size) : 1 ∈ usedSlots m := by
  by_contra unused
  have sub : usedSlots m ⊆ List.range' 2 (MAX_VOLDATA_SLOT_COUNT - 1) := by
    intro slot mem
    obtain ⟨k, e, hit, rfl⟩ := mem_usedSlots.mp mem
    have bounds := distinct.slot hit
    have other : e.slotIndex ≠ 1 := fun one => unused (one ▸ mem)
    rw [List.mem_range'_1]
    omega
  have count := (List.subperm_of_subset distinct.usedSlots_nodup sub).length_le
  rw [List.length_range', usedSlots_length] at count
  simp only [MAX_VOLDATA_SLOT_COUNT] at count full
  omega

/-- The slots no entry uses. -/
def freeSlots (m : UuidMap) : Set Nat :=
  {slot | 1 ≤ slot ∧ slot ≤ MAX_VOLDATA_SLOT_COUNT ∧ slot ∉ usedSlots m}

/-- The search finds the least free slot, when one is free. -/
theorem findMinimumFreeSlotLocked_least {m : UuidMap} (room : m.size < MAX_VOLDATA_SLOT_COUNT) :
    IsLeast (freeSlots m) (findMinimumFreeSlotLocked m) := by
  have test : ∀ slot, (!slotUsed m slot) = true ↔ slot ∉ usedSlots m := by
    intro slot
    rw [Bool.not_eq_true', ← Bool.not_eq_true, slotUsed_iff]
  obtain ⟨free, inRange, unused⟩ := exists_free_slot room
  rw [findMinimumFreeSlotLocked]
  cases found : (List.range' 1 MAX_VOLDATA_SLOT_COUNT).find? fun slot => !slotUsed m slot with
  | none => exact absurd ((test free).mpr unused) (List.find?_eq_none.mp found free inRange)
  | some slot =>
      obtain ⟨hit, inside, earlier⟩ := List.find?_range'_eq_some.mp found
      rw [List.mem_range'_1] at inside
      refine ⟨⟨inside.1, ?_, (test slot).mp hit⟩, ?_⟩
      · simp only [Option.getD_some]
        omega
      · rintro other ⟨low, -, unusedOther⟩
        by_contra less
        have used := earlier other low (Nat.lt_of_not_le less)
        rw [(test other).mpr unusedOther] at used
        cases used

theorem findMinimumFreeSlotLocked_free {m : UuidMap} (room : m.size < MAX_VOLDATA_SLOT_COUNT) :
    (1 ≤ findMinimumFreeSlotLocked m ∧ findMinimumFreeSlotLocked m ≤ MAX_VOLDATA_SLOT_COUNT) ∧
      findMinimumFreeSlotLocked m ∉ usedSlots m := by
  obtain ⟨⟨low, high, unused⟩, -⟩ := findMinimumFreeSlotLocked_least room
  exact ⟨⟨low, high⟩, unused⟩

/-! ## What the operations do to a mapping -/

def evictSlotOne (m : UuidMap) : UuidMap :=
  if m.size < MAX_VOLDATA_SLOT_COUNT then m else m.filter fun _ e => e.slotIndex ≠ 1

/-- A new uuid gets the least free slot, after an eviction when the table is full. -/
def assignSlot (m : UuidMap) (fsUuid : CppString) : UuidMap :=
  let slot := findMinimumFreeSlotLocked (evictSlotOne m)
  (evictSlotOne m).insert fsUuid ⟨fsUuid, buildMountPathForSlot slot, slot⟩

/-- `newFsUuid` takes over the slot of `oldFsUuid`, unless it has one. -/
def renameKey (m : UuidMap) (oldFsUuid newFsUuid : CppString) : UuidMap :=
  match m[oldFsUuid]?, m[newFsUuid]? with
  | some e, none => (m.erase oldFsUuid).insert newFsUuid { e with fsUuid := newFsUuid }
  | _, _ => m

inductive StoreOp : Type
  | init
  | unInit
  | resolveMountPath (fsUuid : CppString)
  | removeByFsUuid (fsUuid : CppString)
  | replaceFsUuid (oldFsUuid newFsUuid : CppString)

/-- The mapping after an operation that succeeds. -/
def StoreOp.effect : StoreOp → UuidMap → UuidMap
  | .init, m => m
  | .unInit, m => m
  | .resolveMountPath fsUuid, m =>
      if isUuidValid fsUuid = true ∧ m[fsUuid]? = none then assignSlot m fsUuid else m
  | .removeByFsUuid fsUuid, m => if isUuidValid fsUuid then m.erase fsUuid else m
  | .replaceFsUuid oldFsUuid newFsUuid, m =>
      if isUuidValid oldFsUuid = true ∧ isUuidValid newFsUuid = true ∧ oldFsUuid ≠ newFsUuid then
        renameKey m oldFsUuid newFsUuid
      else m

/-- The uuids an operation is called with. -/
def StoreOp.uuids : StoreOp → List CppString
  | .init => []
  | .unInit => []
  | .resolveMountPath fsUuid => [fsUuid]
  | .removeByFsUuid fsUuid => [fsUuid]
  | .replaceFsUuid oldFsUuid newFsUuid => [oldFsUuid, newFsUuid]

theorem SlotTable.empty : SlotTable ∅ where
  key hit := by simp at hit
  valid hit := by simp at hit
  slot hit := by simp at hit
  path hit := by simp at hit
  slot_inj hit := by simp at hit
  size := by simp

/-- Dropping entries keeps a slot table. -/
theorem SlotTable.anti {m m' : UuidMap} (table : SlotTable m)
    (sub : ∀ {k : CppString} {e : VoldataUuidEntry}, m'[k]? = some e → m[k]? = some e) (size : m'.size ≤ m.size) :
    SlotTable m' where
  key hit := table.key (sub hit)
  valid hit := table.valid (sub hit)
  slot hit := table.slot (sub hit)
  path hit := table.path (sub hit)
  slot_inj left right := table.slot_inj (sub left) (sub right)
  size := size.trans table.size

theorem get_of_get_erase {m : UuidMap} {u k : CppString} {e : VoldataUuidEntry}
    (hit : (m.erase u)[k]? = some e) : m[k]? = some e := by
  by_cases same : u = k
  · subst same
    simp at hit
  · rwa [StdMap.get_erase_ne same] at hit

theorem SlotTable.erase {m : UuidMap} (table : SlotTable m) (u : CppString) :
    SlotTable (m.erase u) :=
  table.anti get_of_get_erase Std.ExtTreeMap.size_erase_le

/-- A new entry with a slot of its own keeps a slot table. -/
theorem SlotTable.insert {m : UuidMap} (table : SlotTable m) {u : CppString} {slot : Nat}
    (valid : isUuidValid u = true) (room : m.size < MAX_VOLDATA_SLOT_COUNT)
    (bounds : 1 ≤ slot ∧ slot ≤ MAX_VOLDATA_SLOT_COUNT) (free : slot ∉ usedSlots m) :
    SlotTable (m.insert u ⟨u, buildMountPathForSlot slot, slot⟩) := by
  -- An entry is the new one or one of the table.
  have inv : ∀ {k : CppString} {e : VoldataUuidEntry},
      (m.insert u ⟨u, buildMountPathForSlot slot, slot⟩)[k]? = some e →
      (u = k ∧ e = ⟨u, buildMountPathForSlot slot, slot⟩) ∨ m[k]? = some e := by
    intro k e hit
    rw [StdMap.get_insert] at hit
    split at hit
    next same => exact .inl ⟨same, (Option.some.inj hit).symm⟩
    next => exact .inr hit
  have other : ∀ {k : CppString} {e : VoldataUuidEntry}, m[k]? = some e → slot ≠ e.slotIndex := by
    rintro k e hit rfl
    exact free (mem_usedSlots.mpr ⟨k, e, hit, rfl⟩)
  refine ⟨?_, ?_, ?_, ?_, ?_, ?_⟩
  · intro k e hit
    rcases inv hit with ⟨rfl, rfl⟩ | old
    · rfl
    · exact table.key old
  · intro k e hit
    rcases inv hit with ⟨rfl, rfl⟩ | old
    · exact valid
    · exact table.valid old
  · intro k e hit
    rcases inv hit with ⟨rfl, rfl⟩ | old
    · exact bounds
    · exact table.slot old
  · intro k e hit
    rcases inv hit with ⟨rfl, rfl⟩ | old
    · rfl
    · exact table.path old
  · intro k k' e e' left right same
    rcases inv left with ⟨rfl, rfl⟩ | oldLeft <;> rcases inv right with ⟨rfl, rfl⟩ | oldRight
    · rfl
    · exact absurd same (other oldRight)
    · exact absurd same.symm (other oldLeft)
    · exact table.slot_inj oldLeft oldRight same
  · exact Std.ExtTreeMap.size_insert_le.trans room

theorem SlotTable.evictSlotOne {m : UuidMap} (table : SlotTable m) :
    SlotTable (evictSlotOne m) ∧ (DiskManager.evictSlotOne m).size < MAX_VOLDATA_SLOT_COUNT := by
  rw [DiskManager.evictSlotOne]
  split
  next room => exact ⟨table, room⟩
  next full =>
    have sub : ∀ {k : CppString} {e : VoldataUuidEntry},
        (m.filter fun _ e => e.slotIndex ≠ 1)[k]? = some e → m[k]? = some e := by
      intro k e hit
      rw [StdMap.get_filter, Option.filter_eq_some_iff] at hit
      exact hit.1
    refine ⟨table.anti sub Std.ExtTreeMap.size_filter_le_size, ?_⟩
    refine lt_of_lt_of_le (lt_of_le_of_ne Std.ExtTreeMap.size_filter_le_size ?_) table.size
    intro same
    obtain ⟨k, e, hit, one⟩ := mem_usedSlots.mp (table.distinct.slot_one_used (Nat.le_of_not_lt full))
    obtain ⟨mem, rfl⟩ := Std.ExtTreeMap.getElem?_eq_some_iff.mp hit
    have kept := Std.ExtTreeMap.size_filter_eq_size_iff.mp same k mem
    exact of_decide_eq_true kept one

theorem SlotTable.assignSlot {m : UuidMap} (table : SlotTable m) {u : CppString}
    (valid : isUuidValid u = true) : SlotTable (assignSlot m u) := by
  obtain ⟨evicted, room⟩ := table.evictSlotOne
  obtain ⟨bounds, free⟩ := findMinimumFreeSlotLocked_free room
  exact evicted.insert valid room bounds free

theorem SlotTable.renameKey {m : UuidMap} (table : SlotTable m) {old new : CppString}
    (valid : isUuidValid new = true) : SlotTable (renameKey m old new) := by
  rw [DiskManager.renameKey]
  split
  next e hit fresh =>
    have left : e.slotIndex ∉ usedSlots (m.erase old) := by
      intro mem
      obtain ⟨k, e', other, same⟩ := mem_usedSlots.mp mem
      have keys := table.slot_inj hit (get_of_get_erase other) same.symm
      subst keys
      simp at other
    have smaller : (m.erase old).size < MAX_VOLDATA_SLOT_COUNT := by
      have shrunk : (m.erase old).size = m.size - 1 := by
        have present : old ∈ m := StdMap.mem_iff_get.mpr ⟨e, hit⟩
        rw [Std.ExtTreeMap.size_erase, if_pos (Std.ExtTreeMap.mem_iff_contains.mp present)]
      have bound := table.size
      simp only [MAX_VOLDATA_SLOT_COUNT] at bound ⊢
      omega
    have moved := (table.erase old).insert valid smaller (table.slot hit) left
    rwa [← table.path hit] at moved
  next => exact table

theorem SlotTable.effect {m : UuidMap} (table : SlotTable m) (op : StoreOp) :
    SlotTable (op.effect m) := by
  cases op with
  | init => exact table
  | unInit => exact table
  | resolveMountPath u =>
      rw [StoreOp.effect]
      split
      next new => exact table.assignSlot new.1
      next => exact table
  | removeByFsUuid u =>
      rw [StoreOp.effect]
      split
      next => exact table.erase u
      next => exact table
  | replaceFsUuid old new =>
      rw [StoreOp.effect]
      split
      next valid => exact table.renameKey valid.2.1
      next => exact table

/-! ## Eviction and the walk -/

/-- An order in which the entries of `m` may be visited. -/
abbrev Walk (m : UuidMap) (order : List (CppString × VoldataUuidEntry)) : Prop :=
  order.Perm m.toList

theorem Walk.mem {m : UuidMap} {order : List (CppString × VoldataUuidEntry)} (walk : Walk m order)
    {k : CppString} {e : VoldataUuidEntry} : (k, e) ∈ order ↔ m[k]? = some e :=
  walk.mem_iff.trans StdMap.mem_toList

/-- Slot 1 has one entry, so the walk does not matter. -/
theorem evictSlotOneIfFullLocked_eq {m : UuidMap} (distinct : DistinctSlots m)
    {order : List (CppString × VoldataUuidEntry)} (walk : Walk m order) :
    evictSlotOneIfFullLocked order m = evictSlotOne m := by
  rw [evictSlotOneIfFullLocked.eq_def, evictSlotOne]
  split
  next => rfl
  next full =>
    obtain ⟨k₁, e₁, hit₁, one₁⟩ :=
      mem_usedSlots.mp (distinct.slot_one_used (Nat.le_of_not_lt full))
    split
    next pair found =>
      obtain ⟨k, e⟩ := pair
      have hit : m[k]? = some e := walk.mem.mp (List.mem_of_find?_eq_some found)
      have one : e.slotIndex = 1 := by
        have test := List.find?_some found
        exact of_decide_eq_true test
      refine StdMap.ext fun a => ?_
      rw [StdMap.get_erase, StdMap.get_filter]
      split
      next same =>
        subst same
        simp [hit, Option.filter_some, one]
      next other =>
        cases there : m[a]? with
        | none => rfl
        | some e' =>
            have kept : e'.slotIndex ≠ 1 := fun one' =>
              other (distinct.slot_inj hit there (one.trans one'.symm))
            simp [Option.filter_some, kept]
    next missing =>
      have notOne := List.find?_eq_none.mp missing (k₁, e₁) (walk.mem.mpr hit₁)
      exact absurd (decide_eq_true one₁) notOne

/-! ## Writing and loading -/

theorem parseVoldataSlotFromMountPath_build {slot : Nat}
    (bounds : 1 ≤ slot ∧ slot ≤ MAX_VOLDATA_SLOT_COUNT) :
    parseVoldataSlotFromMountPath (buildMountPathForSlot slot) = some slot := by
  have digits : (buildMountPathForSlot slot).drop VOLDATA_MOUNT_PREFIX.length =
      CppString.ofNat slot := List.drop_left
  have long : ¬ ((buildMountPathForSlot slot).length ≤ VOLDATA_MOUNT_PREFIX.length ∨
      CppString.startsWith (buildMountPathForSlot slot) VOLDATA_MOUNT_PREFIX = false) := by
    have some := List.length_pos_iff.mpr (CppString.ofNat_ne_nil slot)
    rw [CppString.startsWith, buildMountPathForSlot, List.isPrefixOf_iff_prefix.mpr
      (List.prefix_append _ _), List.length_append]
    simp only [Bool.true_eq_false, or_false]
    omega
  have numeric : (CppString.ofNat slot).all Char.isDigit = true :=
    List.all_eq_true.mpr fun c mem => CppString.isDigit_of_mem_ofNat mem
  have small : slot ≤ ULONG_MAX := bounds.2.trans (by decide)
  simp only [parseVoldataSlotFromMountPath, if_neg long, digits, numeric,
    CppString.digitsValue_ofNat, Bool.true_eq_false, if_false]
  rw [if_neg (by omega), if_neg (by omega)]

/-- Reading the entry back from what is written for it gives the entry. -/
def Readable (e : VoldataUuidEntry) : Prop := VoldataUuidEntry.fromJson e.toJson = some e

theorem readable_iff {e : VoldataUuidEntry} :
    Readable e ↔ parseVoldataSlotFromMountPath e.mountPath = some e.slotIndex ∧
      isUuidValid e.fsUuid = true := by
  have uuid : e.toJson.stringMember? "fsUuid" = some e.fsUuid := rfl
  have path : e.toJson.stringMember? "mountPath" = some e.mountPath := rfl
  simp only [Readable, VoldataUuidEntry.fromJson, uuid, path]
  cases parsed : parseVoldataSlotFromMountPath e.mountPath with
  | none => simp
  | some slot =>
      cases valid : isUuidValid e.fsUuid with
      | false => simp
      | true =>
          obtain ⟨fsUuid, mountPath, slotIndex⟩ := e
          simp

theorem fromJson_eq_some {item : Json} {e : VoldataUuidEntry}
    (read : VoldataUuidEntry.fromJson item = some e) :
    item.stringMember? "fsUuid" = some e.fsUuid ∧
      item.stringMember? "mountPath" = some e.mountPath ∧
      parseVoldataSlotFromMountPath e.mountPath = some e.slotIndex ∧
      isUuidValid e.fsUuid = true := by
  rw [VoldataUuidEntry.fromJson] at read
  split at read
  next fsUuid mountPath uuid path =>
    split at read
    next slotIndex parsed =>
      split at read
      next valid =>
        cases read
        exact ⟨uuid, path, parsed, valid⟩
      next => cases read
    next => cases read
  next => cases read

/-- What `FromJson` accepts it also writes readably. -/
theorem readable_of_fromJson {item : Json} {e : VoldataUuidEntry}
    (read : VoldataUuidEntry.fromJson item = some e) : Readable e :=
  readable_iff.mpr (fromJson_eq_some read).2.2

/-- A mapping that survives being written and loaded. Every loaded mapping is one, whether or not
it is a slot table. -/
structure Loadable (m : UuidMap) : Prop where
  key {k : CppString} {e : VoldataUuidEntry} : m[k]? = some e → e.fsUuid = k
  readable {k : CppString} {e : VoldataUuidEntry} : m[k]? = some e → Readable e
  size : m.size ≤ MAX_VOLDATA_SLOT_COUNT

theorem SlotTable.loadable {m : UuidMap} (table : SlotTable m) : Loadable m where
  key := table.key
  readable hit := by
    rw [readable_iff, table.path hit, parseVoldataSlotFromMountPath_build (table.slot hit),
      table.key hit]
    exact ⟨rfl, table.valid hit⟩
  size := table.size

/-- A loaded entry was there before or was read from an item. -/
theorem get_loadItems {items : List Json} {m : UuidMap} {k : CppString} {e : VoldataUuidEntry}
    (hit : (loadItems items m)[k]? = some e) :
    m[k]? = some e ∨ e.fsUuid = k ∧ ∃ item ∈ items, VoldataUuidEntry.fromJson item = some e := by
  induction items generalizing m with
  | nil => exact .inl hit
  | cons item items ih =>
      have later : (∃ item' ∈ items, VoldataUuidEntry.fromJson item' = some e) →
          ∃ item' ∈ item :: items, VoldataUuidEntry.fromJson item' = some e := by
        rintro ⟨item', mem, read⟩
        exact ⟨item', List.mem_cons_of_mem item mem, read⟩
      rw [loadItems] at hit
      split at hit
      next => exact .inl hit
      next =>
        split at hit
        next => exact (ih hit).imp_right (And.imp_right later)
        next e' read =>
          rcases ih hit with found | ⟨own, source⟩
          · rw [StdMap.get_insert] at found
            split at found
            next same =>
              cases found
              exact .inr ⟨same, item, List.mem_cons_self, read⟩
            next => exact .inl found
          · exact .inr ⟨own, later source⟩

theorem size_loadItems {items : List Json} {m : UuidMap} (room : m.size ≤ MAX_VOLDATA_SLOT_COUNT) :
    (loadItems items m).size ≤ MAX_VOLDATA_SLOT_COUNT := by
  induction items generalizing m with
  | nil => exact room
  | cons item items ih =>
      rw [loadItems]
      split
      next => exact room
      next notFull =>
        split
        next => exact ih room
        next e read => exact ih (Std.ExtTreeMap.size_insert_le.trans (Nat.lt_of_not_le notFull))

theorem loadable_loadItems (items : List Json) : Loadable (loadItems items ∅) where
  key hit := by
    rcases get_loadItems hit with found | ⟨own, -⟩
    · simp at found
    · exact own
  readable hit := by
    rcases get_loadItems hit with found | ⟨-, item, -, read⟩
    · simp at found
    · exact readable_of_fromJson read
  size := size_loadItems (by simp)

/-- The loading loop inserts every entry it can read while there is room. -/
theorem loadItems_map_toJson {es : List VoldataUuidEntry} (ok : ∀ e ∈ es, Readable e) (m : UuidMap)
    (room : m.size + es.length ≤ MAX_VOLDATA_SLOT_COUNT) :
    loadItems (es.map VoldataUuidEntry.toJson) m =
      es.foldl (fun m e => m.insert e.fsUuid e) m := by
  induction es generalizing m with
  | nil => rfl
  | cons e es ih =>
      rw [List.length_cons] at room
      have notFull : ¬ MAX_VOLDATA_SLOT_COUNT ≤ m.size := by omega
      have grown : (m.insert e.fsUuid e).size ≤ m.size + 1 := Std.ExtTreeMap.size_insert_le
      have read : VoldataUuidEntry.fromJson e.toJson = some e := ok e List.mem_cons_self
      rw [List.map_cons, loadItems, if_neg notFull, read]
      exact ih (fun e' mem => ok e' (List.mem_cons_of_mem e mem)) _ (by omega)

theorem get_foldl_insert_of_notMem {es : List VoldataUuidEntry} {k : CppString}
    (absent : ∀ e ∈ es, e.fsUuid ≠ k) (m : UuidMap) :
    (es.foldl (fun m e => m.insert e.fsUuid e) m)[k]? = m[k]? := by
  induction es generalizing m with
  | nil => rfl
  | cons e es ih =>
      rw [List.foldl_cons, ih fun e' mem => absent e' (List.mem_cons_of_mem e mem)]
      exact StdMap.get_insert_ne (absent e List.mem_cons_self)

theorem get_foldl_insert_of_mem {es : List VoldataUuidEntry}
    (distinct : es.Pairwise fun e e' => e.fsUuid ≠ e'.fsUuid) {e : VoldataUuidEntry} (mem : e ∈ es)
    (m : UuidMap) : (es.foldl (fun m e => m.insert e.fsUuid e) m)[e.fsUuid]? = some e := by
  induction es generalizing m with
  | nil => cases mem
  | cons head es ih =>
      rw [List.pairwise_cons] at distinct
      rw [List.foldl_cons]
      rcases List.mem_cons.mp mem with rfl | later
      · rw [get_foldl_insert_of_notMem fun e' mem' => (distinct.1 e' mem').symm]
        exact StdMap.get_insert_self m _ _
      · exact ih distinct.2 later _

/-- Loading the entries of a mapping, in any order, gives the mapping back. -/
theorem Loadable.loadItems_walk {m : UuidMap} (loadable : Loadable m)
    {order : List (CppString × VoldataUuidEntry)} (walk : Walk m order) :
    DiskManager.loadItems (order.map fun pair => pair.2.toJson) ∅ = m := by
  have own : ∀ pair ∈ order, pair.2.fsUuid = pair.1 := by
    rintro ⟨k, e⟩ mem
    exact loadable.key (walk.mem.mp mem)
  have keys : order.Pairwise fun a b => a.1 ≠ b.1 := by
    refine (walk.pairwise_iff fun ne => ne.symm).mpr ?_
    refine Std.ExtTreeMap.distinct_keys_toList.imp fun {a b} distinct same => ?_
    exact distinct (Std.LawfulEqCmp.compare_eq_iff_eq.mpr same)
  have uuids : (order.map (·.2)).Pairwise fun e e' => e.fsUuid ≠ e'.fsUuid := by
    refine List.Pairwise.map _ ?_ (List.Pairwise.and_mem.mp keys)
    rintro a b ⟨memA, memB, distinct⟩
    rwa [own a memA, own b memB]
  have ok : ∀ e ∈ order.map (·.2), Readable e := by
    intro e mem
    obtain ⟨⟨k, e'⟩, inOrder, rfl⟩ := List.mem_map.mp mem
    exact loadable.readable (walk.mem.mp inOrder)
  have room : (∅ : UuidMap).size + (order.map (·.2)).length ≤ MAX_VOLDATA_SLOT_COUNT := by
    rw [List.length_map, walk.length_eq, Std.ExtTreeMap.length_toList]
    simpa using loadable.size
  have loop := loadItems_map_toJson ok ∅ room
  rw [List.map_map] at loop
  refine loop.trans (StdMap.ext fun k => ?_)
  cases there : m[k]? with
  | some e =>
      have mem : e ∈ order.map (·.2) := List.mem_map.mpr ⟨(k, e), walk.mem.mpr there, rfl⟩
      have found := get_foldl_insert_of_mem uuids mem ∅
      rwa [loadable.key there] at found
  | none =>
      rw [get_foldl_insert_of_notMem _ ∅, StdMap.get_empty]
      rintro e mem rfl
      obtain ⟨⟨k', e'⟩, inOrder, rfl⟩ := List.mem_map.mp mem
      have hit : m[k']? = some e' := walk.mem.mp inOrder
      rw [← loadable.key hit, there] at hit
      cases hit

end DiskManager
