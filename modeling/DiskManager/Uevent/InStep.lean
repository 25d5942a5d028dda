import DiskManager.JsonCodec
import DiskManager.Uevent.Attach

/-!
# Volumes follow the partition table

For an external disk that is alone: `diskPartsSnapshot_` holds the table of the last event, each of
its partitions has one volume, on the device that belongs to its number, and no other number has
one. Each round of an event changes the set of numbers by one, and the numbers that come and go are
those by which the new table differs from the recorded one.
-/

namespace DiskManager

open Interact

/-- The number of a disk that is not optical and has no extended number itself. -/
structure BlockDisk : Type where
  major : Nat
  minor : Nat
  scsi : major ≠ MAJORID_BLKEXT
  block : major ≠ DISK_CD_MAJOR
  fits : major < 2 ^ 32

namespace BlockDisk

def diskId (d : BlockDisk) : CppString := diskIdFrom d.major d.minor

/-- The volume of a partition; number 0 stands for the whole disk. -/
def volume (d : BlockDisk) (n : Nat) : Place :=
  .volumeOn d.diskId (partitionDev d.major d.minor n) n

theorem volume_zero (d : BlockDisk) : d.volume 0 = .volumeOn d.diskId (makedev d.major d.minor) 0 :=
  rfl

theorem volume_id_inj (d : BlockDisk) {m n : Nat} (small : m < 2 ^ 31) (small' : n < 2 ^ 31)
    (same : (d.volume m).id = (d.volume n).id) : m = n := by
  have devs := volIdFromDev_injective same
  obtain ⟨major, minor, scsi, block, fits⟩ := d
  simp only [partitionDev, makedev] at devs
  unfold MAX_SCSI_VOLUMES MAX_PARTITION MAJORID_BLKEXT at devs
  unfold MAJORID_BLKEXT at scsi
  split at devs
  next extended =>
    split at devs
    next extended' =>
      simp only [Dev.mk.injEq, true_and] at devs
      omega
    next plain' =>
      simp only [Dev.mk.injEq] at devs
      omega
  next plain =>
    split at devs
    next extended' =>
      simp only [Dev.mk.injEq] at devs
      omega
    next plain' =>
      simp only [Dev.mk.injEq] at devs
      omega

theorem volume_id_ne (d : BlockDisk) {m n : Nat} (small : m < 2 ^ 31) (small' : n < 2 ^ 31)
    (ne : m ≠ n) : (d.volume m).id ≠ (d.volume n).id :=
  fun same => ne (d.volume_id_inj small small' same)

/-- The device of a partition while the disk is external. -/
def device (d : BlockDisk) (i : Index) (p : PartitionRecord) (dev : Dev) : Prop :=
  i.internal d.diskId = false → dev = partitionDev d.major d.minor p.partitionNumber

end BlockDisk

/-- The partition numbers of a table. -/
def numbersOf (parts : List PartitionRecord) : Set Nat :=
  { n | ∃ p ∈ parts, p.partitionNumber = n }

theorem numbersOf_nil : numbersOf [] = ∅ := by simp [numbersOf]

theorem numbersOf_cons (p : PartitionRecord) (parts : List PartitionRecord) :
    numbersOf (p :: parts) = {p.partitionNumber} ∪ numbersOf parts := by
  ext n
  have here : n = p.partitionNumber ↔ p.partitionNumber = n := eq_comm
  simp only [numbersOf, List.mem_cons, exists_eq_or_imp, Set.mem_union, Set.mem_ofPred_eq,
    Set.mem_singleton_iff, here]

theorem partitionKeyEqual_number {p q : PartitionRecord} (same : partitionKeyEqual p q = true) :
    p.partitionNumber = q.partitionNumber := by
  simp only [partitionKeyEqual, Bool.and_eq_true, decide_eq_true_eq] at same
  exact same.1.1

theorem partitionKeyEqual_symm {p q : PartitionRecord} (same : partitionKeyEqual p q = true) :
    partitionKeyEqual q p = true := by
  simp only [partitionKeyEqual, Bool.and_eq_true, decide_eq_true_eq] at same ⊢
  exact ⟨⟨same.1.1.symm, same.1.2.symm⟩, same.2.symm⟩

theorem mem_partsBeyond {parts others : List PartitionRecord} {p : PartitionRecord} :
    p ∈ partsBeyond parts others ↔ p ∈ parts ∧ containsPartition others p = false := by
  simp [partsBeyond]

theorem containsPartition_eq_true {parts : List PartitionRecord} {p : PartitionRecord} :
    containsPartition parts p = true ↔ ∃ q ∈ parts, partitionKeyEqual q p = true := by
  simp [containsPartition]

/-- A disk without a recorded table is one with an empty table. -/
theorem partitionDiff_eq (old : Option (List PartitionRecord)) (parts : List PartitionRecord) :
    partitionDiff old parts = (partsBeyond parts (old.getD []), partsBeyond (old.getD []) parts) := by
  cases old with
  | none =>
      have all : partsBeyond parts [] = parts := by simp [partsBeyond, containsPartition]
      simp only [partitionDiff, Option.getD_none, all]
      rfl
  | some old => rfl

/-- The numbers that stay and those that come are those of the new table. -/
theorem numbersOf_diff {old parts : List PartitionRecord}
    (distinct : (old.map (·.partitionNumber)).Nodup) :
    numbersOf old \ numbersOf (partsBeyond old parts) ∪ numbersOf (partsBeyond parts old) =
      numbersOf parts := by
  ext n
  refine ⟨?_, ?_⟩
  · rintro (⟨⟨p, mem, rfl⟩, stays⟩ | ⟨p, comes, rfl⟩)
    · have kept : containsPartition parts p = true := by
        by_contra gone
        exact stays ⟨p, mem_partsBeyond.mpr ⟨mem, Bool.eq_false_iff.mpr gone⟩, rfl⟩
      obtain ⟨q, mem', same⟩ := containsPartition_eq_true.mp kept
      exact ⟨q, mem', partitionKeyEqual_number same⟩
    · exact ⟨p, (mem_partsBeyond.mp comes).1, rfl⟩
  · rintro ⟨p, mem, rfl⟩
    cases known : containsPartition old p with
    | false => exact .inr ⟨p, mem_partsBeyond.mpr ⟨mem, known⟩, rfl⟩
    | true =>
        obtain ⟨q, mem', same⟩ := containsPartition_eq_true.mp known
        refine .inl ⟨⟨q, mem', partitionKeyEqual_number same⟩, ?_⟩
        rintro ⟨r, gone, number⟩
        obtain ⟨mem'', gone⟩ := mem_partsBeyond.mp gone
        have twin : r = q := List.inj_on_of_nodup_map distinct mem'' mem'
          (number.trans (partitionKeyEqual_number same).symm)
        subst twin
        have kept : containsPartition parts r = true :=
          containsPartition_eq_true.mpr ⟨p, mem, partitionKeyEqual_symm same⟩
        exact Bool.false_ne_true (gone.symm.trans kept)

/-- A partition number that is the same as an `int32_t`. -/
def PartitionRecord.Small (p : PartitionRecord) : Prop :=
  1 ≤ p.partitionNumber ∧ p.partitionNumber < 2 ^ 31

namespace Index

/-- The volumes are those of the disk, and the partition numbers among them are `numbers`. -/
structure Follows (d : BlockDisk) (numbers : Set Nat) (i : Index) : Prop where
  places : ∀ {k : CppString} {place : Place}, i.places k = some place →
    ∃ n, n < 2 ^ 31 ∧ place = d.volume n ∧ k = (d.volume n).id
  step : ∀ n, 1 ≤ n → n < 2 ^ 31 → ((i.places (d.volume n).id).isSome ↔ n ∈ numbers)
  external : i.internal d.diskId = false

namespace Follows

variable {d : BlockDisk} {numbers : Set Nat} {i i' : Index}

theorem at_key (follows : i.Follows d numbers) {n : Nat} (small : n < 2 ^ 31)
    (there : (i.places (d.volume n).id).isSome) : i.places (d.volume n).id = some (d.volume n) := by
  obtain ⟨place, found⟩ := Option.isSome_iff_exists.mp there
  obtain ⟨m, small', rfl, key⟩ := follows.places found
  obtain rfl := d.volume_id_inj small small' key
  exact found

theorem insert (follows : i.Follows d numbers) {m : Nat} (small : m < 2 ^ 31) :
    (i.insert (d.volume m)).Follows d (numbers ∪ {m}) := by
  have here : (i.insert (d.volume m)).places (d.volume m).id = some (d.volume m) := by
    rw [insert_places_self]
    cases there : i.places (d.volume m).id with
    | none => rfl
    | some place =>
        rw [← there, follows.at_key small (there ▸ rfl)]
        rfl
  refine ⟨fun {k place} found => ?_, fun n pos small' => ?_, follows.external⟩
  · by_cases same : k = (d.volume m).id
    · subst same
      rw [here] at found
      cases found
      exact ⟨m, small, rfl, rfl⟩
    · rw [insert_places_ne same] at found
      exact follows.places found
  · by_cases same : n = m
    · subst same
      rw [here]
      simp
    · rw [insert_places_ne (d.volume_id_ne small' small same), follows.step n pos small']
      simp [same]

theorem erase (follows : i.Follows d numbers) {m : Nat} (small : m < 2 ^ 31) :
    (i.erase (d.volume m).id).Follows d (numbers \ {m}) := by
  refine ⟨fun {k place} found => ?_, fun n pos small' => ?_, follows.external⟩
  · by_cases same : k = (d.volume m).id
    · subst same
      rw [erase_places_self] at found
      cases found
    · rw [erase_places_ne same] at found
      exact follows.places found
  · by_cases same : n = m
    · subst same
      rw [erase_places_self]
      simp
    · rw [erase_places_ne (d.volume_id_ne small' small same), follows.step n pos small']
      simp [same]

/-- The whole-disk volume is no partition. -/
theorem insert_zero (follows : i.Follows d numbers) : (i.insert (d.volume 0)).Follows d numbers := by
  obtain ⟨places, step, external⟩ := follows.insert (m := 0) (by decide)
  refine ⟨places, fun n pos small => ?_, external⟩
  rw [step n pos small]
  have ne : n ≠ 0 := Nat.one_le_iff_ne_zero.mp pos
  simp [ne]

theorem hasVolume (follows : i.Follows d numbers) {m : Nat} (pos : 1 ≤ m) (small : m < 2 ^ 31) :
    i.HasVolume d.diskId m ↔ m ∈ numbers := by
  rw [← follows.step m pos small]
  refine ⟨?_, fun there => ⟨_, _, follows.at_key small there, rfl, rfl⟩⟩
  rintro ⟨k, place, found, -, number⟩
  obtain ⟨n, small', rfl, rfl⟩ := follows.places found
  have same : n = m := Int.ofNat_inj.mp number
  rw [← same, found]
  rfl

theorem removes (follows : i.Follows d numbers) {m : Nat} (pos : 1 ≤ m) (small : m < 2 ^ 31)
    (removes : Removes d.diskId m i i') : i'.Follows d (numbers \ {m}) := by
  cases removes with
  | none gone =>
      have out : m ∉ numbers := fun mem => gone ((follows.hasVolume pos small).mpr mem)
      rwa [Set.sdiff_singleton_eq_self out]
  | some found _ number =>
      obtain ⟨n, small', rfl, rfl⟩ := follows.places found
      obtain rfl : n = m := Int.ofNat_inj.mp number
      exact follows.erase small'

theorem sound (follows : i.Follows d numbers) : i.Sound := by
  refine ⟨fun k place found => ?_, fun {k place} found loop => ?_, fun {k place} found _ => ?_⟩
  · obtain ⟨n, -, rfl, rfl⟩ := follows.places found
    rfl
  · obtain ⟨n, -, rfl, rfl⟩ := follows.places found
    exact absurd rfl loop
  · obtain ⟨n, -, rfl, rfl⟩ := follows.places found
    intro eq
    cases eq

theorem setParts (follows : i.Follows d numbers) (parts : List PartitionRecord) :
    (i.setParts d.diskId parts).Follows d numbers :=
  ⟨follows.places, follows.step, follows.external⟩

/-- The loop over the partitions that went. -/
theorem removeRounds {parts : List PartitionRecord}
    (rounds : Rounds (fun rp => Removes d.diskId (toInt32 rp.partitionNumber)) parts i i')
    (small : ∀ p ∈ parts, p.Small) (follows : i.Follows d numbers) :
    i'.Follows d (numbers \ numbersOf parts) := by
  induction rounds generalizing numbers with
  | nil => rwa [numbersOf_nil, Set.sdiff_empty]
  | @cons p parts i i' i'' first _ ih =>
      obtain ⟨pos, fits⟩ := small p List.mem_cons_self
      rw [toInt32_of_lt fits] at first
      rw [numbersOf_cons, ← Set.sdiff_sdiff]
      exact ih (fun q mem => small q (List.mem_cons_of_mem p mem)) (follows.removes pos fits first)

/-- The loop over the partitions that came. -/
theorem discoverRounds {parts : List PartitionRecord}
    (rounds : Rounds (Discovers d.device d.diskId) parts i i')
    (small : ∀ p ∈ parts, p.Small) (follows : i.Follows d numbers) :
    i'.Follows d (numbers ∪ numbersOf parts) := by
  induction rounds generalizing numbers with
  | nil => rwa [numbersOf_nil, Set.union_empty]
  | @cons p parts i i' i'' first _ ih =>
      obtain ⟨pos, fits⟩ := small p List.mem_cons_self
      obtain ⟨dev, device, rfl⟩ := first
      rw [toInt32_of_lt fits, device follows.external] at ih
      rw [numbersOf_cons, ← Set.union_assoc]
      exact ih (fun q mem => small q (List.mem_cons_of_mem p mem)) (follows.insert fits)

end Follows

/-- The recorded table of the disk is `parts`, and the volumes are those of its partitions. -/
structure InStep (d : BlockDisk) (parts : List PartitionRecord) (i : Index) : Prop where
  follows : i.Follows d (numbersOf parts)
  snapshot : i.diskPartsSnapshot[d.diskId]?.getD [] = parts
  distinct : (parts.map (·.partitionNumber)).Nodup
  small : ∀ p ∈ parts, p.Small
  free : i.partitioningDiskIds = []
  ids : i.DiskIds

theorem not_repartitioned {i : Index} (free : i.partitioningDiskIds = []) (diskId : CppString) :
    ¬ i.Repartitioned diskId := by
  intro marked
  have mem := marked.1
  rw [free] at mem
  exact absurd mem List.not_mem_nil

namespace Syncs

variable {device : Index → PartitionRecord → Dev → Prop} {whole : Dev} {diskId : CppString}
  {new : Bool} {parts : List PartitionRecord} {i i' : Index}

/-- What the loops of an event leave alone. -/
theorem rest (syncs : Syncs device whole diskId new parts i i') : i'.diskMap = i.diskMap ∧
    i'.partitioningDiskIds = i.partitioningDiskIds ∧
    i'.diskPartsSnapshot = i.diskPartsSnapshot.insert diskId parts := by
  have removed : ∀ {rps : List PartitionRecord} {i₁ : Index},
      Rounds (fun rp => Removes diskId (toInt32 rp.partitionNumber)) rps (i.setParts diskId parts) i₁ →
      i₁.diskMap = i.diskMap ∧ i₁.partitioningDiskIds = i.partitioningDiskIds ∧
        i₁.diskPartsSnapshot = i.diskPartsSnapshot.insert diskId parts := by
    intro rps i₁ rounds
    refine rounds.invariant (fun j => j.diskMap = i.diskMap ∧
      j.partitioningDiskIds = i.partitioningDiskIds ∧
      j.diskPartsSnapshot = i.diskPartsSnapshot.insert diskId parts) ?_ ⟨rfl, rfl, rfl⟩
    intro rp _ j j' kept removes
    cases removes with
    | none => exact kept
    | some => exact kept
  cases syncs with
  | parts first second =>
      refine second.invariant (fun j => j.diskMap = i.diskMap ∧
        j.partitioningDiskIds = i.partitioningDiskIds ∧
        j.diskPartsSnapshot = i.diskPartsSnapshot.insert diskId parts) ?_ (removed first)
      rintro p _ j _ kept ⟨dev, -, rfl⟩
      exact kept
  | whole _ _ first =>
      have kept := removed first
      exact kept

end Syncs

/-- The volumes follow the table of an event. -/
theorem InStep.syncs {d : BlockDisk} {old parts : List PartitionRecord} {i i' : Index} {new : Bool}
    (inStep : i.InStep d old) (distinct : (parts.map (·.partitionNumber)).Nodup)
    (small : ∀ p ∈ parts, p.Small)
    (syncs : Syncs d.device (makedev d.major d.minor) d.diskId new parts i i') :
    i'.InStep d parts := by
  obtain ⟨diskMap, partitioning, snapshot⟩ := syncs.rest
  have gone : ∀ p ∈ partsBeyond old parts, p.Small :=
    fun p mem => inStep.small p (mem_partsBeyond.mp mem).1
  have come : ∀ p ∈ partsBeyond parts old, p.Small :=
    fun p mem => small p (mem_partsBeyond.mp mem).1
  have numbers : numbersOf old \ numbersOf (partsBeyond old parts) ∪
      numbersOf (partsBeyond parts old) = numbersOf parts := numbersOf_diff inStep.distinct
  have follows : i'.Follows d (numbersOf parts) := by
    cases syncs with
    | parts first second =>
        rw [partitionDiff_eq, inStep.snapshot] at first second
        rw [← numbers]
        exact ((inStep.follows.setParts parts).removeRounds first gone).discoverRounds second come
    | whole empty _ first =>
        subst empty
        rw [partitionDiff_eq, inStep.snapshot] at first
        have none : numbersOf (partsBeyond [] old) = ∅ := numbersOf_nil
        rw [none, Set.union_empty] at numbers
        rw [← numbers, ← d.volume_zero]
        exact ((inStep.follows.setParts []).removeRounds first gone).insert_zero
  refine ⟨follows, ?_, distinct, small, partitioning.trans inStep.free, ?_⟩
  · rw [snapshot, StdMap.get_insert_self]
    rfl
  · intro diskId disk found
    rw [diskMap] at found
    exact inStep.ids diskId disk found

theorem InStep.upserted {d : BlockDisk} {parts : List PartitionRecord} {i i' : Index} {new : Bool}
    {record : Disk → Prop} (inStep : i.InStep d parts)
    (id : ∀ disk, record disk → disk.diskId = d.diskId)
    (external : ∀ disk, record disk → disk.isInternalDataDisk = false)
    (upserted : Upserted record i new i') : i'.InStep d parts := by
  obtain ⟨places, snapshot, partitioning⟩ := upserted.rest
  have stays : i'.internal d.diskId = false :=
    upserted.external id external inStep.follows.external
  refine ⟨⟨?_, ?_, stays⟩, ?_, inStep.distinct, inStep.small, partitioning.trans inStep.free,
    inStep.ids.upserted upserted⟩
  · rw [places]
    exact inStep.follows.places
  · rw [places]
    exact inStep.follows.step
  · rw [snapshot]
    exact inStep.snapshot

/-- A removed disk leaves nothing. -/
theorem InStep.unplug {d : BlockDisk} {parts : List PartitionRecord} {i : Index}
    (inStep : i.InStep d parts) : (i.unplug d.diskId).InStep d [] := by
  have none : ∀ k, (i.unplug d.diskId).places k = none := by
    intro k
    change ((i.places k).filter fun place => place.diskId ≠ d.diskId) = _
    cases found : i.places k with
    | none => rfl
    | some place =>
        obtain ⟨n, -, rfl, -⟩ := inStep.follows.places found
        exact Option.filter_some_neg (by simp [BlockDisk.volume, Place.volumeOn])
  refine ⟨⟨fun {k place} found => ?_, fun n _ _ => ?_, ?_⟩, ?_, List.nodup_nil, ?_, inStep.free, ?_⟩
  · rw [none] at found
    cases found
  · rw [none, numbersOf_nil]
    simp
  · change ((i.diskMap.erase d.diskId)[d.diskId]?).any _ = false
    rw [StdMap.get_erase_self]
    rfl
  · change ((i.diskPartsSnapshot.erase d.diskId)[d.diskId]?).getD [] = []
    rw [StdMap.get_erase_self]
    rfl
  · exact fun p mem => absurd mem List.not_mem_nil
  · intro diskId disk found
    change (i.diskMap.erase d.diskId)[diskId]? = some disk at found
    rw [StdMap.get_erase] at found
    split at found
    · cases found
    · exact inStep.ids diskId disk found

end Index

/-! ## Runs -/

/-- An event of the disk whose table has a `DISK` line, no userdata partition, and distinct numbers
that fit an `int32_t`. The table of a remove event is not read. -/
structure PlainEvent (d : BlockDisk) : Type where
  event : DiskEvent
  major : event.uevent.major = d.major
  minor : event.uevent.minor = d.minor
  table : dumpTableType event.dump d.diskId ≠ []
  plain : (rewriteUserData event.dump).2 = false
  distinct : ((dumpParts event.dump d.diskId).map (·.partitionNumber)).Nodup
  small : ∀ p ∈ dumpParts event.dump d.diskId, p.partitionNumber < 2 ^ 31

namespace PlainEvent

variable {d : BlockDisk}

theorem diskId (e : PlainEvent d) : e.event.diskId = d.diskId := by
  rw [DiskEvent.diskId, e.major, e.minor]
  rfl

def parts (e : PlainEvent d) : List PartitionRecord := dumpParts e.event.dump d.diskId

theorem parts_small (e : PlainEvent d) : ∀ p ∈ e.parts, p.Small :=
  fun p mem => ⟨(of_mem_dumpParts mem).pos, e.small p mem⟩

/-- The table after the event. -/
def tableAfter (e : PlainEvent d) : List PartitionRecord :=
  match e.event.action with
  | .remove => []
  | _ => e.parts

/-- The configuration does not make the disk an internal data disk. -/
def External (e : PlainEvent d) : (q : Req) → q.Resp → Prop
  | .configFlag _, config =>
      isInternalByPath (initialDiskFlag e.event.uevent config) e.event.uevent.sysPath = false
  | _, _ => True

/-- Every call succeeds, and the disk is external. -/
def env (e : PlainEvent d) : Env ManagerState Unit Req Req.Resp :=
  fun s w q r w' => e.event.env s w q r w' ∧ e.External q r

theorem nodesOk (e : PlainEvent d) : NodesOk e.env :=
  ⟨fun answered => e.event.nodesOk.create answered.1, fun answered => e.event.nodesOk.destroy answered.1⟩

theorem tableRead (e : PlainEvent d) : TableRead e.env e.event.dump :=
  fun answered => e.event.tableRead answered.1

theorem records_external (e : PlainEvent d) {diskId : CppString} {disk : Disk}
    (record : Records e.env e.event.uevent diskId disk) : disk.isInternalDataDisk = false := by
  obtain ⟨s, w, config, w', answered, internal⟩ := record.internal
  rw [internal]
  exact answered.2

/-- An external disk has its partitions on the devices of their numbers. -/
theorem device_of_resolves (e : PlainEvent d) {p : PartitionRecord} {s : ManagerState} {dev : Dev}
    (resolves : Resolves e.env e.event.uevent e.event.diskId (rewriteUserData e.event.dump).2 p s dev) :
    d.device s.index p dev := by
  intro external
  rw [e.diskId, e.plain] at resolves
  cases resolves with
  | plain =>
      rw [plainDev, if_neg (by decide), e.major, e.minor]
  | linear internal => exact absurd (external.symm.trans internal) (by decide)

/-- An event keeps volumes and table in step. -/
theorem inStep_handles (e : PlainEvent d) {parts : List PartitionRecord} {i i' : Index}
    (inStep : i.InStep d parts)
    (handles : Index.Handles (Records e.env e.event.uevent e.event.diskId) d.device e.event i i') :
    i'.InStep d e.tableAfter := by
  cases handles with
  | skipped _ marked => exact absurd marked (Index.not_repartitioned inStep.free _)
  | unplugs removed =>
      rw [e.diskId, tableAfter, removed]
      exact inStep.unplug
  | arrives comes discovered =>
      have after : e.tableAfter = e.parts := by
        unfold tableAfter
        split
        next removed => exact absurd removed comes
        · rfl
      unfold Index.Arrives at discovered
      rw [e.diskId, e.major, e.minor] at discovered
      rw [after]
      have upserted : ∀ {new : Bool} {i₁ : Index},
          Index.Upserted (Records e.env e.event.uevent d.diskId) i new i₁ → i₁.InStep d parts :=
        fun upserted => inStep.upserted (fun _ record => record.id)
          (fun _ record => e.records_external record) upserted
      cases discovered with
      | noTable none => exact absurd none e.table
      | formatted _ comes marked =>
          exact absurd marked (Index.not_repartitioned (upserted comes).free _)
      | synced _ comes _ syncs => exact (upserted comes).syncs e.distinct e.parts_small syncs

section

variable [JsonLib]

def prog (e : PlainEvent d) : ManagerProg ErrCode := e.event.prog

theorem inStep_prog (e : PlainEvent d) {parts : List PartitionRecord} {s : ManagerState} {w : Unit}
    (inStep : s.index.InStep d parts) :
    wp (.ofEnv e.env) e.prog (fun _ s' _ => s'.index.InStep d e.tableAfter) s w := by
  have block : e.event.uevent.major ≠ DISK_CD_MAJOR := e.major ▸ d.block
  refine wp_mono ?_ (index_prog e.nodesOk e.tableRead inStep.follows.sound inStep.ids block
    fun _ _ _ resolves => e.device_of_resolves resolves)
  exact fun _ _ _ handles => e.inStep_handles inStep handles

end

end PlainEvent

/-- The record `k` is a volume of the disk with this partition number. -/
def VolumeAt (s : ManagerState) (diskId : CppString) (n : Int) (k : CppString) : Prop :=
  ∃ vol, s.volumeMap[k]? = some vol ∧ vol.diskId = diskId ∧ vol.partitionNum = n

/-- What is to hold after an event: the volumes of a disk that is there are those of the partitions
of its table, one for each; a disk that is gone leaves nothing. -/
def PlainEvent.Settled {d : BlockDisk} (e : PlainEvent d) (s : ManagerState) : Prop :=
  match e.event.action with
  | .remove => (∀ n k, ¬ VolumeAt s d.diskId n k) ∧ s.diskMap[d.diskId]? = none ∧
      s.diskPartsSnapshot[d.diskId]? = none
  | _ => ∀ n : Int, 1 ≤ n →
      ((∃ k, VolumeAt s d.diskId n k) ↔ ∃ p ∈ e.parts, (p.partitionNumber : Int) = n) ∧
        ∀ k k', VolumeAt s d.diskId n k → VolumeAt s d.diskId n k' → k = k'

theorem VolumeAt.place {s : ManagerState} {diskId k : CppString} {n : Int}
    (here : VolumeAt s diskId n k) :
    ∃ place, s.index.places k = some place ∧ place.diskId = diskId ∧ place.partitionNum = n := by
  obtain ⟨vol, found, of, number⟩ := here
  exact ⟨vol.place, Option.map_eq_some_iff.mpr ⟨vol, found, rfl⟩, of, number⟩

theorem volumeAt_of_place {s : ManagerState} {k : CppString} {place : Place}
    (found : s.index.places k = some place) : VolumeAt s place.diskId place.partitionNum k := by
  obtain ⟨vol, there, rfl⟩ := Option.map_eq_some_iff.mp found
  exact ⟨vol, there, rfl, rfl⟩

namespace Index

variable {d : BlockDisk} {numbers : Set Nat} {s : ManagerState}

/-- A volume of the disk stands under the id of its number. -/
theorem Follows.key (follows : s.index.Follows d numbers) {n : Int} {k : CppString}
    (here : VolumeAt s d.diskId n k) : ∃ m : Nat, m < 2 ^ 31 ∧ n = m ∧ k = (d.volume m).id := by
  obtain ⟨place, found, -, number⟩ := here.place
  obtain ⟨m, small, rfl, key⟩ := follows.places found
  exact ⟨m, small, number.symm, key⟩

theorem InStep.settled {parts : List PartitionRecord} (inStep : s.index.InStep d parts) {n : Int}
    (pos : 1 ≤ n) :
    ((∃ k, VolumeAt s d.diskId n k) ↔ ∃ p ∈ parts, (p.partitionNumber : Int) = n) ∧
      ∀ k k', VolumeAt s d.diskId n k → VolumeAt s d.diskId n k' → k = k' := by
  refine ⟨⟨?_, ?_⟩, ?_⟩
  · rintro ⟨k, here⟩
    obtain ⟨m, small, rfl, rfl⟩ := inStep.follows.key here
    obtain ⟨place, found, -, -⟩ := here.place
    have pos : 1 ≤ m := Int.ofNat_le.mp pos
    obtain ⟨p, mem, number⟩ := (inStep.follows.step m pos small).mp (found ▸ rfl)
    exact ⟨p, mem, congrArg _ number⟩
  · rintro ⟨p, mem, rfl⟩
    obtain ⟨pos, small⟩ := inStep.small p mem
    have there := (inStep.follows.step p.partitionNumber pos small).mpr ⟨p, mem, rfl⟩
    exact ⟨_, volumeAt_of_place (inStep.follows.at_key small there)⟩
  · intro k k' here here'
    obtain ⟨m, -, number, rfl⟩ := inStep.follows.key here
    obtain ⟨m', -, number', rfl⟩ := inStep.follows.key here'
    obtain rfl : m = m' := Int.ofNat_inj.mp (number.symm.trans number')
    rfl

end Index

section

variable [JsonLib] {d : BlockDisk}

theorem inStep_of_run {events : List (PlainEvent d)} {s₀ s : ManagerState}
    (fresh : s₀.index = ManagerState.boot.index)
    (run : Runs PlainEvent.prog PlainEvent.env s₀ () events s ()) :
    ∃ parts, s.index.InStep d parts := by
  refine Runs.invariant (C := fun e : PlainEvent d => .ofEnv e.env)
    (fun (s : ManagerState) _ => ∃ parts, s.index.InStep d parts) ?_ ?_ run
  · rintro e s w ⟨parts, inStep⟩
    exact wp_mono (fun _ _ _ after => ⟨_, after⟩) (e.inStep_prog inStep)
  · rw [fresh]
    refine ⟨[], ⟨⟨fun {k place} found => ?_, fun n _ _ => ?_, rfl⟩, rfl, List.nodup_nil, ?_, rfl, ?_⟩⟩
    · exact absurd found (by simp [ManagerState.index, ManagerState.boot])
    · rw [numbersOf_nil]
      simp [ManagerState.index, ManagerState.boot]
    · exact fun p mem => absurd mem List.not_mem_nil
    · intro diskId disk found
      exact absurd found (by simp [ManagerState.index, ManagerState.boot])

/-- After every event of a disk that is alone, its volumes are those of its table. -/
theorem volumes_in_step {events : List (PlainEvent d)} {e : PlainEvent d} {s₀ s : ManagerState}
    (fresh : s₀.index = ManagerState.boot.index)
    (run : Runs PlainEvent.prog PlainEvent.env s₀ () (events ++ [e]) s ()) : e.Settled s := by
  obtain ⟨s₁, w₁, err, before, returned⟩ := run.last
  obtain ⟨parts, inStep⟩ := inStep_of_run fresh before
  have block : e.event.uevent.major ≠ DISK_CD_MAJOR := e.major ▸ d.block
  have handles := wp_returns (index_prog e.nodesOk e.tableRead inStep.follows.sound inStep.ids block
    fun _ _ _ resolves => e.device_of_resolves resolves) returned
  have after : s.index.InStep d e.tableAfter := e.inStep_handles inStep handles
  unfold PlainEvent.tableAfter at after
  unfold PlainEvent.Settled
  split at after
  next removed =>
    have gone : s.index = s₁.index.unplug d.diskId := e.diskId ▸ handles.eq_unplug removed
    refine ⟨fun n k here => ?_, ?_, ?_⟩
    · obtain ⟨place, found, of, -⟩ := here.place
      rw [gone] at found
      obtain ⟨-, other⟩ := Option.filter_eq_some_iff.mp found
      simp [of] at other
    · have disks : s.diskMap = s₁.diskMap.erase d.diskId := congrArg Index.diskMap gone
      rw [disks, StdMap.get_erase_self]
    · have snapshot : s.diskPartsSnapshot = s₁.diskPartsSnapshot.erase d.diskId :=
        congrArg Index.diskPartsSnapshot gone
      rw [snapshot, StdMap.get_erase_self]
  next comes => exact fun n pos => after.settled pos

end

theorem stick_scsi : 8 ≠ MAJORID_BLKEXT := by decide

theorem stick_block : 8 ≠ DISK_CD_MAJOR := by decide

theorem stick_fits : 8 < 2 ^ 32 := by decide

/-- A stick with a file allocation table on its first partition. -/
def stick : BlockDisk := ⟨8, 0, stick_scsi, stick_block, stick_fits⟩

def stickDump : CppString := "DISK mbr\nPART 1 0x0c"

def stickEvent (action : UeventAction) : DiskEvent :=
  ⟨action, { major := 8, minor := 0, sysPath := "/sys/devices/usb1/block/sda", devName := "sda" },
    stickDump⟩

theorem stickEvent_fits (action : UeventAction) : (stickEvent action).uevent.Fits :=
  ⟨stick_fits, Nat.two_pow_pos 32⟩

theorem stickDump_plain : dumpTableType stickDump stick.diskId ≠ [] ∧
    (rewriteUserData stickDump).2 = false ∧
    dumpParts stickDump stick.diskId = [⟨stick.diskId, 1, "mbr", "0x0c"⟩] := by decide +kernel

def stickPlain (action : UeventAction) : PlainEvent stick where
  event := stickEvent action
  major := rfl
  minor := rfl
  table := stickDump_plain.1
  plain := stickDump_plain.2.1
  distinct := by
    change ((dumpParts stickDump stick.diskId).map (·.partitionNumber)).Nodup
    rw [stickDump_plain.2.2]
    exact List.nodup_singleton _
  small := by
    change ∀ p ∈ dumpParts stickDump stick.diskId, _
    rw [stickDump_plain.2.2]
    decide

/-- Every call succeeds, and the table is that of the stick. -/
def stickAnswer : (q : Req) → q.Resp
  | .readPartitionTable _ => (E_OK, stickDump)
  | q => okAnswer ∅ q

theorem stickAnswer_obeys (action : UeventAction) (s : ManagerState) (w : Unit) (q : Req) :
    (stickPlain action).env s w q (stickAnswer q) () := by
  have external : isInternalByPath (initialDiskFlag (stickEvent action).uevent none)
      (stickEvent action).uevent.sysPath = false := by
    cases action with
    | _ => decide +kernel
  refine ⟨⟨?_, ?_⟩, ?_⟩
  · cases q with
    | _ => rfl
  · cases q with
    | readPartitionTable => rfl
    | _ => trivial
  · cases q with
    | configFlag => exact external
    | _ => trivial

/-- The stick is plugged in, pulled, plugged in again, and changes. -/
def stickEvents : List (PlainEvent stick) :=
  [stickPlain .add, stickPlain .remove, stickPlain .add, stickPlain .change]

def stickEnd : ManagerState × Unit :=
  letI := tableJson
  execAll PlainEvent.prog (fun _ q => (stickAnswer q, ())) stickEvents (.boot, ())

theorem volumes_in_step_stick : (stickPlain .change).Settled stickEnd.1 := by
  let _ := tableJson
  have obeys : ∀ e ∈ stickEvents, ∀ (s : ManagerState) (w : Unit) (q : Req),
      e.env s w q (stickAnswer q) () := by
    intro e mem
    simp only [stickEvents, List.mem_cons, List.not_mem_nil, or_false] at mem
    rcases mem with rfl | rfl | rfl | rfl
    all_goals exact stickAnswer_obeys _
  have run : GuardedRuns PlainEvent.prog PlainEvent.env (fun _ _ _ => True) .boot () stickEvents
      stickEnd.1 stickEnd.2 :=
    GuardedRuns.execAll obeys (fun _ _ _ _ => trivial) ManagerState.boot ()
  have split : stickEvents = [stickPlain .add, stickPlain .remove, stickPlain .add] ++
      [stickPlain .change] := rfl
  rw [split] at run
  exact volumes_in_step rfl run.runs

end DiskManager
