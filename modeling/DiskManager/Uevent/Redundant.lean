import DiskManager.Uevent.Repartition

/-!
# Redundant events

A disk is announced again, or changes, and its partition table is the one of the last event. Nothing
is made, taken down, mounted or formatted then, and nobody is told: a volume its user unmounted
stays so.

* `redundant_event_noop`: such an event only makes the node of the disk and reads the table.
* `dumpless_event_unplugs`: a dump without a `DISK` line has no partitions either, and is not a table
  without partitions.
-/

namespace DiskManager

open Interact

/-- What `PartitionKeyEqual` compares. -/
def PartitionRecord.key (p : PartitionRecord) : Nat × CppString × CppString :=
  (p.partitionNumber, p.partitionType, p.fsTypeRaw)

/-- The tables have the same set of keys. -/
def SameKeys (parts others : List PartitionRecord) : Prop :=
  ∀ key, (∃ p ∈ parts, p.key = key) ↔ ∃ p ∈ others, p.key = key

theorem partitionKeyEqual_iff {a b : PartitionRecord} :
    partitionKeyEqual a b = true ↔ a.key = b.key := by
  simp only [partitionKeyEqual, Bool.and_eq_true, decide_eq_true_eq, PartitionRecord.key,
    Prod.mk.injEq, and_assoc]

theorem containsPartition_iff {list : List PartitionRecord} {target : PartitionRecord} :
    containsPartition list target = true ↔ ∃ p ∈ list, p.key = target.key := by
  simp only [containsPartition, List.any_eq_true, partitionKeyEqual_iff]

theorem SameKeys.symm {parts others : List PartitionRecord} (same : SameKeys parts others) :
    SameKeys others parts := fun key => (same key).symm

theorem SameKeys.partsBeyond {parts others : List PartitionRecord} (same : SameKeys parts others) :
    partsBeyond parts others = [] := by
  refine List.filter_eq_nil_iff.mpr fun p mem => ?_
  have contained := containsPartition_iff.mpr ((same p.key).mp ⟨p, mem, rfl⟩)
  rw [contained]
  decide

/-- Nothing came and nothing went. -/
theorem SameKeys.partitionDiff {old parts : List PartitionRecord} (same : SameKeys old parts) :
    partitionDiff (some old) parts = ([], []) :=
  congrArg₂ Prod.mk same.symm.partsBeyond same.partsBeyond

/-- A command that mounts, unmounts or formats a volume or takes a device node away, or an event. -/
def Req.Disturbs : Req → Prop
  | .mount .. | .unmount .. | .formatVolume .. | .destroyBlockDeviceNode _
  | .publishVolumeChange .. | .publishVolumeResult .. | .publishVolumeAbnormal ..
  | .publishDiskMounted _ | .publishDiskRemoved _ | .publishDiskAbnormal .. => True
  | _ => False

namespace DiskEvent

/-- An add or change event of a disk that is there, is not optical and is not being partitioned,
with the partitions of the last event. -/
structure Redundant (e : DiskEvent) (s : ManagerState) : Prop where
  action : e.action ≠ .remove
  block : e.uevent.major ≠ DISK_CD_MAJOR
  known : s.diskMap[e.diskId]?.isSome
  free : e.diskId ∉ s.partitioningDiskIds
  snapshot : ∃ old, s.diskPartsSnapshot[e.diskId]? = some old ∧
    SameKeys old (dumpParts e.dump e.diskId)

/-- In a run in which every call succeeds, nothing is disturbed, and the disks, the volumes and the
keys of the recorded table are the same after it. -/
structure NoOp [JsonLib] (e : DiskEvent) (s : ManagerState) : Prop where
  quiet : ∀ s' w' q next, Reach e.env ⟨e.prog, s, ()⟩ ⟨.call q next, s', w'⟩ → ¬ q.Disturbs
  kept : ∀ err s', Returns e.env e.prog s () err s' () →
    s'.diskMap = s.diskMap ∧ s'.volumeMap = s.volumeMap ∧
      ∀ old, s.diskPartsSnapshot[e.diskId]? = some old →
        ∃ parts, s'.diskPartsSnapshot[e.diskId]? = some parts ∧ SameKeys old parts

/-- Every call succeeds, and nothing may be disturbed. -/
def quietContract (e : DiskEvent) : Contract ManagerState Unit Req Req.Resp :=
  ⟨e.env, fun _ _ q => ¬ q.Disturbs, fun _ _ _ => True⟩

/-- The state with the table of the event recorded. -/
def refreshed (e : DiskEvent) (s : ManagerState) : ManagerState :=
  { s with
    diskPartsSnapshot := s.diskPartsSnapshot.insert e.diskId (dumpParts e.dump e.diskId) }

variable {e : DiskEvent} {s : ManagerState} {w : Unit}

/-- The node is made and the table read, and it is a table. -/
theorem wp_buildAndSyncPartitions (table : dumpTableType e.dump e.diskId ≠ []) (path : CppString) :
    wp e.quietContract (buildAndSyncPartitions e.uevent e.diskId path)
      (fun result s' _ => result = (E_OK, dumpParts e.dump e.diskId, (rewriteUserData e.dump).2,
        dumpTableType e.dump e.diskId) ∧ s' = s) s w := by
  rw [buildAndSyncPartitions, wp_bind, call, wp_request]
  refine ⟨id, fun err w₁ answered => ?_⟩
  have ok : err = E_OK := answered.1
  rw [if_neg (not_not.mpr ok), wp_bind, call, wp_request]
  refine ⟨id, fun read w₂ answered => ?_⟩
  obtain ⟨err, dump⟩ := read
  obtain ⟨ok, rfl⟩ : err = E_OK ∧ dump = e.dump := answered
  dsimp only
  rw [if_neg (not_not.mpr ok)]
  have filled : ¬ (dumpTableType e.dump e.diskId).isEmpty = true := fun none =>
    table (List.isEmpty_iff.mp none)
  split
  next gone => exact absurd gone.1 filled
  next => exact ⟨rfl, rfl⟩

variable [JsonLib]

theorem wp_syncVolumes {old : List PartitionRecord}
    (snapshot : s.diskPartsSnapshot[e.diskId]? = some old)
    (same : SameKeys old (dumpParts e.dump e.diskId)) (isUserData : Bool) (tableType : CppString) :
    wp e.quietContract
      (syncVolumes e.uevent e.diskId false (dumpParts e.dump e.diskId) isUserData tableType)
      (fun _ s' _ => s' = e.refreshed s) s w := by
  rw [syncVolumes, computePartitionDiff, wp_bind, wp_atomically, snapshot, same.partitionDiff]
  refine ⟨trivial, ?_⟩
  -- Both loops have no round, and nothing went that a whole-disk volume could stand in for.
  change wp _ (if ((dumpParts e.dump e.diskId).isEmpty && false) = true then _ else _) _ _ _
  rw [Bool.and_false, if_neg (by decide)]
  rfl

omit [JsonLib] in
theorem wp_isPartitioningInternal (free : e.diskId ∉ s.partitioningDiskIds) :
    wp e.quietContract (isPartitioningInternal e.diskId)
      (fun partitioning s' _ => partitioning = false ∧ s' = s) s w := by
  have no : s.partitioningDiskIds.contains e.diskId = false := by
    simpa using free
  rw [isPartitioningInternal, isPartitioning, wp_bind, wp_read, no]
  exact ⟨trivial, rfl, rfl⟩

/-- The discovery for a disk that is there. -/
theorem wp_discoverPartitionsAndVolumes (redundant : e.Redundant s)
    (table : dumpTableType e.dump e.diskId ≠ []) :
    wp e.quietContract (discoverPartitionsAndVolumes e.uevent false)
      (fun _ s' _ => s' = e.refreshed s) s w := by
  obtain ⟨old, snapshot, same⟩ := redundant.snapshot
  rw [discoverPartitionsAndVolumes]
  dsimp only
  rw [if_neg redundant.block]
  refine wp_seq (wp_buildAndSyncPartitions table _) fun _ s' w' read => ?_
  obtain ⟨rfl, rfl⟩ := read
  dsimp only
  rw [if_neg (by decide), if_neg (not_not.mpr rfl), discoverReadDisk]
  have disk : wp e.quietContract (upsertDiskAndPublishEvent e.uevent e.diskId false
      (dumpTableType e.dump e.diskId)) (fun _ s'' _ => s'' = s') s' w' := rfl
  refine wp_bind.mpr (wp_seq disk fun _ s'' w'' kept => ?_)
  obtain rfl := kept
  refine wp_seq (wp_isPartitioningInternal redundant.free) fun _ s₁ w₁ partitioning => ?_
  obtain ⟨rfl, rfl⟩ := partitioning
  exact wp_syncVolumes snapshot same _ _

/-- A redundant event disturbs nothing. -/
theorem wp_redundant (redundant : e.Redundant s) (table : dumpTableType e.dump e.diskId ≠ []) :
    wp e.quietContract e.prog (fun _ s' _ => s' = e.refreshed s) s w := by
  have discovered : wp e.quietContract (do
      let known ← hasDisk e.diskId
      discoverPartitionsAndVolumes e.uevent !known) (fun _ s' _ => s' = e.refreshed s) s w := by
    rw [hasDisk, wp_bind, wp_read, redundant.known]
    exact ⟨trivial, wp_discoverPartitionsAndVolumes redundant table⟩
  cases action : e.action with
  | remove => exact absurd action redundant.action
  | add =>
      rw [prog, action]
      exact discovered
  | change =>
      rw [prog, action]
      refine wp_seq (wp_isPartitioningInternal redundant.free) fun _ s' w' partitioning => ?_
      obtain ⟨rfl, rfl⟩ := partitioning
      exact discovered

end DiskEvent

section

variable [JsonLib]

/-- An event that announces a disk again with the table it has disturbs nothing. -/
theorem redundant_event_noop {e : DiskEvent} {s : ManagerState} (redundant : e.Redundant s)
    (table : dumpTableType e.dump e.diskId ≠ []) : e.NoOp s := by
  have ends := DiskEvent.wp_redundant (w := ()) redundant table
  refine ⟨fun s' w' q next run => wp_issued ends run, fun err s' returned => ?_⟩
  obtain rfl := wp_returns ends returned
  refine ⟨rfl, rfl, fun old snapshot => ⟨_, StdMap.get_insert_self _ _ _, ?_⟩⟩
  obtain ⟨old', snapshot', same⟩ := redundant.snapshot
  cases snapshot.symm.trans snapshot'
  exact same

end

/-- The state has what a redundant event of the stick finds. -/
def ManagerState.listsStick (s : ManagerState) (parts : List PartitionRecord) : Bool :=
  s.diskMap[stick.diskId]?.isSome && !s.partitioningDiskIds.contains stick.diskId &&
    s.diskPartsSnapshot[stick.diskId]? = some parts

theorem redundant_of_listsStick {e : DiskEvent} {s : ManagerState} (action : e.action ≠ .remove)
    (id : e.uevent.major = 8 ∧ e.uevent.minor = 0)
    (lists : s.listsStick (dumpParts e.dump stick.diskId) = true) : e.Redundant s := by
  have same : e.diskId = stick.diskId := by
    rw [DiskEvent.diskId, id.1, id.2]
    rfl
  simp only [ManagerState.listsStick, Bool.and_eq_true, Bool.not_eq_true', decide_eq_true_eq] at lists
  obtain ⟨⟨known, free⟩, snapshot⟩ := lists
  refine ⟨action, ?_, ?_, ?_, ?_⟩
  · rw [id.1]
    decide
  · rwa [same]
  · rw [same]
    simpa using free
  · rw [same]
    exact ⟨_, snapshot, fun _ => Iff.rfl⟩

theorem stickUnmounted_lists :
    stickUnmounted.listsStick (dumpParts stickDump stick.diskId) = true := by
  decide +kernel

/-- The user unmounted the volume of the stick, and the stick is announced as changed. -/
theorem redundant_event_noop_stick : letI := tableJson; (stickEvent .change).NoOp stickUnmounted := by
  let _ := tableJson
  exact redundant_event_noop
    (redundant_of_listsStick (by decide) ⟨rfl, rfl⟩ stickUnmounted_lists) stickDump_plain.1

/-! ## A dump that is not a table -/

/-- The blank disk changes, and the dump has no `DISK` line. -/
def dumplessEvent : DiskEvent := { stickEvent .change with dump := "PART 1 0x0c" }

def dumplessAnswer : (q : Req) → q.Resp
  | .readPartitionTable _ => (E_OK, "PART 1 0x0c")
  | q => okAnswer ∅ q

theorem dumplessAnswer_obeys (s : ManagerState) (w : Unit) (q : Req) :
    dumplessEvent.env s w q (dumplessAnswer q) () := by
  refine ⟨?_, ?_⟩
  · cases q with
    | _ => rfl
  · cases q with
    | readPartitionTable => rfl
    | _ => trivial

theorem blankPlugged_lists :
    blankPlugged.listsStick (dumpParts dumplessEvent.dump stick.diskId) = true := by
  decide +kernel

theorem dumpless_forgets : letI := tableJson
    (dumplessEvent.prog.exec (fun _ q => (dumplessAnswer q, ()))
      blankPlugged ()).2.1.diskPartsSnapshot[stick.diskId]?.isNone = true := by
  decide +kernel

/-- The table of a blank disk has no partitions, and neither has the dump, but the disk is
abandoned. -/
theorem dumpless_event_unplugs :
    letI := tableJson
    Settled blankPlugged ∧ dumplessEvent.Redundant blankPlugged ∧
      ¬ dumplessEvent.NoOp blankPlugged := by
  let _ := tableJson
  have redundant : dumplessEvent.Redundant blankPlugged :=
    redundant_of_listsStick (by decide) ⟨rfl, rfl⟩ blankPlugged_lists
  refine ⟨blankPlugged_settled, redundant, fun noOp => ?_⟩
  obtain ⟨old, snapshot, -⟩ := redundant.snapshot
  let handle : Unit → (q : Req) → q.Resp × Unit := fun _ q => (dumplessAnswer q, ())
  have obeys : ∀ s w q, dumplessEvent.env s w q (handle w q).1 (handle w q).2 :=
    dumplessAnswer_obeys
  have run := Prog.exec_returns obeys dumplessEvent.prog blankPlugged ()
  obtain ⟨-, -, kept⟩ := noOp.kept _ _ run
  obtain ⟨parts, there, -⟩ := kept old snapshot
  exact absurd (Option.isNone_iff_eq_none.mp dumpless_forgets) (there ▸ Option.some_ne_none parts)

end DiskManager
