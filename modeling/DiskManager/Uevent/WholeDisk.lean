import DiskManager.Uevent.InStep
import Mathlib.Data.Set.Card

/-!
# The whole-disk volume

A disk without partitions gets one volume for all of it. That volume is outside the comparison of
partition tables: nothing takes it down when partitions come. What can be said is what an event has
to find for the disk to have either that volume or volumes of partitions after it.
-/

namespace DiskManager

open Interact

/-- An event of a disk that is not optical. -/
structure EventOf (diskId : CppString) : Type where
  event : DiskEvent
  id : event.diskId = diskId
  block : event.uevent.major ≠ DISK_CD_MAJOR

def EventOf.prog [JsonLib] {diskId : CppString} (e : EventOf diskId) : ManagerProg ErrCode :=
  e.event.prog

def EventOf.env {diskId : CppString} (e : EventOf diskId) : Env ManagerState Unit Req Req.Resp :=
  e.event.env

theorem toInt32_ne_zero {n : Nat} (pos : 1 ≤ n) (small : n < 2 ^ 32) : toInt32 n ≠ 0 := by
  unfold toInt32
  split
  · omega
  · omega

namespace Index

/-- The volumes of the disk with this partition number. -/
def volumesWith (i : Index) (diskId : CppString) (n : Int) : Set CppString :=
  { k | ∃ place, i.places k = some place ∧ place.diskId = diskId ∧ place.partitionNum = n }

/-- The lines of a table with this partition number. -/
def linesWith (parts : List PartitionRecord) (n : Int) : Nat :=
  parts.countP fun p => toInt32 p.partitionNumber = n

/-- The disk does not have the whole-disk volume and one of a partition. -/
def Exclusive (i : Index) (diskId : CppString) : Prop :=
  ¬ (i.HasVolume diskId 0 ∧ ∃ n, n ≠ 0 ∧ i.HasVolume diskId n)

/-- A partition may be on any device. -/
def anyDevice (_ : Index) (_ : PartitionRecord) (_ : Dev) : Prop := True

/-- What an add or change event is to find: no whole-disk volume when partitions come, and when a
table without partitions takes down what the recorded one lists, no more volumes than that. -/
def Separates (i : Index) (diskId dump : CppString) : Prop :=
  let old := i.diskPartsSnapshot[diskId]?.getD []
  let parts := dumpParts dump diskId
  (partsBeyond parts old ≠ [] → ¬ i.HasVolume diskId 0) ∧
    (parts = [] → i.diskMap[diskId]? = none ∨ old ≠ [] →
      ∀ n, n ≠ 0 → (i.volumesWith diskId n).encard ≤ linesWith old n)

variable {i i' : Index} {diskId : CppString}

theorem hasVolume_iff {n : Int} : i.HasVolume diskId n ↔ (i.volumesWith diskId n).Nonempty := Iff.rfl

theorem Exclusive.mono (exclusive : i.Exclusive diskId)
    (le : ∀ n, i'.HasVolume diskId n → i.HasVolume diskId n) : i'.Exclusive diskId := by
  rintro ⟨whole, n, ne, part⟩
  exact exclusive ⟨le 0 whole, n, ne, le n part⟩

/-- One volume with the number goes, and no other. -/
theorem volumesWith_removes {m n : Int} {count : Nat} (removes : Removes diskId m i i')
    (few : (i.volumesWith diskId n).encard ≤ (if m = n then count + 1 else count : Nat)) :
    (i'.volumesWith diskId n).encard ≤ count := by
  cases removes with
  | none gone =>
      split at few
      next same =>
        subst same
        have empty : i.volumesWith diskId m = ∅ := Set.not_nonempty_iff_eq_empty.mp gone
        rw [empty, Set.encard_empty]
        exact zero_le
      · exact few
  | @some k place found of number =>
      have fewer : (i.erase k).volumesWith diskId n ⊆ i.volumesWith diskId n \ {k} := by
        rintro a ⟨other, there, of', number'⟩
        by_cases same : a = k
        · subst same
          rw [erase_places_self] at there
          cases there
        · rw [erase_places_ne same] at there
          exact ⟨⟨other, there, of', number'⟩, same⟩
      refine (Set.encard_le_encard fewer).trans ?_
      split at few
      next same =>
        have mem : k ∈ i.volumesWith diskId n := ⟨place, found, of, number.trans same⟩
        rw [← Set.encard_sdiff_singleton_add_one mem, Nat.cast_add, Nat.cast_one] at few
        exact (ENat.add_le_add_iff_right (by decide)).mp few
      · exact (Set.encard_le_encard Set.sdiff_subset).trans few

/-- The lines of a table take down as many volumes as there are lines. -/
theorem no_volume_of_removeRounds {parts : List PartitionRecord}
    (rounds : Rounds (fun rp => Removes diskId (toInt32 rp.partitionNumber)) parts i i') {n : Int}
    (few : (i.volumesWith diskId n).encard ≤ linesWith parts n) : ¬ i'.HasVolume diskId n := by
  induction rounds with
  | nil =>
      have none := Set.encard_eq_zero.mp (nonpos_iff_eq_zero.mp few)
      exact Set.not_nonempty_iff_eq_empty.mpr none
  | @cons p parts i i' i'' first _ ih =>
      refine ih (volumesWith_removes first (few.trans_eq ?_))
      rw [linesWith, List.countP_cons]
      simp only [decide_eq_true_eq]
      split
      · rfl
      · rfl

/-- Partitions come, and the whole-disk volume does not. -/
theorem no_whole_of_discoverRounds {device : Index → PartitionRecord → Dev → Prop}
    {parts : List PartitionRecord} (rounds : Rounds (Discovers device diskId) parts i i')
    (ofDisk : ∀ p ∈ parts, p.Of diskId) (none : ¬ i.HasVolume diskId 0) :
    ¬ i'.HasVolume diskId 0 := by
  refine rounds.invariant (fun j => ¬ j.HasVolume diskId 0) ?_ none
  rintro p mem j _ none ⟨dev, -, rfl⟩ has
  rcases has.of_insert with old | ⟨-, number⟩
  · exact none old
  · exact toInt32_ne_zero (ofDisk p mem).pos (ofDisk p mem).small number

theorem partsBeyond_nil (parts : List PartitionRecord) : partsBeyond parts [] = parts := by
  simp [partsBeyond, containsPartition]

/-- The loops of an event that finds what it is to find. -/
theorem Exclusive.syncs {device : Index → PartitionRecord → Dev → Prop} {whole : Dev} {new : Bool}
    {old parts : List PartitionRecord} (exclusive : i.Exclusive diskId)
    (recorded : i.diskPartsSnapshot[diskId]?.getD [] = old) (ofDisk : ∀ p ∈ parts, p.Of diskId)
    (comes : partsBeyond parts old ≠ [] → ¬ i.HasVolume diskId 0)
    (few : parts = [] → new = true ∨ old ≠ [] →
      ∀ n, n ≠ 0 → (i.volumesWith diskId n).encard ≤ linesWith old n)
    (syncs : Syncs device whole diskId new parts i i') : i'.Exclusive diskId := by
  cases syncs with
  | @parts i₁ _ first second =>
      rw [partitionDiff_eq, recorded] at first second
      have fewer : ∀ n, i₁.HasVolume diskId n → (i.setParts diskId parts).HasVolume diskId n :=
        fun n has => has.of_removeRounds first
      by_cases none : partsBeyond parts old = []
      · rw [none] at second
        rw [second.eq_of_nil]
        exact exclusive.mono fewer
      · have none : ¬ i'.HasVolume diskId 0 := no_whole_of_discoverRounds second
          (fun p mem => ofDisk p (mem_partsBeyond.mp mem).1) fun has => comes none (fewer 0 has)
        exact fun both => none both.1
  | whole empty wanted first =>
      subst empty
      rw [partitionDiff_eq, recorded] at first wanted
      dsimp only at first wanted
      rw [partsBeyond_nil] at first wanted
      rintro ⟨-, n, ne, has⟩
      rcases has.of_insert with left | ⟨-, zero⟩
      · exact no_volume_of_removeRounds first (few rfl wanted n ne) left
      · exact ne zero.symm

/-- The disk may be attached: it is not under repartition, and has no volumes yet. -/
structure Detached (i : Index) (diskId : CppString) : Prop where
  sound : i.Sound
  ids : i.DiskIds
  free : diskId ∉ i.partitioningDiskIds
  none : ∀ n, ¬ i.HasVolume diskId n

/-- What every event of the disk keeps. -/
structure Apart (i : Index) (diskId : CppString) : Prop where
  sound : i.Sound
  ids : i.DiskIds
  free : diskId ∉ i.partitioningDiskIds
  exclusive : i.Exclusive diskId

theorem Sound.syncs {device : Index → PartitionRecord → Dev → Prop} {whole : Dev} {new : Bool}
    {parts : List PartitionRecord} (sound : i.Sound)
    (syncs : Syncs device whole diskId new parts i i') : i'.Sound := by
  have removed : ∀ {rps : List PartitionRecord} {i₁ : Index},
      Rounds (fun rp => Removes diskId (toInt32 rp.partitionNumber)) rps (i.setParts diskId parts) i₁ →
      i₁.Sound :=
    fun rounds => rounds.invariant Sound (fun _ _ _ _ sound removes => sound.removes removes)
      (sound.of_le fun found => found)
  cases syncs with
  | parts first second =>
      refine second.invariant Sound ?_ (removed first)
      rintro p _ j _ sound ⟨dev, -, rfl⟩
      exact sound.insert _ _
  | whole _ _ first => exact (removed first).insert _ _

theorem DiskIds.erase (ids : i.DiskIds) (diskId : CppString) :
    ({ i with diskMap := i.diskMap.erase diskId } : Index).DiskIds := by
  intro k disk found
  change (i.diskMap.erase diskId)[k]? = some disk at found
  rw [StdMap.get_erase] at found
  split at found
  · cases found
  · exact ids k disk found

/-- An event that finds what it is to find keeps the volumes apart. -/
theorem Apart.handles {record : Disk → Prop} {device : Index → PartitionRecord → Dev → Prop}
    {e : EventOf diskId} (apart : i.Apart diskId)
    (separates : e.event.action ≠ .remove → i.Separates diskId e.event.dump)
    (handles : Handles record device e.event i i') : i'.Apart diskId := by
  cases handles with
  | skipped => exact apart
  | unplugs =>
      rw [e.id]
      have none := not_hasVolume_eraseDisk i diskId 0
      exact ⟨(apart.sound.eraseDisk diskId).of_le fun found => found, apart.ids.erase diskId,
        apart.free, fun both => none both.1⟩
  | arrives comes discovered =>
      unfold Arrives at discovered
      rw [e.id] at discovered
      obtain ⟨comes, few⟩ := separates comes
      cases discovered with
      | noTable =>
          split
          · exact apart
          · have none := not_hasVolume_eraseDisk i diskId 0
            exact ⟨(apart.sound.eraseDisk diskId).of_le fun found => found, apart.ids, apart.free,
              fun both => none both.1⟩
      | formatted _ upserted marked =>
          have free : diskId ∉ i.partitioningDiskIds := apart.free
          rw [← upserted.rest.2.2] at free
          exact absurd marked.1 free
      | @synced i₁ _ _ upserted _ syncs =>
          obtain ⟨places, snapshot, partitioning⟩ := upserted.rest
          obtain ⟨diskMap, partitioning', -⟩ := syncs.rest
          have same : ∀ n, i₁.HasVolume diskId n ↔ i.HasVolume diskId n := by
            intro n
            unfold HasVolume
            rw [places]
          have sound : i₁.Sound := apart.sound.of_le fun found => places ▸ found
          have exclusive : i₁.Exclusive diskId := apart.exclusive.mono fun n => (same n).mp
          refine ⟨sound.syncs syncs, ?_, ?_, ?_⟩
          · intro k disk found
            rw [diskMap] at found
            exact apart.ids.upserted upserted k disk found
          · rw [partitioning', partitioning]
            exact apart.free
          · refine exclusive.syncs (congrArg (fun m => m[diskId]?.getD []) snapshot)
              (fun p mem => of_mem_dumpParts mem) (fun some' has => comes some' ((same 0).mp has))
              (fun empty wanted n ne => ?_) syncs
            have volumes : i₁.volumesWith diskId n = i.volumesWith diskId n := by
              unfold volumesWith
              rw [places]
            rw [volumes]
            refine few empty ?_ n ne
            rcases wanted with new | some'
            · have gone : i.diskMap[diskId]?.isSome = false := (Bool.not_eq_true' _).mp new
              exact .inl (Option.isNone_iff_eq_none.mp (Option.isSome_eq_false_iff.mp gone))
            · exact .inr some'

end Index

/-! ## Runs -/

/-- The event finds what it is to find. -/
def EventOf.Separates {diskId : CppString} (e : EventOf diskId) (s : ManagerState) : Prop :=
  e.event.action ≠ .remove → s.index.Separates diskId e.event.dump

section

variable [JsonLib] {diskId : CppString}

theorem EventOf.apart_prog (e : EventOf diskId) {s : ManagerState} {w : Unit}
    (apart : s.index.Apart diskId) (separates : e.Separates s) :
    wp (.ofEnv e.env) e.prog (fun _ s' _ => s'.index.Apart diskId) s w := by
  have devices : ∀ (s : ManagerState) p dev, Resolves e.env e.event.uevent e.event.diskId
      (rewriteUserData e.event.dump).2 p s dev → Index.anyDevice s.index p dev :=
    fun _ _ _ _ => trivial
  refine wp_mono ?_ (index_prog e.event.nodesOk e.event.tableRead apart.sound apart.ids e.block
    devices)
  exact fun _ _ _ handles => apart.handles separates handles

/-- In a run whose events find what they are to find, the disk never has the whole-disk volume and a
volume of a partition. -/
theorem whole_disk_exclusive {events : List (EventOf diskId)} {s₀ s : ManagerState}
    (start : s₀.index.Detached diskId)
    (run : GuardedRuns EventOf.prog EventOf.env (fun e s _ => e.Separates s) s₀ () events s ()) :
    ¬ ((∃ k, VolumeAt s diskId 0 k) ∧ ∃ n k, n ≠ 0 ∧ VolumeAt s diskId n k) := by
  have apart : s.index.Apart diskId := by
    refine GuardedRuns.invariant (C := fun e : EventOf diskId => .ofEnv e.env)
      (fun (s : ManagerState) _ => s.index.Apart diskId) ?_ ?_ run
    · exact fun e s w apart separates => e.apart_prog apart separates
    · exact ⟨start.sound, start.ids, start.free, fun both => start.none 0 both.1⟩
  rintro ⟨⟨k, whole⟩, n, k', ne, part⟩
  obtain ⟨place, found, of, number⟩ := whole.place
  obtain ⟨place', found', of', number'⟩ := part.place
  exact apart.exclusive ⟨⟨k, place, found, of, number⟩, n, ne, k', place', found', of', number'⟩

end

theorem detached_boot (diskId : CppString) : ManagerState.boot.index.Detached diskId := by
  have none : ∀ k, ManagerState.boot.index.places k = none := by
    intro k
    simp [ManagerState.index, ManagerState.boot]
  refine ⟨⟨fun k place found => ?_, fun {k place} found => ?_, fun {k place} found => ?_⟩, ?_,
    List.not_mem_nil, ?_⟩
  · exact absurd found (by simp [none])
  · exact absurd found (by simp [none])
  · exact absurd found (by simp [none])
  · intro k disk found
    exact absurd found (by simp [ManagerState.index, ManagerState.boot])
  · rintro n ⟨k, place, found, -⟩
    exact absurd found (by simp [none])

/-- An event of the stick with this table. -/
def tableEvent (action : UeventAction) (dump : CppString) : EventOf stick.diskId :=
  ⟨⟨action, (stickEvent action).uevent, dump⟩, rfl, (by decide : 8 ≠ 11)⟩

/-- Every call succeeds, and this is the table. -/
def tableAnswer (dump : CppString) : (q : Req) → q.Resp
  | .readPartitionTable _ => (E_OK, dump)
  | q => okAnswer ∅ q

theorem tableAnswer_obeys (action : UeventAction) (dump : CppString) (s : ManagerState) (w : Unit)
    (q : Req) : (tableEvent action dump).env s w q (tableAnswer dump q) () := by
  refine ⟨?_, ?_⟩
  · cases q with
    | _ => rfl
  · cases q with
    | readPartitionTable => rfl
    | _ => trivial

/-- The stick is plugged in with this table. -/
def pluggedIn (dump : CppString) : ManagerState :=
  letI := tableJson
  ((tableEvent .add dump).prog.exec (fun _ q => (tableAnswer dump q, ())) .boot ()).2.1

/-- Its table then changes. -/
def repartitioned (dump dump' : CppString) : ManagerState :=
  letI := tableJson
  ((tableEvent .change dump').prog.exec (fun _ q => (tableAnswer dump' q, ())) (pluggedIn dump) ()).2.1

/-- A stick that comes with a partition never has a whole-disk volume. -/
theorem whole_disk_exclusive_plugged :
    ¬ ((∃ k, VolumeAt (pluggedIn stickDump) stick.diskId 0 k) ∧
      ∃ n k, n ≠ 0 ∧ VolumeAt (pluggedIn stickDump) stick.diskId n k) := by
  let _ := tableJson
  have separates : (tableEvent .add stickDump).Separates .boot := by
    intro _
    refine ⟨fun _ => (detached_boot _).none 0, fun empty => ?_⟩
    exact absurd empty (by decide +kernel)
  exact whole_disk_exclusive (detached_boot _)
    (GuardedRuns.start.exec separates (tableAnswer_obeys .add stickDump))

theorem volumeAt_of_map {s : ManagerState} {diskId k : CppString} {n : Int}
    (found : s.volumeMap[k]?.map (fun vol => (vol.diskId, vol.partitionNum)) = some (diskId, n)) :
    VolumeAt s diskId n k := by
  obtain ⟨vol, there, eq⟩ := Option.map_eq_some_iff.mp found
  cases eq
  exact ⟨vol, there, rfl, rfl⟩

theorem repartitioned_volumes :
    (repartitioned "DISK mbr" stickDump).volumeMap["vol-8-0".toList]?.map
      (fun vol => (vol.diskId, vol.partitionNum)) = some (stick.diskId, 0) ∧
    (repartitioned "DISK mbr" stickDump).volumeMap["vol-8-1".toList]?.map
      (fun vol => (vol.diskId, vol.partitionNum)) = some (stick.diskId, 1) := by decide +kernel

/-- A stick without partitions that is given one has both volumes. -/
theorem whole_disk_and_partition :
    letI := tableJson
    Runs EventOf.prog EventOf.env .boot ()
      [tableEvent .add "DISK mbr", tableEvent .change stickDump]
      (repartitioned "DISK mbr" stickDump) () ∧
    VolumeAt (repartitioned "DISK mbr" stickDump) stick.diskId 0 "vol-8-0" ∧
    VolumeAt (repartitioned "DISK mbr" stickDump) stick.diskId 1 "vol-8-1" := by
  let _ := tableJson
  have plugged : Runs EventOf.prog EventOf.env .boot () ([] ++ [tableEvent .add "DISK mbr"])
      (pluggedIn "DISK mbr") () :=
    .next .start (Prog.exec_returns (tableAnswer_obeys .add "DISK mbr") _ _ _)
  refine ⟨.next plugged (Prog.exec_returns (tableAnswer_obeys .change stickDump) _ _ _), ?_, ?_⟩
  · exact volumeAt_of_map repartitioned_volumes.1
  · exact volumeAt_of_map repartitioned_volumes.2

end DiskManager
