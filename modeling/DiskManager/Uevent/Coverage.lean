import DiskManager.Uevent.Repartition
import DiskManager.Uevent.WholeDisk

/-!
# Which partitions get a volume

A partition that is discovered gets a volume unless its device has one: that of an earlier partition
of the same round, or one from before. Which partitions are discovered is decided by comparing the
table with `diskPartsSnapshot_`, so a snapshot that outlives the volumes leaves partitions without
one: after a repartition, which takes the volumes down and keeps the snapshot, and after a removal
that could not remove the node of the disk.
-/

namespace DiskManager

open Interact

/-! ## Rounds of discovery -/

/-- The partition is the first of the list on its device. -/
def FirstOn (placed : List (PartitionRecord × Dev)) (here : PartitionRecord × Dev) : Prop :=
  placed.find? (fun other => other.2 = here.2) = some here

theorem firstOn_cons {first here : PartitionRecord × Dev} {placed : List (PartitionRecord × Dev)} :
    FirstOn (first :: placed) here ↔ here = first ∨ first.2 ≠ here.2 ∧ FirstOn placed here := by
  unfold FirstOn
  rw [List.find?_cons]
  by_cases same : first.2 = here.2
  · simp [same, eq_comm]
  · have other : here ≠ first := fun eq => same (congrArg Prod.snd eq.symm)
    simp [same, other]

namespace Index

/-- The volumes of the partitions come on their devices. -/
def insertAll (i : Index) (diskId : CppString) (placed : List (PartitionRecord × Dev)) : Index :=
  placed.foldl (fun i here => i.insert (.volumeOn diskId here.2 (toInt32 here.1.partitionNumber))) i

/-- A volume was there, or is that of the first partition on a device that had none. -/
theorem insertAll_places {i : Index} {diskId k : CppString} {place : Place}
    {placed : List (PartitionRecord × Dev)} :
    (i.insertAll diskId placed).places k = some place ↔ i.places k = some place ∨
      i.places k = none ∧ ∃ here, FirstOn placed here ∧ k = volIdFromDev here.2 ∧
        place = .volumeOn diskId here.2 (toInt32 here.1.partitionNumber) := by
  induction placed generalizing i with
  | nil =>
      refine ⟨.inl, fun there => there.resolve_right ?_⟩
      rintro ⟨-, here, first, -⟩
      cases first
  | cons first placed ih =>
      rw [insertAll, List.foldl_cons]
      refine (ih (i := i.insert _)).trans ?_
      by_cases same : k = volIdFromDev first.2
      · -- The device of the first partition is settled by it.
        subst same
        have key : (i.insert (.volumeOn diskId first.2 (toInt32 first.1.partitionNumber))).places
            (volIdFromDev first.2) = _ := insert_places_self i _
        rw [key]
        have only : (∃ here, FirstOn (first :: placed) here ∧
            volIdFromDev first.2 = volIdFromDev here.2 ∧
            place = .volumeOn diskId here.2 (toInt32 here.1.partitionNumber)) ↔
            place = .volumeOn diskId first.2 (toInt32 first.1.partitionNumber) := by
          constructor
          · rintro ⟨here, firstOn, dev, is⟩
            rcases firstOn_cons.mp firstOn with rfl | ⟨other, -⟩
            · exact is
            · exact absurd (volIdFromDev_injective dev) other
          · exact fun is => ⟨first, firstOn_cons.mpr (.inl rfl), rfl, is⟩
        rw [only]
        have id : (Place.volumeOn diskId first.2 (toInt32 first.1.partitionNumber)).id =
            volIdFromDev first.2 := rfl
        rw [id]
        cases i.places (volIdFromDev first.2) with
        | none => simp [eq_comm]
        | some taken => simp
      · have key : (i.insert (.volumeOn diskId first.2 (toInt32 first.1.partitionNumber))).places k =
            i.places k := insert_places_ne same
        rw [key]
        refine or_congr_right (and_congr_right fun _ => exists_congr fun here => ?_)
        rw [firstOn_cons]
        constructor
        · rintro ⟨firstOn, rfl, is⟩
          exact ⟨.inr ⟨fun eq => same (congrArg volIdFromDev eq.symm), firstOn⟩, rfl, is⟩
        · rintro ⟨rfl | ⟨-, firstOn⟩, dev, is⟩
          · exact absurd dev same
          · exact ⟨firstOn, dev, is⟩

/-- The rounds of discovery are those of a list of devices. -/
theorem insertAll_of_rounds {device : Index → PartitionRecord → Dev → Prop} {diskId : CppString}
    {parts : List PartitionRecord} {i i' : Index} (rounds : Rounds (Discovers device diskId) parts i i') :
    ∃ placed : List (PartitionRecord × Dev), placed.map (·.1) = parts ∧
      (∀ here ∈ placed, ∃ j : Index, j.diskMap = i.diskMap ∧ device j here.1 here.2) ∧
      i' = i.insertAll diskId placed := by
  induction rounds with
  | nil => exact ⟨[], rfl, fun here mem => (by cases mem), rfl⟩
  | @cons p parts i i' i'' first _ ih =>
      obtain ⟨dev, may, rfl⟩ := first
      obtain ⟨placed, rfl, devices, rfl⟩ := ih
      refine ⟨(p, dev) :: placed, rfl, fun here mem => ?_, rfl⟩
      rcases List.mem_cons.mp mem with rfl | mem
      · exact ⟨i, rfl, may⟩
      · exact devices here mem

/-- Nothing goes from a disk without volumes. -/
theorem eq_of_removeRounds {diskId : CppString} {parts : List PartitionRecord} {i i' : Index}
    (none : ∀ n, ¬ i.HasVolume diskId n)
    (rounds : Rounds (fun rp => Removes diskId (toInt32 rp.partitionNumber)) parts i i') : i' = i := by
  refine rounds.invariant (fun j => j = i) ?_ rfl
  rintro rp - j j' rfl removes
  cases removes with
  | none => rfl
  | some found of number => exact absurd ⟨_, _, found, of, number⟩ (none _)

/-- The partitions a discovery of a marked disk makes volumes for: all of an internal data disk, and
those of another disk that were not in its last table. -/
def rediscovered (i : Index) (diskId : CppString) (parts : List PartitionRecord) :
    List PartitionRecord :=
  if i.internal diskId then parts else partsBeyond parts (i.diskPartsSnapshot[diskId]?.getD [])

/-- The rediscovery of a disk whose volumes are gone. -/
theorem Discovered.rediscovers {record : Disk → Prop}
    {device : Index → PartitionRecord → Dev → Prop} {whole : Dev} {diskId dump : CppString}
    {i i' : Index} (discovered : Discovered record device whole diskId dump i false i')
    (table : dumpTableType dump diskId ≠ []) (marked : diskId ∈ i.partitioningDiskIds)
    (none : ∀ n, ¬ i.HasVolume diskId n) :
    ∃ placed, placed.map (·.1) = i.rediscovered diskId (dumpParts dump diskId) ∧
      (∀ here ∈ placed, ∃ j : Index, j.diskMap = i.diskMap ∧ device j here.1 here.2) ∧
      ∀ n k, n ≠ 0 →
        ((∃ place, i'.places k = some place ∧ place.diskId = diskId ∧ place.partitionNum = n) ↔
          i.places k = .none ∧ ∃ here, FirstOn placed here ∧ k = volIdFromDev here.2 ∧
            toInt32 here.1.partitionNumber = n) := by
  have made : ∀ {j : Index} {placed : List (PartitionRecord × Dev)} {n : Int} {k : CppString},
      j.places = i.places →
      ((∃ place, (j.insertAll diskId placed).places k = some place ∧ place.diskId = diskId ∧
          place.partitionNum = n) ↔
        i.places k = .none ∧ ∃ here, FirstOn placed here ∧ k = volIdFromDev here.2 ∧
          toInt32 here.1.partitionNumber = n) := by
    intro j placed n k same
    constructor
    · rintro ⟨place, there, of, number⟩
      rw [insertAll_places, same] at there
      rcases there with old | ⟨free, here, first, dev, rfl⟩
      · exact absurd ⟨k, place, old, of, number⟩ (none n)
      · exact ⟨free, here, first, dev, number⟩
    · rintro ⟨free, here, first, dev, number⟩
      refine ⟨_, insertAll_places.mpr (.inr ⟨?_, here, first, dev, rfl⟩), rfl, number⟩
      rw [same]
      exact free
  cases discovered with
  | noTable empty => exact absurd empty table
  | formatted _ upserted repartitioned rounds =>
      cases upserted
      obtain ⟨placed, parts, devices, rfl⟩ := insertAll_of_rounds rounds
      refine ⟨placed, parts.trans (if_pos repartitioned.2).symm, devices, fun n k _ => made rfl⟩
  | synced _ upserted free syncs =>
      cases upserted
      have external : ¬ i.internal diskId = true := fun internal => free ⟨marked, internal⟩
      rw [rediscovered, if_neg external]
      have none' : ∀ n, ¬ (i.setParts diskId (dumpParts dump diskId)).HasVolume diskId n := none
      cases syncs with
      | parts removed added =>
          rw [eq_of_removeRounds none' removed, partitionDiff_eq] at added
          obtain ⟨placed, parts, devices, rfl⟩ := insertAll_of_rounds added
          exact ⟨placed, parts, devices, fun n k _ => made rfl⟩
      | whole empty _ removed =>
          rw [eq_of_removeRounds none' removed, empty]
          refine ⟨[], rfl, fun here mem => (by cases mem), fun n k other => ⟨?_, ?_⟩⟩
          · rintro ⟨place, there, of, number⟩
            rcases insert_cases there with old | ⟨-, rfl⟩
            · exact absurd ⟨k, place, old, of, number⟩ (none n)
            · exact absurd number.symm other
          · rintro ⟨-, here, first, -⟩
            cases first

end Index

/-- A device the partition may have by the answers of the daemon, while the disk is internal or
external as it is in `s`. -/
def DiskEvent.device (e : DiskEvent) (s : ManagerState) (i : Index) (p : PartitionRecord)
    (dev : Dev) : Prop :=
  i.internal e.diskId = s.index.internal e.diskId →
    Resolves e.env e.uevent e.diskId (rewriteUserData e.dump).2 p s dev

/-- The answers do not depend on the memory of the service. -/
theorem DiskEvent.device_of_resolves {e : DiskEvent} {p : PartitionRecord} {s s' : ManagerState}
    {dev : Dev} (resolves : Resolves e.env e.uevent e.diskId (rewriteUserData e.dump).2 p s' dev) :
    e.device s s'.index p dev := by
  intro same
  cases resolves with
  | plain maxMinor listed => exact .plain maxMinor listed
  | @linear w w' _ _ _ _ internal answered some' =>
      have answered : e.env s w _ _ w' := answered
      exact .linear (same.symm.trans internal) answered some'

/-- Devices the partitions may have by the answers of the daemon. -/
structure DiskEvent.Placed (e : DiskEvent) (s : ManagerState) (parts : List PartitionRecord)
    (placed : List (PartitionRecord × Dev)) : Prop where
  parts : placed.map (·.1) = parts
  devices : ∀ here ∈ placed,
    Resolves e.env e.uevent e.diskId (rewriteUserData e.dump).2 here.1 s here.2

theorem volumeAt_iff_place {s : ManagerState} {diskId k : CppString} {n : Int} :
    VolumeAt s diskId n k ↔
      ∃ place, s.index.places k = some place ∧ place.diskId = diskId ∧ place.partitionNum = n := by
  refine ⟨VolumeAt.place, ?_⟩
  rintro ⟨place, found, rfl, rfl⟩
  exact volumeAt_of_place found

/-! ## After a repartition -/

/-- The rediscovery of a repartition that reads this dump. -/
def rediscovery (diskId dump : CppString) : DiskEvent := ⟨.change, rediscoverEnv diskId, dump⟩

/-- A partition with the number is the first on its device, and no other disk has a volume there. -/
def GetsVolume (s : ManagerState) (diskId : CppString) (placed : List (PartitionRecord × Dev))
    (n : Int) (k : CppString) : Prop :=
  ∃ here, FirstOn placed here ∧ k = volIdFromDev here.2 ∧ toInt32 here.1.partitionNumber = n ∧
    ∀ vol, s.volumeMap[k]? = some vol → vol.diskId = diskId

/-- The volumes of the disk are those of the partitions discovered on these devices. -/
structure Repopulates (s : ManagerState) (diskId dump : CppString) (s' : ManagerState)
    (placed : List (PartitionRecord × Dev)) : Prop where
  answers : (rediscovery diskId dump).Placed s
    (s.index.rediscovered diskId (dumpParts dump diskId)) placed
  volumes : ∀ n k, n ≠ 0 → (VolumeAt s' diskId n k ↔ GetsVolume s diskId placed n k)

/-- What the purge leaves in the index. -/
theorem index_purged {s s' : ManagerState} {diskId : CppString}
    (erased : OnlyVoldata (s.eraseVolumes (s.keysOf diskId)) s') :
    s'.index = s.index.eraseDisk diskId := by
  rw [erased]
  change (s.eraseVolumes (s.keysOf diskId)).index = _
  rw [index_eraseVolumes]
  apply Index.eraseAll_eq_eraseDisk
  intro k place found
  obtain ⟨vol, there, rfl⟩ := Option.map_eq_some_iff.mp found
  rw [ManagerState.mem_keysOf]
  constructor
  · rintro ⟨vol', there', of⟩
    cases there.symm.trans there'
    exact of
  · exact fun of => ⟨vol, there, of⟩

/-- A key is free after the purge unless another disk has its volume. -/
theorem eraseDisk_places_eq_none {s : ManagerState} {diskId k : CppString} :
    (s.index.eraseDisk diskId).places k = none ↔
      ∀ vol, s.volumeMap[k]? = some vol → vol.diskId = diskId := by
  change (s.volumeMap[k]?.map VolumeExternal.place).filter _ = none ↔ _
  cases s.volumeMap[k]? with
  | none => simp
  | some vol =>
      rw [Option.map_some, Option.filter_eq_none_iff]
      simp [VolumeExternal.place]

section

variable [JsonLib] {s : ManagerState}

/-- The volumes of a disk after a repartition. -/
theorem partition_repopulates (reachable : Reachable s) {diskId dump : CppString}
    (block : (parseDiskIdToMajMin diskId).1 ≠ DISK_CD_MAJOR) :
    wp (.ofEnv (rediscovery diskId dump).env) (partition diskId) (fun err s' _ => err = E_OK →
      ∃ placed, Repopulates s diskId dump s' placed) s () := by
  have quiet : QuietButPartition (rediscovery diskId dump).env := fun _ _ => rfl
  refine partition_checks quiet (keyIds_index.mpr reachable.sound.keys) reachable.diskIds
    (fun _ err bad ok => absurd ok bad) fun passed => ?_
  have there : s.diskMap[diskId]?.isSome := not_refused_isSome passed
  obtain ⟨uevent, fits, named⟩ := reachable.device there
  have id : diskId = diskIdFrom (rediscoverEnv diskId).major (rediscoverEnv diskId).minor := by
    rw [named, rediscoverEnv_diskIdFrom fits]
  refine wp_bind.mpr ⟨trivial, ?_⟩
  set s₁ : ManagerState := { s with partitioningDiskIds := s.partitioningDiskIds.insert diskId }
  suffices made : wp (.ofEnv (rediscovery diskId dump).env) (partitionMarked diskId)
      (fun err s' _ => err = E_OK → ∃ placed, Repopulates s diskId dump s' placed) s₁ () by
    refine wp_seq made fun err s' _ done => ⟨trivial, fun ok => ?_⟩
    obtain ⟨placed, made⟩ := done ok
    exact ⟨placed, made.answers, made.volumes⟩
  rw [partitionMarked]
  refine wp_seq (purged quiet (s := s₁) there) fun ret s₂ w₂ purge => ?_
  have index₂ : s₂.index = s₁.index.eraseDisk diskId := index_purged purge.1
  split
  next failed => exact fun ok => absurd ok failed
  refine wp_called_bind fun ret w₃ answered => ?_
  split
  next failed => exact fun ok => absurd ok failed
  have sound₁ : s₁.index.Sound :=
    ⟨reachable.sound.keys, reachable.sound.loops, reachable.sound.named⟩
  have sound₂ : s₂.index.Sound := index₂ ▸ sound₁.eraseDisk diskId
  have ids₂ : s₂.index.DiskIds := index₂ ▸ reachable.diskIds
  have disks : s₂.diskMap = s.diskMap := congrArg Index.diskMap index₂
  have same : (rediscovery diskId dump).diskId = diskId := id.symm
  have devices : ∀ s' p dev, Resolves (rediscovery diskId dump).env (rediscoverEnv diskId) diskId
      (rewriteUserData dump).2 p s' dev → (rediscovery diskId dump).device s s'.index p dev := by
    intro s' p dev resolves
    apply DiskEvent.device_of_resolves
    rw [same]
    exact resolves
  refine wp_mono ?_ (index_discoverPartitionsAndVolumes (rediscovery diskId dump).nodesOk
    (rediscovery diskId dump).tableRead sound₂ ids₂ block id (fun _ => disks.symm ▸ there) devices)
  rintro err s₃ w₄ ⟨ended, discovered⟩ ok
  have marked : diskId ∈ s₂.index.partitioningDiskIds := by
    rw [index₂]
    exact List.mem_insert_self
  have none : ∀ n, ¬ s₂.index.HasVolume diskId n := by
    rw [index₂]
    exact s₁.index.not_hasVolume_eraseDisk diskId
  obtain ⟨placed, parts, devices, volumes⟩ := discovered.rediscovers (ended.mp ok) marked none
  refine ⟨placed, ⟨parts.trans ?_, fun here mem => ?_⟩, fun n k other => ?_⟩
  · rw [index₂]
    rfl
  · obtain ⟨j, kept, may⟩ := devices here mem
    refine may ?_
    unfold Index.internal
    rw [kept, index₂]
    rfl
  · rw [volumeAt_iff_place, volumes n k other, index₂]
    change (s.index.eraseDisk diskId).places k = .none ∧ _ ↔ _
    rw [eraseDisk_places_eq_none]
    constructor
    · rintro ⟨free, here, first, dev, number⟩
      exact ⟨here, first, dev, number, free⟩
    · rintro ⟨here, first, dev, number, free⟩
      exact ⟨free, here, first, dev, number⟩

/-- After a repartition every partition has a volume exactly where its number is that of a partition
that was discovered, first on its device, which no other disk has. -/
theorem repartition_covers_iff (reachable : Reachable s) {diskId dump : CppString}
    (block : (parseDiskIdToMajMin diskId).1 ≠ DISK_CD_MAJOR) {s' : ManagerState}
    (returned : Returns (rediscovery diskId dump).env (partition diskId) s () E_OK s' ()) :
    ∃ placed, Repopulates s diskId dump s' placed ∧
      ((∀ p ∈ dumpParts dump diskId, ∃ k, VolumeAt s' diskId (toInt32 p.partitionNumber) k) ↔
        ∀ p ∈ dumpParts dump diskId,
          ∃ k, GetsVolume s diskId placed (toInt32 p.partitionNumber) k) := by
  obtain ⟨placed, made⟩ := wp_returns (partition_repopulates reachable block) returned rfl
  refine ⟨placed, made, forall₂_congr fun p mem => exists_congr fun k => ?_⟩
  have numbered := of_mem_dumpParts mem
  exact made.volumes _ k (toInt32_ne_zero numbered.pos numbered.small)

end

theorem stickFs_obeys {e : DiskEvent} (dump : e.dump = stickDump) (s : ManagerState) (w : Unit)
    (q : Req) : e.env s w q (stickFs q) () := by
  refine ⟨?_, ?_⟩
  · cases q with
    | _ => rfl
  · cases q with
    | readPartitionTable => exact dump.symm
    | _ => trivial

/-- The state has no volume of the disk. -/
def ManagerState.noVolumeOf (s : ManagerState) (diskId : CppString) : Bool :=
  s.volumeMap.toList.all fun kv => kv.2.diskId ≠ diskId

theorem not_volumeAt {s : ManagerState} {diskId : CppString} (none : s.noVolumeOf diskId = true)
    {n : Int} {k : CppString} : ¬ VolumeAt s diskId n k := by
  rintro ⟨vol, found, of, -⟩
  have other := List.all_eq_true.mp none (k, vol) (StdMap.mem_toList.mpr found)
  exact absurd of (of_decide_eq_true other)

/-- The repartition gives the disk one partition with a file system. -/
def stickRepartition (s : ManagerState) : ErrCode × ManagerState × Unit :=
  letI := tableJson
  (partition stick.diskId).exec (fun _ q => (stickFs q, ())) s ()

theorem stickRepartition_blank : (stickRepartition blankPlugged).1 = E_OK ∧
    (parseDiskIdToMajMin stick.diskId).1 ≠ DISK_CD_MAJOR := by decide +kernel

theorem stickRepartition_returns (s : ManagerState) :
    letI := tableJson
    Returns (rediscovery stick.diskId stickDump).env (partition stick.diskId) s ()
      (stickRepartition s).1 (stickRepartition s).2.1 () := by
  let _ := tableJson
  unfold stickRepartition
  exact Prog.exec_returns (stickFs_obeys rfl) (partition stick.diskId) s ()

/-- The disk was blank before. -/
theorem repartition_covers_blank :
    letI := tableJson
    ∃ placed, Repopulates blankPlugged stick.diskId stickDump (stickRepartition blankPlugged).2.1 placed ∧
      ((∀ p ∈ dumpParts stickDump stick.diskId,
          ∃ k, VolumeAt (stickRepartition blankPlugged).2.1 stick.diskId (toInt32 p.partitionNumber) k) ↔
        ∀ p ∈ dumpParts stickDump stick.diskId,
          ∃ k, GetsVolume blankPlugged stick.diskId placed (toInt32 p.partitionNumber) k) := by
  let _ := tableJson
  have returned := stickRepartition_returns blankPlugged
  rw [stickRepartition_blank.1] at returned
  exact repartition_covers_iff blankPlugged_settled.reachable stickRepartition_blank.2 returned

theorem stickRepartition_same : (stickRepartition stickUnmounted).1 = E_OK ∧
    (stickRepartition stickUnmounted).2.1.noVolumeOf stick.diskId = true := by decide +kernel

/-- The disk had that partition before: it has no volume after. -/
theorem repartition_uncovered :
    letI := tableJson
    Reachable stickUnmounted ∧
      Returns (rediscovery stick.diskId stickDump).env (partition stick.diskId) stickUnmounted ()
        E_OK (stickRepartition stickUnmounted).2.1 () ∧
      ¬ ∀ p ∈ dumpParts stickDump stick.diskId,
        ∃ k, VolumeAt (stickRepartition stickUnmounted).2.1 stick.diskId
          (toInt32 p.partitionNumber) k := by
  let _ := tableJson
  have returned := stickRepartition_returns stickUnmounted
  rw [stickRepartition_same.1] at returned
  refine ⟨stickUnmounted_settled.reachable, returned, fun covered => ?_⟩
  rw [stickDump_plain.2.2] at covered
  obtain ⟨k, there⟩ := covered _ List.mem_cons_self
  exact not_volumeAt stickRepartition_same.2 there

/-! ## After a removal and an add -/

namespace Index

/-- A volume stays where no partition with its number goes. -/
theorem HasVolume.of_removes_ne {diskId : CppString} {m n : Int} {i i' : Index}
    (has : i.HasVolume diskId n) (removes : Removes diskId m i i') (other : m ≠ n) :
    i'.HasVolume diskId n := by
  cases removes with
  | none => exact has
  | @some k place found of number =>
      obtain ⟨k', place', found', of', number'⟩ := has
      refine ⟨k', place', ?_, of', number'⟩
      rw [erase_places_ne fun same => ?_]
      · exact found'
      · rw [same, found] at found'
        cases found'
        exact other (number.symm.trans number')

/-- What is there after partitions went was there before. -/
theorem places_of_removeRounds {diskId k : CppString} {place : Place} {parts : List PartitionRecord}
    {i i' : Index}
    (rounds : Rounds (fun rp => Removes diskId (toInt32 rp.partitionNumber)) parts i i')
    (there : i'.places k = some place) : i.places k = some place := by
  by_contra other
  refine rounds.invariant (fun j => j.places k ≠ some place) ?_ other there
  intro rp _ j j' none removes
  cases removes with
  | none => exact none
  | @some gone _ _ _ _ =>
      intro found
      by_cases same : k = gone
      · rw [same, erase_places_self] at found
        cases found
      · rw [erase_places_ne same] at found
        exact none found

/-- A volume has the number, and no partition with it has gone from the table. -/
def Stays (i : Index) (diskId : CppString) (parts : List PartitionRecord) (n : Int) : Prop :=
  i.HasVolume diskId n ∧ ∀ rp ∈ partsBeyond (i.diskPartsSnapshot[diskId]?.getD []) parts,
    toInt32 rp.partitionNumber ≠ n

/-- A partition that came has the number, the first on its device, which is free or has a volume of
the disk with that number. -/
def Comes (i : Index) (diskId : CppString) (placed : List (PartitionRecord × Dev)) (n : Int) : Prop :=
  ∃ here, FirstOn placed here ∧ toInt32 here.1.partitionNumber = n ∧
    ∀ place, i.places (volIdFromDev here.2) = some place →
      place.diskId = diskId ∧ place.partitionNum = n

theorem Stays.of_removeRounds {diskId : CppString} {parts : List PartitionRecord} {n : Int}
    {i i' : Index} (stays : i.Stays diskId parts n)
    (removed : Rounds (fun rp => Removes diskId (toInt32 rp.partitionNumber))
      (partsBeyond (i.diskPartsSnapshot[diskId]?.getD []) parts) (i.setParts diskId parts) i') :
    i'.HasVolume diskId n := by
  refine removed.invariant (fun j => j.HasVolume diskId n) ?_ stays.1
  exact fun rp mem j j' has removes => has.of_removes_ne removes (stays.2 rp mem)

theorem HasVolume.insertAll {diskId : CppString} {n : Int} {i : Index}
    (has : i.HasVolume diskId n) (placed : List (PartitionRecord × Dev)) :
    (i.insertAll diskId placed).HasVolume diskId n := by
  obtain ⟨k, place, there, of, number⟩ := has
  exact ⟨k, place, insertAll_places.mpr (.inl there), of, number⟩

theorem rounds_diskMap {diskId : CppString} {parts : List PartitionRecord} {i i' : Index}
    (rounds : Rounds (fun rp => Removes diskId (toInt32 rp.partitionNumber)) parts i i') :
    i'.diskMap = i.diskMap :=
  rounds.invariant (fun j => j.diskMap = i.diskMap)
    (fun _ _ _ _ kept removes => removes.diskMap.trans kept) rfl

/-- The number has a volume after the event. -/
theorem Syncs.hasVolume {device : Index → PartitionRecord → Dev → Prop} {whole : Dev}
    {diskId : CppString} {new : Bool} {parts : List PartitionRecord} {i i' : Index}
    (syncs : Syncs device whole diskId new parts i i') :
    ∃ placed,
      placed.map (·.1) = partsBeyond parts (i.diskPartsSnapshot[diskId]?.getD []) ∧
      (∀ here ∈ placed, ∃ j : Index, j.diskMap = i.diskMap ∧ device j here.1 here.2) ∧
      ∀ n, i.Stays diskId parts n ∨ i.Comes diskId placed n → i'.HasVolume diskId n := by
  cases syncs with
  | @parts i₁ _ removed added =>
      rw [partitionDiff_eq] at removed added
      obtain ⟨placed, listed, devices, rfl⟩ := insertAll_of_rounds added
      refine ⟨placed, listed, fun here mem => ?_, fun n has => ?_⟩
      · obtain ⟨j, disks, may⟩ := devices here mem
        have kept := rounds_diskMap removed
        exact ⟨j, disks.trans kept, may⟩
      · rcases has with stays | ⟨here, first, number, own⟩
        · exact (stays.of_removeRounds removed).insertAll placed
        · cases there : i₁.places (volIdFromDev here.2) with
          | none =>
              exact ⟨_, _, insertAll_places.mpr (.inr ⟨there, here, first, rfl, rfl⟩), rfl, number⟩
          | some place =>
              have before := places_of_removeRounds removed there
              obtain ⟨of, number⟩ := own place before
              have has : i₁.HasVolume diskId n := ⟨_, place, there, of, number⟩
              exact has.insertAll placed
  | whole empty _ removed =>
      rw [partitionDiff_eq] at removed
      subst empty
      refine ⟨[], rfl, fun here mem => (by cases mem), fun n has => ?_⟩
      rcases has with stays | ⟨here, first, -⟩
      · exact (stays.of_removeRounds removed).insert _
      · cases first

/-- An add or change event of an external disk with a table. -/
theorem Discovered.hasVolume {record : Disk → Prop} {device : Index → PartitionRecord → Dev → Prop}
    {whole : Dev} {diskId dump : CppString} {new : Bool} {i i' : Index}
    (discovered : Discovered record device whole diskId dump i new i')
    (table : dumpTableType dump diskId ≠ []) (id : ∀ disk, record disk → disk.diskId = diskId)
    (external : ∀ disk, record disk → disk.isInternalDataDisk = false)
    (before : i.internal diskId = false) :
    ∃ placed,
      placed.map (·.1) =
        partsBeyond (dumpParts dump diskId) (i.diskPartsSnapshot[diskId]?.getD []) ∧
      (∀ here ∈ placed, ∃ j : Index, j.internal diskId = false ∧ device j here.1 here.2) ∧
      ∀ n, i.Stays diskId (dumpParts dump diskId) n ∨ i.Comes diskId placed n →
        i'.HasVolume diskId n := by
  cases discovered with
  | noTable none => exact absurd none table
  | formatted _ upserted marked =>
      have stays := upserted.external id external before
      exact absurd (stays.symm.trans marked.2) (by decide)
  | @synced i₁ _ _ upserted _ syncs =>
      obtain ⟨places, snapshot, -⟩ := upserted.rest
      have stays : i₁.internal diskId = false := upserted.external id external before
      obtain ⟨placed, listed, devices, volumes⟩ := syncs.hasVolume
      rw [snapshot] at listed
      refine ⟨placed, listed, fun here mem => ?_, fun n has => volumes n ?_⟩
      · obtain ⟨j, disks, may⟩ := devices here mem
        refine ⟨j, ?_, may⟩
        unfold Index.internal
        rw [disks]
        exact stays
      · unfold Stays Comes HasVolume
        rw [places, snapshot]
        exact has

end Index

/-- The configuration does not make the disk an internal data disk. -/
def DiskEvent.External (e : DiskEvent) : (q : Req) → q.Resp → Prop
  | .configFlag _, config =>
      isInternalByPath (initialDiskFlag e.uevent config) e.uevent.sysPath = false
  | _, _ => True

/-- Every call succeeds, and the disk is external. -/
def DiskEvent.externalEnv (e : DiskEvent) : Env ManagerState Unit Req Req.Resp :=
  fun s w q r w' => e.env s w q r w' ∧ e.External q r

/-- The event finds what it needs to give every partition of its table a volume. -/
structure DiskEvent.Ready (e : DiskEvent) (s : ManagerState) : Prop where
  table : dumpTableType e.dump e.diskId ≠ []
  volumes : ∀ placed, e.Placed s (partsBeyond (dumpParts e.dump e.diskId)
      (s.diskPartsSnapshot[e.diskId]?.getD [])) placed →
    ∀ p ∈ dumpParts e.dump e.diskId,
      s.index.Stays e.diskId (dumpParts e.dump e.diskId) (toInt32 p.partitionNumber) ∨
        s.index.Comes e.diskId placed (toInt32 p.partitionNumber)

/-- An external disk that is not optical is pulled out and plugged in again. -/
structure Replug : Type where
  gone : UeventEnv
  fits : gone.Fits
  back : DiskEvent
  add : back.action = .add
  same : back.diskId = diskIdFrom gone.major gone.minor
  block : back.uevent.major ≠ DISK_CD_MAJOR

/-- The removal, as an operation of the service. -/
def Replug.pull (r : Replug) : ServiceOp := .uevent ⟨.remove, r.gone, []⟩ r.fits

section

variable [JsonLib] {s s₁ s₂ : ManagerState}

/-- A disk that is plugged in again, however its removal went and whatever came between, has a volume
for each partition where the add event finds what it needs. -/
theorem replug_recovers (reachable : Reachable s) (r : Replug) {ops : List ServiceOp}
    (pulled : Runs ServiceOp.prog (fun _ => anyAnswer) s () (r.pull :: ops) s₁ ())
    (external : s₁.index.internal r.back.diskId = false) (ready : r.back.Ready s₁) {err : ErrCode}
    (plugged : Returns r.back.externalEnv r.back.prog s₁ () err s₂ ()) :
    ∀ p ∈ dumpParts r.back.dump r.back.diskId,
      ∃ k, VolumeAt s₂ r.back.diskId (toInt32 p.partitionNumber) k := by
  have filed := filed_of_runs reachable.filed pulled
  have nodes : NodesOk r.back.externalEnv :=
    ⟨fun answered => r.back.nodesOk.create answered.1, fun answered => r.back.nodesOk.destroy answered.1⟩
  have table : TableRead r.back.externalEnv r.back.dump := fun answered => r.back.tableRead answered.1
  have devices : ∀ s' p dev, Resolves r.back.externalEnv r.back.uevent r.back.diskId
      (rewriteUserData r.back.dump).2 p s' dev → r.back.device s₁ s'.index p dev :=
    fun s' p dev resolves => DiskEvent.device_of_resolves (resolves.mono fun answered => answered.1)
  have record : ∀ disk, Records r.back.externalEnv r.back.uevent r.back.diskId disk →
      disk.isInternalDataDisk = false := by
    intro disk recorded
    obtain ⟨s, w, config, w', answered, internal⟩ := recorded.internal
    rw [internal]
    exact answered.2
  have prog : r.back.prog = handleDiskAdd r.back.uevent := by
    rw [DiskEvent.prog, r.add]
  rw [prog] at plugged
  have discovered := wp_returns (index_handleDiskAdd nodes table (sound_of_filed filed)
    (diskIds_of_filed filed) r.block rfl devices) plugged
  obtain ⟨placed, listed, devices, volumes⟩ :=
    discovered.hasVolume ready.table (fun _ recorded => recorded.id) record external
  have answers : r.back.Placed s₁ (partsBeyond (dumpParts r.back.dump r.back.diskId)
      (s₁.diskPartsSnapshot[r.back.diskId]?.getD [])) placed := by
    refine ⟨listed, fun here mem => ?_⟩
    obtain ⟨j, stays, may⟩ := devices here mem
    exact may (stays.trans external.symm)
  intro p mem
  obtain ⟨k, place, there, of, number⟩ := volumes _ (ready.volumes placed answers p mem)
  exact ⟨k, volumeAt_iff_place.mpr ⟨place, there, of, number⟩⟩

end

def stickReplug : Replug where
  gone := (stickEvent .remove).uevent
  fits := stickEvent_fits .remove
  back := stickEvent .add
  add := rfl
  same := rfl
  block := stick_block

def stickPlugged : ManagerState := after (stickOp .add) stickFs .boot

theorem stickPlugged_settled : letI := tableJson; Settled stickPlugged := by
  let _ := tableJson
  unfold stickPlugged
  exact settled_after _ _ _ settled_boot

/-- The daemon cannot remove the node of the disk. -/
def nodeStays : (q : Req) → q.Resp
  | .destroyBlockDeviceNode path => if path = blockPathForId stick.diskId then DISK_MGR_ERR else E_OK
  | q => okAnswer ∅ q

/-- The stick is pulled out. -/
def stickPulled (answer : (q : Req) → q.Resp) : ManagerState :=
  after stickReplug.pull answer stickPlugged

/-- The stick is plugged in again. -/
def stickBack (answer : (q : Req) → q.Resp) : ErrCode × ManagerState × Unit :=
  letI := tableJson
  stickReplug.back.prog.exec (fun _ q => (stickFs q, ())) (stickPulled answer) ()

theorem stickPulled_runs (answer : (q : Req) → q.Resp) :
    letI := tableJson
    Runs ServiceOp.prog (fun _ => anyAnswer) stickPlugged () [stickReplug.pull] (stickPulled answer)
      () := by
  let _ := tableJson
  unfold stickPulled after
  let handle : Unit → (q : Req) → q.Resp × Unit := fun _ q => (answer q, ())
  have returned : Returns anyAnswer stickReplug.pull.prog stickPlugged () ()
      (stickReplug.pull.prog.exec handle stickPlugged ()).2.1 () :=
    Prog.exec_returns (fun _ _ _ => trivial) _ _ _
  exact .next .start returned

theorem stickBack_returns (answer : (q : Req) → q.Resp) :
    letI := tableJson
    Returns stickReplug.back.externalEnv stickReplug.back.prog (stickPulled answer) ()
      (stickBack answer).1 (stickBack answer).2.1 () := by
  let _ := tableJson
  have external : isInternalByPath (initialDiskFlag (stickEvent .add).uevent none)
      (stickEvent .add).uevent.sysPath = false := by decide +kernel
  have obeys : ∀ s w q, stickReplug.back.externalEnv s w q (stickFs q) () := by
    refine fun s w q => ⟨stickFs_obeys rfl s w q, ?_⟩
    cases q with
    | configFlag => exact external
    | _ => trivial
  unfold stickBack
  exact Prog.exec_returns obeys stickReplug.back.prog (stickPulled answer) ()

theorem stickPulled_empty : (stickPulled (okAnswer ∅)).volumeMap.toList.isEmpty = true ∧
    (stickPulled (okAnswer ∅)).diskPartsSnapshot[stick.diskId]?.isNone = true ∧
    (stickPulled (okAnswer ∅)).index.internal stick.diskId = false := by decide +kernel

theorem stickPulled_ready : stickReplug.back.Ready (stickPulled (okAnswer ∅)) := by
  obtain ⟨noVolumes, noTable, -⟩ := stickPulled_empty
  refine ⟨stickDump_plain.1, fun placed answers p mem => .inr ?_⟩
  have parts : dumpParts stickReplug.back.dump stickReplug.back.diskId =
    [⟨stick.diskId, 1, "mbr", "0x0c"⟩] := stickDump_plain.2.2
  have listed := answers.parts
  have fresh : (stickPulled (okAnswer ∅)).diskPartsSnapshot[stickReplug.back.diskId]? = none :=
    Option.isNone_iff_eq_none.mp noTable
  rw [fresh, parts] at listed
  rw [parts, List.mem_singleton] at mem
  obtain ⟨here, rfl, first⟩ := List.map_eq_singleton_iff.mp listed
  refine ⟨here, ?_, ?_, fun place there => ?_⟩
  · simp [FirstOn]
  · rw [first, mem]
  · obtain ⟨vol, found, -⟩ := volumeAt_of_place there
    have mem := StdMap.mem_toList.mpr found
    rw [List.isEmpty_iff.mp noVolumes] at mem
    cases mem

/-- The stick is pulled out, which goes well, and plugged in again. -/
theorem replug_recovers_stick :
    ∃ k, VolumeAt (stickBack (okAnswer ∅)).2.1 stickReplug.back.diskId 1 k := by
  let _ := tableJson
  have parts : dumpParts stickReplug.back.dump stickReplug.back.diskId =
    [⟨stick.diskId, 1, "mbr", "0x0c"⟩] := stickDump_plain.2.2
  exact replug_recovers stickPlugged_settled.reachable stickReplug (stickPulled_runs _)
    stickPulled_empty.2.2 stickPulled_ready (stickBack_returns _)
    ⟨stick.diskId, 1, "mbr", "0x0c"⟩ (by rw [parts]; exact List.mem_singleton_self _)

theorem stickBack_bare : (stickPulled nodeStays).index.internal stick.diskId = false ∧
    (stickBack nodeStays).2.1.noVolumeOf stick.diskId = true := by decide +kernel

/-- The node of the disk could not be removed when the stick was pulled out: plugged in again, its
partition has no volume. -/
theorem replug_bare :
    letI := tableJson
    Reachable stickPlugged ∧
      Runs ServiceOp.prog (fun _ => anyAnswer) stickPlugged () [stickReplug.pull]
        (stickPulled nodeStays) () ∧
      (stickPulled nodeStays).index.internal stickReplug.back.diskId = false ∧
      Returns stickReplug.back.externalEnv stickReplug.back.prog (stickPulled nodeStays) ()
        (stickBack nodeStays).1 (stickBack nodeStays).2.1 () ∧
      ¬ ∀ p ∈ dumpParts stickReplug.back.dump stickReplug.back.diskId,
        ∃ k, VolumeAt (stickBack nodeStays).2.1 stickReplug.back.diskId
          (toInt32 p.partitionNumber) k := by
  let _ := tableJson
  refine ⟨stickPlugged_settled.reachable, stickPulled_runs _, stickBack_bare.1,
    stickBack_returns _, fun covered => ?_⟩
  have parts : dumpParts stickReplug.back.dump stickReplug.back.diskId =
    [⟨stick.diskId, 1, "mbr", "0x0c"⟩] := stickDump_plain.2.2
  rw [parts] at covered
  obtain ⟨k, there⟩ := covered _ List.mem_cons_self
  exact not_volumeAt stickBack_bare.2 there

end DiskManager
