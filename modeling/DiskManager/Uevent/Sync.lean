import DiskManager.Uevent.Discovery

/-!
# What an event does to the index

How disks are recorded, how the volumes of a disk follow its partition table, and what an add, a
change and a remove event do to the index as a whole. `Index.Discovered` and `Index.unplug` are the
events as steps of an abstract machine over the index; the theorems at the end connect them with the
handlers.
-/

namespace DiskManager

open Interact

/-! ## Disks come -/

/-- `ResolveInitialDiskFlag`, with the answer of the configuration. -/
def initialDiskFlag (uevent : UeventEnv) (config : Option Nat) : DiskType :=
  let matchedFlag :=
    match config with
    | none => 0
    | some flag =>
        if uevent.major = DISK_MMC_MAJOR then flag ||| SD_FLAG
        else if uevent.major = DISK_CD_MAJOR then flag ||| CD_FLAG
        else if flag ≠ DVR_USB then flag ||| USB_FLAG else flag
  if matchedFlag ≠ 0 then matchedFlag else legacyDiskFlagFromDevPath uevent

/-- The disk is an internal data disk by its flag and its place in sysfs. -/
def isInternalByPath (flag : DiskType) (sysPath : CppString) : Bool :=
  flag ≠ DVR_USB && !sysPath.isEmpty && !(flag = CD_FLAG || sysPathHasOpticalBlock sysPath) &&
    (sysPathHasNvme sysPath || sysPathHasDirectSata sysPath)

/-- The flag that stands in for an unknown class is not one of an internal data disk. -/
theorem isInternalDataDiskType_known (flag classified : DiskType) :
    isInternalDataDiskType (if classified = DISK_TYPE_UNKNOWN then
        if flag = SD_FLAG ∨ flag = USB_FLAG ∨ flag = CD_FLAG then flag else DISK_TYPE_UNKNOWN
      else classified) = isInternalDataDiskType classified := by
  split
  next unknown =>
    subst unknown
    split
    next known =>
      rcases known with rfl | rfl | rfl
      · rfl
      · rfl
      · rfl
    · rfl
  · rfl

theorem Disk.refreshClassification_diskId (disk : Disk) (sysfsPath : CppString) (rotational : Int) :
    (disk.refreshClassificationFromSysfs sysfsPath rotational).diskId = disk.diskId := by
  unfold Disk.refreshClassificationFromSysfs
  split
  · rfl
  · rfl

theorem newDisk_isInternalDataDisk (uevent : UeventEnv) (diskId tableType : CppString)
    (flag : DiskType) (usbInfo : UsbInfo) (known : Bool) (blockInfo : BlockInfo) :
    (newDisk uevent diskId tableType flag usbInfo known blockInfo).isInternalDataDisk =
      isInternalByPath flag uevent.sysPath := by
  unfold newDisk Disk.refreshClassificationFromSysfs isInternalByPath
  dsimp only [Disk.create]
  by_cases dvr : flag = DVR_USB
  · subst dvr
    rfl
  rw [if_neg dvr]
  dsimp only [Disk.updateRemovableFromDiskType, Disk.isInternalDataDisk]
  rw [isInternalDataDiskType_known]
  have other : decide (flag ≠ DVR_USB) = true := by simpa using dvr
  rw [other, Bool.true_and]
  cases uevent.sysPath.isEmpty with
  | true => rfl
  | false =>
      cases (decide (flag = CD_FLAG) || sysPathHasOpticalBlock uevent.sysPath) with
      | true => rfl
      | false =>
          cases sysPathHasNvme uevent.sysPath with
          | true => rfl
          | false =>
              cases sysPathHasDirectSata uevent.sysPath with
              | true =>
                  by_cases ssd : blockInfo.rotational = 0
                  · simp [ssd, isInternalDataDiskType]
                  · simp [ssd, isInternalDataDiskType]
              | false =>
                  cases sysPathHasUsbTopology uevent.sysPath with
                  | true => rfl
                  | false =>
                      cases sysPathHasMmcHost uevent.sysPath with
                      | true => rfl
                      | false => rfl

/-- A disk comes, unless it is there. -/
def Index.addDisk (i : Index) (disk : Disk) : Index :=
  if i.diskMap[disk.diskId]?.isSome then i
  else { i with diskMap := i.diskMap.insert disk.diskId disk }

/-- The disks `UpsertDiskAndPublishEvent` may record. -/
structure Records {W : Type} (env : Env ManagerState W Req Req.Resp) (uevent : UeventEnv)
    (diskId : CppString) (disk : Disk) : Prop where
  id : disk.diskId = diskId
  internal : ∃ s w config w', env s w (.configFlag uevent.devPath) config w' ∧
    disk.isInternalDataDisk = isInternalByPath (initialDiskFlag uevent config) uevent.sysPath

section Wp

variable {W : Type} {env : Env ManagerState W Req Req.Resp} {s : ManagerState} {w : W}
  {β : Type} {post : β → ManagerState → W → Prop}

theorem resolveInitialDiskFlag_bind {uevent : UeventEnv} {f : DiskType → ManagerProg β}
    (rest : ∀ config w', env s w (.configFlag uevent.devPath) config w' →
      wp (.ofEnv env) (f (initialDiskFlag uevent config)) post s w') :
    wp (.ofEnv env) (resolveInitialDiskFlag uevent >>= f) post s w := by
  rw [resolveInitialDiskFlag, matchConfig, wp_bind, wp_bind]
  refine wp_called_bind fun config w' answered => ?_
  have known := rest config w' answered
  cases config with
  | none => exact known
  | some flag =>
      unfold initialDiskFlag at known
      dsimp only at known ⊢
      split
      next mmc =>
        rw [if_pos mmc] at known
        exact known
      next mmc =>
        rw [if_neg mmc] at known
        split
        next cd =>
          rw [if_pos cd] at known
          exact known
        next cd =>
          rw [if_neg cd] at known
          exact known

theorem reads_usbInfoForDisk (uevent : UeventEnv) :
    Within Eq (usbInfoForDisk uevent) fun _ => True := by
  rw [usbInfoForDisk]
  split
  · exact fun _ => trivial
  · trivial

theorem reads_loadBlockInfoForDisk (uevent : UeventEnv) (diskId : CppString) :
    Within Eq (loadBlockInfoForDisk uevent diskId) fun _ => True := by
  rw [loadBlockInfoForDisk]
  apply within_call_bind
  intro cached
  split
  · trivial
  apply within_call_bind
  intro read
  split
  · trivial
  · trivial

theorem index_onDiskCreated (disk : Disk) :
    wp (.ofEnv env) (onDiskCreated disk) (fun _ s' _ => s'.index = s.index.addDisk disk) s w := by
  refine wp_section ?_
  split
  next there => exact (if_pos there).symm
  next gone => exact (if_neg gone).symm

theorem index_upsertDiskAndPublishEvent (uevent : UeventEnv) (diskId : CppString)
    (publishNewDiskEvent : Bool) (tableType : CppString) :
    wp (.ofEnv env) (upsertDiskAndPublishEvent uevent diskId publishNewDiskEvent tableType)
      (fun _ s' _ => publishNewDiskEvent = false ∧ s'.index = s.index ∨
        publishNewDiskEvent = true ∧ ∃ disk, Records env uevent diskId disk ∧
          s'.index = s.index.addDisk disk) s w := by
  rw [upsertDiskAndPublishEvent]
  cases publishNewDiskEvent with
  | false => exact .inl ⟨rfl, rfl⟩
  | true =>
      rw [if_neg (by decide)]
      refine resolveInitialDiskFlag_bind fun config w₁ answered => ?_
      refine wp_reads_bind (reads_usbInfoForDisk uevent) fun usbInfo w₂ => ?_
      refine wp_reads_bind (reads_loadBlockInfoForDisk _ _) fun loaded w₃ => ?_
      obtain ⟨known, blockInfo⟩ := loaded
      dsimp only
      refine wp_called_bind fun _ w₄ _ => ?_
      refine wp_seq (index_onDiskCreated _) fun _ s' w₅ added => ?_
      refine .inr ⟨rfl, _, ⟨?_, s, w, config, w₁, answered, ?_⟩, added⟩
      · exact Disk.refreshClassification_diskId _ _ _
      · exact newDisk_isInternalDataDisk _ _ _ _ _ _ _

end Wp

/-! ## Partitions and their volumes -/

namespace Index

/-- The table of the disk is recorded. -/
def setParts (i : Index) (diskId : CppString) (parts : List PartitionRecord) : Index :=
  { i with diskPartsSnapshot := i.diskPartsSnapshot.insert diskId parts }

/-- The volume of a partition comes on a device it may have. -/
def Discovers (device : Index → PartitionRecord → Dev → Prop) (diskId : CppString)
    (p : PartitionRecord) (i i' : Index) : Prop :=
  ∃ dev, device i p dev ∧ i' = i.insert (.volumeOn diskId dev (toInt32 p.partitionNumber))

/-- The volumes follow the table: those of the partitions that went go, those of the partitions
that came come, and a disk that lost its last partition or is new and has none may get the
whole-disk volume. -/
inductive Syncs (device : Index → PartitionRecord → Dev → Prop) (whole : Dev) (diskId : CppString)
    (new : Bool) (parts : List PartitionRecord) (i : Index) : Index → Prop
  | parts {i₁ i₂ : Index} :
    Rounds (fun rp => Removes diskId (toInt32 rp.partitionNumber))
      (partitionDiff i.diskPartsSnapshot[diskId]? parts).2 (i.setParts diskId parts) i₁ →
    Rounds (Discovers device diskId) (partitionDiff i.diskPartsSnapshot[diskId]? parts).1 i₁ i₂ →
    Syncs device whole diskId new parts i i₂
  | whole {i₁ : Index} :
    parts = [] → (new = true ∨ (partitionDiff i.diskPartsSnapshot[diskId]? parts).2 ≠ []) →
    Rounds (fun rp => Removes diskId (toInt32 rp.partitionNumber))
      (partitionDiff i.diskPartsSnapshot[diskId]? parts).2 (i.setParts diskId parts) i₁ →
    Syncs device whole diskId new parts i (i₁.insert (.volumeOn diskId whole 0))

/-- The table of the disk is forgotten. -/
def clearParts (i : Index) (diskId : CppString) : Index :=
  { i with diskPartsSnapshot := i.diskPartsSnapshot.erase diskId }

theorem Removes.keyIds {diskId : CppString} {n : Int} {i i' : Index} (removes : Removes diskId n i i')
    (ids : i.KeyIds) : i'.KeyIds := by
  cases removes with
  | none => exact ids
  | some => exact ids.erase _

theorem Removes.diskMap {diskId : CppString} {n : Int} {i i' : Index}
    (removes : Removes diskId n i i') : i'.diskMap = i.diskMap := by
  cases removes with
  | none => rfl
  | some => rfl

end Index

/-- The partitions of a dump. -/
def dumpParts (dump diskId : CppString) : List PartitionRecord :=
  (parseSgdiskDump (rewriteUserData dump).1 diskId).2

/-- The table type of a dump: empty when there is no `DISK` line. -/
def dumpTableType (dump diskId : CppString) : CppString :=
  (parseSgdiskDump (rewriteUserData dump).1 diskId).1

section

variable [JsonLib] {W : Type} {env : Env ManagerState W Req Req.Resp} {s : ManagerState} {w : W}

/-- The loop over the partitions that came. -/
theorem index_discoverParts (nodes : NodesOk env) (ids : KeyIds s) {diskId : CppString}
    (there : s.diskMap[diskId]?.isSome) {uevent : UeventEnv} {isUserData : Bool}
    {device : Index → PartitionRecord → Dev → Prop}
    (devices : ∀ s p dev, Resolves env uevent diskId isUserData p s dev → device s.index p dev)
    (parts : List PartitionRecord) :
    wp (.ofEnv env) (parts.forM fun p => discoverSinglePartitionVolume uevent diskId p isUserData)
      (fun _ s' _ => (KeyIds s' ∧ s'.diskMap = s.diskMap) ∧
        Rounds (Index.Discovers device diskId) parts s.index s'.index) s w := by
  refine wp_rounds (fun s' => KeyIds s' ∧ s'.diskMap = s.diskMap) ManagerState.index _ parts ?_
    ⟨ids, rfl⟩
  intro p _ s' w' held
  refine wp_mono ?_ (index_discoverSinglePartitionVolume nodes held.1
    (held.2.symm ▸ there) uevent p isUserData)
  rintro _ s'' _ ⟨dev, resolves, inserted⟩
  refine ⟨⟨?_, ?_⟩, dev, devices _ _ _ resolves, inserted⟩
  · rw [keyIds_index, inserted]
    exact (keyIds_index.mp held.1).insert _
  · exact (congrArg Index.diskMap inserted).trans held.2

/-- The loop over the partitions that went. -/
theorem index_removeParts (nodes : NodesOk env) (ids : KeyIds s) {diskId : CppString} {disk : Disk}
    (there : s.diskMap[diskId]? = some disk) (id : disk.diskId = diskId)
    (parts : List PartitionRecord) :
    wp (.ofEnv env) (parts.forM fun rp => do
        let _ ← destroyVolumeByDiskIdAndPartNum diskId (toInt32 rp.partitionNumber))
      (fun _ s' _ => (KeyIds s' ∧ s'.diskMap = s.diskMap) ∧
        Rounds (fun rp => Index.Removes diskId (toInt32 rp.partitionNumber)) parts s.index s'.index)
      s w := by
  refine wp_rounds (fun s' => KeyIds s' ∧ s'.diskMap = s.diskMap) ManagerState.index _ parts ?_
    ⟨ids, rfl⟩
  intro rp _ s' w' held
  refine wp_seq (index_destroyVolumeByDiskIdAndPartNum nodes held.1 (held.2.symm ▸ there) id _) ?_
  intro _ s'' w'' removes
  refine ⟨⟨?_, ?_⟩, removes⟩
  · rw [keyIds_index]
    exact removes.keyIds (keyIds_index.mp held.1)
  · exact removes.diskMap.trans held.2

theorem index_syncVolumes (nodes : NodesOk env) (ids : KeyIds s) {diskId : CppString} {disk : Disk}
    (there : s.diskMap[diskId]? = some disk) (id : disk.diskId = diskId) {uevent : UeventEnv}
    {isUserData : Bool} {device : Index → PartitionRecord → Dev → Prop}
    (devices : ∀ s p dev, Resolves env uevent diskId isUserData p s dev → device s.index p dev)
    (new : Bool) (parts : List PartitionRecord) (tableType : CppString) :
    wp (.ofEnv env) (syncVolumes uevent diskId new parts isUserData tableType)
      (fun _ s' _ => Index.Syncs device (makedev uevent.major uevent.minor) diskId new parts s.index
        s'.index) s w := by
  rw [syncVolumes, computePartitionDiff, wp_bind]
  refine wp_section ?_
  dsimp only
  set s₁ : ManagerState := { s with diskPartsSnapshot := s.diskPartsSnapshot.insert diskId parts }
  set diff := partitionDiff s.diskPartsSnapshot[diskId]? parts with diffEq
  refine wp_seq (index_removeParts nodes (s := s₁) ids there id diff.2) fun _ s₂ w₂ removed => ?_
  obtain ⟨⟨ids₂, disks₂⟩, removed⟩ := removed
  have there₂ : s₂.diskMap[diskId]?.isSome := by
    rw [disks₂]
    exact Option.isSome_iff_exists.mpr ⟨disk, there⟩
  refine wp_seq (index_discoverParts nodes ids₂ there₂ devices diff.1) fun _ s₃ w₃ added => ?_
  obtain ⟨⟨ids₃, disks₃⟩, added⟩ := added
  split
  next empty =>
    simp only [Bool.and_eq_true, Bool.or_eq_true, List.isEmpty_iff, Bool.not_eq_true',
      List.isEmpty_eq_false_iff] at empty
    have there₃ : s₃.diskMap[diskId]?.isSome := by rwa [disks₃]
    have none : diff.1 = [] := by
      rw [diffEq, empty.1]
      cases s.diskPartsSnapshot[diskId]? with
      | none => rfl
      | some old => rfl
    refine wp_mono ?_ (index_discoverWholeDiskVolume nodes ids₃ there₃ uevent isUserData tableType)
    intro _ s₄ _ whole
    rcases whole with same | inserted
    · rw [same]
      exact .parts removed added
    · rw [none] at added
      rw [inserted, added.eq_of_nil]
      exact .whole empty.1 empty.2 removed
  · exact .parts removed added

end

/-! ## Events -/

namespace Index

/-- The disk is recorded where the event is to publish it. -/
inductive Upserted (record : Disk → Prop) (i : Index) : Bool → Index → Prop
  | known : Upserted record i false i
  | new {disk : Disk} : record disk → Upserted record i true (i.addDisk disk)

/-- The disk is an internal data disk under repartition. -/
def Repartitioned (i : Index) (diskId : CppString) : Prop :=
  diskId ∈ i.partitioningDiskIds ∧ i.internal diskId = true

/-- What an add or change event with this dump does. A dump without a `DISK` line takes the volumes
of a known disk down. -/
inductive Discovered (record : Disk → Prop) (device : Index → PartitionRecord → Dev → Prop)
    (whole : Dev) (diskId dump : CppString) (i : Index) : Bool → Index → Prop
  | noTable {new : Bool} : dumpTableType dump diskId = [] →
    Discovered record device whole diskId dump i new
      (if new then i else (i.eraseDisk diskId).clearParts diskId)
  | formatted {new : Bool} {i₁ i₂ : Index} : dumpTableType dump diskId ≠ [] →
    Upserted record i new i₁ → i₁.Repartitioned diskId →
    Rounds (Discovers device diskId) (dumpParts dump diskId) i₁ i₂ →
    Discovered record device whole diskId dump i new i₂
  | synced {new : Bool} {i₁ i₂ : Index} : dumpTableType dump diskId ≠ [] →
    Upserted record i new i₁ → ¬ i₁.Repartitioned diskId →
    Syncs device whole diskId new (dumpParts dump diskId) i₁ i₂ →
    Discovered record device whole diskId dump i new i₂

/-- What a remove event does. -/
def unplug (i : Index) (diskId : CppString) : Index :=
  { (i.eraseDisk diskId).clearParts diskId with diskMap := i.diskMap.erase diskId }

/-- Every disk is found under its own id. -/
def DiskIds (i : Index) : Prop :=
  ∀ (diskId : CppString) (disk : Disk), i.diskMap[diskId]? = some disk → disk.diskId = diskId

theorem DiskIds.addDisk {i : Index} (ids : i.DiskIds) (disk : Disk) : (i.addDisk disk).DiskIds := by
  unfold Index.addDisk
  split
  · exact ids
  intro diskId disk' found
  change (i.diskMap.insert disk.diskId disk)[diskId]? = some disk' at found
  rw [StdMap.get_insert] at found
  split at found
  next same =>
    cases found
    exact same
  · exact ids diskId disk' found

theorem DiskIds.upserted {record : Disk → Prop} {i i' : Index} {new : Bool} (ids : i.DiskIds)
    (upserted : Upserted record i new i') : i'.DiskIds := by
  cases upserted with
  | known => exact ids
  | new => exact ids.addDisk _

@[simp] theorem addDisk_places (i : Index) (disk : Disk) : (i.addDisk disk).places = i.places := by
  unfold Index.addDisk
  split
  · rfl
  · rfl

@[simp] theorem addDisk_snapshot (i : Index) (disk : Disk) :
    (i.addDisk disk).diskPartsSnapshot = i.diskPartsSnapshot := by
  unfold Index.addDisk
  split
  · rfl
  · rfl

@[simp] theorem addDisk_partitioning (i : Index) (disk : Disk) :
    (i.addDisk disk).partitioningDiskIds = i.partitioningDiskIds := by
  unfold Index.addDisk
  split
  · rfl
  · rfl

theorem addDisk_isSome (i : Index) (disk : Disk) :
    (i.addDisk disk).diskMap[disk.diskId]?.isSome := by
  unfold Index.addDisk
  split
  next there => exact there
  · change (i.diskMap.insert disk.diskId disk)[disk.diskId]?.isSome
    rw [StdMap.get_insert_self]
    rfl

/-- The disk of the event is there after the upsert. -/
theorem Upserted.isSome {record : Disk → Prop} {i i' : Index} {new : Bool} {diskId : CppString}
    (upserted : Upserted record i new i') (id : ∀ disk, record disk → disk.diskId = diskId)
    (known : new = false → i.diskMap[diskId]?.isSome) : i'.diskMap[diskId]?.isSome := by
  cases upserted with
  | known => exact known rfl
  | @new disk recorded =>
      rw [← id disk recorded]
      exact addDisk_isSome i disk

/-- The upsert leaves volumes and tables. -/
theorem Upserted.rest {record : Disk → Prop} {i i' : Index} {new : Bool}
    (upserted : Upserted record i new i') : i'.places = i.places ∧
      i'.diskPartsSnapshot = i.diskPartsSnapshot ∧
      i'.partitioningDiskIds = i.partitioningDiskIds := by
  cases upserted with
  | known => exact ⟨rfl, rfl, rfl⟩
  | new => exact ⟨addDisk_places _ _, addDisk_snapshot _ _, addDisk_partitioning _ _⟩

/-- An external disk stays external. -/
theorem Upserted.external {record : Disk → Prop} {i i' : Index} {new : Bool} {diskId : CppString}
    (upserted : Upserted record i new i') (id : ∀ disk, record disk → disk.diskId = diskId)
    (external : ∀ disk, record disk → disk.isInternalDataDisk = false)
    (before : i.internal diskId = false) : i'.internal diskId = false := by
  cases upserted with
  | known => exact before
  | @new disk recorded =>
      have same := id disk recorded
      unfold Index.internal Index.addDisk at *
      split
      · exact before
      · change ((i.diskMap.insert disk.diskId disk)[diskId]?).any _ = false
        rw [same, StdMap.get_insert_self]
        exact external disk recorded

end Index

theorem diskIdFrom_ne_nil (major minor : Nat) : diskIdFrom major minor ≠ [] := by
  unfold diskIdFrom
  simp

theorem isPartitioningInternal_bind {W : Type} {env : Env ManagerState W Req Req.Resp}
    {s : ManagerState} {w : W} {β : Type} {post : β → ManagerState → W → Prop} {diskId : CppString} {f : Bool → ManagerProg β}
    (yes : s.index.Repartitioned diskId → ∀ w', wp (.ofEnv env) (f true) post s w')
    (no : ¬ s.index.Repartitioned diskId → ∀ w', wp (.ofEnv env) (f false) post s w') :
    wp (.ofEnv env) (isPartitioningInternal diskId >>= f) post s w := by
  rw [isPartitioningInternal, wp_bind]
  refine isPartitioning_bind ?_
  split
  next marked =>
    have marked : diskId ∈ s.partitioningDiskIds := by simpa using marked
    refine wp_isInternalDataDiskById fun w' => ?_
    cases internal : s.diskMap[diskId]?.any (·.isInternalDataDisk) with
    | true => exact yes ⟨marked, internal⟩ w'
    | false => exact no (fun both => Bool.false_ne_true (internal.symm.trans both.2)) w'
  next marked =>
    have marked : diskId ∉ s.partitioningDiskIds := by simpa using marked
    exact no (fun both => marked both.1) w

/-- The answers to an add or change event: the table can be read, and is this dump. -/
def TableRead {W : Type} (env : Env ManagerState W Req Req.Resp) (dump : CppString) : Prop :=
  ∀ {s w devPath r w'}, env s w (.readPartitionTable devPath) r w' → r = (E_OK, dump)

section Wp

variable {W : Type} {env : Env ManagerState W Req Req.Resp} {s : ManagerState} {w : W}
  {β : Type} {post : β → ManagerState → W → Prop}

/-- Reading the table of a disk that is not optical. -/
theorem buildAndSyncPartitions_bind
    (nodes : NodesOk env) {dump : CppString} (table : TableRead env dump) {uevent : UeventEnv}
    (block : uevent.major ≠ DISK_CD_MAJOR) {diskId diskDevPath : CppString}
    {f : ErrCode × List PartitionRecord × Bool × CppString → ManagerProg β}
    (noTable : dumpTableType dump diskId = [] → ∀ w', wp (.ofEnv env) (f (DISK_MGR_ERR,
      dumpParts dump diskId, (rewriteUserData dump).2, dumpTableType dump diskId)) post s w')
    (hasTable : dumpTableType dump diskId ≠ [] → ∀ w', wp (.ofEnv env) (f (E_OK,
      dumpParts dump diskId, (rewriteUserData dump).2, dumpTableType dump diskId)) post s w') :
    wp (.ofEnv env) (buildAndSyncPartitions uevent diskId diskDevPath >>= f) post s w := by
  rw [buildAndSyncPartitions, wp_bind]
  refine wp_called_bind fun err w₁ answered => ?_
  rw [nodes.create answered, if_neg fun failed => failed rfl]
  refine wp_called_bind fun read w₂ answered => ?_
  rw [table answered]
  dsimp only
  rw [if_neg fun failed => failed rfl]
  split
  next none =>
    refine wp_called_bind fun _ w₃ _ => ?_
    exact noTable (List.isEmpty_iff.mp none.1) w₃
  next some' =>
    refine hasTable (fun none => some' ⟨List.isEmpty_iff.mpr none, block⟩) w₂

theorem index_clearPartitionSnapshot {i : Index} (same : s.index = i) (diskId : CppString) :
    wp (.ofEnv env) (clearPartitionSnapshot diskId) (fun _ s' _ => s'.index = i.clearParts diskId)
      s w := by
  subst same
  exact ⟨trivial, rfl⟩

theorem index_onDiskDestroyed (diskId : CppString) :
    wp (.ofEnv env) (onDiskDestroyed diskId)
      (fun _ s' _ => s'.index = { s.index with diskMap := s.diskMap.erase diskId }) s w := by
  refine wp_section ?_
  split
  next gone =>
    have same : s.diskMap.erase diskId = s.diskMap := by
      apply StdMap.ext
      intro k
      rw [StdMap.get_erase]
      split
      next eq =>
        rw [← eq]
        exact (Option.isNone_iff_eq_none.mp gone).symm
      · rfl
    rw [same]
    rfl
  · rfl

end Wp

section

variable [JsonLib] {W : Type} {env : Env ManagerState W Req Req.Resp} {s : ManagerState} {w : W}

theorem index_discoverReadDisk (nodes : NodesOk env) (keys : s.index.KeyIds) (ids : s.index.DiskIds)
    {uevent : UeventEnv} {diskId : CppString} {isUserData new : Bool}
    (known : new = false → s.diskMap[diskId]?.isSome)
    {device : Index → PartitionRecord → Dev → Prop}
    (devices : ∀ s p dev, Resolves env uevent diskId isUserData p s dev → device s.index p dev)
    (parts : List PartitionRecord) (tableType : CppString) :
    wp (.ofEnv env) (discoverReadDisk uevent diskId new parts isUserData tableType)
      (fun _ s' _ => ∃ i₁, Index.Upserted (Records env uevent diskId) s.index new i₁ ∧
        (i₁.Repartitioned diskId ∧ Rounds (Index.Discovers device diskId) parts i₁ s'.index ∨
          ¬ i₁.Repartitioned diskId ∧ Index.Syncs device (makedev uevent.major uevent.minor) diskId
            new parts i₁ s'.index)) s w := by
  rw [discoverReadDisk]
  refine wp_seq (index_upsertDiskAndPublishEvent _ _ _ _) fun _ s₁ w₁ upserted => ?_
  have upserted : Index.Upserted (Records env uevent diskId) s.index new s₁.index := by
    rcases upserted with ⟨rfl, same⟩ | ⟨rfl, disk, record, added⟩
    · rw [same]
      exact .known
    · rw [added]
      exact .new record
  have there : s₁.diskMap[diskId]?.isSome := upserted.isSome (fun _ record => record.id) known
  have keys₁ : KeyIds s₁ := by
    intro k r found
    refine keys k r.place ?_
    rw [← upserted.rest.1]
    exact Option.map_eq_some_iff.mpr ⟨r, found, rfl⟩
  obtain ⟨disk, found⟩ := Option.isSome_iff_exists.mp there
  have id : disk.diskId = diskId := ids.upserted upserted diskId disk found
  refine isPartitioningInternal_bind (fun marked w₂ => ?_) fun free w₂ => ?_
  · refine wp_mono ?_ (index_discoverParts nodes keys₁ there devices parts)
    exact fun _ s₂ _ rounds => ⟨s₁.index, upserted, .inl ⟨marked, rounds.2⟩⟩
  · refine wp_mono ?_ (index_syncVolumes nodes keys₁ found id devices new parts tableType)
    exact fun _ s₂ _ syncs => ⟨s₁.index, upserted, .inr ⟨free, syncs⟩⟩

/-- Discovery on a disk that is not optical. -/
theorem index_discoverPartitionsAndVolumes (nodes : NodesOk env) {dump : CppString}
    (table : TableRead env dump) (sound : s.index.Sound) (ids : s.index.DiskIds)
    {uevent : UeventEnv} (block : uevent.major ≠ DISK_CD_MAJOR) {diskId : CppString}
    (id : diskId = diskIdFrom uevent.major uevent.minor) {new : Bool}
    (known : new = false → s.diskMap[diskId]?.isSome)
    {device : Index → PartitionRecord → Dev → Prop}
    (devices : ∀ s p dev, Resolves env uevent diskId (rewriteUserData dump).2 p s dev →
      device s.index p dev) :
    wp (.ofEnv env) (discoverPartitionsAndVolumes uevent new)
      (fun err s' _ => (err = E_OK ↔ dumpTableType dump diskId ≠ []) ∧
        Index.Discovered (Records env uevent diskId) device (makedev uevent.major uevent.minor)
          diskId dump s.index new s'.index) s w := by
  rw [discoverPartitionsAndVolumes, if_neg block, ← id]
  refine buildAndSyncPartitions_bind nodes table block (fun noTable w₁ => ?_) fun hasTable w₁ => ?_
  · have failed : DISK_MGR_ERR = E_OK ↔ dumpTableType dump diskId ≠ [] :=
      ⟨fun ok => absurd ok (by decide), fun some' => absurd noTable some'⟩
    have discovered : Index.Discovered (Records env uevent diskId) device
        (makedev uevent.major uevent.minor) diskId dump s.index new _ := .noTable noTable
    dsimp only
    rw [if_neg (by decide), if_pos (by decide)]
    cases new with
    | true => exact ⟨failed, discovered⟩
    | false =>
        have some' : diskId ≠ [] := id ▸ diskIdFrom_ne_nil _ _
        rw [if_pos (by decide)]
        refine wp_seq (index_destroyALLVolume nodes sound some') fun _ s₁ w₂ erased => ?_
        refine wp_seq (index_clearPartitionSnapshot erased diskId) fun _ s₂ w₃ cleared => ?_
        rw [if_neg (by decide), ← cleared] at discovered
        exact ⟨failed, discovered⟩
  · dsimp only
    rw [if_neg (by decide), if_neg fun failed => failed rfl]
    refine wp_seq (index_discoverReadDisk nodes sound.keys ids known devices _ _)
      fun _ s₁ w₂ read => ?_
    refine ⟨⟨fun _ => hasTable, fun _ => rfl⟩, ?_⟩
    obtain ⟨i₁, upserted, ⟨marked, rounds⟩ | ⟨free, syncs⟩⟩ := read
    · exact .formatted hasTable upserted marked rounds
    · exact .synced hasTable upserted free syncs

theorem index_handleDiskAdd (nodes : NodesOk env) {dump : CppString} (table : TableRead env dump)
    (sound : s.index.Sound) (ids : s.index.DiskIds) {uevent : UeventEnv}
    (block : uevent.major ≠ DISK_CD_MAJOR) {diskId : CppString}
    (id : diskId = diskIdFrom uevent.major uevent.minor)
    {device : Index → PartitionRecord → Dev → Prop}
    (devices : ∀ s p dev, Resolves env uevent diskId (rewriteUserData dump).2 p s dev →
      device s.index p dev) :
    wp (.ofEnv env) (handleDiskAdd uevent)
      (fun _ s' _ => Index.Discovered (Records env uevent diskId) device
        (makedev uevent.major uevent.minor) diskId dump s.index (!s.diskMap[diskId]?.isSome)
        s'.index) s w := by
  rw [handleDiskAdd, ← id]
  refine hasDisk_bind ?_
  refine wp_mono ?_ (index_discoverPartitionsAndVolumes nodes table sound ids block id ?_ devices)
  · exact fun _ _ _ discovered => discovered.2
  · exact fun known => by simpa using known

/-- A change event does what an add event does, but for an internal data disk under repartition. -/
theorem index_handleDiskChange (nodes : NodesOk env) {dump : CppString} (table : TableRead env dump)
    (sound : s.index.Sound) (ids : s.index.DiskIds) {uevent : UeventEnv}
    (block : uevent.major ≠ DISK_CD_MAJOR) {diskId : CppString}
    (id : diskId = diskIdFrom uevent.major uevent.minor)
    {device : Index → PartitionRecord → Dev → Prop}
    (devices : ∀ s p dev, Resolves env uevent diskId (rewriteUserData dump).2 p s dev →
      device s.index p dev) :
    wp (.ofEnv env) (handleDiskChange uevent)
      (fun _ s' _ => s.index.Repartitioned diskId ∧ s'.index = s.index ∨
        Index.Discovered (Records env uevent diskId) device
          (makedev uevent.major uevent.minor) diskId dump s.index (!s.diskMap[diskId]?.isSome)
          s'.index) s w := by
  rw [handleDiskChange, ← id]
  refine isPartitioningInternal_bind (fun marked w₁ => .inl ⟨marked, rfl⟩) fun _ w₁ => ?_
  subst id
  rw [if_neg (by decide)]
  refine wp_mono ?_ (index_handleDiskAdd nodes table sound ids block rfl devices)
  exact fun _ _ _ discovered => .inr discovered

theorem index_handleDiskRemove (nodes : NodesOk env) (sound : s.index.Sound) (uevent : UeventEnv)
    {diskId : CppString} (id : diskId = diskIdFrom uevent.major uevent.minor) :
    wp (.ofEnv env) (handleDiskRemove uevent)
      (fun _ s' _ => s'.index = s.index.unplug diskId) s w := by
  have some' : diskId ≠ [] := id ▸ diskIdFrom_ne_nil _ _
  rw [handleDiskRemove, ← id]
  refine wp_seq (index_destroyALLVolume nodes sound some') fun _ s₁ w₁ erased => ?_
  have unplugged : wp (.ofEnv env) (destroyALLDisk diskId) (fun err s' _ => err = E_OK ∧
      s'.index = { s.index.eraseDisk diskId with diskMap := s.diskMap.erase diskId }) s₁ w₁ := by
    rw [destroyALLDisk]
    refine wp_called_bind fun ret w₂ answered => ?_
    rw [nodes.destroy answered, if_neg fun failed => failed rfl]
    refine wp_reads_bind (reads_getDiskById diskId) fun disk w₃ => ?_
    refine wp_seq (index_onDiskDestroyed diskId) fun _ s₂ w₄ gone => ?_
    have disks : s₁.diskMap = s.diskMap := congrArg Index.diskMap erased
    rw [erased, disks] at gone
    split
    · exact wp_called_bind fun _ _ _ => ⟨rfl, gone⟩
    · exact ⟨rfl, gone⟩
  refine wp_seq unplugged fun err s₂ w₂ ended => ?_
  obtain ⟨rfl, ended⟩ := ended
  rw [if_neg fun failed => failed rfl]
  exact wp_seq (index_clearPartitionSnapshot ended diskId) fun _ s₃ w₃ cleared => cleared

end

end DiskManager
