import DiskManager.Manager.Filed
import DiskManager.Manager.TableRead
import DiskManager.Uevent.Attach

/-!
# Hot-plug events keep the files

The handlers of uevents, the repartition of a disk and the partition requests keep an invariant of
the index that says how volumes, disks and partition tables are filed, whatever the daemon answers
and whatever runs between their sections.
-/

namespace DiskManager

open Interact

/-- A disk shown, or written back: what a disk is made with stays. -/
structure DiskCopy (disk copy : Disk) : Prop where
  diskId : copy.diskId = disk.diskId
  diskType : copy.diskType = disk.diskType
  devName : copy.devName = disk.devName
  sysPath : copy.sysPath = disk.sysPath

/-- The node of a disk is under the name of its device. -/
def Disk.HasNode (disk : Disk) : Prop := disk.sysPath = ("/dev/block/" : CppString) ++ disk.devName

/-- What the operations of the service file is as `G` and `D` say. -/
structure Accepts (G : CppString → Place → Prop) (D : CppString → Disk → Prop) : Prop where
  ids : ∀ k place, G k place → place.id = k
  volume : ∀ diskId dev n, G (volIdFromDev dev) (.volumeOn diskId dev n)
  crypt : ∀ diskId loopPath,
    G (cryptVolumeId loopPath) ⟨cryptVolumeId loopPath, diskId, 0, loopPath⟩
  mtp : ∀ id, G id ⟨id, [], 0, []⟩
  keyed : ∀ diskId disk, D diskId disk → disk.diskId = diskId
  copy : ∀ diskId disk copy, D diskId disk → DiskCopy disk copy → D diskId copy
  record : ∀ (uevent : UeventEnv) (disk : Disk), uevent.Fits →
    disk.diskId = diskIdFrom uevent.major uevent.minor → disk.HasNode → D disk.diskId disk

/-- The part of it that is about disks. -/
structure AcceptsDisks (D : CppString → Disk → Prop) : Prop where
  keyed : ∀ diskId disk, D diskId disk → disk.diskId = diskId
  copy : ∀ diskId disk copy, D diskId disk → DiskCopy disk copy → D diskId copy
  record : ∀ (uevent : UeventEnv) (disk : Disk), uevent.Fits →
    disk.diskId = diskIdFrom uevent.major uevent.minor → disk.HasNode → D disk.diskId disk

variable {G : CppString → Place → Prop} {D : CppString → Disk → Prop}
  {T : StdMap PartitionTableInfo → Prop} {α β : Type}

theorem Accepts.disks (accepts : Accepts G D) : AcceptsDisks D :=
  ⟨accepts.keyed, accepts.copy, accepts.record⟩

/-! ## Disks -/

theorem FiledAs.getDisk {s : ManagerState} (filed : FiledAs G D T s) {diskId : CppString}
    {disk : Disk} (found : s.diskMap[diskId]? = some disk) : D diskId disk :=
  filed.disks found

theorem FiledAs.insertDisk {s : ManagerState} (filed : FiledAs G D T s) {disk : Disk}
    (good : D disk.diskId disk) :
    FiledAs G D T { s with diskMap := s.diskMap.insert disk.diskId disk } := by
  refine ⟨filed.volumes, fun {diskId found} there => ?_, filed.tables⟩
  change (s.diskMap.insert disk.diskId disk)[diskId]? = some found at there
  by_cases same : disk.diskId = diskId
  · subst same
    rw [StdMap.get_insert_self] at there
    cases there
    exact good
  · rw [StdMap.get_insert_ne same] at there
    exact filed.getDisk there

theorem FiledAs.eraseDisk {s : ManagerState} (filed : FiledAs G D T s) (diskId : CppString) :
    FiledAs G D T { s with diskMap := s.diskMap.erase diskId } := by
  refine ⟨filed.volumes, fun {k found} there => ?_, filed.tables⟩
  change (s.diskMap.erase diskId)[k]? = some found at there
  rw [StdMap.get_erase] at there
  split at there
  · cases there
  · exact filed.getDisk there

theorem filed_onDiskCreated {disk : Disk} (good : D disk.diskId disk) :
    Keeps (FiledAs G D T) (onDiskCreated disk) fun _ => True := by
  intro s filed
  refine ⟨?_, trivial⟩
  dsimp only
  split
  · exact filed
  · exact filed.insertDisk good

theorem filed_onDiskDestroyed (diskId : CppString) :
    Keeps (FiledAs G D T) (onDiskDestroyed diskId) fun _ => True := by
  intro s filed
  refine ⟨?_, trivial⟩
  dsimp only
  split
  · exact filed
  · exact filed.eraseDisk diskId

theorem filed_updateDisk {disk : Disk} (good : D disk.diskId disk) :
    Keeps (FiledAs G D T) (updateDisk disk) fun _ => True := by
  intro s filed
  refine ⟨?_, trivial⟩
  dsimp only
  split
  · exact filed
  · exact filed.insertDisk good

/-- The disk that is shown is filed as the one in memory. -/
theorem filed_getDiskById (accepts : AcceptsDisks D) (diskId : CppString) :
    Keeps (FiledAs G D T) (getDiskById diskId) fun shown => ∀ disk ∈ shown, D diskId disk := by
  rw [getDiskById]
  refine keeps_read_bind fun s filed => ?_
  dsimp only
  split
  · exact fun disk none => by cases none
  next disk found =>
    have good : ∀ copy : Disk, DiskCopy disk copy → ∀ shown ∈ some copy, D diskId shown := by
      intro copy copied shown shows
      cases shows
      exact accepts.copy diskId disk copy (filed.getDisk found) copied
    split
    · rw [queryAndAppendEncryptionStatusUnlocked]
      split
      · exact good _ ⟨rfl, rfl, rfl, rfl⟩
      · refine keeps_bind.mpr (keeps_request_bind fun extraInfo => ?_)
        split
        · exact good _ ⟨rfl, rfl, rfl, rfl⟩
        · exact good _ ⟨rfl, rfl, rfl, rfl⟩
    · exact good _ ⟨rfl, rfl, rfl, rfl⟩

theorem reads_matchConfig (uevent : UeventEnv) : Within Eq (matchConfig uevent) fun _ => True := by
  rw [matchConfig]
  apply within_call_bind
  intro config
  split
  · trivial
  split
  · trivial
  split
  · trivial
  · trivial

theorem reads_resolveInitialDiskFlag (uevent : UeventEnv) :
    Within Eq (resolveInitialDiskFlag uevent) fun _ => True := by
  rw [resolveInitialDiskFlag]
  exact within_seq (reads_matchConfig uevent) fun _ _ => trivial

theorem Disk.refreshClassification_hasNode {disk : Disk} (hasNode : disk.HasNode)
    (sysfsPath : CppString) (rotational : Int) :
    (disk.refreshClassificationFromSysfs sysfsPath rotational).HasNode := by
  unfold Disk.refreshClassificationFromSysfs
  split
  · exact hasNode
  · exact hasNode

theorem newDisk_hasNode (uevent : UeventEnv) (diskId tableType : CppString) (flag : DiskType)
    (usbInfo : UsbInfo) (known : Bool) (blockInfo : BlockInfo) :
    (newDisk uevent diskId tableType flag usbInfo known blockInfo).HasNode := by
  unfold newDisk
  refine Disk.refreshClassification_hasNode ?_ _ _
  unfold Disk.HasNode
  rfl

theorem filed_upsertDiskAndPublishEvent (accepts : AcceptsDisks D) {uevent : UeventEnv}
    (fits : uevent.Fits) (publishNewDiskEvent : Bool) (tableType : CppString) :
    Keeps (FiledAs G D T) (upsertDiskAndPublishEvent uevent
      (diskIdFrom uevent.major uevent.minor) publishNewDiskEvent tableType) fun _ => True := by
  rw [upsertDiskAndPublishEvent]
  split
  · trivial
  refine keeps_seq (reads_resolveInitialDiskFlag uevent).keeps fun flag _ => ?_
  refine keeps_seq (reads_usbInfoForDisk uevent).keeps fun usbInfo _ => ?_
  refine keeps_seq (reads_loadBlockInfoForDisk _ _).keeps fun loaded _ => ?_
  obtain ⟨known, blockInfo⟩ := loaded
  dsimp only
  refine keeps_request_bind fun _ => ?_
  refine keeps_seq (filed_onDiskCreated ?_) fun _ _ => trivial
  exact accepts.record uevent _ fits (Disk.refreshClassification_diskId _ _ _)
    (newDisk_hasNode _ _ _ _ _ _ _)

theorem reads_isInternalDataDiskById (diskId : CppString) :
    Within Eq (isInternalDataDiskById diskId) fun _ => True := by
  rw [isInternalDataDiskById]
  refine within_seq (reads_getDiskById diskId) fun disk _ => ?_
  split
  · trivial
  · trivial

theorem reads_isPartitioning (diskId : CppString) :
    Within Eq (isPartitioning diskId) fun _ => True :=
  fun _ => ⟨rfl, trivial⟩

theorem reads_hasDisk (diskId : CppString) : Within Eq (hasDisk diskId) fun _ => True :=
  fun _ => ⟨rfl, trivial⟩

theorem reads_queryCdromState (devPath : CppString) :
    Within Eq (queryCdromState devPath) fun _ => True := by
  rw [queryCdromState]
  refine within_call_bind fun status => ?_
  obtain ⟨ret, status⟩ := status
  dsimp only
  split
  · trivial
  split
  · trivial
  split
  · trivial
  · trivial

theorem reads_discState (uevent : UeventEnv) (diskId : CppString) :
    Within Eq (discState uevent diskId) fun _ => True := by
  rw [discState]
  refine within_seq (reads_queryCdromState _) fun state _ => ?_
  split
  · exact within_call_bind fun _ => trivial
  · trivial

theorem reads_eject (diskId : CppString) : Within Eq (eject diskId) fun _ => True := by
  rw [eject]
  refine within_seq (reads_getDiskById diskId) fun shown _ => ?_
  split
  · trivial
  split
  · trivial
  · exact within_call_bind fun _ => trivial

theorem reads_isPartitioningInternal (diskId : CppString) :
    Within Eq (isPartitioningInternal diskId) fun _ => True := by
  rw [isPartitioningInternal]
  refine within_seq (reads_isPartitioning diskId) fun partitioning _ => ?_
  split
  · exact reads_isInternalDataDiskById diskId
  · trivial

theorem reads_buildAndSyncPartitions (uevent : UeventEnv) (diskId diskDevPath : CppString) :
    Within Eq (buildAndSyncPartitions uevent diskId diskDevPath) fun _ => True := by
  rw [buildAndSyncPartitions]
  refine within_call_bind fun err => ?_
  split
  · trivial
  refine within_call_bind fun table => ?_
  obtain ⟨err, rawDump⟩ := table
  dsimp only
  split
  · refine within_call_bind fun size => ?_
    obtain ⟨sizeErr, diskSize⟩ := size
    dsimp only
    split
    · trivial
    · exact within_call_bind fun _ => trivial
  · split
    · exact within_call_bind fun _ => trivial
    · trivial

theorem filed_refreshCdromState (accepts : AcceptsDisks D) (diskId : CppString) (state : CdromState) :
    Keeps (FiledAs G D T) (refreshCdromState diskId state) fun _ => True := by
  rw [refreshCdromState]
  refine keeps_seq (filed_getDiskById accepts diskId) fun shown filed => ?_
  split
  · trivial
  next disk =>
    have good : D diskId disk := filed disk rfl
    have id : disk.diskId = diskId := accepts.keyed diskId disk good
    have copied := accepts.copy diskId disk { disk with cdromState := state } good
      ⟨rfl, rfl, rfl, rfl⟩
    refine keeps_seq (filed_updateDisk ?_) fun _ _ => trivial
    dsimp only
    rw [id] at copied ⊢
    exact copied

/-- The snapshot is not filed. -/
theorem FiledAs.setSnapshot {s : ManagerState} (filed : FiledAs G D T s)
    (snapshot : StdMap (List PartitionRecord)) :
    FiledAs G D T { s with diskPartsSnapshot := snapshot } :=
  ⟨filed.volumes, filed.disks, filed.tables⟩

theorem rediscoverEnv_fits (diskId : CppString) : (rediscoverEnv diskId).Fits :=
  ⟨Nat.mod_lt _ (by decide), Nat.mod_lt _ (by decide)⟩

theorem FiledAs.setPartitioning {s : ManagerState} (filed : FiledAs G D T s)
    (diskIds : List CppString) : FiledAs G D T { s with partitioningDiskIds := diskIds } :=
  ⟨filed.volumes, filed.disks, filed.tables⟩

theorem FiledAs.eraseVolumes {s : ManagerState} (filed : FiledAs G D T s) (volIds : List CppString) :
    FiledAs G D T (s.eraseVolumes volIds) := by
  unfold ManagerState.eraseVolumes
  induction volIds generalizing s with
  | nil => exact filed
  | cons v volIds ih => exact ih (filed.eraseVolume v)

theorem reads_anyVolumeNotUnmounted (volIds : List CppString) :
    Within Eq (anyVolumeNotUnmounted volIds) fun _ => True := by
  induction volIds with
  | nil => trivial
  | cons item volIds ih =>
      rw [anyVolumeNotUnmounted, getVolumeById, findVolume, within_bind]
      refine fun s => ⟨rfl, ?_⟩
      dsimp only [Within]
      split
      · exact ih
      split
      · trivial
      · exact ih

theorem reads_isDiskNotReady (diskId : CppString) :
    Within Eq (isDiskNotReady diskId) fun _ => True := by
  rw [isDiskNotReady]
  refine within_seq (reads_getDiskById diskId) fun shown _ => ?_
  split
  · trivial
  · exact reads_anyVolumeNotUnmounted _

/-- The table is filed under the id of its disk. -/
theorem filed_getPartitionTable (tables : ∀ map diskId info, T map → T (map.insert diskId info))
    (diskId : CppString) :
    Keeps (FiledAs G D T) (getPartitionTable diskId) fun _ => True := by
  rw [getPartitionTable]
  refine keeps_seq (reads_hasDisk diskId).keeps fun known _ => ?_
  split
  · trivial
  refine keeps_request_bind fun result => ?_
  obtain ⟨ret, execRet⟩ := result
  dsimp only
  split
  · trivial
  split
  · trivial
  refine keeps_seq (filed_of_core (within_readPartitions _ _ _)) fun partitions _ => ?_
  refine keeps_modify_bind (fun s filed => ?_) trivial
  exact ⟨filed.volumes, filed.disks, tables _ _ _ filed.tables⟩

theorem reads_createPartition (diskId : CppString) (params : PartitionParams) :
    Within Eq (createPartition diskId params) fun _ => True := by
  rw [createPartition]
  refine within_seq (reads_getDiskById diskId) fun shown _ => ?_
  split
  · trivial
  split
  · trivial
  split
  · trivial
  refine within_seq (reads_isDiskNotReady diskId) fun notReady _ => ?_
  split
  · trivial
  refine within_bind.mpr fun s => ⟨rfl, ?_⟩
  dsimp only [Within]
  split
  · trivial
  split
  · trivial
  · exact within_call_bind fun _ => trivial

/-! ## Taking volumes down -/

theorem filed_destroyALLDisk (diskId : CppString) :
    Keeps (FiledAs G D T) (destroyALLDisk diskId) fun _ => True := by
  rw [destroyALLDisk]
  refine keeps_request_bind fun ret => ?_
  split
  · trivial
  refine keeps_seq (reads_getDiskById diskId).keeps fun shown _ => ?_
  refine keeps_seq (filed_onDiskDestroyed diskId) fun _ _ => ?_
  split
  · exact keeps_request_bind fun _ => trivial
  · trivial

section

variable [JsonLib]

theorem filed_destroyVolume (vol : VolumeExternal) :
    Keeps (FiledAs G D T) (destroyVolume vol) fun _ => True := by
  have removed : Keeps (FiledAs G D T) (removeVolumeNode vol) fun _ => True := by
    rw [removeVolumeNode]
    refine keeps_request_bind fun ret => ?_
    split
    · trivial
    refine keeps_request_bind fun _ => ?_
    exact keeps_seq (filed_onVolumeDestroyed _) fun _ _ => trivial
  have unmounted : Keeps (FiledAs G D T) (unmountUnlessEjected vol) fun _ => True := by
    rw [unmountUnlessEjected]
    split
    · exact keeps_seq (filed_forceUnmount _) fun _ _ => trivial
    · trivial
  have unbound : Keeps (FiledAs G D T) (unbindContainer vol) fun _ => True := by
    rw [unbindContainer]
    split
    · exact keeps_seq (filed_unbindBlockLoopDev _) fun _ _ => trivial
    · trivial
  rw [destroyVolume]
  refine keeps_seq unmounted fun _ _ => ?_
  refine keeps_seq (filed_of_sameIndex (sameIndex_closeContainer vol)) fun _ _ => ?_
  exact keeps_seq unbound fun _ _ => removed

theorem filed_destroyALLVolume (diskId : CppString) :
    Keeps (FiledAs G D T) (destroyALLVolume diskId) fun _ => True := by
  rw [destroyALLVolume, getAllVolumes]
  refine keeps_read_bind fun s _ => ?_
  exact keeps_forM _ filed_destroyVolume

end

/-! ## Making volumes -/

theorem filed_createAndSetupVolume {diskId : CppString} {pDev : Dev} {partitionNum : Int}
    (good : G (volIdFromDev pDev) (.volumeOn diskId pDev partitionNum)) (isUserData : Bool) :
    Keeps (FiledAs G D T) (createAndSetupVolume diskId pDev isUserData partitionNum)
      fun _ => True := by
  rw [createAndSetupVolume]
  refine keeps_request_bind fun err => ?_
  split
  · trivial
  refine keeps_seq (reads_getDiskById diskId).keeps fun shown _ => ?_
  split
  · trivial
  refine keeps_seq (reads_tryLoadBlockInfoForVolume _).keeps fun blockInfo _ => ?_
  exact keeps_seq (filed_onVolumeCreated good) fun _ _ => trivial

theorem reads_resolvePartitionDev (uevent : UeventEnv) (diskId : CppString) (p : PartitionRecord)
    (isUserData : Bool) :
    Within Eq (resolvePartitionDev uevent diskId p isUserData) fun _ => True := by
  have plain : Within Eq (do
      if isUserData then
        return userDataDev (← getMaxMinor MAJORID_BLKEXT) p.partitionNumber
      return partitionDev uevent.major uevent.minor p.partitionNumber : ManagerProg Dev)
      fun _ => True := by
    split
    · rw [getMaxMinor]
      refine within_bind.mpr (within_call_bind fun nodes => ?_)
      split
      · trivial
      · trivial
    · trivial
  have linear : Within Eq (createDmLinearForPartition uevent.devName p.partitionNumber)
      fun _ => True := by
    rw [createDmLinearForPartition]
    dsimp only
    refine within_call_bind fun size => ?_
    obtain ⟨sizeErr, totalBytes⟩ := size
    dsimp only
    split
    · trivial
    split
    · trivial
    refine within_call_bind fun made => ?_
    obtain ⟨err, dmDev⟩ := made
    dsimp only
    split
    · trivial
    · trivial
  rw [resolvePartitionDev]
  refine within_seq (reads_isInternalDataDiskById diskId) fun internal _ => ?_
  split
  · refine within_seq linear fun dmDev _ => ?_
    split
    · trivial
    · exact plain
  · exact plain

section

variable [JsonLib]

theorem filed_mountDiscoveredVolume (accepts : Accepts G D) (volId : CppString) (isUserData : Bool)
    (uuid type : CppString) :
    Keeps (FiledAs G D T) (mountDiscoveredVolume volId isUserData uuid type) fun _ => True := by
  rw [mountDiscoveredVolume]
  split
  · trivial
  refine keeps_seq (filed_mount accepts.ids volId {}) fun err _ => ?_
  split
  · split
    · exact keeps_seq (filed_of_sameIndex (sameIndex_markVolumeAbnormal _ _)) fun _ _ => trivial
    · trivial
  · trivial

theorem filed_discoverSinglePartitionVolume (accepts : Accepts G D) (uevent : UeventEnv)
    (diskId : CppString) (p : PartitionRecord) (isUserData : Bool) :
    Keeps (FiledAs G D T) (discoverSinglePartitionVolume uevent diskId p isUserData)
      fun _ => True := by
  rw [discoverSinglePartitionVolume]
  refine keeps_seq (reads_resolvePartitionDev uevent diskId p isUserData).keeps fun pDev _ => ?_
  rw [discoverPartitionOn, getVolumeById, findVolume]
  refine keeps_read_bind fun s _ => ?_
  split
  · trivial
  refine keeps_seq (filed_createAndSetupVolume (accepts.volume _ _ _) _) fun err _ => ?_
  split
  · trivial
  refine keeps_seq (filed_of_sameIndex (sameIndex_readAndUpdateMetadata _ _)) fun metadata _ => ?_
  refine keeps_seq (reads_isPartitioning diskId).keeps fun partitioning _ => ?_
  split
  · exact keeps_seq (filed_of_sameIndex (sameIndex_format _ _)) fun _ _ => trivial
  refine keeps_seq (filed_of_sameIndex (sameIndex_evaluateVolumeMetadataAbnormal _ _ _ _ _))
    fun abnormal _ => ?_
  split
  · trivial
  · exact filed_mountDiscoveredVolume accepts _ _ _ _

theorem filed_setupWholeDiskVolume (accepts : Accepts G D) (uevent : UeventEnv) (diskId : CppString)
    (metadata : Option Metadata) :
    Keeps (FiledAs G D T) (setupWholeDiskVolume uevent diskId metadata) fun _ => True := by
  unfold setupWholeDiskVolume
  refine keeps_seq (filed_createAndSetupVolume (accepts.volume _ _ _) _) fun err _ => ?_
  split
  · trivial
  split
  · exact keeps_seq (filed_of_sameIndex (sameIndex_format _ _)) fun _ _ => trivial
  refine keeps_seq (filed_of_sameIndex (sameIndex_updateVolumeMetadata _ _ _ _)) fun _ _ => ?_
  refine keeps_seq (filed_of_sameIndex (sameIndex_evaluateVolumeMetadataAbnormal _ _ _ _ _))
    fun abnormal _ => ?_
  split
  · trivial
  · exact filed_mountDiscoveredVolume accepts _ _ _ _

theorem filed_discoverWholeDiskVolume (accepts : Accepts G D) (uevent : UeventEnv)
    (diskId : CppString) (isUserData : Bool) (tableType : CppString) :
    Keeps (FiledAs G D T) (discoverWholeDiskVolume uevent diskId isUserData tableType)
      fun _ => True := by
  rw [discoverWholeDiskVolume]
  refine keeps_seq (reads_isPartitioning diskId).keeps fun partitioning _ => ?_
  split
  · exact filed_setupWholeDiskVolume accepts _ _ _
  refine keeps_request_bind fun metadata => ?_
  split
  · split
    · trivial
    refine keeps_seq (reads_isInternalDataDiskById diskId).keeps fun internal _ => ?_
    split
    · trivial
    split
    · trivial
    · exact fun _ => trivial
  · exact filed_setupWholeDiskVolume accepts _ _ _

/-! ## Optical drives -/

theorem sameIndex_discMetadata (diskId volId : CppString) (state : CdromState) :
    Within SameIndex (discMetadata diskId volId state) fun _ => True := by
  rw [discMetadata]
  split
  · rw [emptyDiscMetadata, getVolumeById, findVolume]
    refine within_call_bind fun uuid => ?_
    exact sameIndex_read_bind fun s => trivial
  · exact sameIndex_readAndUpdateMetadata _ _

theorem filed_handleAddCD (ids : ∀ k place, G k place → place.id = k) {uevent : UeventEnv}
    {diskId : CppString} (good : G (volIdFromDev (partitionDev uevent.major uevent.minor 0))
      (.volumeOn diskId (partitionDev uevent.major uevent.minor 0) 0)) (state : CdromState) :
    Keeps (FiledAs G D T) (handleAddCD uevent diskId state) fun _ => True := by
  rw [handleAddCD]
  refine keeps_seq (filed_createAndSetupVolume good _) fun err _ => ?_
  split
  · trivial
  refine keeps_seq (filed_of_sameIndex (sameIndex_discMetadata _ _ _)) fun metadata _ => ?_
  refine keeps_seq (filed_of_sameIndex (sameIndex_updateVolumeMetadata _ _ _ _)) fun _ _ => ?_
  refine keeps_seq (filed_of_sameIndex (sameIndex_setVolumeDiscState _ _)) fun _ _ => ?_
  split
  · trivial
  · exact keeps_seq (filed_mount ids _ _) fun _ _ => trivial

theorem filed_ejectAndDestroyCdrom (diskId : CppString) :
    Keeps (FiledAs G D T) (ejectAndDestroyCdrom diskId) fun _ => True := by
  rw [ejectAndDestroyCdrom]
  refine keeps_seq (reads_eject diskId).keeps fun ret _ => ?_
  split
  · trivial
  · exact keeps_seq (filed_destroyALLVolume diskId) fun _ _ => trivial

theorem filed_tryEjectCdrom (accepts : AcceptsDisks D) (diskId : CppString) :
    Keeps (FiledAs G D T) (tryEjectCdrom diskId) fun _ => True := by
  have ejected : Keeps (FiledAs G D T) (do
      let _ ← ejectAndDestroyCdrom diskId) fun _ => True :=
    keeps_seq (filed_ejectAndDestroyCdrom diskId) fun _ _ => trivial
  rw [tryEjectCdrom]
  refine keeps_seq (reads_getDiskById diskId).keeps fun shown _ => ?_
  split
  · trivial
  split
  · exact ejected
  rw [findMountedVolumePath, getAllVolumes]
  refine keeps_bind.mpr (keeps_read_bind fun s _ => ?_)
  change Keeps (FiledAs G D T) (if _ then _ else _) _
  split
  · rw [canEjectMountedCdrom]
    refine keeps_bind.mpr (keeps_request_bind fun answer => ?_)
    change Keeps (FiledAs G D T) (if _ then _ else _) _
    split
    · refine keeps_seq (reads_queryCdromState _).keeps fun state _ => ?_
      exact keeps_seq (filed_refreshCdromState accepts diskId state) fun _ _ => trivial
    · exact ejected
  · exact ejected

theorem filed_discoverCdromVolumes (accepts : AcceptsDisks D)
    (ids : ∀ k place, G k place → place.id = k) {uevent : UeventEnv} (fits : uevent.Fits)
    (good : G (volIdFromDev (partitionDev uevent.major uevent.minor 0))
      (.volumeOn (diskIdFrom uevent.major uevent.minor)
        (partitionDev uevent.major uevent.minor 0) 0)) (publishNewDiskEvent : Bool) :
    Keeps (FiledAs G D T) (discoverCdromVolumes uevent (diskIdFrom uevent.major uevent.minor)
      publishNewDiskEvent) fun _ => True := by
  have asked : Within Eq (isNewDisk (diskIdFrom uevent.major uevent.minor) publishNewDiskEvent)
      fun _ => True := by
    rw [isNewDisk]
    split
    · trivial
    · exact within_seq (reads_hasDisk _) fun _ _ => trivial
  rw [discoverCdromVolumes]
  refine keeps_request_bind fun err => ?_
  split
  · trivial
  refine keeps_seq asked.keeps fun publishNew _ => ?_
  refine keeps_seq (filed_upsertDiskAndPublishEvent accepts fits _ _) fun _ _ => ?_
  rw [discoverSinglePartitionVolume4CD]
  refine keeps_bind.mpr ?_
  split
  · exact keeps_seq (filed_tryEjectCdrom accepts _) fun _ _ => trivial
  refine keeps_seq (reads_discState _ _).keeps fun state _ => ?_
  split
  · exact keeps_seq (filed_destroyALLVolume _) fun _ _ => trivial
  refine keeps_seq (filed_refreshCdromState accepts _ _) fun _ _ => ?_
  exact keeps_mono (fun _ _ => trivial) (filed_handleAddCD ids good _)

/-! ## Block disks -/

theorem filed_syncVolumes (accepts : Accepts G D) (uevent : UeventEnv) (diskId : CppString)
    (publishNewDiskEvent : Bool) (parts : List PartitionRecord) (isUserData : Bool)
    (tableType : CppString) :
    Keeps (FiledAs G D T) (syncVolumes uevent diskId publishNewDiskEvent parts isUserData tableType)
      fun _ => True := by
  have compared : Keeps (FiledAs G D T) (computePartitionDiff diskId parts) fun _ => True :=
    fun s filed => ⟨filed.setSnapshot _, trivial⟩
  rw [syncVolumes]
  refine keeps_seq compared fun diff _ => ?_
  obtain ⟨addedParts, removedParts⟩ := diff
  dsimp only
  refine keeps_seq (keeps_forM removedParts fun rp => ?_) fun _ _ => ?_
  · exact keeps_seq (filed_destroyVolumeByDiskIdAndPartNum _ _) fun _ _ => trivial
  refine keeps_seq (keeps_forM addedParts fun p => ?_) fun _ _ => ?_
  · exact filed_discoverSinglePartitionVolume accepts _ _ _ _
  split
  · exact filed_discoverWholeDiskVolume accepts _ _ _ _
  · trivial

theorem filed_discoverPartitionsAndVolumes (accepts : Accepts G D) {uevent : UeventEnv}
    (fits : uevent.Fits) (publishNewDiskEvent : Bool) :
    Keeps (FiledAs G D T) (discoverPartitionsAndVolumes uevent publishNewDiskEvent)
      fun _ => True := by
  rw [discoverPartitionsAndVolumes]
  dsimp only
  split
  · exact filed_discoverCdromVolumes accepts.disks accepts.ids fits (accepts.volume _ _ _) _
  refine keeps_seq (reads_buildAndSyncPartitions _ _ _).keeps fun result _ => ?_
  obtain ⟨err, parts, isUserData, tableType⟩ := result
  dsimp only
  split
  · rw [discoverUnreadableDisk]
    refine keeps_bind.mpr ?_
    refine keeps_seq (filed_upsertDiskAndPublishEvent accepts.disks fits _ _) fun _ _ => ?_
    refine keeps_seq (reads_isInternalDataDiskById _).keeps fun internal _ => ?_
    split
    · trivial
    refine keeps_seq (reads_isPartitioning _).keeps fun partitioning _ => ?_
    split
    · trivial
    · exact fun _ => trivial
  split
  · split
    · refine keeps_seq (filed_destroyALLVolume _) fun _ _ => ?_
      exact keeps_modify_bind (fun s filed => filed.setSnapshot _) trivial
    · trivial
  rw [discoverReadDisk]
  refine keeps_bind.mpr ?_
  refine keeps_seq (filed_upsertDiskAndPublishEvent accepts.disks fits _ _) fun _ _ => ?_
  refine keeps_seq (reads_isPartitioningInternal _).keeps fun partitioning _ => ?_
  split
  · refine keeps_mono (fun _ _ => trivial) (keeps_forM parts fun p => ?_)
    exact filed_discoverSinglePartitionVolume accepts _ _ _ _
  · exact keeps_mono (fun _ _ => trivial) (filed_syncVolumes accepts _ _ _ _ _ _)

theorem filed_diskEvent (accepts : Accepts G D) {e : DiskEvent} (fits : e.uevent.Fits) :
    Keeps (FiledAs G D T) e.prog fun _ => True := by
  unfold DiskEvent.prog
  split
  · rw [handleDiskAdd]
    refine keeps_seq (reads_hasDisk _).keeps fun known _ => ?_
    exact filed_discoverPartitionsAndVolumes accepts fits _
  · rw [handleDiskChange]
    refine keeps_seq (reads_isPartitioningInternal _).keeps fun partitioning _ => ?_
    split
    · trivial
    refine keeps_seq (reads_hasDisk _).keeps fun known _ => ?_
    exact filed_discoverPartitionsAndVolumes accepts fits _
  · rw [handleDiskRemove]
    refine keeps_seq (filed_destroyALLVolume _) fun _ _ => ?_
    refine keeps_seq (filed_destroyALLDisk _) fun ret _ => ?_
    split
    · trivial
    · exact keeps_modify_bind (fun s filed => filed.setSnapshot _) trivial

/-! ## Partition requests -/

theorem filed_deletePartition (diskId : CppString) (partitionNum : Int) :
    Keeps (FiledAs G D T) (deletePartition diskId partitionNum) fun _ => True := by
  rw [deletePartition]
  refine keeps_seq (reads_getDiskById diskId).keeps fun shown _ => ?_
  split
  · trivial
  split
  · trivial
  refine keeps_seq (reads_isDiskNotReady diskId).keeps fun notReady _ => ?_
  split
  · trivial
  refine keeps_read_bind fun s _ => ?_
  split
  · trivial
  split
  · trivial
  refine keeps_request_bind fun ret => ?_
  split
  · trivial
  · exact keeps_seq (filed_destroyVolumeByDiskIdAndPartNum _ _) fun _ _ => trivial

theorem core_removeFsUuids (fsUuids : List CppString) (ret : ErrCode) :
    Within CoreKept (removeFsUuids fsUuids ret) fun _ => True := by
  induction fsUuids generalizing ret with
  | nil => trivial
  | cons fsUuid fsUuids ih => exact within_onStore_bind fun _ => ih _

theorem filed_purgeVolumesForDisk (diskId : CppString) :
    Keeps (FiledAs G D T) (purgeVolumesForDisk diskId) fun _ => True := by
  rw [purgeVolumesForDisk]
  refine keeps_seq (reads_hasDisk diskId).keeps fun known _ => ?_
  split
  · trivial
  refine keeps_read_bind fun s _ => ?_
  refine keeps_modify_bind (fun s filed => filed.eraseVolumes _) ?_
  exact filed_of_core (core_removeFsUuids _ _)

theorem filed_partition (accepts : Accepts G D) (diskId : CppString) :
    Keeps (FiledAs G D T) (partition diskId) fun _ => True := by
  have marked : Keeps (FiledAs G D T) (partitionMarked diskId) fun _ => True := by
    rw [partitionMarked]
    refine keeps_seq (filed_purgeVolumesForDisk diskId) fun ret _ => ?_
    split
    · trivial
    refine keeps_request_bind fun ret => ?_
    split
    · trivial
    · exact filed_discoverPartitionsAndVolumes accepts (rediscoverEnv_fits diskId) false
  rw [partition]
  refine keeps_seq (filed_of_core (within_isDiskSupported diskId)) fun ret _ => ?_
  split
  · trivial
  refine keeps_seq (reads_isDiskNotReady diskId).keeps fun notReady _ => ?_
  split
  · trivial
  refine keeps_modify_bind (fun s filed => filed.setPartitioning _) ?_
  refine keeps_seq marked fun ret _ => ?_
  exact keeps_modify_bind (fun s filed => filed.setPartitioning _) trivial

end

end DiskManager
