import DiskManager.Manager.PartitionTable
import DiskManager.Uevent.Cdrom

/-!
# Uevents of block disks

`UeventBootstrap::HandleDiskAdd`, `HandleDiskChange` and `HandleDiskRemove`, and the repartition of
a disk, which ends with the discovery of its volumes. A partition table is compared with the one of
the last event: `diskPartsSnapshot_` says which volumes to make and which to take down. The messages
for `WaitForPartitionDone` and the reports to the radar are left out.
-/

namespace DiskManager

open Interact

section

variable [JsonLib]

/-! ## The partition table -/

/-- `BuildAndSyncPartitions`: the result, the partitions, `isUserData` and the table type. The table
type is empty when the dump has no `DISK` line. `ReplacePartitionsForDisk` does nothing. -/
def buildAndSyncPartitions (env : UeventEnv) (diskId diskDevPath : CppString) :
    ManagerProg (ErrCode × List PartitionRecord × Bool × CppString) := do
  let err ← call (.createBlockDeviceNode diskDevPath K_DISK_BLOCK_DEVICE_NODE_MODE
    (toInt32 env.major) (toInt32 env.minor))
  if err ≠ E_OK then
    return (err, [], false, [])
  let (err, rawDump) ← call (.readPartitionTable diskDevPath)
  if err ≠ E_OK then
    let (sizeErr, diskSize) ← call (.getDiskSize env.devName)
    if sizeErr = E_OK ∧ 0 < diskSize ∧ MIN_DISK_SIZE_MB < diskSize / BYTES_PER_MB then
      return (E_STORAGE_VALID_NODE, [], false, [])
    let _ ← call (.destroyBlockDeviceNode diskDevPath)
    return (err, [], false, [])
  let (rawDump, isUserData) := rewriteUserData rawDump
  let (tableType, parts) := parseSgdiskDump rawDump diskId
  if tableType.isEmpty ∧ env.major ≠ DISK_CD_MAJOR then
    let _ ← call (.destroyBlockDeviceNode diskDevPath)
    return (DISK_MGR_ERR, parts, isUserData, tableType)
  return (E_OK, parts, isUserData, tableType)

/-- `PartitionKeyEqual`. -/
def partitionKeyEqual (a b : PartitionRecord) : Bool :=
  a.partitionNumber = b.partitionNumber && a.partitionType = b.partitionType &&
    a.fsTypeRaw = b.fsTypeRaw

/-- `ContainsPartition`. -/
def containsPartition (list : List PartitionRecord) (target : PartitionRecord) : Bool :=
  list.any fun r => partitionKeyEqual r target

/-- What is in `parts` and not in `others`. -/
def partsBeyond (parts others : List PartitionRecord) : List PartitionRecord :=
  parts.filter fun p => !containsPartition others p

/-- The partitions that came and those that went since the table `old`. -/
def partitionDiff (old : Option (List PartitionRecord)) (newParts : List PartitionRecord) :
    List PartitionRecord × List PartitionRecord :=
  match old with
  | none => (newParts, [])
  | some old => (partsBeyond newParts old, partsBeyond old newParts)

/-- `ComputePartitionDiff`: the added and the removed partitions. -/
def computePartitionDiff (diskId : CppString) (newParts : List PartitionRecord) :
    ManagerProg (List PartitionRecord × List PartitionRecord) :=
  Prog.atomically fun s =>
    (partitionDiff s.diskPartsSnapshot[diskId]? newParts,
      { s with diskPartsSnapshot := s.diskPartsSnapshot.insert diskId newParts })

def clearPartitionSnapshot (diskId : CppString) : ManagerProg Unit :=
  Prog.modify fun s => { s with diskPartsSnapshot := s.diskPartsSnapshot.erase diskId }

/-! ## Discovery -/

/-- The volumes of the partitions that came and went, and the whole-disk volume of a disk that has
no partition (any more). -/
def syncVolumes (env : UeventEnv) (diskId : CppString) (publishNewDiskEvent : Bool)
    (parts : List PartitionRecord) (isUserData : Bool) (tableType : CppString) :
    ManagerProg Unit := do
  let (addedParts, removedParts) ← computePartitionDiff diskId parts
  removedParts.forM fun rp => do
    let _ ← destroyVolumeByDiskIdAndPartNum diskId (toInt32 rp.partitionNumber)
  addedParts.forM fun p => discoverSinglePartitionVolume env diskId p isUserData
  if parts.isEmpty && (publishNewDiskEvent || !removedParts.isEmpty) then
    discoverWholeDiskVolume env diskId isUserData tableType

/-- The internal data disk that is being partitioned: every partition is discovered and formatted,
and the snapshot is left as it is. -/
def isPartitioningInternal (diskId : CppString) : ManagerProg Bool := do
  if (← isPartitioning diskId) then
    isInternalDataDiskById diskId
  else
    return false

/-- The disk whose table cannot be read and that is large enough to be one. -/
def discoverUnreadableDisk (env : UeventEnv) (diskId : CppString) (publishNewDiskEvent : Bool)
    (tableType : CppString) : ManagerProg Unit := do
  upsertDiskAndPublishEvent env diskId publishNewDiskEvent tableType
  if (← isInternalDataDiskById diskId) then
    return
  if (← isPartitioning diskId) then
    return
  call (.publishDiskAbnormal diskId .partitionTableReadFailed)

/-- The disk with a partition table. -/
def discoverReadDisk (env : UeventEnv) (diskId : CppString) (publishNewDiskEvent : Bool)
    (parts : List PartitionRecord) (isUserData : Bool) (tableType : CppString) :
    ManagerProg Unit := do
  upsertDiskAndPublishEvent env diskId publishNewDiskEvent tableType
  if (← isPartitioningInternal diskId) then
    parts.forM fun p => discoverSinglePartitionVolume env diskId p isUserData
  else
    syncVolumes env diskId publishNewDiskEvent parts isUserData tableType

def discoverPartitionsAndVolumes (env : UeventEnv) (publishNewDiskEvent : Bool) :
    ManagerProg ErrCode := do
  let diskId := diskIdFrom env.major env.minor
  if env.major = DISK_CD_MAJOR then
    discoverCdromVolumes env diskId publishNewDiskEvent
  else
    let (err, parts, isUserData, tableType) ←
      buildAndSyncPartitions env diskId (blockPathForId diskId)
    if err = E_STORAGE_VALID_NODE then
      discoverUnreadableDisk env diskId publishNewDiskEvent tableType
      return E_OK
    if err ≠ E_OK then
      if !publishNewDiskEvent then
        destroyALLVolume diskId
        clearPartitionSnapshot diskId
      return err
    discoverReadDisk env diskId publishNewDiskEvent parts isUserData tableType
    return E_OK

/-! ## The events -/

def handleDiskRemove (env : UeventEnv) : ManagerProg ErrCode := do
  let diskId := diskIdFrom env.major env.minor
  destroyALLVolume diskId
  let ret ← destroyALLDisk diskId
  if ret ≠ E_OK then
    return ret
  clearPartitionSnapshot diskId
  return E_OK

def handleDiskAdd (env : UeventEnv) : ManagerProg ErrCode := do
  let known ← hasDisk (diskIdFrom env.major env.minor)
  discoverPartitionsAndVolumes env !known

def handleDiskChange (env : UeventEnv) : ManagerProg ErrCode := do
  if (← isPartitioningInternal (diskIdFrom env.major env.minor)) then
    return E_OK
  let known ← hasDisk (diskIdFrom env.major env.minor)
  discoverPartitionsAndVolumes env !known

/-! ## Repartitioning -/

/-- The uevent `RediscoverDiskVolumes` makes up. -/
def rediscoverEnv (diskId : CppString) : UeventEnv :=
  { action := "change"
    major := (parseDiskIdToMajMin diskId).1
    minor := (parseDiskIdToMajMin diskId).2 }

def rediscoverDiskVolumes (diskId : CppString) : ManagerProg ErrCode :=
  discoverPartitionsAndVolumes (rediscoverEnv diskId) false

def ManagerState.eraseVolumes (s : ManagerState) (volIds : List CppString) : ManagerState :=
  volIds.foldl ManagerState.eraseVolume s

/-- The loop of `PurgeVolumesForDisk` over the uuids: the result is the last error. -/
def removeFsUuids : List CppString → ErrCode → ManagerProg ErrCode
  | [], ret => return ret
  | fsUuid :: fsUuids, ret => do
      let removeRet ← onStore (removeByFsUuid fsUuid)
      removeFsUuids fsUuids (if removeRet ≠ E_OK then removeRet else ret)

def purgeVolumesForDisk (diskId : CppString) : ManagerProg ErrCode := do
  if !(← hasDisk diskId) then
    return E_DISK_NOT_FOUND
  let vols ← Prog.read fun s => s.volumeMap.toList.filter fun kv => kv.2.diskId = diskId
  Prog.modify fun s => s.eraseVolumes (vols.map (·.1))
  removeFsUuids ((vols.map (·.2.fsUuid)).filter isUuidValid) E_OK

def addPartitioningDisk (diskId : CppString) : ManagerProg Unit :=
  Prog.modify fun s => { s with partitioningDiskIds := s.partitioningDiskIds.insert diskId }

def removePartitioningDisk (diskId : CppString) : ManagerProg Unit :=
  Prog.modify fun s =>
    { s with partitioningDiskIds := s.partitioningDiskIds.filter (· ≠ diskId) }

/-- `NormalizeDiskBlockPath`. -/
def normalizeDiskBlockPath (diskPath : CppString) : CppString :=
  if diskPath.length > DEV_BLOCK_PREFIX.length && CppString.startsWith diskPath DEV_BLOCK_PREFIX then
    diskPath
  else DEV_BLOCK_PREFIX ++ diskPath

/-- `DiskManager::Partition` while the disk is marked. -/
def partitionMarked (diskId : CppString) : ManagerProg ErrCode := do
  let ret ← purgeVolumesForDisk diskId
  if ret ≠ E_OK then
    return ret
  let ret ← call (.partition (normalizeDiskBlockPath diskId) "hmfs")
  if ret ≠ E_OK then
    return ret
  rediscoverDiskVolumes diskId

/-- `DiskManager::Partition`. Each of its returns after `AddPartitioningDisk` follows
`RemovePartitioningDisk`. -/
def partition (diskId : CppString) : ManagerProg ErrCode := do
  let ret ← isDiskSupported diskId
  if ret ≠ E_OK then
    return ret
  if (← isDiskNotReady diskId) then
    return E_VOL_STATE
  addPartitioningDisk diskId
  let ret ← partitionMarked diskId
  removePartitioningDisk diskId
  return ret

end

end DiskManager
