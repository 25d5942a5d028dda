import DiskManager.Uevent.Volumes

/-!
# Optical drives

The branch of `DiscoverPartitionsAndVolumes` for major 11: there is no partition table, the daemon is
asked whether there is a disc, and an eject request takes the volume down unless it is in use.
-/

namespace DiskManager

open Interact

section

variable [JsonLib]

/-- `QueryCdromState`. -/
def queryCdromState (devPath : CppString) : ManagerProg CdromState := do
  let (ret, status) ← call (.queryCDStatus devPath)
  if ret ≠ E_OK then
    return .queryFailed
  if status.testBit 0 = false then
    return .noDisc
  if status.testBit 1 = false then
    return .nonEmptyDisc
  return .emptyDisc

/-- The uuid, type and label of an empty disc. -/
def emptyDiscMetadata (diskId volId : CppString) : ManagerProg Metadata := do
  let uuid ← call (.randomUuid diskId)
  let volume ← getVolumeById volId
  let label := (volume.map fun vol => getDriverType vol.extraInfo).getD []
  return { err := E_OK, uuid, type := "udf", label := if label.isEmpty then "DVD RW" else label }

/-- The uuid, type and label of the disc. -/
def discMetadata (diskId volId : CppString) (state : CdromState) : ManagerProg Metadata :=
  if state = .emptyDisc then emptyDiscMetadata diskId volId
  else readAndUpdateMetadata volId (blockPathForId volId)

def handleAddCD (env : UeventEnv) (diskId : CppString) (state : CdromState) :
    ManagerProg Unit := do
  let pDev := partitionDev env.major env.minor 0
  let volId := volIdFromDev pDev
  if (← createAndSetupVolume diskId pDev false 0) ≠ E_OK then
    return
  let metadata ← discMetadata diskId volId state
  -- What `ReadMetadata` gave is recorded whether it succeeded or not.
  let _ ← updateVolumeMetadata volId metadata.uuid metadata.type metadata.label
  let _ ← setVolumeDiscState volId state
  if metadata.type.isEmpty then
    return
  let _ ← mount volId {}

/-- `DiskManager::Eject`. -/
def eject (diskId : CppString) : ManagerProg ErrCode := do
  match ← getDiskById diskId with
  | none => return E_NOT_SUPPORT
  | some disk =>
      if disk.diskType ≠ CD_FLAG then
        return E_NOT_SUPPORT
      let err ← call (.eject disk.devName)
      return if err ≠ E_OK then E_EJECT_FAILED else E_OK

def ejectAndDestroyCdrom (diskId : CppString) : ManagerProg Bool := do
  let ret ← eject diskId
  if ret ≠ E_OK then
    return false
  destroyALLVolume diskId
  return true

/-- `FindMountedVolumePath`: empty when no volume of the disk is mounted at a path. -/
def findMountedVolumePath (diskId : CppString) : ManagerProg CppString := do
  let vols ← getAllVolumes
  let mounted := (volumesOfDisk diskId vols).find? fun vol =>
    vol.state = .mounted && !vol.path.isEmpty
  return (mounted.map (·.path)).getD []

def canEjectMountedCdrom (mountPath : CppString) : ManagerProg Bool := do
  let (queryErr, isInUse) ← call (.queryUsbIsInUse mountPath)
  return queryErr = E_OK && !isInUse

/-- `disk.SetCdromState(state)` and `UpdateDisk`, for a disk that is there. -/
def refreshCdromState (diskId : CppString) (state : CdromState) : ManagerProg Unit := do
  match ← getDiskById diskId with
  | none => return
  | some disk =>
      let _ ← updateDisk { disk with cdromState := state }

def tryEjectCdrom (diskId : CppString) : ManagerProg Unit := do
  match ← getDiskById diskId with
  | none => return
  | some disk =>
      if disk.cdromState ≠ .nonEmptyDisc then
        let _ ← ejectAndDestroyCdrom diskId
        return
      let mountPath ← findMountedVolumePath diskId
      if !mountPath.isEmpty then
        if !(← canEjectMountedCdrom mountPath) then
          let state ← queryCdromState (blockPathForId diskId)
          refreshCdromState diskId state
          return
      let _ ← ejectAndDestroyCdrom diskId

/-- The state of the drive, with the file system as a second source when the query fails. -/
def discState (env : UeventEnv) (diskId : CppString) : ManagerProg CdromState := do
  let state ← queryCdromState (blockPathForId (diskIdFrom env.major env.minor))
  if state = .queryFailed then
    let metadata ← call (.readMetadata (blockPathForId diskId))
    return if metadata.err = E_OK && !metadata.type.isEmpty then .nonEmptyDisc else .noDisc
  return state

def discoverSinglePartitionVolume4CD (env : UeventEnv) (diskId : CppString) :
    ManagerProg Unit := do
  if env.ejectRequest then
    tryEjectCdrom diskId
    return
  let state ← discState env diskId
  if state = .noDisc then
    destroyALLVolume diskId
    return
  refreshCdromState diskId state
  handleAddCD env diskId state

/-- `publishNewDiskEvent || !HasDisk(diskId)`: the map is only asked where it decides. -/
def isNewDisk (diskId : CppString) (publishNewDiskEvent : Bool) : ManagerProg Bool := do
  if publishNewDiskEvent then
    return true
  let known ← hasDisk diskId
  return !known

def discoverCdromVolumes (env : UeventEnv) (diskId : CppString) (publishNewDiskEvent : Bool) :
    ManagerProg ErrCode := do
  let err ← call (.createBlockDeviceNode (blockPathForId diskId) K_DISK_BLOCK_DEVICE_NODE_MODE
    (toInt32 env.major) (toInt32 env.minor))
  if err ≠ E_OK then
    return err
  let publishNew ← isNewDisk diskId publishNewDiskEvent
  upsertDiskAndPublishEvent env diskId publishNew "cd"
  discoverSinglePartitionVolume4CD env diskId
  return E_OK

end

end DiskManager
