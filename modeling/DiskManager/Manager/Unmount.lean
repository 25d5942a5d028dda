import DiskManager.Manager.Mount

/-!
# Unmounting

`DiskManager::Unmount`, `ForceUnmount` and `UmountVolumeByPath`. The volume is marked as ejecting,
its mount points are unmounted one after another, and the record is reset, or put back where it
was when something fails.
-/

namespace DiskManager

open Interact

section

variable [JsonLib]

/-! ## The free size, saved before the unmount -/

/-- `IsOddFsType`. -/
def isOddFsType (fsType : CppString) : Bool := fsType = "udf" || fsType = "iso9660"

/-- A string member of `ODD_INFO` in an `extraInfo` text, empty when it is not there. -/
def oddInfoMember (key extraInfo : CppString) : CppString :=
  if extraInfo.isEmpty then []
  else
    match JsonLib.parse extraInfo with
    | some root =>
        match root.member? "ODD_INFO" with
        | some oddInfo => (oddInfo.stringMember? key).getD []
        | none => []
    | none => []

def getDiscType (extraInfo : CppString) : CppString := oddInfoMember "DISC_TYPE" extraInfo

def getDriverType (extraInfo : CppString) : CppString := oddInfoMember "DRIVE_TYPE" extraInfo

/-- `GetOddFreeSize`: the result and `freeSize`. -/
def getOddFreeSize (extraInfo blockVolId : CppString) (diskInfo : StatVfs) :
    ManagerProg (ErrCode × Int) := do
  let discType := getDiscType extraInfo
  if CppString.contains "ROM" discType then
    return (E_OK, 0)
  let startTotalSize := diskInfo.bsize * diskInfo.blocks
  let startFreeSize := diskInfo.bsize * diskInfo.bfree
  let (oddRet, totalSize, freeSize) ← call (.getCapacity (DEV_BLOCK_PREFIX ++ blockVolId))
  if CppString.contains "CD" discType then
    return (oddRet, freeSize)
  if freeSize ≠ 0 then
    return (oddRet, freeSize)
  if startFreeSize = 0 then
    return (E_OK, totalSize - startTotalSize)
  return (E_OK, startFreeSize)

/-- `GetFreeSizeOfVolume`: the result and `freeSize`. -/
def getFreeSizeOfVolume (volumeUuid : CppString) : ManagerProg (ErrCode × Int) := do
  match ← Prog.read fun s => lookupVolumeByUuidUnlocked s.volumeMap volumeUuid with
  | none => return (E_NON_EXIST, 0)
  | some vol =>
      if vol.path.isEmpty then
        return (E_NON_EXIST, 0)
      match ← call (.statvfs vol.path) with
      | none => return (E_STATVFS, 0)
      | some diskInfo =>
          if isOddFsType vol.fsType.getFsTypeString then
            return ← getOddFreeSize vol.extraInfo vol.id diskInfo
          return (E_OK, diskInfo.bsize * diskInfo.bfree)

/-- `SaveVolumeFreeSize`, on the copy only. -/
def saveVolumeFreeSize (volExternal : VolumeExternal) : ManagerProg VolumeExternal := do
  let (ret, freeSize) ← getFreeSizeOfVolume volExternal.fsUuid
  if ret = E_OK ∧ 0 ≤ freeSize then
    return { volExternal with freeSize }
  return volExternal

/-! ## Ejecting -/

/-- `NotifyVolumeEjecting`: the copy; the state before is the caller's. -/
def notifyVolumeEjecting (volumeId : CppString) (volExternal : VolumeExternal)
    (umountResult : CppString) : ManagerProg VolumeExternal := do
  let volExternal := { volExternal with state := .ejecting, umountResult }
  updateVolume volumeId fun vol => { vol with state := .ejecting, umountResult }
  call (.publishVolumeChange .ejecting volExternal)
  return volExternal

/-- `RestoreVolumeState`. -/
def restoreVolumeState (volumeId : CppString) (state : VolumeState) : ManagerProg Unit :=
  updateVolume volumeId fun vol => { vol with state }

/-- `ResolveUnmountForceFlag`: the result and the flag. -/
def resolveUnmountForceFlag (volExternal : VolumeExternal) (forceUnmount : Bool) :
    ManagerProg (ErrCode × Bool) := do
  let isInternalDataDisk ← Prog.read fun s =>
    s.diskMap[volExternal.diskId]?.any (·.isInternalDataDisk)
  if !isInternalDataDisk then
    return (E_OK, forceUnmount)
  let queryPath ← resolveQueryUsbIsInUseMountPath volExternal true
  if queryPath.isEmpty then
    return (E_PARAMS_INVALID, false)
  let (queryErr, isInUse) ← call (.queryUsbIsInUse queryPath)
  if queryErr ≠ E_OK then
    return (queryErr, false)
  return (if isInUse then E_UMOUNT_BUSY else E_OK, false)

/-- `UnmountVolumeMountPoints`. -/
def unmountVolumeMountPoints (volExternal : VolumeExternal) (force : Bool) :
    ManagerProg ErrCode := do
  let fsType := volExternal.fsType.getFsTypeString
  let mountedPath := volExternal.path
  if !mountedPath.isEmpty && CppString.startsWith mountedPath EXTERNAL_FUSE_DATA_ROOT then
    let err ← call (.unmount mountedPath fsType force)
    if err ≠ E_OK then
      return err
    let fuseMountPath := buildSafeExternalMountPath volExternal.fsUuid
    if !fuseMountPath.isEmpty then
      let err ← call (.unmount fuseMountPath FUSE_UMOUNT_FS_TYPE force)
      if err ≠ E_OK then
        return err
      call (.notifyUsbFuseUmount volExternal.id)
    else
      call (.notifyUsbFuseUmount volExternal.id)
  else if !mountedPath.isEmpty then
    call (.unmount mountedPath fsType force)
  else if fsType = "mtp" ∨ fsType = "ptp" then
    let mountPath := buildSafeExternalMountPath volExternal.id
    if mountPath.isEmpty then
      return E_OK
    call (.unmount mountPath fsType force)
  else
    return E_OK

/-! ## The entry points -/

/-- The last section of `DoUnmountVolume`: an MTP or PTP volume leaves the map. -/
def unmountWriteBack (volumeId : CppString) (fsType : FsType) : ManagerProg ErrCode :=
  Prog.atomically fun s =>
    match s.volumeMap[volumeId]? with
    | none => (E_NON_EXIST, s)
    | some _ =>
        if fsType = .mtp ∨ fsType = .ptp then (E_OK, s.eraseVolume volumeId)
        else (E_OK, s.updateVolume volumeId fun vol => { vol with path := [], state := .unmounted })

/-- The data disk is looked up again before the wait of one second, which is left out. -/
def doUnmountVolume (volExternal : VolumeExternal) (forceUnmount : Bool) : ManagerProg ErrCode := do
  let previousState := volExternal.state
  let volExternal ← saveVolumeFreeSize volExternal
  let volExternal ← notifyVolumeEjecting volExternal.id volExternal []
  let (prepErr, forceUnmount) ← resolveUnmountForceFlag volExternal forceUnmount
  if prepErr ≠ E_OK then
    let volExternal ← notifyVolumeEjecting volExternal.id volExternal "umountFail"
    restoreVolumeState volExternal.id previousState
    return prepErr
  let err ← unmountVolumeMountPoints volExternal forceUnmount
  if err ≠ E_OK then
    let volExternal ← notifyVolumeEjecting volExternal.id volExternal "umountFail"
    restoreVolumeState volExternal.id previousState
    return err
  call (.publishVolumeChange .unmounted { volExternal with path := [], state := .unmounted })
  unmountWriteBack volExternal.id volExternal.fsType

/-- The states `Unmount` starts from. -/
def VolumeState.unmountable (state : VolumeState) : Bool :=
  state = .mounted || state = .damagedMounted || state = .encryptedAndLocked ||
    state = .encryptedAndUnlocked

def unmount (volumeId : CppString) : ManagerProg ErrCode := do
  match ← findVolume volumeId with
  | none => return E_NON_EXIST
  | some volExternal =>
      if !volExternal.state.unmountable then
        return E_VOL_UMOUNT_ERR
      doUnmountVolume volExternal false

def forceUnmount (volumeId : CppString) : ManagerProg ErrCode := do
  match ← findVolume volumeId with
  | none => return E_NON_EXIST
  | some volExternal => doUnmountVolume volExternal true

def umountVolumeByPath (diskId volPath : CppString) : ManagerProg ErrCode := do
  match ← getDiskById diskId with
  | none => return E_NON_EXIST
  | some disk =>
      if disk.diskType ≠ USB_FLAG then
        return E_UMOUNT_VOL_BY_PATH_FAILED
      match ← lookupVolumeByCryptPath diskId volPath with
      | none => return E_NON_EXIST
      | some volExternal =>
          if volExternal.state = .unmounted then
            return E_VOL_STATE
          doUnmountVolume volExternal false

/-! ## Removing a volume -/

/-- The loop of `DestroyVolumeByDiskIdAndPartNum` over the volumes of the disk. -/
def findVolumeByPartNum (partNum : Int) : List CppString → ManagerProg (Option VolumeExternal)
  | [] => return none
  | item :: volumeIds => do
      match ← getVolumeById item with
      | none => findVolumeByPartNum partNum volumeIds
      | some vol =>
          if vol.partitionNum = partNum then
            return some vol
          findVolumeByPartNum partNum volumeIds

/-- `DestroyVolumeByDiskIdAndPartNum` from the found volume on. A failed `ForceUnmount` is only
logged. -/
def destroyFoundVolume (vol : VolumeExternal) : ManagerProg Bool := do
  if vol.state ≠ .unmounted then
    let _ ← forceUnmount vol.id
  let ret ← call (.destroyBlockDeviceNode (DEV_BLOCK_PREFIX ++ vol.id))
  if ret ≠ E_OK then
    return false
  call (.publishVolumeChange (if vol.state = .unmounted then .removed else .badRemoval) vol)
  let _ ← onVolumeDestroyed vol.id
  return true

def destroyVolumeByDiskIdAndPartNum (diskId : CppString) (partNum : Int) : ManagerProg Bool := do
  match ← getDiskById diskId with
  | none => return false
  | some disk =>
      match ← findVolumeByPartNum partNum disk.volumeIds with
      | none => return false
      | some vol => destroyFoundVolume vol

end

end DiskManager
