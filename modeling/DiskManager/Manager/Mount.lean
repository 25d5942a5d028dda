import DiskManager.Manager.Crypt

/-!
# Mounting

`DiskManager::Mount` and what it calls. The record is copied under the lock, the copy is worked on
while the daemon mounts, and the whole copy is written back under the lock. Functions that take
the copy by reference return it.
-/

namespace DiskManager

open Interact

section

variable [JsonLib]

/-- `EnsureFsUuidReady`: the result, the copy, and `outFsUuid`, which on failure is the uuid the
volume had. -/
def ensureFsUuidReady (volExternal : VolumeExternal) :
    ManagerProg (ErrCode × VolumeExternal × CppString) := do
  let outFsUuid := volExternal.fsUuid
  if !outFsUuid.isEmpty then
    return (if isUuidValid outFsUuid then E_OK else E_PARAMS_INVALID, volExternal, outFsUuid)
  let metadata ← call (.readMetadata (DEV_BLOCK_PREFIX ++ volExternal.id))
  if metadata.err ≠ E_OK then
    return (metadata.err, volExternal, outFsUuid)
  if !isUuidValid metadata.uuid then
    return (E_PARAMS_INVALID, volExternal, outFsUuid)
  let uuid ← Prog.atomically fun s =>
    let uuid := dedupFsUuidUnlocked s.volumeMap volExternal.id metadata.uuid
    (uuid, s.updateVolume volExternal.id fun vol => { vol with fsUuid := uuid })
  return (E_OK, { volExternal with
    fsUuid := uuid, description := metadata.label, fsType := getFsTypeByStr metadata.type }, uuid)

/-! ## FUSE -/

/-- `RollbackFuseMount`. -/
def rollbackFuseMount (volumeId fsUuid : CppString) : ManagerProg ErrCode := do
  if !isUuidValid fsUuid then
    return E_PARAMS_INVALID
  let fusePath := EXTERNAL_MOUNT_ROOT ++ fsUuid
  if (← call (.isPathMounted fusePath)) then
    let err ← call (.unmount fusePath FUSE_UMOUNT_FS_TYPE true)
    if err ≠ E_OK then
      return err
  call (.notifyUsbFuseUmount volumeId)

/-- `MountUsbFuseIfNeeded`: the result and `fuseMountedOut`. -/
def mountUsbFuseIfNeeded (volumeId fsType fsUuid : CppString) (useFuseData : Bool) :
    ManagerProg (ErrCode × Bool) := do
  if !useFuseData then
    return (E_OK, false)
  if !(← call (.isUsbFuseEnabledForFsType fsType)) then
    return (E_OK, false)
  if !isUuidValid fsUuid then
    return (E_PARAMS_INVALID, false)
  let mountPath := EXTERNAL_MOUNT_ROOT ++ fsUuid
  let (err, fuseFd) ← call (.mountFuseDevice mountPath)
  if err ≠ E_OK then
    return (err, false)
  let err ← call (.notifyUsbFuseMount fuseFd volumeId fsUuid)
  if err ≠ E_OK then
    let _ ← call (.unmount mountPath FUSE_UMOUNT_FS_TYPE true)
    return (err, false)
  return (E_OK, true)

/-! ## The data mount -/

/-- `MountDataPathParams`, without the copy it refers to. -/
structure MountDataPathParams : Type where
  fsUuid : CppString
  policy : VolumeMountPolicy
  voldataMappingCreated : Bool := false
  dataMountPath : CppString := []
  fuseMounted : Bool := false
  diskFlag : DiskType := 0
  readOnly : Bool := false

/-- `BuildMountDataPath`: the path, and whether a voldata mapping was made for it. -/
def buildMountDataPath (params : MountDataPathParams) : ManagerProg (CppString × Bool) := do
  if params.policy.useVoldataPath then
    return ← resolveVoldataMountPath params.fsUuid
  if params.policy.useDvrPath then
    return (EXTERNAL_DVR_ROOT ++ params.fsUuid, false)
  if params.policy.useFuseData then
    return (EXTERNAL_FUSE_DATA_ROOT ++ params.fsUuid, false)
  return (EXTERNAL_MOUNT_ROOT ++ params.fsUuid, false)

/-- `MountVolumeSetPath`. -/
def mountVolumeSetPath (volExternal : VolumeExternal) (dataMountPath : CppString) :
    ManagerProg ErrCode := do
  if (← updateVolumeIfFound volExternal.id fun vol => { vol with path := dataMountPath }) then
    return E_OK
  return E_NON_EXIST

/-- What `ExecuteVolumeDataMount` takes back when the mount or its record fails. -/
def undoVolumeDataMount (volExternal : VolumeExternal) (params : MountDataPathParams) :
    ManagerProg Unit := do
  if params.policy.useVoldataPath && params.voldataMappingCreated then
    let _ ← onStore (removeByFsUuid params.fsUuid)
  if params.fuseMounted then
    let _ ← rollbackFuseMount volExternal.id params.fsUuid

def executeVolumeDataMount (volExternal : VolumeExternal) (fsType : CppString)
    (params : MountDataPathParams) : ManagerProg (ErrCode × VolumeExternal) := do
  let mountFlag ← readPersistUsbReadonlyMountFlagBits params.policy.useFuseData
  let mountFlag := if params.readOnly then mountFlag ||| MS_RDONLY else mountFlag
  let mountFlag :=
    if (fsType = "hmfs" ∨ fsType = "f2fs") ∧
        (volExternal.isUserData ∨ params.policy.useVoldataPath = false) then HMFS_FLAG
    else mountFlag
  let mountData := buildMountDataOptions params.policy.useVoldataPath
  let err ← call (.mount (DEV_BLOCK_PREFIX ++ volExternal.id) params.dataMountPath fsType mountFlag
    mountData)
  if err ≠ E_OK then
    undoVolumeDataMount volExternal params
    return (err, { volExternal with state := .unmounted })
  let volExternal := { volExternal with path := params.dataMountPath, state := .mounted }
  let err ← mountVolumeSetPath volExternal params.dataMountPath
  if err ≠ E_OK then
    let _ ← call (.unmount params.dataMountPath fsType true)
    undoVolumeDataMount volExternal params
    return (err, { volExternal with state := .unmounted })
  if isInternalDataDiskType params.diskFlag then
    call (.notifyVolumeMounted volExternal.diskId volExternal.id params.dataMountPath)
  let volExternal :=
    applyDefaultVolumeDescriptionIfUnset { volExternal with flags := params.diskFlag }
      params.diskFlag
  call (.publishVolumeChange .mounted volExternal)
  return (E_OK, volExternal)

def mountVolumeFilesystem (volExternal : VolumeExternal) (fsType fsUuid : CppString)
    (readOnly : Bool) : ManagerProg (ErrCode × VolumeExternal) := do
  let policy ← computeVolumeMountPolicy volExternal.diskId fsType
  let (fuseErr, fuseMounted) ←
    mountUsbFuseIfNeeded volExternal.id fsType fsUuid policy.useFuseData
  if fuseErr ≠ E_OK then
    return (fuseErr, volExternal)
  let params : MountDataPathParams := { fsUuid, policy, readOnly, fuseMounted }
  let (dataMountPath, voldataMappingCreated) ← buildMountDataPath params
  if dataMountPath.isEmpty then
    if fuseMounted then
      let _ ← rollbackFuseMount volExternal.id fsUuid
    return (DISK_MGR_ERR, { volExternal with state := .unmounted })
  let diskFlag ← Prog.read fun s => resolveVolumeFlagsUnlocked s.diskMap volExternal.diskId
  executeVolumeDataMount volExternal fsType
    { params with dataMountPath, voldataMappingCreated, diskFlag }

/-! ## The entry points -/

/-- The check before the mount of a volume with a voldata path, and the repair the check may ask
for. -/
def checkBeforeMount (volExternal : VolumeExternal) (volumeId fsType : CppString) :
    ManagerProg (ErrCode × VolumeExternal) := do
  let devPath := DEV_BLOCK_PREFIX ++ volExternal.id
  setVolumeStateLocked volumeId .checking
  call (.publishVolumeResult .checking { volExternal with state := .checking })
  let checkErr ← call (.check devPath fsType)
  if checkErr = E_VOL_NEED_FIX then
    setVolumeStateLocked volumeId .repairStart
    call (.publishVolumeResult .repairStart { volExternal with state := .repairStart })
    setVolumeStateLocked volumeId .repairing
    let repairErr ← call (.repair devPath fsType)
    if repairErr ≠ E_OK then
      let volExternal := { volExternal with state := .repairFinishFail }
      setVolumeStateLocked volumeId .repairFinishFail
      call (.publishVolumeResult .repairFinishFail volExternal)
      return (repairErr, volExternal)
    call (.publishVolumeResult .repairFinishSuccess { volExternal with state := .repairing })
    setVolumeStateLocked volumeId .unmounted
    return (E_OK, { volExternal with state := .unmounted })
  if checkErr ≠ E_OK then
    let volExternal := { volExternal with state := .repairFinishFail }
    setVolumeStateLocked volumeId .repairFinishFail
    call (.publishVolumeResult .repairFinishFail volExternal)
    return (checkErr, volExternal)
  call (.publishVolumeResult .repairFinishSuccess { volExternal with state := .checking })
  setVolumeStateLocked volumeId .unmounted
  return (E_OK, { volExternal with state := .unmounted })

/-- The end of `MountVolumeEntry`: a failed mount leaves the copy unmounted. -/
def mountCheckedVolume (volExternal : VolumeExternal) (fsType fsUuid : CppString)
    (readOnly : Bool) : ManagerProg (ErrCode × VolumeExternal) := do
  let (mountErr, volExternal) ← mountVolumeFilesystem volExternal fsType fsUuid readOnly
  if mountErr ≠ E_OK then
    return (mountErr, { volExternal with state := .unmounted })
  return (mountErr, volExternal)

def mountVolumeEntry (volExternal : VolumeExternal) (volumeId : CppString) (readOnly : Bool) :
    ManagerProg (ErrCode × VolumeExternal) := do
  let (uuidErr, volExternal, fsUuid) ← ensureFsUuidReady volExternal
  let fsType := volExternal.fsType.getFsTypeString
  if uuidErr ≠ E_OK then
    return (uuidErr, { volExternal with state := .unmounted })
  let policy ← computeVolumeMountPolicy volExternal.diskId fsType
  if policy.useVoldataPath then
    let (checkErr, volExternal) ← checkBeforeMount volExternal volumeId fsType
    if checkErr ≠ E_OK then
      return (checkErr, volExternal)
    mountCheckedVolume volExternal fsType fsUuid readOnly
  else
    mountCheckedVolume volExternal fsType fsUuid readOnly

/-- The states `Mount` starts from, and in which it writes a successful mount back. -/
def VolumeState.mountable (state : VolumeState) : Bool :=
  state = .unmounted || state = .decrypting || state = .formatFinishFail

/-- The last section of `Mount`: the copy is written back, unless the mount succeeded and the
state no longer allows it. -/
def mountWriteBack (volumeId : CppString) (mountErr : ErrCode) (volExternal : VolumeExternal) :
    ManagerProg ErrCode :=
  Prog.atomically fun s =>
    match s.volumeMap[volumeId]? with
    | none => (E_NON_EXIST, s)
    | some vol =>
        if mountErr = E_OK ∧ vol.state.mountable = false then (E_VOL_MOUNT_ERR, s)
        else (mountErr, s.updateVolume volumeId fun _ => volExternal)

def mount (volumeId : CppString) (mountParam : MountParam) : ManagerProg ErrCode := do
  if (← call (.getParameter "persist.edm.external_storage_card_disable")) = "true" then
    return E_NON_EXIST
  match ← findVolume volumeId with
  | none => return E_NON_EXIST
  | some volExternal =>
      if !volExternal.state.mountable then
        return E_VOL_MOUNT_ERR
      let devPath ← checkVolId volumeId
      if (← call (.isEdmControlMountEnabled volExternal mountParam)) then
        return E_OK
      if !devPath.isEmpty && CppString.startsWith volumeId CRYPT_VOLUME_PREFIX then
        return ← mountVolumeByPath volExternal.diskId devPath { readOnly := volExternal.mountFlag }
      let (mountErr, volExternal) ← mountVolumeEntry volExternal volumeId mountParam.readOnly
      mountWriteBack volumeId mountErr volExternal

end

end DiskManager
