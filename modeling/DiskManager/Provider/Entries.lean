import DiskManager.Manager.Burn
import DiskManager.Manager.ExternalInfos
import DiskManager.Provider.CryptVolumes
import DiskManager.Provider.Idle

/-!
# The entry points of the service

What a client or storage_daemon can call of `DiskManagerProvider`. Each entry point asks the platform
about its caller, looks at its arguments and runs an operation of the manager. The mutex of the
entry points for encrypted containers is left out, and so is the stub for builds without
`PC_MANAGER`.
-/

namespace DiskManager

open Interact

/-! ## Requests -/

/-- The requests of the entry points beside those of the provider: more about the caller, and the
calls to storage_daemon about optical discs. -/
inductive EntryReq : Type
  | provider (q : ProviderReq)
  -- the caller
  | getCallingUid
  | getCallingBundleOrNativeProcessName
  | getCallingUserId
  -- storage_daemon
  | erase (devPath : CppString)
  | createIsoImage (devPath filePath fsType mountPath : CppString)
  | getVolumeOpProcess (volumeId : CppString)

@[reducible] def EntryReq.Resp : EntryReq → Type
  | .provider q => q.Resp
  | .getCallingUid => Int
  | .getCallingBundleOrNativeProcessName => CppString
  | .getCallingUserId => Int
  | .erase _ => ErrCode
  | .createIsoImage .. => ErrCode
  | .getVolumeOpProcess _ => ErrCode × Int

abbrev EntryProg (α : Type) : Type := Prog ProviderState EntryReq EntryReq.Resp α

abbrev EntryHistory : Type := History ProviderState EntryReq EntryReq.Resp

def onProvider {α : Type} (p : ProviderProg α) : EntryProg α :=
  p.lift id (fun s _ => s) .provider fun _ r => r

/-- `DiskManager::GetInstance()` -/
def manage {α : Type} (p : ManagerProg α) : EntryProg α := onProvider (onManager p)

def entryCall (q : EntryReq) : EntryProg q.Resp := Prog.request q

/-! ## Optical discs -/

def erase (volumeId : CppString) : EntryProg ErrCode := do
  match ← manage (findVolume volumeId) with
  | none => return E_PARAMS_INVALID
  | some vol =>
      if !isOddFsType vol.fsType.getFsTypeString then
        return E_NOT_SUPPORT
      if (← entryCall (.erase (DEV_BLOCK_PREFIX ++ vol.id))) ≠ E_OK then
        return E_ERASE_FAILED
      if (← manage (eject vol.diskId)) ≠ E_OK then
        return E_ERASE_FAILED
      return E_OK

def createIsoImage (volumeId filePath : CppString) : EntryProg ErrCode := do
  match ← manage (findVolume volumeId) with
  | none => return E_NOT_SUPPORT
  | some vol =>
      if vol.state ≠ .mounted then
        return E_VOL_STATE
      let fsType := vol.fsType.getFsTypeString
      if !isOddFsType fsType then
        return E_NOT_SUPPORT
      if filePath.isEmpty then
        return E_PARAMS_INVALID
      match ← manage (getDiskById vol.diskId) with
      | none => return E_PARAMS_INVALID
      | some disk =>
          if disk.cdromState = .emptyDisc then
            return E_EMPTY_DISC
          let err ← entryCall
            (.createIsoImage (DEV_BLOCK_PREFIX ++ vol.id) filePath fsType vol.path)
          return if err ≠ E_OK then E_ISO_WRITE_FAILED else E_OK

/-- `GetVolumeOpProcess`: the result and `progressPct`. -/
def getVolumeOpProcess (volumeId : CppString) (progressPct : Int) : EntryProg (ErrCode × Int) := do
  match ← manage (findVolume volumeId) with
  | none => return (E_PARAMS_INVALID, progressPct)
  | some vol =>
      if !isOddFsType vol.fsType.getFsTypeString then
        return (E_NOT_SUPPORT, progressPct)
      entryCall (.getVolumeOpProcess vol.id)

/-- The lines `std::getline` reads. -/
def textLines (text : CppString) : List CppString :=
  let lines := text.splitOn '\n'
  if lines.getLast? = some [] then lines.dropLast else lines

/-- The paths in the options are valid. -/
def validateBurnOptionsSubfields (burnOptions : CppString) : Bool :=
  if isFilePathInvalid burnOptions then false
  else (textLines burnOptions).all fun line =>
    match CppString.find "=" line with
    | none => true
    | some pos =>
        let key := line.take pos
        !((key = "burnPath" || key = "diskName") && isFilePathInvalid (line.drop (pos + 1)))

/-! ## The caller -/

def PERMISSION_STORAGE_MANAGER : CppString := "ohos.permission.STORAGE_MANAGER"
def PERMISSION_GET_STORAGE_VOLUME_INFO : CppString := "ohos.permission.GET_STORAGE_VOLUME_INFO"
def CRYPTO_USB_MGR_SERVICE_UID : Int := 7060

/-- A part of the system that passes `mayCall`; `refused` makes a result of the code it is refused
with. -/
def asSystemApp {α : Type} (mayCall : ProviderProg Bool) (refused : ErrCode → α)
    (run : EntryProg α) : EntryProg α := do
  if !(← onProvider (invoke .isCallingSystemApp)) then
    return refused E_SYS_APP_PERMISSION_DENIED
  if !(← onProvider mayCall) then
    return refused E_PERMISSION_DENIED
  run

/-- storage_manager, or who has the permission. -/
def asClient {α : Type} (permissionName : CppString) (refused : ErrCode → α)
    (run : EntryProg α) : EntryProg α :=
  asSystemApp (mayCall permissionName) refused run

/-- Who has the permission. -/
def asPermitted {α : Type} (permissionName : CppString) (refused : ErrCode → α)
    (run : EntryProg α) : EntryProg α :=
  asSystemApp (invoke (.verifyCallerPermission permissionName)) refused run

/-- Any application that has the permission. -/
def asApplication {α : Type} (permissionName : CppString) (refused : ErrCode → α)
    (run : EntryProg α) : EntryProg α := do
  if !(← onProvider (invoke (.verifyCallerPermission permissionName))) then
    return refused E_PERMISSION_DENIED
  run

/-- The service for encrypted containers. -/
def asCryptoUsb (run : EntryProg ErrCode) : EntryProg ErrCode := do
  if (← entryCall .getCallingUid) ≠ CRYPTO_USB_MGR_SERVICE_UID then
    return E_PERMISSION_DENIED
  if !(← onProvider (invoke (.verifyCallerPermission PERMISSION_MOUNT_MANAGER))) then
    return E_PERMISSION_DENIED
  run

/-! ## Volumes -/

namespace Provider

section

variable [JsonLib]

def mount (volumeId : CppString) (mountParam : MountParam) : EntryProg ErrCode :=
  asClient PERMISSION_MOUNT_MANAGER id do
    if !isVolumeIdValid volumeId then
      return E_NON_EXIST
    manage (DiskManager.mount volumeId mountParam)

def unmount (volumeId : CppString) : EntryProg ErrCode :=
  asClient PERMISSION_MOUNT_MANAGER id do
    if !isVolumeIdValid volumeId then
      return E_NON_EXIST
    manage (DiskManager.unmount volumeId)

def tryToFix (volumeId : CppString) : EntryProg ErrCode :=
  asClient PERMISSION_MOUNT_MANAGER id do
    if !isVolumeIdValid volumeId then
      return E_PARAMS_INVALID
    manage (DiskManager.tryToFix volumeId)

def setVolumeDescription (fsUuid description : CppString) : EntryProg ErrCode :=
  asClient PERMISSION_MOUNT_MANAGER id do
    if !isUuidValid fsUuid then
      return E_PARAMS_INVALID
    manage (DiskManager.setVolumeDescription fsUuid description)

/-- `GetAllVolumes`: the result and the volumes. -/
def getAllVolumes : EntryProg (ErrCode × List VolumeExternal) :=
  asClient PERMISSION_STORAGE_MANAGER (·, []) do
    return (E_OK, ← manage DiskManager.getAllVolumes)

def getVolumeByUuid (fsUuid : CppString) : EntryProg (ErrCode × Option VolumeExternal) :=
  asClient PERMISSION_STORAGE_MANAGER (·, none) do
    if !isUuidValid fsUuid then
      return (E_PARAMS_INVALID, none)
    match ← manage (Prog.read fun s => lookupVolumeByUuidUnlocked s.volumeMap fsUuid) with
    | none => return (E_NON_EXIST, none)
    | some vol => return (E_OK, some vol)

def getVolumeById (volumeId : CppString) : EntryProg (ErrCode × Option VolumeExternal) :=
  asClient PERMISSION_STORAGE_MANAGER (·, none) do
    if !isVolumeIdValid volumeId then
      return (E_PARAMS_INVALID, none)
    match ← manage (DiskManager.getVolumeById volumeId) with
    | none => return (E_NON_EXIST, none)
    | some vol => return (E_OK, some vol)

def getFreeSizeOfVolume (volumeUuid : CppString) : EntryProg (ErrCode × Int) :=
  asClient PERMISSION_STORAGE_MANAGER (·, 0) do
    if !isUuidValid volumeUuid then
      return (E_PARAMS_INVALID, 0)
    manage (DiskManager.getFreeSizeOfVolume volumeUuid)

def getTotalSizeOfVolume (volumeUuid : CppString) : EntryProg (ErrCode × Int) :=
  asClient PERMISSION_STORAGE_MANAGER (·, 0) do
    if !isUuidValid volumeUuid then
      return (E_PARAMS_INVALID, 0)
    manage (DiskManager.getTotalSizeOfVolume volumeUuid)

/-- `GetExternalVolumeInfos`: the result and the infos. -/
def getExternalVolumeInfos : EntryProg (ErrCode × List ExternalVolumeInfo) :=
  asApplication PERMISSION_GET_STORAGE_VOLUME_INFO (·, []) do
    return (E_OK, ← manage DiskManager.getExternalVolumeInfos)

/-! ## Disks -/

def getAllDisks : EntryProg (ErrCode × List Disk) :=
  asClient PERMISSION_MOUNT_MANAGER (·, []) do
    return (E_OK, ← manage DiskManager.getAllDisks)

def getDiskById (diskId : CppString) : EntryProg (ErrCode × Option Disk) :=
  asClient PERMISSION_MOUNT_MANAGER (·, none) do
    if diskId.isEmpty then
      return (E_PARAMS_INVALID, none)
    if !isDiskIdValid diskId then
      return (E_NON_EXIST, none)
    match ← manage (DiskManager.getDiskById diskId) with
    | none => return (E_NON_EXIST, none)
    | some disk => return (E_OK, some disk)

/-- `GetExternalDiskInfos`: the result and the infos. -/
def getExternalDiskInfos : EntryProg (ErrCode × List Innerkits.ExternalDiskInfo) :=
  asApplication PERMISSION_GET_STORAGE_VOLUME_INFO (·, []) do
    return (E_OK, ← manage (Prog.read (·.externalDiskInfos)))

/-- `QueryUsbIsInUse`: the result and `isInUse`. -/
def queryUsbIsInUse (diskPath : CppString) (isInUse : Bool) : EntryProg (ErrCode × Bool) :=
  asPermitted PERMISSION_MOUNT_MANAGER (·, isInUse) do
    if !isMountPathValid diskPath then
      return (E_PARAMS_INVALID, isInUse)
    match ← onProvider (invoke (.realpath diskPath)) with
    | none => return (E_PARAMS_INVALID, isInUse)
    | some realPath =>
        let (err, isInUse) ← manage (call (.queryUsbIsInUse realPath))
        return (if err ≠ E_OK then E_QUERY_VOLUME_IN_USE_ERROR else E_OK, isInUse)

/-! ## Optical discs -/

def erase (volumeId : CppString) : EntryProg ErrCode :=
  asPermitted PERMISSION_MOUNT_MANAGER id do
    if !isVolumeIdValid volumeId then
      return E_PARAMS_INVALID
    DiskManager.erase volumeId

def eject (diskId : CppString) : EntryProg ErrCode :=
  asPermitted PERMISSION_MOUNT_MANAGER id do
    if !isDiskIdValid diskId then
      return E_PARAMS_INVALID
    manage (DiskManager.eject diskId)

def createIsoImage (volumeId filePath : CppString) : EntryProg ErrCode :=
  asPermitted PERMISSION_MOUNT_MANAGER id do
    if !isVolumeIdValid volumeId then
      return E_PARAMS_INVALID
    if isFilePathInvalid filePath then
      return E_PARAMS_INVALID
    DiskManager.createIsoImage volumeId filePath

def burn (volumeId burnOptions : CppString) : EntryProg ErrCode :=
  asPermitted PERMISSION_MOUNT_MANAGER id do
    if !isVolumeIdValid volumeId then
      return E_PARAMS_INVALID
    if !validateBurnOptionsSubfields burnOptions then
      return E_PARAMS_INVALID
    let callerBundle ← entryCall .getCallingBundleOrNativeProcessName
    let callerUserId ← entryCall .getCallingUserId
    manage (DiskManager.burn volumeId burnOptions callerBundle callerUserId)

/-- `GetVolumeOpProcess`: the result and `progressPct`. -/
def getVolumeOpProcess (volumeId : CppString) (progressPct : Int) : EntryProg (ErrCode × Int) :=
  asPermitted PERMISSION_MOUNT_MANAGER (·, progressPct) do
    if !isVolumeIdValid volumeId then
      return (E_PARAMS_INVALID, progressPct)
    DiskManager.getVolumeOpProcess volumeId progressPct

/-! ## Partitions -/

def getPartitionTable (diskId : CppString) : EntryProg (ErrCode × Option PartitionTableInfo) :=
  asPermitted PERMISSION_FORMAT_MANAGER (·, none) do
    if diskId.isEmpty then
      return (E_PARAMS_INVALID, none)
    if !isDiskIdValid diskId then
      return (E_NON_EXIST, none)
    manage (DiskManager.getPartitionTable diskId)

/-- The checks of `CreatePartition`. -/
def createPartitionAccepts (diskId : CppString) (params : PartitionParams) : Bool :=
  isDiskIdValid diskId && decide (0 < params.partitionNum) &&
    decide (0 < params.startSector) && decide (0 < params.endSector) &&
    decide (params.startSector < params.endSector) && !params.typeCode.isEmpty

def createPartition (diskId : CppString) (params : PartitionParams) : EntryProg ErrCode :=
  asPermitted PERMISSION_FORMAT_MANAGER id do
    if !createPartitionAccepts diskId params then
      return E_PARAMS_INVALID
    manage (DiskManager.createPartition diskId params)

def deletePartition (diskId : CppString) (partitionNum : Int) : EntryProg ErrCode :=
  asPermitted PERMISSION_FORMAT_MANAGER id do
    if !isDiskIdValid diskId then
      return E_PARAMS_INVALID
    if partitionNum ≤ 0 then
      return E_PARAMS_INVALID
    manage (DiskManager.deletePartition diskId partitionNum)

/-- The checks of `FormatPartition`. -/
def formatPartitionAccepts (diskId : CppString) (partitionNum : Int) (params : FormatParams) :
    Bool :=
  isDiskIdValid diskId && decide (0 < partitionNum) && !params.fsType.isEmpty && params.quickFormat

def formatPartition (diskId : CppString) (partitionNum : Int) (params : FormatParams) :
    EntryProg ErrCode :=
  asPermitted PERMISSION_FORMAT_MANAGER id do
    if !formatPartitionAccepts diskId partitionNum params then
      return E_PARAMS_INVALID
    manage (DiskManager.formatPartition diskId partitionNum params)

/-! ## Encrypted containers -/

/-- `BindBlockLoopDev`, `CreateDmCryptVolume`, `DestroyDmCryptVolume`, `UnbindBlockLoopDev`,
`MountVolumeByPath` and `UmountVolumeByPath`. -/
def crypt (op : CryptOp) : EntryProg ErrCode :=
  asCryptoUsb do
    if !op.accepted then
      return E_PARAMS_INVALID
    manage op.prog

end

end Provider

end DiskManager
