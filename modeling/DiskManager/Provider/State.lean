import DiskManager.Interact.Tasks
import DiskManager.Uevent.Service

/-!
# The provider

`DiskManagerProvider`, the ability the clients of the service and storage_daemon call: its own
members beside those of the manager, and the requests it makes beside those of the manager. The
checks of the caller are requests, as the answer is that of the platform.
-/

namespace DiskManager

open Interact

inductive ProviderReq : Type
  | manager (q : Req)
  -- the caller
  | isCallingSystemApp
  | verifyNativeCallerMatches (expectedProcessName : CppString) (expectedUid : Int)
  | verifyCallerPermission (permissionName : CppString)
  -- the authorization client
  | acquireAuthorization (privilege : CppString)
  | authorizationResult
  | releaseAuthorization (privilege : CppString)
  -- the file system
  | realpath (path : CppString)
  -- the unloading of the ability
  | lockUnloadUevent
  | unlockUnloadUevent
  | getSystemAbilityManager
  | unloadSystemAbility

/-- `authorizationResult` waits for `OnResult`: its result code and that of its result, nothing when
the wait times out. -/
@[reducible] def ProviderReq.Resp : ProviderReq → Type
  | .manager q => q.Resp
  | .isCallingSystemApp => Bool
  | .verifyNativeCallerMatches .. => Bool
  | .verifyCallerPermission _ => Bool
  | .acquireAuthorization _ => ErrCode
  | .authorizationResult => Option (Int × Int)
  | .releaseAuthorization _ => ErrCode
  | .realpath _ => Option CppString
  | .lockUnloadUevent => Unit
  | .unlockUnloadUevent => Unit
  | .getSystemAbilityManager => Bool
  | .unloadSystemAbility => ErrCode

/-- The members of `DiskManagerProvider`, with the memory of the manager. -/
structure ProviderState : Type where
  manager : ManagerState
  dataDiskFormatBusy : Bool
  isUnloading : Bool
  pendingStorageDaemonCallbackCount : Int
  idleMonitorStopped : Bool

/-- The service after its start. -/
def ProviderState.boot : ProviderState := ⟨.boot, false, false, 0, false⟩

abbrev ProviderHistory : Type := History ProviderState ProviderReq ProviderReq.Resp

abbrev ProviderProg (α : Type) : Type := Prog ProviderState ProviderReq ProviderReq.Resp α

def invoke (q : ProviderReq) : ProviderProg q.Resp := Prog.request q

/-- Run an operation of the manager. -/
def onManager {α : Type} (p : ManagerProg α) : ProviderProg α :=
  p.lift (·.manager) (fun manager s => { s with manager }) .manager fun _ r => r

@[simp] theorem onManager_pure {α : Type} (a : α) : onManager (pure a) = pure a := rfl

@[simp] theorem onManager_bind {α β : Type} (p : ManagerProg α) (f : α → ManagerProg β) :
    onManager (p >>= f) = (onManager p >>= fun a => onManager (f a)) := lift_bind p f

@[simp] theorem onManager_read {α : Type} (f : ManagerState → α) :
    onManager (Prog.read f) = Prog.read fun s => f s.manager := rfl

@[simp] theorem onManager_call (q : Req) : onManager (call q) = invoke (.manager q) := rfl

/-! ## The caller -/

def PERMISSION_MOUNT_MANAGER : CppString := "ohos.permission.MOUNT_UNMOUNT_MANAGER"
def PERMISSION_FORMAT_MANAGER : CppString := "ohos.permission.MOUNT_FORMAT_MANAGER"
def STORAGEDAEMON_UID : Int := 0
def STORAGE_MANAGER_UID : Int := 1090

def isStorageManagerCaller : ProviderProg Bool :=
  invoke (.verifyNativeCallerMatches "storage_manager" STORAGE_MANAGER_UID)

def checkStorageDaemonPermission : ProviderProg Bool :=
  invoke (.verifyNativeCallerMatches "storage_daemon" STORAGEDAEMON_UID)

/-- The caller is storage_manager or has the permission. -/
def mayCall (permissionName : CppString) : ProviderProg Bool := do
  if (← isStorageManagerCaller) then
    return true
  invoke (.verifyCallerPermission permissionName)

/-! ## Data disks -/

/-- `ohos.privilege.format_data_disk` -/
def FORMAT_DATA_DISK_PRIVILEGE : CppString := "ohos.privilege.format_data_disk"
def AUTHORIZATION_SUCCESS : Int := 0

def isDataDiskByDiskId (diskId : CppString) : ProviderProg Bool := do
  match ← onManager (getDiskById diskId) with
  | none => return false
  | some disk => return disk.isInternalDataDisk

def isDataDisk (volumeId : CppString) : ProviderProg Bool := do
  match ← onManager (getVolumeById volumeId) with
  | none => return false
  | some vol => isDataDiskByDiskId vol.diskId

/-- `OnResult` of the callback: a failure of the call, else the result of the authorization. -/
def authorizationCode (result : Int × Int) : Int :=
  if result.1 ≠ E_OK then result.1 else result.2

def checkAdminAuthorization : ProviderProg ErrCode := do
  let acquireRet ← invoke (.acquireAuthorization FORMAT_DATA_DISK_PRIVILEGE)
  if acquireRet ≠ E_OK then
    return E_PERMISSION_DENIED
  match ← invoke .authorizationResult with
  | none => return E_PERMISSION_DENIED
  | some result =>
      return if authorizationCode result ≠ AUTHORIZATION_SUCCESS then E_PERMISSION_DENIED else E_OK

/-- `dataDiskFormatBusy_.exchange(true)`. -/
def exchangeDataDiskFormatBusy : ProviderProg Bool :=
  Prog.atomically fun s => (s.dataDiskFormatBusy, { s with dataDiskFormatBusy := true })

def storeDataDiskFormatBusy (busy : Bool) : ProviderProg Unit :=
  Prog.modify fun s => { s with dataDiskFormatBusy := busy }

/-- `run` between the authorization and its release. -/
def runAuthorized (run : ProviderProg ErrCode) : ProviderProg ErrCode := do
  let authRet ← checkAdminAuthorization
  if authRet ≠ E_OK then
    storeDataDiskFormatBusy false
    return authRet
  let err ← run
  let _ ← invoke (.releaseAuthorization FORMAT_DATA_DISK_PRIVILEGE)
  storeDataDiskFormatBusy false
  return err

/-- The common end of `Format` and `Partition`. -/
def guardDataDisk (needAdminAuth : Bool) (run : ProviderProg ErrCode) : ProviderProg ErrCode := do
  if needAdminAuth then
    if (← exchangeDataDiskFormatBusy) then
      return E_BUSY
    runAuthorized run
  else
    run

namespace Provider

section

variable [JsonLib]

def format (volumeId fsType : CppString) : ProviderProg ErrCode := do
  if !(← invoke .isCallingSystemApp) then
    return E_SYS_APP_PERMISSION_DENIED
  if !(← mayCall PERMISSION_FORMAT_MANAGER) then
    return E_PERMISSION_DENIED
  if !isVolumeIdValid volumeId then
    return E_PARAMS_INVALID
  let needAdminAuth ← isDataDisk volumeId
  guardDataDisk needAdminAuth (onManager (DiskManager.format volumeId fsType))

/-- `Partition`. The type is not looked at. -/
def partition (diskId : CppString) (_type : Int) : ProviderProg ErrCode := do
  if !(← invoke .isCallingSystemApp) then
    return E_SYS_APP_PERMISSION_DENIED
  if !(← mayCall PERMISSION_FORMAT_MANAGER) then
    return E_PERMISSION_DENIED
  if !isDiskIdValid diskId then
    return E_PARAMS_INVALID
  let needAdminAuth ← isDataDiskByDiskId diskId
  guardDataDisk needAdminAuth (onManager (DiskManager.partition diskId))

end

end Provider

/-- A request that formats or partitions. -/
inductive FormatRequest : Type
  | format (volumeId fsType : CppString)
  | partition (diskId : CppString) (type : Int)

def FormatRequest.prog [JsonLib] : FormatRequest → ProviderProg ErrCode
  | .format volumeId fsType => Provider.format volumeId fsType
  | .partition diskId type => Provider.partition diskId type

/-! ## A platform that grants everything -/

def grantingAnswer : (q : ProviderReq) → q.Resp
  | .manager q => okAnswer [] q
  | .isCallingSystemApp => true
  | .verifyNativeCallerMatches .. => true
  | .verifyCallerPermission _ => true
  | .acquireAuthorization _ => E_OK
  | .authorizationResult => some (E_OK, AUTHORIZATION_SUCCESS)
  | .releaseAuthorization _ => E_OK
  | .realpath path => some path
  | .lockUnloadUevent => ()
  | .unlockUnloadUevent => ()
  | .getSystemAbilityManager => true
  | .unloadSystemAbility => E_OK

end DiskManager
