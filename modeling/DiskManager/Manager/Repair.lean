import DiskManager.Manager.Unmount

/-!
# Formatting and repairing

`DiskManager::Format`, `FormatPartition` and `TryToFix`. After a format the record takes its uuid
from the new file system; a repair ends with a mount.
-/

namespace DiskManager

open Interact

section

variable [JsonLib]

/-! ## Format -/

/-- `PublishFormatFailEvent`. -/
def publishFormatFailEvent (volumeId : CppString) : ManagerProg Unit := do
  setVolumeStateLocked volumeId .formatFinishFail
  if let some vol ← findVolume volumeId then
    call (.publishVolumeResult .formatFinishFail vol)

/-- `UpdateVolumeAfterFormat`. The result of `ReadMetadata` is not looked at. -/
def updateVolumeAfterFormat (volumeId fsType diskId oldFsUuid devPath : CppString) :
    ManagerProg ErrCode := do
  let metadata ← call (.readMetadata devPath)
  if !isUuidValid metadata.uuid then
    return E_PARAMS_INVALID
  let uuid ← Prog.read fun s => dedupFsUuidUnlocked s.volumeMap volumeId metadata.uuid
  updateVoldataMappingAfterFormat diskId oldFsUuid uuid fsType
  let found ← updateVolumeIfFound volumeId fun vol =>
    { vol with
      fsUuid := uuid
      description := metadata.label
      fsType := getFsTypeByStr fsType
      state := .unmounted }
  return if found then E_OK else E_NON_EXIST

/-- The states `Format` starts from. -/
def VolumeState.formattable (state : VolumeState) : Bool :=
  state = .unmounted || state = .formatFinishFail || state = .damaged

def format (volumeId fsType : CppString) : ManagerProg ErrCode := do
  match ← findVolume volumeId with
  | none => return E_NON_EXIST
  | some vol =>
      if vol.fsType = .mtp then
        return E_NOT_SUPPORT
      -- The lock of the lookup above is held until the state has been checked.
      if (← isDiskSupported vol.diskId) ≠ E_OK then
        return E_NOT_SUPPORT
      if !vol.state.formattable then
        return E_VOL_STATE
      let partitionType ← Prog.read fun s => (s.diskMap[vol.diskId]?.map (·.partitionType)).getD []
      let devPath ← checkVolId volumeId
      if devPath.isEmpty then
        return E_NON_EXIST
      let err ← call (.formatVolume devPath fsType (DEV_BLOCK_PREFIX ++ vol.diskId) partitionType
        vol.partitionNum)
      if err ≠ E_OK then
        publishFormatFailEvent volumeId
        return err
      updateVolumeAfterFormat volumeId fsType vol.diskId vol.fsUuid devPath

/-- The loop of `IsVolumeMounted` over the volumes of the disk. -/
def anyVolumeMounted (partitionNum : Int) : List CppString → ManagerProg Bool
  | [] => return false
  | item :: volIds => do
      match ← getVolumeById item with
      | none => anyVolumeMounted partitionNum volIds
      | some external =>
          if external.partitionNum = partitionNum ∧ external.state ≠ .unmounted then
            return true
          anyVolumeMounted partitionNum volIds

def isVolumeMounted (diskId : CppString) (partitionNum : Int) : ManagerProg Bool := do
  match ← getDiskById diskId with
  | none => return true
  | some disk =>
      if disk.volumeIds.isEmpty then
        return true
      anyVolumeMounted partitionNum disk.volumeIds

/-- `RefreshVolumeAfterFormatPartition`: a failure is only logged. -/
def refreshVolumeAfterFormatPartition (fmtVol : VolumeExternal) (fsType diskId : CppString) :
    ManagerProg Unit := do
  if fmtVol.id.isEmpty then
    return
  let devPath ← checkVolId fmtVol.id
  if devPath.isEmpty then
    return
  let _ ← updateVolumeAfterFormat fmtVol.id fsType diskId fmtVol.fsUuid devPath

/-- The `sgdisk` type code of a partition `FormatPartition` accepts. -/
def formatTypeCode (type : CppString) : Option CppString :=
  if type = "ext4" then some "0x8300"
  else if type = "exfat" ∨ type = "vfat" then some "0x0700"
  else none

/-- `FormatPartition`. `FindVolumeForPartition` is the loop of `findVolumeByPartNum` with an empty
record for no volume. -/
def formatPartition (diskId : CppString) (partitionNum : Int) (params : FormatParams) :
    ManagerProg ErrCode := do
  match ← getDiskById diskId with
  | none => return E_NON_EXIST
  | some disk =>
      if disk.diskType ≠ SD_FLAG ∧ disk.diskType ≠ USB_FLAG then
        return E_FORMAT_PARTITION_NOT_SUPPORT
      if (← isVolumeMounted diskId partitionNum) then
        return E_VOL_STATE
      let fmtVol := (← findVolumeByPartNum partitionNum disk.volumeIds).getD .empty
      match ← Prog.read fun s => s.partitionTableMap[diskId]? with
      | none => return E_NON_EXIST
      | some info =>
          if !info.lists partitionNum then
            return E_NON_EXIST
          match formatTypeCode params.fsType with
          | none => return E_PARAMS_INVALID
          | some code =>
              let devPath := disk.sysPath ++ CppString.ofInt partitionNum
              let typeIdentifier := CppString.ofInt partitionNum ++ ":" ++ code
              let ret ← call (.formatPartition devPath params.fsType params.volumeName
                ["sgdisk", "-t", typeIdentifier, DEV_BLOCK_PREFIX ++ diskId] params.quickFormat)
              if ret ≠ E_OK then
                if !fmtVol.id.isEmpty then
                  call (.publishVolumeResult .formatFinishFail fmtVol)
                return E_FORMAT_PARTITION_ERROR
              refreshVolumeAfterFormatPartition fmtVol params.fsType diskId
              return E_OK

/-- `FormatPartition` for the disk that is shown. -/
def formatShownPartition (diskId : CppString) (partitionNum : Int) (params : FormatParams) :
    Option Disk → ManagerProg ErrCode
  | none => return E_NON_EXIST
  | some disk => do
      if disk.diskType ≠ SD_FLAG ∧ disk.diskType ≠ USB_FLAG then
        return E_FORMAT_PARTITION_NOT_SUPPORT
      if (← isVolumeMounted diskId partitionNum) then
        return E_VOL_STATE
      let fmtVol := (← findVolumeByPartNum partitionNum disk.volumeIds).getD .empty
      match ← Prog.read fun s => s.partitionTableMap[diskId]? with
      | none => return E_NON_EXIST
      | some info =>
          if !info.lists partitionNum then
            return E_NON_EXIST
          match formatTypeCode params.fsType with
          | none => return E_PARAMS_INVALID
          | some code =>
              let devPath := disk.sysPath ++ CppString.ofInt partitionNum
              let typeIdentifier := CppString.ofInt partitionNum ++ ":" ++ code
              let ret ← call (.formatPartition devPath params.fsType params.volumeName
                ["sgdisk", "-t", typeIdentifier, DEV_BLOCK_PREFIX ++ diskId] params.quickFormat)
              if ret ≠ E_OK then
                if !fmtVol.id.isEmpty then
                  call (.publishVolumeResult .formatFinishFail fmtVol)
                return E_FORMAT_PARTITION_ERROR
              refreshVolumeAfterFormatPartition fmtVol params.fsType diskId
              return E_OK

theorem formatPartition_eq (diskId : CppString) (partitionNum : Int) (params : FormatParams) :
    formatPartition diskId partitionNum params =
      getDiskById diskId >>= formatShownPartition diskId partitionNum params := rfl

/-! ## Repair -/

/-- The failure branch of `RepairAndCheckVolume`. -/
def repairFailed (volExternal : VolumeExternal) (volumeId : CppString) (err : ErrCode) :
    ManagerProg (ErrCode × VolumeExternal) := do
  let volExternal := { volExternal with state := .repairFinishFail }
  setVolumeStateLocked volumeId .repairFinishFail
  call (.publishVolumeResult .repairFinishFail volExternal)
  return (err, volExternal)

/-- The success branch of `RepairAndCheckVolume`. -/
def repairSucceeded (volExternal : VolumeExternal) (volumeId : CppString) :
    ManagerProg (ErrCode × VolumeExternal) := do
  call (.publishVolumeResult .repairFinishSuccess volExternal)
  setVolumeStateLocked volumeId .unmounted
  return (E_OK, { volExternal with state := .unmounted })

def repairAndCheckVolume (volExternal : VolumeExternal) (volumeId : CppString) :
    ManagerProg (ErrCode × VolumeExternal) := do
  let devPath := DEV_BLOCK_PREFIX ++ volExternal.id
  let fsType := volExternal.fsType.getFsTypeString
  let volExternal := { volExternal with state := .checking }
  setVolumeStateLocked volumeId .checking
  call (.publishVolumeResult .checking volExternal)
  let fixErr ← call (.repair devPath fsType)
  if fixErr ≠ E_OK then
    return ← repairFailed volExternal volumeId fixErr
  let policy ← computeVolumeMountPolicy volExternal.diskId fsType
  if policy.useVoldataPath then
    let checkErr ← call (.check devPath fsType)
    if checkErr ≠ E_OK then
      return ← repairFailed volExternal volumeId checkErr
    repairSucceeded volExternal volumeId
  else
    repairSucceeded volExternal volumeId

/-- `TryToFix` from the unmounted volume on. -/
def fixUnmounted (volExternal : VolumeExternal) (volumeId : CppString) : ManagerProg ErrCode := do
  let (rcErr, volExternal) ← repairAndCheckVolume volExternal volumeId
  if rcErr ≠ E_OK then
    return rcErr
  let (mountErr, volExternal) ← mountVolumeEntry volExternal volumeId false
  if (← updateVolumeIfFound volumeId fun _ => volExternal) then
    return mountErr
  return E_NON_EXIST

def tryToFix (volumeId : CppString) : ManagerProg ErrCode := do
  match ← findVolume volumeId with
  | none => return E_NON_EXIST
  | some volExternal =>
      if volExternal.state = .damagedMounted ∨ volExternal.state = .mounted then
        let previousState := volExternal.state
        let volExternal ← notifyVolumeEjecting volumeId volExternal []
        let umErr ← unmountVolumeMountPoints volExternal true
        if umErr ≠ E_OK then
          restoreVolumeState volumeId previousState
          return umErr
        updateVolume volumeId fun vol => { vol with path := [], state := .unmounted }
        fixUnmounted { volExternal with path := [], state := .unmounted } volumeId
      else
        fixUnmounted volExternal volumeId

end

end DiskManager
