import DiskManager.Manager.Lookup

/-!
# Records

The operations that only change the two maps: disks and volumes come and go, single fields of a
volume are set, and MTP devices report their mounts.
-/

namespace DiskManager

open Interact

/-! ## Disks -/

def onDiskCreated (disk : Disk) : ManagerProg ErrCode :=
  Prog.atomically fun s =>
    if s.diskMap[disk.diskId]?.isSome then (E_DISK_HAS_EXIST, s)
    else (E_OK, { s with diskMap := s.diskMap.insert disk.diskId disk })

def hasDisk (diskId : CppString) : ManagerProg Bool :=
  Prog.read fun s => s.diskMap[diskId]?.isSome

def onDiskDestroyed (diskId : CppString) : ManagerProg ErrCode :=
  Prog.atomically fun s =>
    if s.diskMap[diskId]?.isNone then (E_DISK_NOT_FOUND, s)
    else (E_OK, { s with diskMap := s.diskMap.erase diskId })

def updateDisk (disk : Disk) : ManagerProg ErrCode :=
  Prog.atomically fun s =>
    if s.diskMap[disk.diskId]?.isNone then (E_NON_EXIST, s)
    else (E_OK, { s with diskMap := s.diskMap.insert disk.diskId disk })

/-! ## Volumes -/

/-- `volumeMap_.insert`: an entry that is there stays. -/
def ManagerState.insertVolume (s : ManagerState) (vol : VolumeExternal) : ManagerState :=
  if s.volumeMap[vol.id]?.isSome then s
  else { s with volumeMap := s.volumeMap.insert vol.id vol }

def ManagerState.eraseVolume (s : ManagerState) (volumeId : CppString) : ManagerState :=
  { s with volumeMap := s.volumeMap.erase volumeId }

def onVolumeCreated (volExternal : VolumeExternal) : ManagerProg ErrCode := do
  let flags ← Prog.read fun s => resolveVolumeFlagsUnlocked s.diskMap volExternal.diskId
  Prog.modify fun s => s.insertVolume { volExternal with flags }
  return E_OK

def onVolumeDestroyed (volumeId : CppString) : ManagerProg ErrCode :=
  Prog.atomically fun s =>
    if s.volumeMap[volumeId]?.isNone then (E_NON_EXIST, s) else (E_OK, s.eraseVolume volumeId)

def setVolumeStateLocked (volumeId : CppString) (state : VolumeState) : ManagerProg Unit :=
  updateVolume volumeId fun vol => { vol with state }

/-- `UpdateVolumeExternal`: the whole record is written back. -/
def updateVolumeExternal (volExternal : VolumeExternal) : ManagerProg ErrCode := do
  if (← updateVolumeIfFound volExternal.id fun _ => volExternal) then
    return E_OK
  return E_NON_EXIST

def updateVolumeMetadata (volumeId fsUuid fsTypeStr description : CppString) :
    ManagerProg ErrCode :=
  Prog.atomically fun s =>
    if s.volumeMap[volumeId]?.isNone then (E_NON_EXIST, s)
    else
      let resolvedUuid := dedupFsUuidUnlocked s.volumeMap volumeId fsUuid
      (E_OK, s.updateVolume volumeId fun vol =>
        { vol with fsUuid := resolvedUuid, fsType := getFsTypeByStr fsTypeStr, description })

def markVolumeAbnormal (volumeId : CppString) (reason : AbnormalReason) : ManagerProg ErrCode := do
  let found ← Prog.atomically fun s =>
    match s.volumeMap[volumeId]? with
    | none => (none, s)
    | some vol =>
        if vol.state = .unmounted then
          (some vol, s.updateVolume volumeId fun vol => { vol with state := .damaged })
        else (some vol, s)
  match found with
  | none => return E_NON_EXIST
  | some vol =>
      if vol.state = .damaged then
        return E_OK
      if vol.state ≠ .unmounted then
        return E_VOL_STATE
      call (.publishVolumeAbnormal { vol with state := .damaged } reason)
      return E_OK

def setVolumeDescription (fsUuid description : CppString) : ManagerProg ErrCode := do
  match ← Prog.read fun s => lookupVolumeByUuidUnlocked s.volumeMap fsUuid with
  | none => return E_NON_EXIST
  | some volExternal =>
      if volExternal.state ≠ .unmounted then
        return E_VOL_STATE
      let fsTypeStr := volExternal.fsType.getFsTypeString
      if description.isEmpty || 512 < description.length then
        return E_PARAMS_INVALID
      if (← isDiskSupported volExternal.diskId) ≠ E_OK then
        return E_NOT_SUPPORT
      if !LABEL_SUPPORTED_FS_TYPES.contains fsTypeStr then
        return E_NOT_SUPPORT
      let devPath ← checkVolId volExternal.id
      if devPath.isEmpty then
        return E_NON_EXIST
      let err ← call (.setLabel devPath fsTypeStr description)
      if err ≠ E_OK then
        return err
      if (← updateVolumeIfFound volExternal.id fun vol => { vol with description }) then
        return E_OK
      return E_NON_EXIST

section

variable [JsonLib]

/-- The text `SetVolumeDiscState` writes: `ODD_INFO.DISC_STATE` is set, the rest is kept. -/
def extraInfoWithDiscState (extraInfo : CppString) (discState : CdromState) : CppString :=
  let root := if extraInfo.isEmpty then Json.object []
    else
      match JsonLib.parse extraInfo with
      | some (.object members) => Json.object members
      | _ => Json.object []
  let oddInfo :=
    match root.member? "ODD_INFO" with
    | some (.object members) => Json.object members
    | _ => Json.object []
  let state := Json.number (CppString.ofNat discState.code)
  JsonLib.dump (root.setMember "ODD_INFO" (oddInfo.setMember "DISC_STATE" state))

def setVolumeDiscState (volumeId : CppString) (discState : CdromState) : ManagerProg ErrCode := do
  let found ← updateVolumeIfFound volumeId fun vol =>
    { vol with extraInfo := extraInfoWithDiscState vol.extraInfo discState }
  return if found then E_OK else E_NON_EXIST

end

/-! ## MTP devices -/

/-- `NotifyMtpMounted`: the record is complete, with the uuid the caller gives. -/
def notifyMtpMounted (id path desc uuid fsType : CppString) : ManagerProg ErrCode := do
  let name ← call (.friendlyName path)
  let mtpType : FsType :=
    if fsType = "mtpfs" then .mtp else if fsType = "gphotofs" then .ptp else .undefined
  let volExternal : VolumeExternal :=
    { id, diskId := [], path, fsType := mtpType, description := name.getD desc
      state := .mounted, fsUuid := uuid }
  Prog.modify fun s => s.insertVolume volExternal
  call (.publishVolumeChange .mounted volExternal)
  return E_OK

/-- `NotifyMtpUnmounted`. The event is published under the lock that covers the erasure. -/
def notifyMtpUnmounted (id : CppString) (isBadRemove : Bool) : ManagerProg ErrCode := do
  match ← Prog.atomically fun s => (s.volumeMap[id]?, s.eraseVolume id) with
  | none => return E_VOLUME_NOT_FOUND
  | some volExternal =>
      call (.publishVolumeChange (if isBadRemove then .badRemoval else .unmounted) volExternal)
      return E_OK

end DiskManager
