import DiskManager.Manager.Records

/-!
# Encrypted containers on USB disks

A range of a USB disk is bound to a loop device, opened as a dm-crypt volume and mounted by its
path. The volume is recorded under `vol-crypt-` and the name of the loop device.
-/

namespace DiskManager

open Interact

structure CryptParam : Type where
  type : CppString
  cipher : CppString
  keySize : Int
  keyFile : CppString

def DEV_MAPPER_PREFIX : CppString := "/dev/mapper/"

/-- The id of the volume on a loop device. -/
def cryptVolumeId (loopPath : CppString) : CppString :=
  CRYPT_VOLUME_PREFIX ++ CppString.afterLast '/' loopPath

/-- `SplitRawDumpToLines`: the lines that are not empty. -/
def splitRawDumpToLines (rawDump : CppString) : List CppString :=
  (rawDump.splitOn '\n').filter fun line => !line.isEmpty

/-- `IsVolumeBind`: the loop device the range is already bound to. -/
def isVolumeBind (offset sizeLimit : Nat) : List CppString → ManagerProg (Option CppString)
  | [] => return none
  | item :: volumeIds => do
      match ← getVolumeById item with
      | none => isVolumeBind offset sizeLimit volumeIds
      | some vol =>
          if vol.offset = offset ∧ vol.sizeLimit = sizeLimit then
            return some vol.loopPath
          isVolumeBind offset sizeLimit volumeIds

/-- `BindBlockLoopDev`: the result and the loop device. Output without a line, on which the source
reads past the end of a vector, leaves the path empty here. -/
def bindBlockLoopDev (diskId : CppString) (offset sizeLimit : Nat) :
    ManagerProg (ErrCode × CppString) := do
  match ← getDiskById diskId with
  | none => return (E_NON_EXIST, [])
  | some disk =>
      if disk.diskType ≠ USB_FLAG then
        return (E_BIND_LOOP_DEV_FAILED, [])
      match ← isVolumeBind offset sizeLimit disk.volumeIds with
      | some loopPath => return (E_OK, loopPath)
      | none =>
          let (ret, output) ← call (.executeCommand
            ["loopctl", "--oh", "-f", "-o", CppString.ofNat offset, "--sizelimit",
              CppString.ofNat sizeLimit, "--show", DEV_BLOCK_PREFIX ++ diskId])
          if ret ≠ E_OK || output.isEmpty then
            return (E_BIND_LOOP_DEV_FAILED, [])
          let loopPath := (splitRawDumpToLines (output.headD [])).headD []
          let _ ← onVolumeCreated
            { id := cryptVolumeId loopPath, diskId, loopPath, offset, sizeLimit
              state := .unmounted }
          return (E_OK, loopPath)

/-- `CreateDmCryptVolume`: the result and the mapper path. -/
def createDmCryptVolume (param : CryptParam) (loopPath mapperName : CppString) :
    ManagerProg (ErrCode × CppString) := do
  match ← getVolumeById (cryptVolumeId loopPath) with
  | none => return (E_NON_EXIST, mapperName)
  | some volumeExternal =>
      if !volumeExternal.mapperPath.isEmpty then
        return (E_OK, volumeExternal.mapperPath)
      let (ret, _) ← call (.executeCommand
        ["cryptsetup", "open", "--type", param.type, "--cipher", param.cipher, "--key-size",
          CppString.ofInt param.keySize, "--key-file", param.keyFile, loopPath, mapperName])
      if ret ≠ E_OK then
        return (E_CREATE_DM_CRYPT_VOLUME_FAILED, mapperName)
      let mapperPath := DEV_MAPPER_PREFIX ++ mapperName
      let updateErr ← updateVolumeExternal { volumeExternal with mapperPath }
      if updateErr ≠ E_OK then
        return (updateErr, mapperName)
      return (E_OK, mapperPath)

/-- The loop of `DestroyDmCryptVolume`: the first volume, in key order, with the mapper path. -/
def ManagerState.clearMapperPath (s : ManagerState) (mapperPath : CppString) : ManagerState :=
  match s.volumeMap.toList.find? fun kv => kv.2.mapperPath = mapperPath with
  | none => s
  | some kv => s.updateVolume kv.1 fun vol => { vol with mapperPath := [] }

def destroyDmCryptVolume (mapperName : CppString) : ManagerProg ErrCode := do
  let mapperPath := DEV_MAPPER_PREFIX ++ mapperName
  let (ret, _) ← call (.executeCommand ["cryptsetup", "close", mapperPath])
  if ret ≠ E_OK then
    return E_DESTROY_DM_CRYPT_VOLUME_FAILED
  Prog.modify fun s => s.clearMapperPath mapperPath
  return E_OK

def unbindBlockLoopDev (loopPath : CppString) : ManagerProg ErrCode := do
  let (ret, _) ← call (.executeCommand ["loopctl", "-d", loopPath])
  if ret ≠ E_OK then
    return E_UNBIND_LOOP_DEV_FAILED
  let _ ← onVolumeDestroyed (cryptVolumeId loopPath)
  return E_OK

/-! ## Mounting by path -/

/-- The first volume of the disk, in key order, with that path. -/
def ManagerState.volumeByCryptPath (s : ManagerState) (diskId cryptPath : CppString) :
    Option VolumeExternal :=
  (s.volumeMap.toList.find? fun kv =>
    kv.2.diskId = diskId && (kv.2.loopPath = cryptPath || kv.2.mapperPath = cryptPath)).map (·.2)

def lookupVolumeByCryptPath (diskId cryptPath : CppString) : ManagerProg (Option VolumeExternal) :=
  Prog.read fun s => s.volumeByCryptPath diskId cryptPath

/-- `InitVolume`: the uuid is taken as the daemon read it. -/
def initVolume (volExternal : VolumeExternal) (volPath : CppString) :
    ManagerProg (ErrCode × VolumeExternal) := do
  let metadata ← call (.readMetadata volPath)
  if metadata.err ≠ E_OK then
    return (metadata.err, volExternal)
  if !isUuidValid metadata.uuid then
    return (E_PARAMS_INVALID, volExternal)
  let description : CppString := if metadata.label.isEmpty then "MyUSB" else metadata.label
  return (E_OK, { volExternal with
    fsUuid := metadata.uuid
    description
    fsType := getFsTypeByStr metadata.type
    path := EXTERNAL_MOUNT_ROOT ++ metadata.uuid })

def initAndMountVolume (volExternal : VolumeExternal) (volPath : CppString) (mountFlag : Nat) :
    ManagerProg (ErrCode × VolumeExternal) := do
  let (res, volExternal) ← initVolume volExternal volPath
  if res ≠ E_OK then
    return (res, volExternal)
  let res ← call
    (.mount volPath volExternal.path volExternal.fsType.getFsTypeString mountFlag [])
  return (res, volExternal)

def mountVolumeByPath (diskId volPath : CppString) (mountParam : MountParam) :
    ManagerProg ErrCode := do
  match ← getDiskById diskId with
  | none => return E_NON_EXIST
  | some disk =>
      if disk.diskType ≠ USB_FLAG then
        return E_MOUNT_VOL_BY_PATH_FAILED
      match ← lookupVolumeByCryptPath diskId volPath with
      | none => return E_NON_EXIST
      | some volExternal =>
          if volExternal.state = .mounted then
            return E_VOL_STATE
          let mountFlag ← readPersistUsbReadonlyMountFlagBits false
          let mountFlag := if mountParam.readOnly then mountFlag ||| MS_RDONLY else mountFlag
          let (res, volExternal) ← initAndMountVolume volExternal volPath mountFlag
          if res ≠ E_OK then
            return res
          let volExternal := { volExternal with
            state := .mounted, flags := disk.diskType, mountFlag := mountParam.readOnly }
          let updateErr ← updateVolumeExternal volExternal
          if updateErr ≠ E_OK then
            return updateErr
          call (.publishVolumeChange .mounted volExternal)
          return E_OK

end DiskManager
