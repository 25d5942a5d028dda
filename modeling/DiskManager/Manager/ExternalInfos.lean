import DiskManager.Innerkits.Queries

/-!
# What every application may see

`GetExternalDiskInfos` and `GetExternalVolumeInfos` are open to applications that are not part of
the system. They show the disks that are not internal data disks, and of the volumes on them only
some fields.
-/

namespace DiskManager

open Interact

/-! ## Sizes -/

/-- `GetTotalSizeOfVolume`: the result and `totalSize`. The result of `GetOddCapacity` is not looked
at. -/
def getTotalSizeOfVolume (volumeUuid : CppString) : ManagerProg (ErrCode × Int) := do
  match ← Prog.read fun s => lookupVolumeByUuidUnlocked s.volumeMap volumeUuid with
  | none => return (E_NON_EXIST, 0)
  | some vol =>
      if vol.path.isEmpty then
        return (E_NON_EXIST, 0)
      match ← call (.statvfs vol.path) with
      | none => return (E_STATVFS, 0)
      | some diskInfo =>
          if isOddFsType vol.fsType.getFsTypeString then
            let (_, totalSize, _) ← call (.getCapacity (DEV_BLOCK_PREFIX ++ vol.id))
            return (E_OK, totalSize)
          return (E_OK, diskInfo.bsize * diskInfo.blocks)

/-! ## Volumes -/

/-- `MapToPublicVolumeState`. -/
def mapToPublicVolumeState : VolumeState → VolumeState
  | .mounted => .mounted
  | .damagedMounted => .mounted
  | .checking => .checking
  | .encrypting => .checking
  | .decrypting => .checking
  | .ejecting => .ejecting
  | _ => .unmounted

structure ExternalVolumeInfo : Type where
  volumeId : CppString
  uuid : CppString
  diskId : CppString
  description : CppString
  state : VolumeState
  totalSize : Int
  freeSize : Int
  path : CppString
  fsType : CppString

def ManagerState.externalDiskIds (s : ManagerState) : List CppString :=
  ((s.diskMap.toList.map (·.2)).filter fun disk => !disk.isInternalDataDisk).map (·.diskId)

def ManagerState.candidates (s : ManagerState) (externalDiskIds : List CppString) :
    List VolumeExternal :=
  (s.volumeMap.toList.map (·.2)).filter fun vol => externalDiskIds.contains vol.diskId

def externalVolumeInfo [JsonLib] (vol : VolumeExternal) : ManagerProg ExternalVolumeInfo := do
  let state := mapToPublicVolumeState vol.state
  let (totalSize, freeSize) ←
    if state = .mounted then do
      let (_, totalSize) ← getTotalSizeOfVolume vol.fsUuid
      let (_, freeSize) ← getFreeSizeOfVolume vol.fsUuid
      pure (totalSize, freeSize)
    else pure (0, 0)
  return { volumeId := vol.id, uuid := vol.fsUuid, diskId := vol.diskId
           description := vol.description, state, totalSize, freeSize, path := vol.path
           fsType := vol.fsType.getFsTypeString }

/-- The loop of `GetExternalVolumeInfos` over the candidates. -/
def externalVolumeInfos [JsonLib] : List VolumeExternal → ManagerProg (List ExternalVolumeInfo)
  | [] => return []
  | vol :: vols => do
      let info ← externalVolumeInfo vol
      let infos ← externalVolumeInfos vols
      return info :: infos

/-- `GetExternalVolumeInfos`. The disks and the volumes are read in two sections. -/
def getExternalVolumeInfos [JsonLib] : ManagerProg (List ExternalVolumeInfo) := do
  let externalDiskIds ← Prog.read (·.externalDiskIds)
  let candidates ← Prog.read fun s => s.candidates externalDiskIds
  externalVolumeInfos candidates

end DiskManager
