import Mathlib.Data.List.Nodup
import Mathlib.Data.List.Perm.Subperm
import DiskManager.Manager.State

/-!
# Lookups and mount policy

The helpers `DiskManager` shares between its operations: how a volume or a disk is found, how a
file-system uuid is kept apart from the uuids of the other volumes, and which mount path a volume
is given.
-/

namespace DiskManager

open Interact

def EXTERNAL_MOUNT_ROOT : CppString := "/mnt/data/external/"
def EXTERNAL_FUSE_DATA_ROOT : CppString := "/mnt/data/external_fuse/"
def EXTERNAL_DVR_ROOT : CppString := "/mnt/data/dvr/"
def FUSE_UMOUNT_FS_TYPE : CppString := "fuse"
def VOLDATA_MOUNT_CONTEXT : CppString := "bb_retry"
def DEV_BLOCK_PREFIX : CppString := "/dev/block/"
def CRYPT_VOLUME_PREFIX : CppString := "vol-crypt-"
def MS_RDONLY : Nat := 1
def HMFS_FLAG : Nat := 0x8000

def LABEL_SUPPORTED_FS_TYPES : List CppString := ["ntfs", "exfat", "hmfs", "f2fs"]

/-! ## Uuids -/

abbrev VolumeMap : Type := StdMap VolumeExternal

/-- `LookupVolumeByUuidUnlocked`: the first volume, in key order, that carries the uuid. -/
def lookupVolumeByUuidUnlocked (volumeMap : VolumeMap) (fsUuid : CppString) :
    Option VolumeExternal :=
  (volumeMap.toList.find? fun kv => kv.2.fsUuid = fsUuid).map (·.2)

def isUuidOccupiedUnlocked (volumeMap : VolumeMap) (volumeId uuid : CppString) : Bool :=
  volumeMap.toList.any fun kv => kv.1 ≠ volumeId && kv.2.fsUuid = uuid

def dedupCandidate (fsUuid : CppString) (seq : Nat) : CppString :=
  fsUuid ++ UUID_SEQ_SEPARATOR ++ CppString.ofNat seq

/-- The unbounded loop of `DedupFsUuidUnlocked`; `fuel` bounds the candidates still tried. -/
def dedupFrom (volumeMap : VolumeMap) (volumeId fsUuid : CppString) : Nat → Nat → CppString
  | 0, seq => dedupCandidate fsUuid seq
  | fuel + 1, seq =>
      if !isUuidOccupiedUnlocked volumeMap volumeId (dedupCandidate fsUuid seq) then
        dedupCandidate fsUuid seq
      else dedupFrom volumeMap volumeId fsUuid fuel (seq + 1)

/-- One of the first `size() + 1` candidates is free (`exists_dedup_name`). -/
def dedupFsUuidUnlocked (volumeMap : VolumeMap) (volumeId fsUuid : CppString) : CppString :=
  if !isUuidOccupiedUnlocked volumeMap volumeId fsUuid then fsUuid
  else dedupFrom volumeMap volumeId fsUuid (volumeMap.size + 1) 1

theorem isUuidOccupiedUnlocked_iff {volumeMap : VolumeMap} {volumeId uuid : CppString} :
    isUuidOccupiedUnlocked volumeMap volumeId uuid = true ↔
      ∃ (k : CppString) (vol : VolumeExternal),
        volumeMap[k]? = some vol ∧ k ≠ volumeId ∧ vol.fsUuid = uuid := by
  simp only [isUuidOccupiedUnlocked, List.any_eq_true, Prod.exists, StdMap.mem_toList,
    Bool.and_eq_true, decide_eq_true_eq]

theorem dedupCandidate_injective (fsUuid : CppString) :
    Function.Injective (dedupCandidate fsUuid) := by
  intro m n same
  exact CppString.ofNat_injective (List.append_cancel_left same)

theorem dedupFrom_ne_nil {volumeMap : VolumeMap} {volumeId fsUuid : CppString} {fuel seq : Nat} :
    dedupFrom volumeMap volumeId fsUuid fuel seq ≠ [] := by
  induction fuel generalizing seq with
  | zero => simp [dedupFrom, dedupCandidate, UUID_SEQ_SEPARATOR]
  | succ fuel ih =>
      rw [dedupFrom]
      split
      · simp [dedupCandidate, UUID_SEQ_SEPARATOR]
      · exact ih

/-! ## Disks -/

/-- `AttachVolumeIdsToDisk`. -/
def attachVolumeIdsToDisk (volumeMap : VolumeMap) (disk : Disk) : Disk :=
  { disk with
    volumeIds := (volumeMap.toList.filter fun kv => kv.2.diskId = disk.diskId).map (·.2.id) }

/-- The mount path `QueryAndAppendEncryptionStatusUnlocked` asks about. -/
def encryptionVolPath (volumeMap : VolumeMap) (disk : Disk) : Option CppString :=
  (disk.volumeIds.filterMap fun volumeId => volumeMap[volumeId]?.map (·.path)).find? fun path =>
    !path.isEmpty && CppString.startsWith path VOLDATA_MOUNT_PREFIX

def queryAndAppendEncryptionStatusUnlocked (volumeMap : VolumeMap) (disk : Disk) :
    ManagerProg Disk := do
  match encryptionVolPath volumeMap disk with
  | none => return disk
  | some volPath =>
      match ← call (.queryEncryptionExtraInfo disk.diskId volPath) with
      | none => return disk
      | some extraInfo => return { disk with extraInfo }

def getDiskById (diskId : CppString) : ManagerProg (Option Disk) := do
  let (found, volumeMap) ← Prog.read fun s => (s.diskMap[diskId]?, s.volumeMap)
  match found with
  | none => return none
  | some disk =>
      let out := attachVolumeIdsToDisk volumeMap disk
      if out.isInternalDataDisk then
        return some (← queryAndAppendEncryptionStatusUnlocked volumeMap out)
      return some out

def getVolumeById (volumeId : CppString) : ManagerProg (Option VolumeExternal) :=
  findVolume volumeId

def isDiskSupported (diskId : CppString) : ManagerProg ErrCode := do
  match ← getDiskById diskId with
  | none => return E_NOT_SUPPORT
  | some disk => return if disk.diskType = CD_FLAG then E_NOT_SUPPORT else E_OK

/-- `ResolveVolumeFlagsUnlocked`. -/
def resolveVolumeFlagsUnlocked (diskMap : StdMap Disk) (diskId : CppString) : DiskType :=
  match diskMap[diskId]? with
  | some disk => if disk.diskType ≠ DISK_TYPE_UNKNOWN then disk.diskType else USB_FLAG
  | none => USB_FLAG

/-- `CheckVolId`: the device node of a volume, or nothing. -/
def checkVolId (volId : CppString) : ManagerProg CppString := do
  if volId.isEmpty then
    return []
  match ← getVolumeById volId with
  | none => return []
  | some external =>
      if CppString.startsWith volId CRYPT_VOLUME_PREFIX then
        if !external.mapperPath.isEmpty then
          return external.mapperPath
        return external.loopPath
      return DEV_BLOCK_PREFIX ++ volId

/-! ## Mount paths -/

structure VolumeMountPolicy : Type where
  useVoldataPath : Bool := false
  useFuseData : Bool := false
  useDvrPath : Bool := false

/-- `ShouldUseVoldataMountPathForDiskUnlocked`. -/
def shouldUseVoldataMountPathForDiskUnlocked (diskMap : StdMap Disk) (diskId : CppString)
    (fsNormLower : CppString) : Bool :=
  match diskMap[diskId]? with
  | none => false
  | some disk => disk.isInternalDataDisk && fsNormLower = "f2fs"

/-- `ComputeVolumeMountPolicy`. The FUSE library is only asked where the path is not decided. -/
def computeVolumeMountPolicy (diskId fsType : CppString) : ManagerProg VolumeMountPolicy := do
  let fsNormLower := CppString.toLower fsType
  let diskMap ← Prog.read (·.diskMap)
  let useVoldataPath := shouldUseVoldataMountPathForDiskUnlocked diskMap diskId fsNormLower
  let isInternalDisk := diskMap[diskId]?.any (·.isInternalDataDisk)
  let useDvrPath := diskMap[diskId]?.any fun disk => disk.diskType = DVR_USB
  let isDataFs : Bool := fsNormLower = "f2fs"
  let bypassTobForPcNonDataFs := isInternalDisk && !isDataFs
  if !useVoldataPath && !useDvrPath && !bypassTobForPcNonDataFs then
    let useFuseData ← call (.isUsbFuseEnabledForFsType fsType)
    return { useVoldataPath, useDvrPath, useFuseData }
  return { useVoldataPath, useDvrPath }

/-- `ReadPersistUsbReadonlyMountFlagBits`. -/
def readPersistUsbReadonlyMountFlagBits (useFuseData : Bool) : ManagerProg Nat := do
  if useFuseData then
    return 0
  return if (← call .usbReadonly) then MS_RDONLY else 0

/-- `ApplyDefaultVolumeDescriptionIfUnset`. -/
def applyDefaultVolumeDescriptionIfUnset (volExternal : VolumeExternal) (flag : DiskType) :
    VolumeExternal :=
  if !volExternal.description.isEmpty then volExternal
  else if flag = DATA_DISK_SSD ∨ flag = DATA_DISK_HDD then volExternal
  else
    let label : CppString :=
      if flag = SD_FLAG then "MySDCard"
      else if flag = USB_FLAG then "MyUSB"
      else if flag = CD_FLAG then "MyDVD"
      else "Default"
    { volExternal with description := label }

/-- `BuildMountDataOptions`. -/
def buildMountDataOptions (useVoldataPath : Bool) : CppString :=
  if useVoldataPath then VOLDATA_MOUNT_CONTEXT else []

/-- `BuildSafeExternalMountPath`: a valid suffix is not empty, so the length check never fails. -/
def buildSafeExternalMountPath (suffix : CppString) : CppString :=
  if !isUuidValid suffix then []
  else
    let mountPath := EXTERNAL_MOUNT_ROOT ++ suffix
    if mountPath.length ≤ EXTERNAL_MOUNT_ROOT.length then [] else mountPath

/-- `TryGetMountPath` of the store. -/
def tryGetMountPath (fsUuid : CppString) : ManagerProg (Option CppString) :=
  Prog.read fun s => s.voldata.uuidMap[fsUuid]?.map (·.mountPath)

/-- `ResolveQueryUsbIsInUseMountPath`. -/
def resolveQueryUsbIsInUseMountPath (volExternal : VolumeExternal) (isInternalDataDisk : Bool) :
    ManagerProg CppString := do
  if !volExternal.path.isEmpty then
    return volExternal.path
  let fsNormLower := CppString.toLower volExternal.fsType.getFsTypeString
  let fsUuid := volExternal.fsUuid
  if isInternalDataDisk && fsNormLower = "f2fs" && isUuidValid fsUuid then
    if let some voldataPath ← tryGetMountPath fsUuid then
      return voldataPath
  if isUuidValid fsUuid then
    return EXTERNAL_MOUNT_ROOT ++ fsUuid
  return []

section

variable [JsonLib]

/-- `ResolveVoldataMountPath`: the mount path, empty on failure, and whether the mapping is new. -/
def resolveVoldataMountPath (fsUuid : CppString) : ManagerProg (CppString × Bool) := do
  if (← onStore init) ≠ E_OK then
    return ([], false)
  match ← tryGetMountPath fsUuid with
  | some dataMountPath => return (dataMountPath, false)
  | none =>
      let (resolveErr, dataMountPath, created) ← onStore (resolveMountPath fsUuid)
      if resolveErr ≠ E_OK then
        return ([], false)
      return (dataMountPath, created)

/-- `UpdateVoldataMappingAfterFormat`. -/
def updateVoldataMappingAfterFormat (diskId oldFsUuid newFsUuid fsType : CppString) :
    ManagerProg Unit := do
  let fsNormLower := CppString.toLower fsType
  let diskMap ← Prog.read (·.diskMap)
  if !shouldUseVoldataMountPathForDiskUnlocked diskMap diskId fsNormLower then
    if !oldFsUuid.isEmpty && isUuidValid oldFsUuid then
      let _ ← onStore (removeByFsUuid oldFsUuid)
    return
  if oldFsUuid.isEmpty || newFsUuid.isEmpty || !isUuidValid oldFsUuid || !isUuidValid newFsUuid then
    return
  if (← tryGetMountPath oldFsUuid).isNone then
    return
  let _ ← onStore (replaceFsUuid oldFsUuid newFsUuid)

end

end DiskManager
