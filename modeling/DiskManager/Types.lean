import DiskManager.Errno
import DiskManager.StdMap

/-!
# Disks and volumes

The records of `interfaces/innerkits/include` (`Disk`, `VolumeExternal` with its base
`VolumeCore`, `MountParam`), the uevent environment and the parsed partition, with the fields the
service reads or writes. `int32_t` states and file-system types that only ever hold an enumerator
are enumerations here; the disk type, which `MatchConfig` builds with `|`, is a number.
-/

namespace DiskManager

inductive VolumeState : Type
  | unmounted
  | checking
  | mounted
  | ejecting
  | removed
  | badRemoval
  | damaged
  | fuseRemoved
  | damagedMounted
  | encrypting
  | encryptedAndLocked
  | encryptedAndUnlocked
  | decrypting
  | repairFinishFail
  | repairFinishSuccess
  | formatFinishFail
  | repairStart
  | repairing
deriving DecidableEq

inductive FsType : Type
  | undefined
  | ntfs
  | exfat
  | vfat
  | hmfs
  | f2fs
  | mtp
  | udf
  | iso9660
  | ptp
  | ext4
deriving DecidableEq

/-- `FS_TYPE_MAP`, in the order of its keys. -/
def FS_TYPE_MAP : List (FsType × CppString) :=
  [(.ntfs, "ntfs"), (.exfat, "exfat"), (.vfat, "vfat"), (.hmfs, "hmfs"), (.f2fs, "f2fs"),
    (.mtp, "mtp"), (.udf, "udf"), (.iso9660, "iso9660"), (.ptp, "ptp"), (.ext4, "ext4")]

/-- `GetFsTypeString`. -/
def FsType.getFsTypeString (fsType : FsType) : CppString :=
  (FS_TYPE_MAP.lookup fsType).getD "undefined"

/-- `GetFsTypeByStr`. -/
def getFsTypeByStr (fsTypeStr : CppString) : FsType :=
  match FS_TYPE_MAP.find? fun pair => pair.2 = fsTypeStr with
  | some pair => pair.1
  | none => .undefined

/-- Every type but `UNDEFINED` is found again under its name. -/
theorem getFsTypeByStr_getFsTypeString {fsType : FsType} :
    getFsTypeByStr fsType.getFsTypeString = fsType := by
  cases fsType <;> decide

abbrev DiskType : Type := Nat

abbrev SD_FLAG : DiskType := 1
abbrev USB_FLAG : DiskType := 2
abbrev CD_FLAG : DiskType := 3
abbrev DATA_DISK_SSD : DiskType := 4
abbrev DATA_DISK_HDD : DiskType := 5
abbrev DVR_USB : DiskType := 6
abbrev DISK_TYPE_UNKNOWN : DiskType := 255

/-- `IsInternalDataDiskType`. -/
def isInternalDataDiskType (diskType : DiskType) : Bool :=
  diskType = DATA_DISK_SSD || diskType = DATA_DISK_HDD

inductive CdromState : Type
  | noDisc
  | emptyDisc
  | nonEmptyDisc
  | queryFailed
deriving DecidableEq

/-- `static_cast<int32_t>(discState)`. -/
def CdromState.code : CdromState → Nat
  | .noDisc => 0
  | .emptyDisc => 1
  | .nonEmptyDisc => 2
  | .queryFailed => 3

inductive AbnormalReason : Type
  | partitionTableReadFailed
  | metadataReadFailed
  | fstypeUnsupported
  | mountFailed
deriving DecidableEq

/-- The constant type `EXTERNAL` of a block volume. -/
abbrev EXTERNAL : Int := 2

structure VolumeExternal : Type where
  id : CppString
  type : Int := 0
  diskId : CppString
  state : VolumeState := .unmounted
  extraInfo : CppString := []
  fsType : FsType := .undefined
  flags : DiskType := DISK_TYPE_UNKNOWN
  fsUuid : CppString := []
  path : CppString := []
  description : CppString := []
  isUserData : Bool := false
  umountResult : CppString := []
  partitionNum : Int := 0
  freeSize : Int := 0
  mountFlag : Bool := false
  loopPath : CppString := []
  mapperPath : CppString := []
  offset : Nat := 0
  sizeLimit : Nat := 0
deriving DecidableEq

/-- `VolumeExternal()`. -/
def VolumeExternal.empty : VolumeExternal := { id := [], diskId := [] }

structure Disk : Type where
  diskId : CppString
  sizeBytes : Int := 0
  diskType : DiskType := DISK_TYPE_UNKNOWN
  removable : Bool := true
  volumeIds : List CppString := []
  extraInfo : CppString := []
  cdromState : CdromState := .noDisc
  isUsbBus : Bool := false
  sysPath : CppString := []
  devName : CppString := []
  vendor : CppString := []
  partitionType : CppString := []
  vendorId : Int := 0
  productId : Int := 0
  serialNumber : CppString := []
  busnum : Int := 0
  devAddress : Int := 0
deriving DecidableEq

/-- The constructor `Disk(diskId, sizeBytes, devName, diskType)`. -/
def Disk.create (diskId : CppString) (sizeBytes : Int) (devName : CppString)
    (diskType : DiskType) : Disk :=
  { diskId, sizeBytes, diskType, devName
    sysPath := ("/dev/block/" : CppString) ++ devName
    removable := !isInternalDataDiskType diskType }

def Disk.isInternalDataDisk (disk : Disk) : Bool := isInternalDataDiskType disk.diskType

structure MountParam : Type where
  readOnly : Bool := false
  fromEdmMount : Bool := false
deriving DecidableEq

structure FormatParams : Type where
  fsType : CppString
  quickFormat : Bool
  volumeName : CppString

/-- `PartitionInfo`; the disk id in it is never set. -/
structure PartitionInfo : Type where
  partitionNum : Int
  startSector : Int
  endSector : Int
  sizeBytes : Int := 0
  fsType : CppString := []
deriving DecidableEq

structure PartitionTableInfo : Type where
  diskId : CppString := []
  tableType : CppString := []
  partitionCount : Nat := 0
  totalSector : Int := 0
  sectorSize : Int := 512
  alignSector : Int := 2048
  lastUsableSector : Int := 0
  partitions : List PartitionInfo := []
deriving DecidableEq

structure PartitionParams : Type where
  partitionNum : Int
  startSector : Int
  endSector : Int
  typeCode : CppString
deriving DecidableEq

/-- The table has a partition with the number. -/
def PartitionTableInfo.lists (info : PartitionTableInfo) (partitionNum : Int) : Bool :=
  info.partitions.any fun item => item.partitionNum = partitionNum

/-- What `ReadMetadata` gives back. -/
structure Metadata : Type where
  err : ErrCode
  uuid : CppString
  type : CppString
  label : CppString

/-- The fields of `struct statvfs` that are used. -/
structure StatVfs : Type where
  bsize : Int
  bfree : Int
  blocks : Int

/-- `dev_t`, taken apart by `major` and `minor`. -/
structure Dev : Type where
  major : Nat
  minor : Nat
deriving DecidableEq

/-- `makedev` of two `unsigned int`s. -/
def makedev (major minor : Nat) : Dev := ⟨major % 2 ^ 32, minor % 2 ^ 32⟩

/-- `static_cast<int32_t>` of an unsigned number. -/
def toInt32 (n : Nat) : Int :=
  if n % 2 ^ 32 < 2 ^ 31 then n % 2 ^ 32 else (n % 2 ^ 32 : Nat) - 2 ^ 32

theorem toInt32_of_lt {n : Nat} (small : n < 2 ^ 31) : toInt32 n = n := by
  have fits : n % 2 ^ 32 = n := Nat.mod_eq_of_lt (by omega)
  rw [toInt32, fits, if_pos small]
  omega

/-- One partition of a parsed table. -/
structure PartitionRecord : Type where
  diskId : CppString
  partitionNumber : Nat
  partitionType : CppString
  fsTypeRaw : CppString
deriving DecidableEq

structure UeventEnv : Type where
  action : CppString := []
  subsystem : CppString := []
  devType : CppString := []
  major : Nat := 0
  minor : Nat := 0
  devPath : CppString := []
  sysPath : CppString := []
  devName : CppString := []
  ejectRequest : Bool := false

end DiskManager
