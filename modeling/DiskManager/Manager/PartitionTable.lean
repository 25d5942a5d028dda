import DiskManager.Manager.Crypt
import DiskManager.Manager.Repair

/-!
# Partition requests

`DiskManager::GetPartitionTable`, `CreatePartition` and `DeletePartition`. The first reads what
`sgdisk` prints of a disk and remembers it in `partitionTableMap_`; the other two, like
`FormatPartition`, check a request against what is remembered. `partitionLock_` is held from the
lookup to the answer of the daemon. The wait for the uevent that follows is left out.
-/

namespace DiskManager

open Interact

/-! ## Numbers -/

/-- `ConvertStringToInt`: `strtoll` of the whole text, which ends at a NUL. -/
def convertStringToInt (str : CppString) : Option Int :=
  let (negative, digits) := CppString.splitSign (str.dropWhile CppString.isSpace)
  let number := digits.takeWhile Char.isDigit
  let value := CppString.digitsValue number
  if number.isEmpty ∨ (digits.dropWhile Char.isDigit).headD '\x00' ≠ '\x00' then none
  else if negative then if value ≤ 2 ^ 63 then some (-value) else none
  else if value < 2 ^ 63 then some value else none

/-- `ConvertStringToInt32`: the pattern is `[1-9]\d{0,9}`. -/
def convertStringToInt32 (context : CppString) : Option Int :=
  if isPureDigitsInRange context 1 10 ∧ context.head? ≠ some '0' then
    let value := CppString.digitsValue context
    if value < 2 ^ 31 - 1 then some value else none
  else none

/-- What an `int64_t` holds of a result, modulo 2^64 where it does not fit. -/
def int64 (n : Int) : Int := n.bmod (2 ^ 64)

/-- The result fits. -/
def FitsInt64 (n : Int) : Prop := -2 ^ 63 ≤ n ∧ n < 2 ^ 63

theorem int64_of_fits {n : Int} (fits : FitsInt64 n) : int64 n = n := by
  obtain ⟨lower, upper⟩ := fits
  unfold int64 Int.bmod
  dsimp only
  split
  · omega
  · omega

/-! ## Patterns -/

/-- The rest of a text that starts with `pre`. -/
def afterText (pre s : CppString) : Option CppString :=
  if pre.isPrefixOf s then some (s.drop pre.length) else none

/-- `(\d+)` at the start of a text, and what follows. -/
def takeDigits (s : CppString) : Option (CppString × CppString) :=
  if (s.takeWhile Char.isDigit).isEmpty then none
  else some (s.takeWhile Char.isDigit, s.dropWhile Char.isDigit)

/-- `regex_search`: the first position at which the pattern matches. -/
def regexSearch (pattern : CppString → Option CppString) : CppString → Option CppString
  | [] => pattern []
  | c :: cs => pattern (c :: cs) <|> regexSearch pattern cs

/-- `Sector size\s*\(logical(?:/physical)?\):\s*(\d+)`. -/
def sectorSizePattern (s : CppString) : Option CppString := do
  let s ← afterText "Sector size" s
  let s ← afterText "(logical" (s.dropWhile CppString.isSpace)
  let s ← afterText "):" ((afterText "/physical" s).getD s)
  let (number, _) ← takeDigits (s.dropWhile CppString.isSpace)
  return number

/-- `Partitions will be aligned on (\d+)-sector boundaries`. -/
def alignSectorPattern (s : CppString) : Option CppString := do
  let s ← afterText "Partitions will be aligned on " s
  let (number, s) ← takeDigits s
  let _ ← afterText "-sector boundaries" s
  return number

/-- `last usable sector is (\d+)`. -/
def usableSectorPattern (s : CppString) : Option CppString := do
  let s ← afterText "last usable sector is " s
  let (number, _) ← takeDigits s
  return number

/-- The number in the first line that starts with `pre`. -/
def numberInLine (pre : CppString) (pattern : CppString → Option CppString)
    (convert : CppString → Option Int) (content : List CppString) : Option Int := do
  let target ← content.find? fun buf => CppString.startsWith buf pre
  let result ← regexSearch pattern target
  convert result

/-! ## Reading the table -/

def setSectorSize (content : List CppString) (info : PartitionTableInfo) :
    Option PartitionTableInfo := do
  let sectorSize ← numberInLine "Sector size " sectorSizePattern convertStringToInt32 content
  return { info with sectorSize }

def setAlignSector (content : List CppString) (info : PartitionTableInfo) :
    Option PartitionTableInfo := do
  let alignSector ← numberInLine "Partitions will be aligned on" alignSectorPattern
    convertStringToInt32 content
  return { info with alignSector }

def setUsableSector (content : List CppString) (info : PartitionTableInfo) :
    Option PartitionTableInfo := do
  let lastUsableSector ← numberInLine "First usable sector is" usableSectorPattern
    convertStringToInt content
  return { info with lastUsableSector, totalSector := lastUsableSector }

def setTableType (content : List CppString) (info : PartitionTableInfo) : PartitionTableInfo :=
  let isMBR := content.any fun buf => CppString.startsWith buf "Found invalid GPT and valid MBR"
  { info with tableType := if isMBR then "MBR" else "GPT" }

/-- `ParsePartitionInfo`. Where a line has no further token, `ss >> item` leaves the last one. -/
def parsePartitionInfo (context : CppString) : Option PartitionInfo := do
  let item ← (CppString.tokens context).head?
  let partitionNum ← convertStringToInt32 item
  let item := ((CppString.tokens context)[1]?).getD item
  let startSector ← convertStringToInt item
  let item := ((CppString.tokens context)[2]?).getD item
  let endSector ← convertStringToInt item
  return { partitionNum, startSector, endSector }

/-- The lines below the head of the list of partitions. -/
def partitionLines (content : List CppString) : List CppString :=
  (content.dropWhile fun buf =>
    !(CppString.startsWith buf "Number" && CppString.contains "Start" buf)).drop 1

def getFsTypeByDiskIdAndPartNum (diskId : CppString) (partitionNum : Int) :
    ManagerProg CppString := do
  match ← getDiskById diskId with
  | none => return []
  | some disk =>
      match ← findVolumeByPartNum partitionNum disk.volumeIds with
      | none => return []
      | some external => return external.fsType.getFsTypeString

/-- The loop of `SetPartitions` over the lines. -/
def readPartitions (diskId : CppString) (sectorSize : Int) :
    List CppString → ManagerProg (List PartitionInfo)
  | [] => return []
  | buf :: lines => do
      match parsePartitionInfo buf with
      | none => readPartitions diskId sectorSize lines
      | some info =>
          let fsType ← getFsTypeByDiskIdAndPartNum diskId info.partitionNum
          let partitions ← readPartitions diskId sectorSize lines
          return { info with
            sizeBytes := int64 ((info.endSector - info.startSector + 1) * sectorSize)
            fsType } :: partitions

/-- The three checks of `GetPartitionTable` on what was printed. -/
def parseTableInfo (content : List CppString) : Option PartitionTableInfo := do
  let info ← setSectorSize content {}
  let info ← setAlignSector content info
  setUsableSector content info

/-- `GetPartitionTable`, with the table when there is one. -/
def getPartitionTable (diskId : CppString) : ManagerProg (ErrCode × Option PartitionTableInfo) := do
  if !(← hasDisk diskId) then
    return (E_NON_EXIST, none)
  let (ret, execRet) ← call (.getPartitionTableInfo (DEV_BLOCK_PREFIX ++ diskId))
  if ret ≠ E_OK ∨ execRet.isEmpty then
    return (E_GET_PARTITION_ERROR, none)
  let tempInfo := splitRawDumpToLines execRet
  match parseTableInfo tempInfo with
  | none => return (E_GET_PARTITION_ERROR, none)
  | some info =>
      let partitions ← readPartitions diskId info.sectorSize (partitionLines tempInfo)
      let info := { setTableType tempInfo { info with diskId } with
        partitions, partitionCount := partitions.length }
      Prog.modify fun s =>
        { s with partitionTableMap := s.partitionTableMap.insert diskId info }
      return (E_OK, some info)

/-! ## Changing the table -/

/-- The loop of `IsDiskNotReady` over the volumes of the disk. -/
def anyVolumeNotUnmounted : List CppString → ManagerProg Bool
  | [] => return false
  | item :: volIds => do
      match ← getVolumeById item with
      | none => anyVolumeNotUnmounted volIds
      | some external =>
          if external.state ≠ .unmounted then
            return true
          anyVolumeNotUnmounted volIds

def isDiskNotReady (diskId : CppString) : ManagerProg Bool := do
  match ← getDiskById diskId with
  | none => return true
  | some disk => anyVolumeNotUnmounted disk.volumeIds

/-- `typeCodeMap_`. -/
def typeCodeOf (typeCode : CppString) : Option CppString :=
  if typeCode = "vfat" ∨ typeCode = "exfat" ∨ typeCode = "ntfs" then some "0x0700"
  else if typeCode = "ext4" ∨ typeCode = "f2fs" ∨ typeCode = "hmfs" then some "0x8300"
  else none

/-- The smallest partition of a type, in bytes; of other types `IsParamsValid` asks nothing. -/
def minPartitionSize (typeCode : CppString) : Option Int :=
  if typeCode = "vfat" then some (16 * 1024 * 1024)
  else if typeCode = "exfat" then some (32 * 1024 * 1024)
  else if typeCode = "ntfs" then some (4 * 1024 * 1024)
  else if typeCode = "ext4" then some (16 * 1024 * 1024)
  else if typeCode = "f2fs" ∨ typeCode = "hmfs" then some (16 * 1024 * 1024)
  else none

/-- A sector between the first aligned and the last usable one. -/
def PartitionTableInfo.inRange (info : PartitionTableInfo) (sector : Int) : Bool :=
  sector ≤ info.lastUsableSector ∧ info.alignSector ≤ sector

def isParamsValid (params : PartitionParams) (info : PartitionTableInfo) : Bool :=
  info.inRange params.startSector &&
    (int64 (params.startSector * info.sectorSize)).tmod info.alignSector = 0 &&
    info.inRange params.endSector &&
    (minPartitionSize params.typeCode).all fun minSize =>
      minSize ≤ int64 ((params.endSector - params.startSector + 1) * info.sectorSize)

def createPartition (diskId : CppString) (params : PartitionParams) : ManagerProg ErrCode := do
  match ← getDiskById diskId with
  | none => return E_NON_EXIST
  | some disk =>
      if disk.diskType ≠ SD_FLAG ∧ disk.diskType ≠ USB_FLAG then
        return E_CREATE_PARTITION_NOT_SUPPORT
      match typeCodeOf params.typeCode with
      | none => return E_CREATE_PARTITION_NOT_SUPPORT
      | some code =>
          if (← isDiskNotReady diskId) then
            return E_VOL_STATE
          match ← Prog.read fun s => s.partitionTableMap[diskId]? with
          | none => return E_NON_EXIST
          | some info =>
              if !isParamsValid params info then
                return E_PARAMS_INVALID
              let ret ← call (.createPartition (DEV_BLOCK_PREFIX ++ diskId) params.partitionNum
                params.startSector params.endSector code)
              return if ret ≠ E_OK then E_CREATE_PARTITION_ERROR else E_OK

section

variable [JsonLib]

def deletePartition (diskId : CppString) (partitionNum : Int) : ManagerProg ErrCode := do
  match ← getDiskById diskId with
  | none => return E_NON_EXIST
  | some disk =>
      if disk.diskType ≠ SD_FLAG ∧ disk.diskType ≠ USB_FLAG then
        return E_DELETE_PARTITION_NOT_SUPPORT
      if (← isDiskNotReady diskId) then
        return E_VOL_STATE
      match ← Prog.read fun s => s.partitionTableMap[diskId]? with
      | none => return E_NON_EXIST
      | some info =>
          if !info.lists partitionNum then
            return E_NON_EXIST
          let ret ← call (.deletePartition disk.sysPath diskId partitionNum)
          if ret ≠ E_OK then
            return E_DELETE_PARTITION_ERROR
          let _ ← destroyVolumeByDiskIdAndPartNum diskId partitionNum
          return E_OK

end

end DiskManager
