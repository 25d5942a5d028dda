import DiskManager.Interact.Prog
import DiskManager.JsonText
import DiskManager.Manager.State
import DiskManager.StdMap

/-!
# The block-information table

`BlockInfoTable` keeps what storage_daemon reports of the block devices, as read from its JSON, and
prints it again as the `extraInfo` of disks and volumes.
-/

namespace DiskManager

namespace BlockInfoTable

open Interact

def BLOCK_INFO_MAX_COUNT : Nat := 20
def BLOCK_INFO_SCAN_PAYLOAD_TYPE : CppString := "data"

/-- `struct BlockInfo`. -/
structure BlockInfo : Type where
  sizeBytes : UInt64
  vendor : CppString
  model : CppString
  interfaceType : CppString
  rpm : UInt32
  rotational : Int32
  removable : Bool
  serialNumber : CppString
  diskId : CppString
  devicePath : CppString
  port : CppString
  devnum : CppString
  busnum : CppString
  devNode : CppString
  scsiBusNum : CppString
  fwVersion : CppString
  oddInfo : Json

/-! ## Reading JSON -/

def trimAsciiSpaces (text : CppString) : CppString :=
  ((text.dropWhile CppString.isSpace).reverse.dropWhile CppString.isSpace).reverse

/-- The integer a numeral is for the library: a run of digits, with a minus or without, that fits
the type the library has for it. Every other numeral is a floating-point number. -/
def integerOf : CppString → Option Int
  | '-' :: digits =>
      if digits ≠ [] ∧ digits.all Char.isDigit ∧ CppString.digitsValue digits ≤ 2 ^ 63 then
        some (-(CppString.digitsValue digits : Int))
      else none
  | digits =>
      if digits ≠ [] ∧ digits.all Char.isDigit ∧ CppString.digitsValue digits < 2 ^ 64 then
        some (CppString.digitsValue digits : Int)
      else none

/-- `j.contains(key)`, `j[key].is_number_integer()` and the number in one lookup. -/
def integerMember? (key : CppString) (j : Json) : Option Int :=
  match j.member? key with
  | some (.number literal) => integerOf literal
  | _ => none

def readStringOrEmpty (j : Json) (key : CppString) : CppString :=
  match j.stringMember? key with
  | some s => trimAsciiSpaces s
  | none => []

def readUInt64OrZero (j : Json) (key : CppString) : UInt64 :=
  match integerMember? key j with
  | some n => if 0 ≤ n then UInt64.ofNat n.toNat else 0
  | none => 0

def readUInt32OrZero (j : Json) (key : CppString) : UInt32 :=
  let value := readUInt64OrZero j key
  if value.toNat ≤ 2 ^ 32 - 1 then UInt32.ofNat value.toNat else 0

/-- `ReadInt32OrZero`. The cast wraps; what is no integer is -1. -/
def readInt32OrZero (j : Json) (key : CppString) : Int32 :=
  match integerMember? key j with
  | some n => Int32.ofInt n
  | none => -1

def readBoolLikeOrFalse (j : Json) (key : CppString) : Bool :=
  match j.member? key with
  | some (.bool b) => b
  | _ =>
      match integerMember? key j with
      | some n => Int32.ofInt n ≠ 0
      | none => false

/-- The fields `FillBlockInfo` reads from an object. -/
def readBlockInfo (j : Json) : BlockInfo where
  diskId := readStringOrEmpty j "diskId"
  sizeBytes := readUInt64OrZero j "sizeBytes"
  vendor := readStringOrEmpty j "vendor"
  model := readStringOrEmpty j "model"
  devnum := readStringOrEmpty j "devnum"
  busnum := readStringOrEmpty j "busnum"
  devNode := readStringOrEmpty j "devNode"
  scsiBusNum := readStringOrEmpty j "scsiBusNum"
  fwVersion := readStringOrEmpty j "fwVersion"
  oddInfo := (j.member? "ODD_INFO").getD .null
  interfaceType := readStringOrEmpty j "interfaceType"
  rpm := readUInt32OrZero j "rpm"
  rotational := readInt32OrZero j "rotational"
  removable := readBoolLikeOrFalse j "removable"
  serialNumber := readStringOrEmpty j "serialNumber"
  devicePath := readStringOrEmpty j "devicePath"
  port := readStringOrEmpty j "port"

def fillBlockInfo (j : Json) : Option BlockInfo :=
  match j with
  | .object _ => if (readBlockInfo j).diskId.isEmpty then none else some (readBlockInfo j)
  | _ => none

/-- `ingestObject`. -/
def ingestObject (m : StdMap BlockInfo) (j : Json) : StdMap BlockInfo :=
  match fillBlockInfo j with
  | some info => m.insert info.diskId info
  | none => m

/-- `walkArray`. -/
def walkArray (m : StdMap BlockInfo) (items : List Json) : StdMap BlockInfo :=
  (items.take BLOCK_INFO_MAX_COUNT).foldl ingestObject m

def upsertObjectsIntoMap (m : StdMap BlockInfo) (root : Json) : StdMap BlockInfo :=
  match root with
  | .array items => walkArray m items
  | .object _ =>
      match root.member? "blocks" with
      | some (.array items) => walkArray m items
      | _ => ingestObject m root
  | _ => m

/-! ## Writing JSON -/

/-- `BlockInfoToJsonObject`, and `BlockInfo::ToJson`, which writes the same. -/
def blockInfoToJsonObject (info : BlockInfo) : Json :=
  .ofMembers [("sizeBytes", .number (CppString.ofNat info.sizeBytes.toNat)),
    ("vendor", .string info.vendor), ("model", .string info.model),
    ("devnum", .string info.devnum), ("busnum", .string info.busnum),
    ("devNode", .string info.devNode), ("scsiBusNum", .string info.scsiBusNum),
    ("fwVersion", .string info.fwVersion), ("ODD_INFO", info.oddInfo),
    ("interfaceType", .string info.interfaceType),
    ("rpm", .number (CppString.ofNat info.rpm.toNat)),
    ("rotational", .number (CppString.ofInt info.rotational.toInt)),
    ("removable", .bool info.removable), ("serialNumber", .string info.serialNumber),
    ("diskId", .string info.diskId), ("devicePath", .string info.devicePath),
    ("port", .string info.port)]

section

variable [JsonLib]

/-- `BlockInfo::SerializeVector`. -/
def BlockInfo.serializeVector (infos : List BlockInfo) : CppString :=
  JsonLib.dump (.array (infos.map blockInfoToJsonObject))

/-- `ToJsonStringWithExtras`, with the extras in the order they are walked. -/
def toJsonStringWithExtras (info : BlockInfo) (extraKeyValues : List (CppString × CppString)) :
    CppString :=
  JsonLib.dump (extraKeyValues.foldl (fun j extra => j.setMember extra.1 (.string extra.2))
    (blockInfoToJsonObject info))

/-- The extras of `BlockInfoToVolumeExtraInfo`. -/
def volumeExtras (info : BlockInfo) : List (CppString × CppString) :=
  [("vendor", info.vendor), ("model", info.model), ("devnum", info.devnum),
    ("busnum", info.busnum), ("devNode", info.devNode), ("scsiBusNum", info.scsiBusNum),
    ("fwVersion", info.fwVersion)]

def blockInfoToVolumeExtraInfo (info : BlockInfo) : CppString :=
  toJsonStringWithExtras info (volumeExtras info)

/-- What the manager is told of a block device. -/
def BlockInfo.told (info : BlockInfo) : DiskManager.BlockInfo where
  sizeBytes := info.sizeBytes.toNat
  vendor := info.vendor
  rotational := info.rotational.toInt
  extraInfo := blockInfoToVolumeExtraInfo info

/-! ## The table -/

/-- The table a text of the daemon is; none when the text is no JSON. -/
def nextBlockInfoMap (text : CppString) : Option (StdMap BlockInfo) :=
  if text.isEmpty then some ∅
  else (JsonLib.parse text).map (upsertObjectsIntoMap ∅)

/-- `GetBlockInfoByType` of storage_daemon. -/
inductive BlockReq : Type
  | getBlockInfoByType (type diskId : CppString)

@[reducible] def BlockReq.Resp : BlockReq → Type
  | .getBlockInfoByType .. => ErrCode × CppString

abbrev BlockProg (α : Type) : Type := Prog (StdMap BlockInfo) BlockReq BlockReq.Resp α

/-- Why a text of the daemon is not taken: its call failed, or `ERR_INVALID_DATA`. -/
inductive ReloadError : Type
  | rpc (errCode : ErrCode)
  | invalidData
deriving DecidableEq

def reloadFromDaemon : BlockProg (Except ReloadError Unit) := do
  let (errCode, text) ← Prog.request (.getBlockInfoByType BLOCK_INFO_SCAN_PAYLOAD_TYPE [])
  if errCode ≠ E_OK then
    return .error (.rpc errCode)
  match nextBlockInfoMap text with
  | none => return .error .invalidData
  | some next =>
      Prog.modify fun _ => next
      return .ok ()

def tryCopyByDiskId (diskId : CppString) : BlockProg (Option BlockInfo) :=
  Prog.read (·[diskId]?)

/-- `ReadExtDiskInfoFromDaemon`: the result and `info`. -/
def readExtDiskInfoFromDaemon (devName : CppString) (info : BlockInfo) :
    BlockProg (Except ReloadError Unit × BlockInfo) := do
  let (errCode, text) ← Prog.request (.getBlockInfoByType devName info.diskId)
  if errCode ≠ E_OK then
    return (.error (.rpc errCode), info)
  match nextBlockInfoMap text with
  | none => return (.error .invalidData, info)
  | some next =>
      match next[info.diskId]? with
      | some found => return (.ok (), found)
      | none => return (.ok (), info)

end

end BlockInfoTable

end DiskManager
