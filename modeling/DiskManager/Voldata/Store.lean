import DiskManager.Interact.Prog
import DiskManager.Errno
import DiskManager.Json
import DiskManager.StdMap
import DiskManager.Utils

/-!
# The voldata mapping store

`db/voldata_uuid_store.cpp`: the persistent mapping from the file-system uuid of a data disk to
its mount directory `/mnt/data/voldata/dataX`. Memory holds `uuidMap_` and `initialized_`; the
files are outside, reached through the requests of `FileReq`. Every operation holds `dataMutex_`
from its first look at the map to its last, so two operations never interleave; a kill of the
process can still fall between any two requests.
-/

namespace DiskManager

open Interact

def DISK_MANAGER_DATA_PATH : CppString := "/data/service/el1/public/disk_manager/"
def VOLDATA_UUID_MAPPING_JSON : CppString := "voldata_uuid_mapping.json"
def TMP_FILE_SUFFIX : CppString := ".tmp"
def BACKUP_FILE_SUFFIX : CppString := ".bak"
def VOLDATA_MOUNT_PREFIX : CppString := "/mnt/data/voldata/data"
def MAX_VOLDATA_SLOT_COUNT : Nat := 1000
def ULONG_MAX : Nat := 2 ^ 64 - 1

/-- `jsonFilePath_`, as `Init` sets it. -/
def jsonFilePath : CppString := DISK_MANAGER_DATA_PATH ++ VOLDATA_UUID_MAPPING_JSON

def backupFilePath : CppString := jsonFilePath ++ BACKUP_FILE_SUFFIX

structure VoldataUuidEntry : Type where
  fsUuid : CppString
  mountPath : CppString
  slotIndex : Nat
deriving DecidableEq

/-! ## Slots and paths -/

def buildMountPathForSlot (slotIndex : Nat) : CppString :=
  VOLDATA_MOUNT_PREFIX ++ CppString.ofNat slotIndex

/-- `strtoul` on the digits sets `errno` past `ULONG_MAX`. -/
def parseVoldataSlotFromMountPath (mountPath : CppString) : Option Nat :=
  if mountPath.length ≤ VOLDATA_MOUNT_PREFIX.length ∨
      CppString.startsWith mountPath VOLDATA_MOUNT_PREFIX = false then none
  else
    let digits := mountPath.drop VOLDATA_MOUNT_PREFIX.length
    if digits.all Char.isDigit = false then none
    else
      let parsed := CppString.digitsValue digits
      if ULONG_MAX < parsed then none
      else if parsed < 1 ∨ MAX_VOLDATA_SLOT_COUNT < parsed then none
      else some parsed

namespace VoldataUuidEntry

/-- `FromJson`. The stored `slotIndex` is ignored: the slot is read off the path. -/
def fromJson (jsonObject : Json) : Option VoldataUuidEntry :=
  match jsonObject.stringMember? "fsUuid", jsonObject.stringMember? "mountPath" with
  | some fsUuid, some mountPath =>
      match parseVoldataSlotFromMountPath mountPath with
      | some slotIndex => if isUuidValid fsUuid then some ⟨fsUuid, mountPath, slotIndex⟩ else none
      | none => none
  | _, _ => none

def toJson (entry : VoldataUuidEntry) : Json :=
  .object [("fsUuid", .string entry.fsUuid), ("mountPath", .string entry.mountPath),
    ("slotIndex", .number (CppString.ofNat entry.slotIndex))]

end VoldataUuidEntry

/-! ## Memory and files -/

abbrev UuidMap : Type := StdMap VoldataUuidEntry

structure StoreState : Type where
  uuidMap : UuidMap
  initialized : Bool

/-- The store of a process that has just started. -/
def StoreState.boot : StoreState := ⟨∅, false⟩

/-- What the store asks of the file system, and the order in which an unordered map is walked. -/
inductive FileReq : Type
  | exists (path : CppString)
  | read (path : CppString)
  | createDirectories (path : CppString)
  | openTrunc (path : CppString)
  | writeClose (path content : CppString)
  | fsync (path : CppString)
  | rename (source target : CppString)
  | remove (path : CppString)
  | iterate (m : UuidMap)

@[reducible] def FileReq.Resp : FileReq → Type
  | .exists _ => Bool
  | .read _ => Option CppString
  | .createDirectories _ => Bool
  | .openTrunc _ => Bool
  | .writeClose _ _ => Bool
  | .fsync _ => Unit
  | .rename _ _ => Bool
  | .remove _ => Unit
  | .iterate _ => List (CppString × VoldataUuidEntry)

abbrev StoreProg (α : Type) : Type := Prog StoreState FileReq FileReq.Resp α

def ask (q : FileReq) : StoreProg q.Resp := Prog.request q

def setUuidMap (m : UuidMap) : StoreProg Unit :=
  Prog.modify fun s => { s with uuidMap := m }

def getUuidMap : StoreProg UuidMap := Prog.read (·.uuidMap)

/-! ## Saving -/

section

variable [JsonLib]

/-- `parent_path` of both files is the data directory. -/
def saveJsonToFile (filePath : CppString) (jsonData : Json) : StoreProg ErrCode := do
  let jsonStr := JsonLib.dump jsonData
  if !(← ask (.createDirectories DISK_MANAGER_DATA_PATH)) then
    return DISK_MGR_ERR
  let tempFilePath := filePath ++ TMP_FILE_SUFFIX
  if !(← ask (.openTrunc tempFilePath)) then
    return DISK_MGR_ERR
  if !(← ask (.writeClose tempFilePath jsonStr)) then
    ask (.remove tempFilePath)
    return DISK_MGR_ERR
  ask (.fsync tempFilePath)
  if !(← ask (.rename tempFilePath filePath)) then
    ask (.remove tempFilePath)
    return DISK_MGR_ERR
  return E_OK

def saveToFile : StoreProg ErrCode := do
  let uuidMap ← getUuidMap
  let pairs ← ask (.iterate uuidMap)
  let jsonArray := Json.array (pairs.map fun pair => pair.2.toJson)
  let mainRet ← saveJsonToFile jsonFilePath jsonArray
  if mainRet ≠ E_OK then
    return mainRet
  -- A failed backup write is only logged.
  let _ ← saveJsonToFile backupFilePath jsonArray
  return E_OK

/-! ## Loading -/

/-- The loop of `LoadJsonFromPath` over the array. -/
def loadItems : List Json → UuidMap → UuidMap
  | [], uuidMap => uuidMap
  | item :: items, uuidMap =>
      if MAX_VOLDATA_SLOT_COUNT ≤ uuidMap.size then uuidMap
      else
        match VoldataUuidEntry.fromJson item with
        | none => loadItems items uuidMap
        | some entry => loadItems items (uuidMap.insert entry.fsUuid entry)

def loadJsonFromPath (filePath : CppString) : StoreProg ErrCode := do
  match ← ask (.read filePath) with
  | none => return DISK_MGR_ERR
  | some jsonStr =>
      if jsonStr.isEmpty then
        return E_OK
      if !JsonLib.accept jsonStr then
        return DISK_MGR_ERR
      match JsonLib.parse jsonStr with
      | some (.array root) =>
          let uuidMap ← getUuidMap
          setUuidMap (loadItems root uuidMap)
          return E_OK
      | _ => return DISK_MGR_ERR

def loadFromFile : StoreProg ErrCode := do
  setUuidMap ∅
  let mainExists ← ask (.exists jsonFilePath)
  if !mainExists then
    return ← saveToFile
  let loadRet ← loadJsonFromPath jsonFilePath
  if loadRet = E_OK then
    let backupExists ← ask (.exists backupFilePath)
    if !backupExists then
      let _ ← saveToFile
    return E_OK
  let backupExists ← ask (.exists backupFilePath)
  if backupExists then
    let loadRet ← loadJsonFromPath backupFilePath
    if loadRet = E_OK then
      return ← saveToFile
  saveToFile

def init : StoreProg ErrCode := do
  if (← Prog.read (·.initialized)) then
    return E_OK
  let loadRet ← loadFromFile
  if loadRet ≠ E_OK then
    return loadRet
  Prog.modify fun s => { s with initialized := true }
  return E_OK

def unInit : StoreProg ErrCode := do
  if !(← Prog.read (·.initialized)) then
    return E_OK
  Prog.modify fun _ => ⟨∅, false⟩
  return E_OK

/-! ## The operations -/

/-- `it` runs over the map in the order `order`; `begin()` is its head. -/
def evictSlotOneIfFullLocked (order : List (CppString × VoldataUuidEntry)) (uuidMap : UuidMap) :
    UuidMap :=
  if uuidMap.size < MAX_VOLDATA_SLOT_COUNT then uuidMap
  else
    match order.find? fun pair => pair.2.slotIndex = 1 with
    | some pair => uuidMap.erase pair.1
    | none =>
        match order with
        | [] => uuidMap
        | pair :: _ => uuidMap.erase pair.1

def slotUsed (uuidMap : UuidMap) (slot : Nat) : Bool :=
  uuidMap.toList.any fun pair => pair.2.slotIndex = slot

def findMinimumFreeSlotLocked (uuidMap : UuidMap) : Nat :=
  ((List.range' 1 MAX_VOLDATA_SLOT_COUNT).find? fun slot => !slotUsed uuidMap slot).getD 1

def allocateNextSlotLocked : StoreProg Nat := do
  let uuidMap ← getUuidMap
  if MAX_VOLDATA_SLOT_COUNT ≤ uuidMap.size then
    let order ← ask (.iterate uuidMap)
    setUuidMap (evictSlotOneIfFullLocked order uuidMap)
  return findMinimumFreeSlotLocked (← getUuidMap)

/-- `ResolveMountPath`: the result, `outMountPath` and `outCreated`. -/
def resolveMountPath (fsUuid : CppString) : StoreProg (ErrCode × CppString × Bool) := do
  if !isUuidValid fsUuid then
    return (DISK_MGR_ERR, [], false)
  let initRet ← init
  if initRet ≠ E_OK then
    return (initRet, [], false)
  let backup ← getUuidMap
  match backup[fsUuid]? with
  | some existing => return (E_OK, existing.mountPath, false)
  | none =>
      let slot ← allocateNextSlotLocked
      let entry : VoldataUuidEntry := ⟨fsUuid, buildMountPathForSlot slot, slot⟩
      setUuidMap ((← getUuidMap).insert fsUuid entry)
      let saveRet ← saveToFile
      if saveRet ≠ E_OK then
        setUuidMap backup
        return (saveRet, [], false)
      return (E_OK, entry.mountPath, true)

def removeByFsUuid (fsUuid : CppString) : StoreProg ErrCode := do
  if !isUuidValid fsUuid then
    return DISK_MGR_ERR
  let initRet ← init
  if initRet ≠ E_OK then
    return initRet
  let backup ← getUuidMap
  match backup[fsUuid]? with
  | none => return E_OK
  | some _ =>
      setUuidMap (backup.erase fsUuid)
      let saveRet ← saveToFile
      if saveRet ≠ E_OK then
        setUuidMap backup
        return saveRet
      return E_OK

def replaceFsUuid (oldFsUuid newFsUuid : CppString) : StoreProg ErrCode := do
  if !isUuidValid oldFsUuid || !isUuidValid newFsUuid then
    return DISK_MGR_ERR
  if oldFsUuid = newFsUuid then
    return E_OK
  let initRet ← init
  if initRet ≠ E_OK then
    return initRet
  let backup ← getUuidMap
  match backup[oldFsUuid]? with
  | none => return E_OK
  | some oldEntry =>
      if backup[newFsUuid]?.isSome then
        return DISK_MGR_ERR
      let entry := { oldEntry with fsUuid := newFsUuid }
      setUuidMap ((backup.erase oldFsUuid).insert newFsUuid entry)
      let saveRet ← saveToFile
      if saveRet ≠ E_OK then
        setUuidMap backup
        return saveRet
      return E_OK

end

end DiskManager
