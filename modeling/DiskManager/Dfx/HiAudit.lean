import DiskManager.Interact.Prog
import DiskManager.StdMap

/-!
# The audit log

`dfx/hi_audit.cpp`: one line for each audited operation, in a file that is put aside when it is
full. Memory holds `writeFd_` and `writeLogSize_`; the directory is outside, reached through the
requests of `AuditReq`. `Write` holds `mutex_` from its first look at the size to the end, so two
calls never interleave.
-/

namespace DiskManager

open Interact CppString

structure HiAuditConfig : Type where
  logPath : CppString
  logName : CppString
  logSize : Nat
  fileSize : Nat
  fileCount : Nat

def HIAUDIT_CONFIG : HiAuditConfig where
  logPath := "/data/log/hiaudit/disk_manager/"
  logName := "disk_manager"
  logSize := 2 * 1024
  fileSize := 3 * 1024 * 1024
  fileCount := 10

def MILLISECONDS_LENGTH : Nat := 3
def SEC_TO_MILLISEC : Nat := 1000

def HIAUDIT_LOG_NAME : CppString :=
  HIAUDIT_CONFIG.logPath ++ HIAUDIT_CONFIG.logName ++ "_audit.csv"

structure AuditLog : Type where
  isUserBehavior : Bool := false
  operationCount : Nat := 0
  cause : CppString := []
  operationType : CppString := []
  operationScenario : CppString := []
  operationStatus : CppString := []
  extend : CppString := []

namespace AuditLog

/-- `TitleString`, which is the same for every log. -/
def titleString : CppString :=
  "happenTime, packageName, isForeground, cause, isUserBehavior, operationType, " ++
    "operationScenario, operationStatus, operationCount, extend\n"

def toString (log : AuditLog) : CppString :=
  log.cause ++ ", " ++ CppString.ofNat log.isUserBehavior.toNat ++ ", " ++ log.operationType ++
    ", " ++ log.operationScenario ++ ", " ++ log.operationStatus ++ ", " ++
    CppString.ofNat log.operationCount ++ ", " ++ log.extend

end AuditLog

namespace HiAudit

/-! ## Memory and files -/

structure State : Type where
  writeFd : Int := -1
  writeLogSize : Nat := 0

/-- The members of `struct stat` that are read. -/
structure Stat : Type where
  size : Nat
  mtime : Int

/-- What the audit log asks of the file system and of the clock. `readdir` gives every entry. -/
inductive AuditReq : Type
  | access (path : CppString)
  | mkdir (path : CppString)
  | openAppend (path : CppString)
  | openTrunc (path : CppString)
  | close (fd : Int)
  | write (fd : Int) (content : CppString)
  | stat (path : CppString)
  | rename (source target : CppString)
  | readdir (path : CppString)
  | remove (path : CppString)
  | systemClock
  | strftime (seconds : Nat)

@[reducible] def AuditReq.Resp : AuditReq → Type
  | .access _ => Bool
  | .mkdir _ => Bool
  | .openAppend _ => Int
  | .openTrunc _ => Int
  | .close _ => Unit
  | .write _ _ => Int
  | .stat _ => Option Stat
  | .rename _ _ => Bool
  | .readdir _ => Option (List CppString)
  | .remove _ => Bool
  | .systemClock => Nat
  | .strftime _ => Option CppString

abbrev AuditProg (α : Type) : Type := Prog State AuditReq AuditReq.Resp α

def syscall (q : AuditReq) : AuditProg q.Resp := Prog.request q

/-- The range of `writeLogSize_`, an `std::atomic<uint32_t>`. -/
def SIZE_RANGE : Nat := 2 ^ 32

/-! ## Time stamps -/

/-- `std::setfill('0') << std::setw(3)` -/
def padMilliseconds (milliseconds : Nat) : CppString :=
  let digits := CppString.ofNat milliseconds
  List.replicate (MILLISECONDS_LENGTH - digits.length) '0' ++ digits

/-- `GetFormattedTimestamp` leaves the date empty where `localtime_r` fails. -/
def getFormattedTimestamp (timeStamp : Nat) : AuditProg CppString := do
  let date ← syscall (.strftime (timeStamp / SEC_TO_MILLISEC))
  return date.getD []

def getFormattedTimestampEndWithMilli : AuditProg CppString := do
  let milliSeconds ← syscall .systemClock
  let formattedTimeStamp ← getFormattedTimestamp milliSeconds
  return formattedTimeStamp ++ padMilliseconds (milliSeconds % SEC_TO_MILLISEC)

/-! ## Rotation -/

def rotateName (stamp : CppString) : CppString :=
  HIAUDIT_CONFIG.logPath ++ HIAUDIT_CONFIG.logName ++ "_audit_" ++ stamp ++ ".csv"

/-- A failed `rename` is only logged. -/
def rotateAuditLog : AuditProg Unit := do
  let stamp ← getFormattedTimestampEndWithMilli
  let _ ← syscall (.rename HIAUDIT_LOG_NAME (rotateName stamp))
  return

def csvTag : CppString := ".csv"

def currentLogName : CppString := HIAUDIT_CONFIG.logName ++ "_audit.csv"

/-- The names `CleanOldAuditFile` counts. -/
def isRotatedName (subName : CppString) : Bool :=
  startsWith subName HIAUDIT_CONFIG.logName && subName ≠ currentLogName &&
    csvTag.length ≤ subName.length && subName.drop (subName.length - csvTag.length) = csvTag

/-- The loop of `CleanOldAuditFile`: how many files there are, and the oldest so far. -/
def countAuditFiles :
    List CppString → Nat → CppString → AuditProg (Nat × CppString)
  | [], rotateFileCount, oldestAuditFile => return (rotateFileCount, oldestAuditFile)
  | subName :: names, rotateFileCount, oldestAuditFile => do
      if !isRotatedName subName then
        countAuditFiles names rotateFileCount oldestAuditFile
      else
        let fullPath := HIAUDIT_CONFIG.logPath ++ subName
        if oldestAuditFile.isEmpty then
          countAuditFiles names (rotateFileCount + 1) fullPath
        else
          match ← syscall (.stat fullPath) with
          | none => countAuditFiles names (rotateFileCount + 1) oldestAuditFile
          | some st =>
              match ← syscall (.stat oldestAuditFile) with
              | none => countAuditFiles names (rotateFileCount + 1) oldestAuditFile
              | some oldestSt =>
                  if st.mtime < oldestSt.mtime then
                    countAuditFiles names (rotateFileCount + 1) fullPath
                  else
                    countAuditFiles names (rotateFileCount + 1) oldestAuditFile

/-- One file is removed when there are too many. -/
def cleanOldAuditFile : AuditProg Unit := do
  match ← syscall (.readdir HIAUDIT_CONFIG.logPath) with
  | none => return
  | some names =>
      let (rotateFileCount, oldestAuditFile) ← countAuditFiles names 0 []
      if HIAUDIT_CONFIG.fileCount < rotateFileCount && !oldestAuditFile.isEmpty then
        let _ ← syscall (.remove oldestAuditFile)
        return
      else
        return

/-! ## Writing -/

def closeWriteFd : AuditProg Unit := do
  let fd ← Prog.read (·.writeFd)
  if 0 ≤ fd then
    syscall (.close fd)
    Prog.modify fun s => { s with writeFd := -1 }
  else
    return

/-- `GetWriteFilePath`: a full file is put aside and a new one opened. -/
def getWriteFilePath : AuditProg Unit := do
  let writeLogSize ← Prog.read (·.writeLogSize)
  if writeLogSize < HIAUDIT_CONFIG.fileSize then
    return
  else
    closeWriteFd
    rotateAuditLog
    cleanOldAuditFile
    let fd ← syscall (.openTrunc HIAUDIT_LOG_NAME)
    Prog.modify fun s => { s with writeFd := fd, writeLogSize := 0 }

/-- The end of `WriteToFile`, which adds what was written to the size. -/
def writeToFd (content : CppString) : AuditProg Unit := do
  let fd ← Prog.read (·.writeFd)
  if fd < 0 then
    return
  else
    let ret ← syscall (.write fd content)
    Prog.modify fun s => { s with writeLogSize := (s.writeLogSize + ret.toNat) % SIZE_RANGE }

def writeToFile (content : CppString) : AuditProg Unit := do
  getWriteFilePath
  writeToFd content

/-- The line of a log. -/
def recordLine (stamp : CppString) (auditLog : AuditLog) : CppString :=
  let writeLog := stamp ++ ", " ++ HIAUDIT_CONFIG.logName ++ ", NO, " ++ auditLog.toString
  (if HIAUDIT_CONFIG.logSize < writeLog.length then writeLog.take HIAUDIT_CONFIG.logSize
    else writeLog) ++ "\n"

/-- The title goes into an empty file. -/
def writeTitle : AuditProg Unit := do
  let writeLogSize ← Prog.read (·.writeLogSize)
  if writeLogSize = 0 then
    writeToFile AuditLog.titleString
  else
    return

def write (auditLog : AuditLog) : AuditProg Unit := do
  writeTitle
  let stamp ← getFormattedTimestampEndWithMilli
  writeToFile (recordLine stamp auditLog)

def init : AuditProg Unit := do
  let there ← syscall (.access HIAUDIT_CONFIG.logPath)
  let _ ← if there then pure true else syscall (.mkdir HIAUDIT_CONFIG.logPath)
  let fd ← syscall (.openAppend HIAUDIT_LOG_NAME)
  Prog.modify fun s => { s with writeFd := fd }
  let st ← syscall (.stat HIAUDIT_LOG_NAME)
  Prog.modify fun s => { s with writeLogSize := (st.elim 0 (·.size)) % SIZE_RANGE }

end HiAudit

end DiskManager
