import DiskManager.Text

/-!
# Validity checks of untrusted names

`utils/src/disk_manager_utils.cpp`: the path-traversal filter and the uuid check that every
file-system uuid passes before it becomes part of a mount path.
-/

namespace DiskManager

open CppString

def UUID_MAX_LEN : Nat := 128
def UUID_DEDUP_SUFFIX_MAX_DIGITS : Nat := 4
def UUID_SEQ_SEPARATOR : CppString := "_"

/-- The `../` loop of `IsFilePathInvalid`. `fuel` bounds the number of matches left, each of which
starts at least three bytes after the one before. -/
def relativeSegmentFrom (filePath : CppString) : Nat → Option Nat → Bool
  | 0, _ => false
  | _, none => false
  | fuel + 1, some pos =>
      if pos = 0 ∨ filePath[pos - 1]? = some '/' then true
      else relativeSegmentFrom filePath fuel (findFrom "../" filePath (pos + 3))

/-- The `..\` loop of `IsFilePathInvalid`. -/
def backslashTraversalFrom (filePath : CppString) : Nat → Option Nat → Bool
  | 0, _ => false
  | _, none => false
  | fuel + 1, some pos =>
      if 2 ≤ pos ∧ filePath[pos - 1]? = some '.' ∧ filePath[pos - 2]? = some '.' then true
      else backslashTraversalFrom filePath fuel (findFrom "\\" filePath (pos + 1))

def urlTraversalPatterns : List CppString :=
  ["%2f", "%2F", "%5c", "%5C", "%2e", "%2E", "%252e", "%252E", "%252f", "%252F", "%255c", "%255C"]

def isFilePathInvalid (filePath : CppString) : Bool :=
  if filePath.isEmpty then true
  else if relativeSegmentFrom filePath (filePath.length + 1) (find "../" filePath) then true
  else if (rfind "/.." filePath).any fun pos => filePath.length - pos = 3 then true
  else if backslashTraversalFrom filePath (filePath.length + 1) (find "\\" filePath) then true
  else if urlTraversalPatterns.any fun pattern => contains pattern filePath then true
  else contains "%00" filePath || contains [Char.ofNat 0] filePath

def isPureDigitsInRange (s : CppString) (minLen maxLen : Nat) : Bool :=
  if s.length < minLen ∨ maxLen < s.length then false
  else s.all fun c => '0' ≤ c ∧ c ≤ '9'

def isUuidValid (uuid : CppString) : Bool :=
  if isFilePathInvalid uuid then false
  else
    match rfind UUID_SEQ_SEPARATOR uuid with
    | some sep =>
        let base := uuid.take sep
        let suffix := uuid.drop (sep + 1)
        isPureDigitsInRange suffix 1 UUID_DEDUP_SUFFIX_MAX_DIGITS && base.length ≤ UUID_MAX_LEN
    | none => uuid.length ≤ UUID_MAX_LEN

def VOL_PREFIX_LEN : Nat := 4
def DISK_PREFIX_LEN : Nat := 5
def ID_SEG_MIN_DIGITS : Nat := 1
def ID_SEG_MAX_DIGITS : Nat := 4

/-- What `IsVolumeIdValid` and `IsDiskIdValid` ask of an id after its first `start` bytes: two
numbers with a dash between them. -/
def idSegmentsValid (id : CppString) (start : Nat) : Bool :=
  match findFrom "-" id start with
  | none => false
  | some firstDash =>
      if (findFrom "-" id (firstDash + 1)).isSome then false
      else
        isPureDigitsInRange ((id.drop start).take (firstDash - start)) ID_SEG_MIN_DIGITS
            ID_SEG_MAX_DIGITS &&
          isPureDigitsInRange (id.drop (firstDash + 1)) ID_SEG_MIN_DIGITS ID_SEG_MAX_DIGITS

def isVolumeIdValid (volumeId : CppString) : Bool :=
  if isFilePathInvalid volumeId then false
  else if startsWith volumeId "mtp-" || startsWith volumeId "ptp-" then true
  else if startsWith volumeId "vol-crypt-" then true
  else if !startsWith volumeId "vol-" then false
  else idSegmentsValid volumeId VOL_PREFIX_LEN

def isDiskIdValid (diskId : CppString) : Bool :=
  if isFilePathInvalid diskId then false
  else if !startsWith diskId "disk-" then false
  else idSegmentsValid diskId DISK_PREFIX_LEN

def isMountPathValid (mountPath : CppString) : Bool :=
  !isFilePathInvalid mountPath && startsWith mountPath "/mnt/data"

theorem isFilePathInvalid_nil : isFilePathInvalid [] = true := rfl

theorem isUuidValid_nil : isUuidValid [] = false := rfl

/-- A valid uuid is not empty: the empty path is refused first. -/
theorem ne_nil_of_isUuidValid {uuid : CppString} (valid : isUuidValid uuid = true) : uuid ≠ [] := by
  rintro rfl
  rw [isUuidValid_nil] at valid
  cases valid

example : isUuidValid "1234-ABCD_17" = true ∧ isUuidValid "a/../b" = false := by decide

example : isVolumeIdValid "vol-259-1" = true ∧ isDiskIdValid "disk-8-16-1" = false := by decide

end DiskManager
