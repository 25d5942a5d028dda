import DiskManager.Manager.Crypt

/-!
# Partition tables

`partition_table_parser.cpp`: the partitions of a disk, read off the dump that storage_daemon makes
of its partition table, and the rewriting of the dump of a disk with a userdata partition.
-/

namespace DiskManager

def MIN_LINES : Nat := 32

/-- `PartitionTableParser::Trim`. -/
def trim (s : CppString) : CppString :=
  let blank (c : Char) : Bool := c = ' ' || c = '\t' || c = '\r'
  ((s.dropWhile blank).reverse.dropWhile blank).reverse

/-- `IsMbrTypeSupportedForVolume`. -/
def isMbrTypeSupportedForVolume (mbrTypeHex : CppString) : Bool :=
  let h :=
    match mbrTypeHex with
    | '0' :: x :: rest => if x = 'x' ∨ x = 'X' then rest else mbrTypeHex
    | _ => mbrTypeHex
  [0x06, 0x07, 0x0b, 0x0c, 0x0e, 0x1b, 0x83].contains (CppString.strtoul 16 h)

/-- The record of a `PART` line with its tokens after the keyword, in a table of type `table`. -/
def parsePartition (diskId table num : CppString) (rest : List CppString) :
    Option PartitionRecord :=
  let partitionNumber := CppString.strtoul 10 num % 2 ^ 32
  if partitionNumber < 1 then none
  else
    match rest with
    | fsTypeRaw :: _ =>
        if table = "mbr" then
          if isMbrTypeSupportedForVolume fsTypeRaw then
            some { diskId, partitionNumber, partitionType := "mbr", fsTypeRaw }
          else none
        else if table = "gpt" then
          some { diskId, partitionNumber, partitionType := "gpt", fsTypeRaw := [] }
        else none
    | [] =>
        if table = "gpt" then
          some { diskId, partitionNumber, partitionType := "gpt", fsTypeRaw := [] }
        else none

/-- One line of the dump. The table type and the partitions so far are in `acc`. -/
def parseSgdiskLine (diskId : CppString) (acc : CppString × List PartitionRecord)
    (line : CppString) : CppString × List PartitionRecord :=
  match CppString.tokens (trim line) with
  | kind :: arg :: rest =>
      if kind = "DISK" then (CppString.toLower arg, acc.2)
      else if kind = "PART" then (acc.1, acc.2 ++ (parsePartition diskId acc.1 arg rest).toList)
      else acc
  | _ => acc

/-- `ParseSgdiskDump`: the table type and the partitions. The dump has a `DISK` line when the type
is not empty. -/
def parseSgdiskDump (rawDump diskId : CppString) : CppString × List PartitionRecord :=
  (rawDump.splitOn '\n').foldl (parseSgdiskLine diskId) ([], [])

/-- The part of `BuildAndSyncPartitions` that looks for a userdata partition in a long dump: the
dump that is parsed, and `isUserData`. -/
def rewriteUserData (rawDump : CppString) : CppString × Bool :=
  let lines := splitRawDumpToLines rawDump
  if MIN_LINES < lines.length then
    match lines.find? (CppString.contains "userdata") with
    | some userdata =>
        ((lines.find? (CppString.contains "DISK")).getD [] ++ "\n" ++ userdata, true)
    | none => (rawDump, false)
  else (rawDump, false)

/-- A partition a disk can have: it names the disk, and its number is a `uint32_t` from 1 on. -/
structure PartitionRecord.Of (diskId : CppString) (p : PartitionRecord) : Prop where
  diskId : p.diskId = diskId
  pos : 1 ≤ p.partitionNumber
  small : p.partitionNumber < 2 ^ 32

theorem of_parsePartition {diskId table num : CppString} {rest : List CppString}
    {p : PartitionRecord} (parsed : parsePartition diskId table num rest = some p) :
    p.Of diskId := by
  have small : CppString.strtoul 10 num % 2 ^ 32 < 2 ^ 32 := Nat.mod_lt _ (by decide)
  unfold parsePartition at parsed
  dsimp only at parsed
  split at parsed
  · cases parsed
  next pos =>
    have pos : 1 ≤ CppString.strtoul 10 num % 2 ^ 32 := Nat.not_lt.mp pos
    split at parsed
    · split at parsed
      · split at parsed
        · cases parsed
          exact ⟨rfl, pos, small⟩
        · cases parsed
      · split at parsed
        · cases parsed
          exact ⟨rfl, pos, small⟩
        · cases parsed
    · split at parsed
      · cases parsed
        exact ⟨rfl, pos, small⟩
      · cases parsed

/-- One line keeps the partitions so far and adds such as the disk can have. -/
theorem of_parseSgdiskLine {diskId : CppString} {acc : CppString × List PartitionRecord}
    {line : CppString} (before : ∀ p ∈ acc.2, p.Of diskId) :
    ∀ p ∈ (parseSgdiskLine diskId acc line).2, p.Of diskId := by
  unfold parseSgdiskLine
  split
  · split
    · exact before
    split
    · intro p mem
      rcases List.mem_append.mp mem with old | new
      · exact before p old
      · exact of_parsePartition (Option.mem_toList.mp new)
    · exact before
  · exact before

/-- What the parser accepts is a table a disk can have. -/
theorem of_parseSgdiskDump {rawDump diskId : CppString} {p : PartitionRecord}
    (mem : p ∈ (parseSgdiskDump rawDump diskId).2) : p.Of diskId := by
  have general : ∀ (lines : List CppString) acc, (∀ p ∈ acc.2, p.Of diskId) →
      ∀ p ∈ (lines.foldl (parseSgdiskLine diskId) acc).2, p.Of diskId := by
    intro lines
    induction lines with
    | nil => exact fun acc before => before
    | cons line lines ih => exact fun acc before => ih _ (of_parseSgdiskLine before)
  exact general _ ([], []) (fun p none => absurd none List.not_mem_nil) p mem

example : parseSgdiskDump "DISK gpt guid\nPART 1 a b\nPART 2" "disk-8-0" =
    ("gpt".toList, [⟨"disk-8-0", 1, "gpt", []⟩, ⟨"disk-8-0", 2, "gpt", []⟩]) := by decide +kernel

end DiskManager
