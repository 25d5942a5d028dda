import DiskManager.Uevent.Table

/-!
# Reading back the dump of a partition table

* `DumpedTable`: a partition table as storage_daemon dumps it; `DumpedTable.Prints dump`: a text
  that dumps it, with other lines and any spacing in between.
* `sgdisk_dump_round_trip`: of such a text `ParseSgdiskDump` makes the partitions that were dumped;
  of an MBR it keeps those of a supported type.
-/

namespace DiskManager

open CppString

/-! ## Trimming -/

/-- Trimming a line does not change its tokens. -/
theorem tokens_trim (s : CppString) : tokens (trim s) = tokens s := by
  let blank (c : Char) : Bool := c = ' ' || c = '\t' || c = '\r'
  have space : ∀ c, blank c = true → isSpace c = true := by
    intro c isBlank
    simp only [blank, Bool.or_eq_true, decide_eq_true_eq] at isBlank
    rcases isBlank with (rfl | rfl) | rfl
    · rfl
    · rfl
    · rfl
  have gap : ∀ t : CppString, Words.Gap isSpace (t.takeWhile blank) :=
    fun t c mem => space c (List.mem_takeWhile_imp mem)
  have front : ∀ t : CppString,
      Words.words isSpace (t.dropWhile blank) = Words.words isSpace t := by
    intro t
    have split := Words.words_gap_append (s := t.dropWhile blank) (gap t)
    rwa [List.takeWhile_append_dropWhile, eq_comm] at split
  have back : ∀ t : CppString,
      Words.words isSpace (t.reverse.dropWhile blank).reverse = Words.words isSpace t := by
    intro t
    have isGap : Words.Gap isSpace (t.reverse.takeWhile blank).reverse :=
      fun c mem => gap t.reverse c (List.mem_reverse.mp mem)
    have split := Words.words_append_gap (s := (t.reverse.dropWhile blank).reverse) isGap
    rwa [← List.reverse_append, List.takeWhile_append_dropWhile, List.reverse_reverse,
      eq_comm] at split
  rw [tokens_eq_words, tokens_eq_words]
  exact (back (s.dropWhile blank)).trans (front s)

/-! ## Partition types -/

/-- The types `IsMbrTypeSupportedForVolume` knows. -/
def supportedMbrTypes : List Nat := [0x06, 0x07, 0x0b, 0x0c, 0x0e, 0x1b, 0x83]

/-- A token without the mark `0x`. -/
def withoutMark : CppString → CppString
  | '0' :: x :: rest => if x = 'x' ∨ x = 'X' then rest else '0' :: x :: rest
  | s => s

/-- The number `strtoul` reads of a token in base 16, after one `0x` where there is one. -/
def mbrTypeValue (token : CppString) : Nat := strtoul 16 (withoutMark token)

theorem withoutMark_unmarked {token : CppString}
    (unmarked : ∀ x rest, token = '0' :: x :: rest → False) : withoutMark token = token := by
  unfold withoutMark
  split
  next x rest => exact (unmarked x rest rfl).elim
  next => rfl

theorem isMbrTypeSupportedForVolume_eq (token : CppString) :
    isMbrTypeSupportedForVolume token = supportedMbrTypes.contains (mbrTypeValue token) := by
  unfold isMbrTypeSupportedForVolume
  dsimp only
  split
  next => rfl
  next unmarked =>
    rw [mbrTypeValue, withoutMark_unmarked unmarked]
    rfl

def HexDigits (digits : CppString) : Prop :=
  digits ≠ [] ∧ ∀ c ∈ digits, digitValue c < 16

/-- A hexadecimal number with or without `0x`. -/
inductive Hexadecimal : CppString → Nat → Prop
  | plain {digits : CppString} : HexDigits digits → Hexadecimal digits (numeralValue 16 digits)
  | marked {x : Char} {digits : CppString} : x = 'x' ∨ x = 'X' → HexDigits digits →
    Hexadecimal ('0' :: x :: digits) (numeralValue 16 digits)

theorem not_mark_of_hex {c : Char} (digit : digitValue c < 16) : ¬ (c = 'x' ∨ c = 'X') := by
  rintro (rfl | rfl)
  · exact absurd digit (by decide)
  · exact absurd digit (by decide)

theorem withoutMark_digits {digits : CppString} (hex : HexDigits digits) :
    withoutMark digits = digits := by
  unfold withoutMark
  split
  next x rest => rw [if_neg (not_mark_of_hex (hex.2 x (by simp)))]
  next => rfl

theorem skipHexMark_digits {digits : CppString} (hex : HexDigits digits) :
    skipHexMark 16 digits = digits := by
  unfold skipHexMark
  split
  next x d rest =>
    rw [if_neg fun mark => not_mark_of_hex (hex.2 x (by simp)) mark.2.1]
  next => rfl

theorem mbrTypeValue_of_hexadecimal {token : CppString} {value : Nat}
    (hex : Hexadecimal token value) : mbrTypeValue token = min value (2 ^ 64 - 1) := by
  have read : ∀ {digits : CppString}, HexDigits digits →
      strtoul 16 digits = min (numeralValue 16 digits) (2 ^ 64 - 1) := fun isHex =>
    strtoul_digits (by decide) isHex.1 isHex.2 (skipHexMark_digits isHex)
  cases hex with
  | plain isHex => rw [mbrTypeValue, withoutMark_digits isHex, read isHex]
  | @marked x digits mark isHex =>
      have stripped : withoutMark ('0' :: x :: digits) = digits := if_pos mark
      rw [mbrTypeValue, stripped, read isHex]

/-- What is too large for `strtoul` is no supported type either way. -/
theorem supported_of_hexadecimal {token : CppString} {value : Nat}
    (hex : Hexadecimal token value) :
    mbrTypeValue token ∈ supportedMbrTypes ↔ value ∈ supportedMbrTypes := by
  have small : ∀ n ∈ supportedMbrTypes, n < 2 ^ 64 - 1 := by decide
  rw [mbrTypeValue_of_hexadecimal hex]
  rcases Nat.lt_or_ge value (2 ^ 64 - 1) with less | large
  · rw [Nat.min_eq_left (Nat.le_of_lt less)]
  · rw [Nat.min_eq_right large]
    constructor
    · exact fun mem => absurd (small _ mem) (Nat.lt_irrefl _)
    · exact fun mem => absurd (small _ mem) (Nat.not_lt.mpr large)

/-! ## Dumps -/

/-- A partition as it is dumped: its number and what stands after it. -/
structure DumpedPart : Type where
  number : Nat
  columns : List CppString
  number_pos : 1 ≤ number
  number_lt : number < 2 ^ 32

/-- A partition table as it is dumped. The type may be written in any case. -/
structure DumpedTable : Type where
  type : CppString
  parts : List DumpedPart
  known : toLower type = ("gpt" : CppString) ∨ toLower type = ("mbr" : CppString)

/-- A line without tokens or with another first token than the two keywords. -/
def OtherDumpLine (line : CppString) : Prop :=
  ∀ token rest, Words.Spells isSpace (token :: rest) line →
    token ≠ ("DISK" : CppString) ∧ token ≠ ("PART" : CppString)

inductive PartLines : List DumpedPart → List CppString → Prop
  | nil : PartLines [] []
  | other {parts : List DumpedPart} {line : CppString} {lines : List CppString} :
    OtherDumpLine line → PartLines parts lines → PartLines parts (line :: lines)
  | part {p : DumpedPart} {parts : List DumpedPart} {line : CppString} {lines : List CppString} :
    Words.Spells isSpace (("PART" : CppString) :: ofNat p.number :: p.columns) line →
    PartLines parts lines → PartLines (p :: parts) (line :: lines)

inductive DumpedTable.Lines (table : DumpedTable) : List CppString → Prop
  | lines {others lines columns : List CppString} {line : CppString} :
    (∀ other ∈ others, OtherDumpLine other) →
    Words.Spells isSpace (("DISK" : CppString) :: table.type :: columns) line →
    PartLines table.parts lines → Lines table (others ++ line :: lines)

/-- The text consists of the lines of the table. -/
def DumpedTable.Prints (table : DumpedTable) (dump : CppString) : Prop :=
  ∃ lines, table.Lines lines ∧ (∀ line ∈ lines, '\n' ∉ line) ∧
    dump = (['\n'] : CppString).intercalate lines

def DumpedPart.gptRecord (diskId : CppString) (p : DumpedPart) : PartitionRecord :=
  { diskId, partitionNumber := p.number, partitionType := "gpt", fsTypeRaw := [] }

/-- An MBR partition is kept when the token after its number is a supported type. -/
def DumpedPart.mbrRecord (diskId : CppString) (p : DumpedPart) : Option PartitionRecord :=
  (p.columns.head?.filter fun token => supportedMbrTypes.contains (mbrTypeValue token)).map
    fun token =>
      { diskId, partitionNumber := p.number, partitionType := "mbr", fsTypeRaw := token }

/-- The partitions of the table that get a volume. -/
def DumpedTable.records (table : DumpedTable) (diskId : CppString) : List PartitionRecord :=
  if toLower table.type = ("gpt" : CppString) then table.parts.map (·.gptRecord diskId)
  else table.parts.filterMap (·.mbrRecord diskId)

section

variable {diskId : CppString} {acc : CppString × List PartitionRecord} {line : CppString}

theorem parseSgdiskLine_other (other : OtherDumpLine line) :
    parseSgdiskLine diskId acc line = acc := by
  unfold parseSgdiskLine
  rw [tokens_trim]
  split
  next kind arg rest shape =>
    obtain ⟨notDisk, notPart⟩ := other _ _ (spells_iff_tokens.mpr shape)
    rw [if_neg notDisk, if_neg notPart]
  next => rfl

theorem parseSgdiskLine_disk {type : CppString} {columns : List CppString}
    (spells : Words.Spells isSpace (("DISK" : CppString) :: type :: columns) line) :
    parseSgdiskLine diskId acc line = (toLower type, acc.2) := by
  unfold parseSgdiskLine
  rw [tokens_trim, spells_iff_tokens.mp spells]
  exact if_pos rfl

theorem parseSgdiskLine_part {p : DumpedPart}
    (spells : Words.Spells isSpace (("PART" : CppString) :: ofNat p.number :: p.columns) line) :
    parseSgdiskLine diskId acc line =
      (acc.1, acc.2 ++ (parsePartition diskId acc.1 (ofNat p.number) p.columns).toList) := by
  unfold parseSgdiskLine
  rw [tokens_trim, spells_iff_tokens.mp spells]
  dsimp only
  rw [if_neg (by decide), if_pos rfl]

/-- The number of a partition is read back. -/
theorem number_read (p : DumpedPart) : strtoul 10 (ofNat p.number) % 2 ^ 32 = p.number := by
  have small := p.number_lt
  rw [strtoul_ofNat (by omega), Nat.mod_eq_of_lt small]

theorem parsePartition_gpt (p : DumpedPart) :
    parsePartition diskId "gpt" (ofNat p.number) p.columns = some (p.gptRecord diskId) := by
  have pos := p.number_pos
  unfold parsePartition
  rw [number_read, if_neg (by omega)]
  split
  · rw [if_neg (by decide), if_pos rfl]
    rfl
  · rw [if_pos rfl]
    rfl

theorem parsePartition_mbr (p : DumpedPart) :
    parsePartition diskId "mbr" (ofNat p.number) p.columns = p.mbrRecord diskId := by
  have pos := p.number_pos
  unfold parsePartition DumpedPart.mbrRecord
  rw [number_read, if_neg (by omega)]
  cases p.columns with
  | nil => exact if_neg (by decide)
  | cons token rest =>
      dsimp only [List.head?_cons]
      rw [if_pos rfl, isMbrTypeSupportedForVolume_eq, Option.filter_some]
      split
      next kept => rfl
      next => rfl

/-- The lines below the `DISK` line add the partitions in their order. -/
theorem partLines_read {parts : List DumpedPart} {lines : List CppString}
    (list : PartLines parts lines) (acc : CppString × List PartitionRecord) :
    lines.foldl (parseSgdiskLine diskId) acc =
      (acc.1, acc.2 ++
        parts.filterMap fun p => parsePartition diskId acc.1 (ofNat p.number) p.columns) := by
  induction list generalizing acc with
  | nil => rw [List.foldl_nil, List.filterMap_nil, List.append_nil]
  | other isOther rest ih => rw [List.foldl_cons, parseSgdiskLine_other isOther, ih]
  | @part p parts line lines spells rest ih =>
      rw [List.foldl_cons, parseSgdiskLine_part spells, ih]
      dsimp only
      rw [List.filterMap_cons, List.append_assoc]
      cases parsePartition diskId acc.1 (ofNat p.number) p.columns with
      | none => rfl
      | some record => rfl

theorem otherLines_read {others : List CppString} (isOther : ∀ line ∈ others, OtherDumpLine line)
    (acc : CppString × List PartitionRecord) :
    others.foldl (parseSgdiskLine diskId) acc = acc := by
  induction others with
  | nil => rfl
  | cons line others ih =>
      rw [List.foldl_cons, parseSgdiskLine_other (isOther line List.mem_cons_self)]
      exact ih fun other mem => isOther other (List.mem_cons_of_mem line mem)

end

/-- Of a text that dumps a table `ParseSgdiskDump` makes the type of the table and its partitions. A
hexadecimal number, with `0x` or without, is a supported type of an MBR partition just when its
value is. -/
theorem sgdisk_dump_round_trip (table : DumpedTable) (dump diskId : CppString)
    (prints : table.Prints dump) :
    (parseSgdiskDump dump diskId).1 ≠ [] ∧
      parseSgdiskDump dump diskId = (toLower table.type, table.records diskId) ∧
      ∀ token value, Hexadecimal token value →
        (mbrTypeValue token ∈ supportedMbrTypes ↔ value ∈ supportedMbrTypes) := by
  obtain ⟨lines, layout, plain, rfl⟩ := prints
  have parsed : parseSgdiskDump ((['\n'] : CppString).intercalate lines) diskId =
      (toLower table.type, table.records diskId) := by
    cases layout with
    | @lines others lines columns line isOther disk list =>
      rw [parseSgdiskDump, List.splitOn_intercalate '\n' plain (by simp), List.foldl_append,
        otherLines_read isOther, List.foldl_cons, parseSgdiskLine_disk disk, partLines_read list]
      dsimp only
      unfold DumpedTable.records
      rcases table.known with gpt | mbr
      · simp only [gpt, parsePartition_gpt, List.filterMap_eq_map', List.nil_append, if_true]
      · rw [mbr, if_neg (by decide)]
        simp only [parsePartition_mbr, List.nil_append]
  refine ⟨?_, parsed, fun token value hex => supported_of_hexadecimal hex⟩
  rw [parsed]
  dsimp only
  rcases table.known with gpt | mbr
  · rw [gpt]
    decide
  · rw [mbr]
    decide

theorem cardParts_bounds : (1 ≤ 1 ∧ 1 < 2 ^ 32) ∧ 1 ≤ 2 ∧ 2 < 2 ^ 32 := by decide

theorem cardTable_known : toLower ("MBR" : CppString) = ("gpt" : CppString) ∨
    toLower ("MBR" : CppString) = ("mbr" : CppString) := by
  decide

/-- The table of a memory card with a supported partition and an extended one. -/
def cardTable : DumpedTable where
  type := "MBR"
  parts :=
    [⟨1, ["0x0C", "2048"], cardParts_bounds.1.1, cardParts_bounds.1.2⟩,
      ⟨2, ["05"], cardParts_bounds.2.1, cardParts_bounds.2.2⟩]
  known := cardTable_known

def cardLines : List CppString :=
  ["", "# a card", "DISK\tMBR 0x1234\r", "  PART 1  0x0C 2048", "", "PART 2 05"]

theorem cardTable_lines : cardTable.Lines cardLines := by
  have blank : OtherDumpLine [] := by
    intro token rest spells
    cases spells_iff_tokens.mp spells
  have comment : OtherDumpLine "# a card" := by
    intro token rest spells
    have tokens : tokens "# a card" = ["#", "a", "card"] := by decide
    cases tokens.symm.trans (spells_iff_tokens.mp spells)
    decide
  refine @DumpedTable.Lines.lines cardTable [[], "# a card"] _ ["0x1234"] _ ?_ ?_ ?_
  · intro other mem
    simp only [List.mem_cons, List.not_mem_nil, or_false] at mem
    rcases mem with rfl | rfl
    · exact blank
    · exact comment
  · exact spells_iff_tokens.mpr (by decide +kernel)
  · refine .part ?_ (.other blank (.part ?_ .nil))
    · exact spells_iff_tokens.mpr (by decide +kernel)
    · exact spells_iff_tokens.mpr (by decide +kernel)

theorem sgdisk_dump_round_trip_card :
    (parseSgdiskDump ((['\n'] : CppString).intercalate cardLines) "disk-8-16").1 ≠ [] ∧
      parseSgdiskDump ((['\n'] : CppString).intercalate cardLines) "disk-8-16" =
        (toLower cardTable.type, cardTable.records "disk-8-16") ∧
      ∀ token value, Hexadecimal token value →
        (mbrTypeValue token ∈ supportedMbrTypes ↔ value ∈ supportedMbrTypes) :=
  sgdisk_dump_round_trip cardTable _ _ ⟨cardLines, cardTable_lines, by decide, rfl⟩

end DiskManager
