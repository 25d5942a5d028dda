import DiskManager.Manager.TableRead
import DiskManager.Search

/-!
# Reading back what `sgdisk -p` prints

* `TableReport`: a partition table as it is printed; `TableReport.Prints text`: a text that prints
  it, with any other lines between the ones that are looked for and any spacing of the list.
* `table_report_round_trip`: of such a text `GetPartitionTable` makes the table that was printed.
-/

namespace DiskManager

open Interact CppString

/-! ## Reports -/

structure ReportedPartition : Type where
  number : Nat
  startSector : Int
  endSector : Int

/-- The numbers fit the types they are kept in. -/
structure ReportedPartition.Fits (sectorSize : Nat) (p : ReportedPartition) : Prop where
  number_pos : 1 ≤ p.number
  number_le : p.number ≤ 2 ^ 31 - 2
  start_lower : -2 ^ 63 ≤ p.startSector
  ordered : p.startSector ≤ p.endSector
  end_upper : p.endSector < 2 ^ 63
  size : (p.endSector - p.startSector + 1) * sectorSize < 2 ^ 63

/-- A partition table as `sgdisk -p` prints it. -/
structure TableReport : Type where
  /-- The banner `Found invalid GPT and valid MBR` comes first. -/
  invalidGpt : Bool
  sectorSize : Nat
  firstUsableSector : Nat
  lastUsableSector : Nat
  alignSector : Nat
  partitions : List ReportedPartition
  sectorSize_pos : 1 ≤ sectorSize
  sectorSize_le : sectorSize ≤ 2 ^ 31 - 2
  alignSector_pos : 1 ≤ alignSector
  alignSector_le : alignSector ≤ 2 ^ 31 - 2
  lastUsableSector_lt : lastUsableSector < 2 ^ 63
  fits : ∀ p ∈ partitions, p.Fits sectorSize

/-! ## Layout -/

/-- What the lines start with that are looked for. -/
def headings : List CppString :=
  ["Found invalid GPT and valid MBR", "Sector size ", "First usable sector is",
    "Partitions will be aligned on", "Number"]

/-- A line that is not looked for, such as a blank one. -/
def OtherLine (line : CppString) : Prop := ∀ heading ∈ headings, startsWith line heading = false

instance decidableOtherLine (line : CppString) : Decidable (OtherLine line) :=
  inferInstanceAs (Decidable (∀ heading ∈ headings, startsWith line heading = false))

def bannerLine (tail : CppString) : CppString :=
  ("Found invalid GPT and valid MBR" : CppString) ++ tail

def sectorSizeLine (physical : Bool) (sectorSize : Nat) (tail : CppString) : CppString :=
  ("Sector size (logical" : CppString) ++ ((if physical then "/physical" else "" : CppString) ++
    (("): " : CppString) ++ (ofNat sectorSize ++ tail)))

def usableSectorLine (first last : Nat) (tail : CppString) : CppString :=
  ("First usable sector is " : CppString) ++ (ofNat first ++
    ((", last usable sector is " : CppString) ++ (ofNat last ++ tail)))

def alignSectorLine (alignSector : Nat) (tail : CppString) : CppString :=
  ("Partitions will be aligned on " : CppString) ++ (ofNat alignSector ++
    (("-sector boundaries" : CppString) ++ tail))

/-- The head of the list of partitions. -/
def numberLine (gap tail : CppString) : CppString :=
  ("Number" : CppString) ++ (gap ++ (("Start" : CppString) ++ tail))

/-- The list of the partitions: the columns of each start with its number and its sectors. -/
inductive PartitionList : List ReportedPartition → List CppString → Prop
  | nil : PartitionList [] []
  | blank {ps : List ReportedPartition} {line : CppString} {lines : List CppString} :
    Words.Gap isSpace line → PartitionList ps lines → PartitionList ps (line :: lines)
  | partition {p : ReportedPartition} {ps : List ReportedPartition} {line : CppString}
    {columns lines : List CppString} :
    Words.Spells isSpace (ofNat p.number :: ofInt p.startSector :: ofInt p.endSector :: columns)
      line →
    PartitionList ps lines → PartitionList (p :: ps) (line :: lines)

/-- The lines before the line that gives the sector size. -/
inductive TableReport.Opening (report : TableReport) : List CppString → Prop
  | gpt {others : List CppString} : report.invalidGpt = false → (∀ line ∈ others, OtherLine line) →
    Opening report others
  | mbr {before after : List CppString} {tail : CppString} : report.invalidGpt = true →
    (∀ line ∈ before, OtherLine line) → (∀ line ∈ after, OtherLine line) →
    Opening report (before ++ bannerLine tail :: after)

/-- The text does not go on with a digit. -/
def NoDigit (tail : CppString) : Prop := ∀ c ∈ tail.head?, c.isDigit = false

inductive TableReport.Layout (report : TableReport) : List CppString → Prop
  | lines {opening o₁ o₂ o₃ list : List CppString} {physical : Bool}
    {afterSize afterUsable afterAlign gap columns : CppString} :
    report.Opening opening → (∀ line ∈ o₁ ++ o₂ ++ o₃, OtherLine line) →
    NoDigit afterSize → NoDigit afterUsable → PartitionList report.partitions list →
    Layout report (opening ++ sectorSizeLine physical report.sectorSize afterSize :: (o₁ ++
      usableSectorLine report.firstUsableSector report.lastUsableSector afterUsable :: (o₂ ++
      alignSectorLine report.alignSector afterAlign :: (o₃ ++ numberLine gap columns :: list))))

/-- The text consists of the lines of the report. -/
def TableReport.Prints (report : TableReport) (text : CppString) : Prop :=
  ∃ lines, report.Layout lines ∧ (∀ line ∈ lines, '\n' ∉ line) ∧
    text = (['\n'] : CppString).intercalate lines

/-- The table is the one that was printed. -/
structure TableReport.Tells (report : TableReport) (info : PartitionTableInfo) : Prop where
  sectorSize : info.sectorSize = report.sectorSize
  alignSector : info.alignSector = report.alignSector
  lastUsableSector : info.lastUsableSector = report.lastUsableSector
  tableType : info.tableType = if report.invalidGpt then ("MBR" : CppString) else "GPT"
  partitions :
    info.partitions.map (fun p => (p.partitionNum, p.startSector, p.endSector, p.sizeBytes)) =
      report.partitions.map fun p => ((p.number : Int), p.startSector, p.endSector,
        (p.endSector - p.startSector + 1) * (report.sectorSize : Int))

/-! ## Numbers in lines -/

theorem takeDigits_ofNat {n : Nat} {tail : CppString} (ends : NoDigit tail) :
    takeDigits (ofNat n ++ tail) = some (ofNat n, tail) := by
  have digits : ∀ c ∈ ofNat n, c.isDigit = true := fun c mem => isDigit_of_mem_ofNat mem
  have stop : tail.takeWhile Char.isDigit = [] ∧ tail.dropWhile Char.isDigit = tail := by
    cases tail with
    | nil => exact ⟨rfl, rfl⟩
    | cons c cs =>
        have other : ¬ c.isDigit = true := by simp [ends c rfl]
        exact ⟨List.takeWhile_cons_of_neg other, List.dropWhile_cons_of_neg other⟩
  rw [takeDigits, List.takeWhile_append_of_pos digits, List.dropWhile_append_of_pos digits, stop.1,
    stop.2, List.append_nil, if_neg (by simpa using ofNat_ne_nil n)]

theorem afterText_append (pre s : CppString) : afterText pre (pre ++ s) = some s := by
  rw [afterText, if_pos (List.isPrefixOf_iff_prefix.mpr (List.prefix_append pre s)), List.drop_left]

theorem startsWith_append (pre s : CppString) : startsWith (pre ++ s) pre = true :=
  List.isPrefixOf_iff_prefix.mpr (List.prefix_append pre s)

theorem regexSearch_here {pattern : CppString → Option CppString} {s number : CppString}
    (here : pattern s = some number) : regexSearch pattern s = some number := by
  cases s with
  | nil => exact here
  | cons c cs =>
      rw [regexSearch, here]
      rfl

theorem isSpace_head_ofNat (n : Nat) (tail : CppString) :
    (ofNat n ++ tail).dropWhile isSpace = ofNat n ++ tail := by
  obtain ⟨c, cs, shape⟩ := List.exists_cons_of_ne_nil (ofNat_ne_nil n)
  have digit : c.isDigit = true := isDigit_of_mem_ofNat (n := n) (shape ▸ List.mem_cons_self)
  rw [shape, List.cons_append, List.dropWhile_cons_of_neg (by simp [isSpace_of_isDigit digit])]

theorem search_sectorSize {physical : Bool} {n : Nat} {tail : CppString} (ends : NoDigit tail) :
    regexSearch sectorSizePattern (sectorSizeLine physical n tail) = some (ofNat n) := by
  have mark : ∀ rest : CppString,
      (afterText "/physical" ((if physical then "/physical" else "" : CppString) ++
        (("): " : CppString) ++ rest))).getD
          ((if physical then "/physical" else "" : CppString) ++ (("): " : CppString) ++ rest)) =
        ("): " : CppString) ++ rest := by
    intro rest
    cases physical with
    | true =>
        rw [if_pos rfl, afterText_append]
        rfl
    | false => rfl
  have start : sectorSizeLine physical n tail = ("Sector size" : CppString) ++
      ((" (logical" : CppString) ++ ((if physical then "/physical" else "" : CppString) ++
        (("): " : CppString) ++ (ofNat n ++ tail)))) := rfl
  refine regexSearch_here ?_
  unfold sectorSizePattern
  rw [start, afterText_append]
  dsimp only [Option.bind_eq_bind, Option.bind_some]
  have blank : ∀ rest : CppString, ((" (logical" : CppString) ++ rest).dropWhile isSpace =
      ("(logical" : CppString) ++ rest := fun rest => rfl
  have close : ∀ rest : CppString,
      ("): " : CppString) ++ rest = ("):" : CppString) ++ ' ' :: rest := fun rest => by simp
  rw [blank, afterText_append, Option.bind_some, mark, close, afterText_append, Option.bind_some,
    List.dropWhile_cons_of_pos rfl, isSpace_head_ofNat, takeDigits_ofNat ends]
  rfl

theorem search_alignSector {n : Nat} {tail : CppString} :
    regexSearch alignSectorPattern (alignSectorLine n tail) = some (ofNat n) := by
  have ends : NoDigit (("-sector boundaries" : CppString) ++ tail) := by
    intro c head
    have first : c = '-' := by simpa using head.symm
    rw [first]
    rfl
  refine regexSearch_here ?_
  unfold alignSectorLine alignSectorPattern
  rw [afterText_append]
  dsimp only [Option.bind_eq_bind, Option.bind_some]
  rw [takeDigits_ofNat ends]
  dsimp only [Option.bind_some]
  rw [afterText_append, Option.bind_some, Option.pure_def]

/-- The pattern does not match before the first `l`. -/
theorem search_usable_skip {front rest : CppString} (apart : 'l' ∉ front) :
    regexSearch usableSectorPattern (front ++ rest) = regexSearch usableSectorPattern rest := by
  induction front with
  | nil => rfl
  | cons c cs ih =>
      rw [List.mem_cons, not_or] at apart
      have mismatch : usableSectorPattern (c :: (cs ++ rest)) = none := by
        have other : ('l' == c) = false := by simpa using apart.1
        simp [usableSectorPattern, afterText, List.isPrefixOf, other]
      rw [List.cons_append, regexSearch, mismatch, ← ih apart.2]
      rfl

theorem search_usableSector {first last : Nat} {tail : CppString} (ends : NoDigit tail) :
    regexSearch usableSectorPattern (usableSectorLine first last tail) = some (ofNat last) := by
  have digits : 'l' ∉ ("e sector is " : CppString) ++ (ofNat first ++ (", " : CppString)) := by
    simp only [List.mem_append, not_or]
    exact ⟨by decide, fun mem => absurd (isDigit_of_mem_ofNat mem) (by decide), by decide⟩
  have split : usableSectorLine first last tail = ("First usab" : CppString) ++
      'l' :: ((("e sector is " : CppString) ++ (ofNat first ++ (", " : CppString))) ++
        (("last usable sector is " : CppString) ++ (ofNat last ++ tail))) := by
    have front : ("First usable sector is " : CppString) =
        ("First usab" : CppString) ++ 'l' :: ("e sector is " : CppString) := by decide
    have middle : (", last usable sector is " : CppString) =
        (", " : CppString) ++ ("last usable sector is " : CppString) := by decide
    unfold usableSectorLine
    rw [front, middle]
    simp only [List.append_assoc, List.cons_append]
  have step : ∀ rest : CppString,
      regexSearch usableSectorPattern ('l' :: (("e sector is " : CppString) ++ rest)) =
        regexSearch usableSectorPattern (("e sector is " : CppString) ++ rest) := by
    intro rest
    have mismatch :
        usableSectorPattern ('l' :: (("e sector is " : CppString) ++ rest)) = none := by
      simp [usableSectorPattern, afterText, List.isPrefixOf]
    rw [regexSearch, mismatch]
    rfl
  rw [split, search_usable_skip (by decide), List.append_assoc, step, ← List.append_assoc,
    search_usable_skip digits]
  refine regexSearch_here ?_
  unfold usableSectorPattern
  rw [afterText_append]
  dsimp only [Option.bind_eq_bind, Option.bind_some]
  rw [takeDigits_ofNat ends]
  dsimp only [Option.bind_some, Option.pure_def]

theorem convertStringToInt32_ofNat {n : Nat} (pos : 1 ≤ n) (le : n ≤ 2 ^ 31 - 2) :
    convertStringToInt32 (ofNat n) = some (n : Int) := by
  refine convertStringToInt32_iff.mpr ⟨digits_ofNat n, head?_ofNat pos, ?_, by omega⟩
  rw [digitsValue_ofNat]

theorem decimal_ofInt (n : Int) : Decimal (ofInt n) n := by
  cases n with
  | ofNat n =>
      have number := Decimal.plain (digits_ofNat n)
      rwa [digitsValue_ofNat] at number
  | negSucc n =>
      have number := Decimal.minus (digits_ofNat (n + 1))
      rwa [digitsValue_ofNat] at number

theorem convertStringToInt_ofNat {n : Nat} (small : n < 2 ^ 63) :
    convertStringToInt (ofNat n) = some (n : Int) :=
  convertStringToInt_of_decimal ⟨decimal_ofInt n, by omega, by omega⟩

/-! ## Lines of a text -/

theorem splitRawDumpToLines_intercalate {lines : List CppString} (nonempty : lines ≠ [])
    (plain : ∀ line ∈ lines, '\n' ∉ line) :
    splitRawDumpToLines ((['\n'] : CppString).intercalate lines) =
      lines.filter fun line => !line.isEmpty := by
  rw [splitRawDumpToLines, List.splitOn_intercalate '\n' plain nonempty]

theorem ne_nil_of_startsWith {line pre : CppString} (nonempty : pre ≠ [])
    (starts : startsWith line pre = true) : line.isEmpty = false := by
  rw [List.isEmpty_eq_false_iff]
  rintro rfl
  have none := List.prefix_nil.mp (List.isPrefixOf_iff_prefix.mp starts)
  exact nonempty none

/-- None of the lines starts with the heading. -/
def Free (heading : CppString) (lines : List CppString) : Prop :=
  ∀ line ∈ lines, startsWith line heading = false

theorem Free.append {heading : CppString} {front back : List CppString}
    (first : Free heading front) (second : Free heading back) : Free heading (front ++ back) := by
  intro line mem
  rcases List.mem_append.mp mem with left | right
  · exact first line left
  · exact second line right

theorem Free.cons {heading line : CppString} {lines : List CppString}
    (first : startsWith line heading = false) (rest : Free heading lines) :
    Free heading (line :: lines) := by
  intro other mem
  rcases List.mem_cons.mp mem with rfl | later
  · exact first
  · exact rest other later

/-- The first line that starts as it should. -/
theorem find_line {front : List CppString} {line pre : CppString} (back : List CppString)
    (nonempty : pre ≠ [])
    (others : Free pre front) (starts : startsWith line pre = true) :
    ((front ++ line :: back).filter fun line => !line.isEmpty).find?
      (fun buf => startsWith buf pre) = some line := by
  have before : front.find? (fun a => (!a.isEmpty) = true ∧ startsWith a pre = true) = none := by
    refine List.find?_eq_none.mpr fun other mem => ?_
    simp [others other mem]
  rw [List.find?_filter, List.find?_append, before, Option.none_or,
    List.find?_cons_of_pos (by simp [starts, ne_nil_of_startsWith nonempty starts])]

/-- A line starts with one heading only. -/
theorem other_heading {line pre other : CppString} (starts : startsWith line pre = true)
    (apart : (pre.isPrefixOf other || other.isPrefixOf pre) = false) :
    startsWith line other = false := by
  rw [Bool.or_eq_false_iff] at apart
  refine Bool.eq_false_iff.mpr fun both => ?_
  rcases List.prefix_or_prefix_of_prefix (List.isPrefixOf_iff_prefix.mp starts)
    (List.isPrefixOf_iff_prefix.mp both) with shorter | longer
  · exact absurd (List.isPrefixOf_iff_prefix.mpr shorter) (by simp [apart.1])
  · exact absurd (List.isPrefixOf_iff_prefix.mpr longer) (by simp [apart.2])

/-! ## The list of partitions -/

/-- A line that starts with a banner has a token that is no number. -/
theorem partitionList_not_banner {ps : List ReportedPartition} {lines : List CppString}
    (list : PartitionList ps lines) : Free "Found invalid GPT and valid MBR" lines := by
  have first : ∀ line : CppString, startsWith line "Found invalid GPT and valid MBR" = true →
      ∃ rest, Words.words isSpace line = ("Found" : CppString) :: rest := by
    intro line starts
    obtain ⟨rest, rfl⟩ := List.isPrefixOf_iff_prefix.mp starts
    have split : ("Found invalid GPT and valid MBR" : CppString) =
        ("Found" : CppString) ++ ' ' :: ("invalid GPT and valid MBR" : CppString) := by decide
    rw [split, List.append_assoc, List.cons_append]
    exact ⟨_, Words.words_word_append (.of_all (by decide) (by decide)) rfl⟩
  induction list with
  | nil => exact fun line mem => absurd mem List.not_mem_nil
  | @blank ps line lines gap rest ih =>
      intro other mem
      rcases List.mem_cons.mp mem with rfl | later
      · refine Bool.eq_false_iff.mpr fun starts => ?_
        obtain ⟨rest, tokens⟩ := first other starts
        rw [(Words.Spells.done gap).read] at tokens
        cases tokens
      · exact ih other later
  | @partition p ps line columns lines spells rest ih =>
      intro other mem
      rcases List.mem_cons.mp mem with rfl | later
      · refine Bool.eq_false_iff.mpr fun starts => ?_
        obtain ⟨rest, tokens⟩ := first other starts
        rw [spells.read] at tokens
        have number := (List.cons.inj tokens).1
        have digit : 'F' ∈ ofNat p.number := by
          rw [number]
          exact List.mem_cons_self
        exact absurd (isDigit_of_mem_ofNat digit) (by decide)
      · exact ih other later

/-- A partition before its size is computed and its file system looked up. -/
def ReportedPartition.info (p : ReportedPartition) : PartitionInfo :=
  { partitionNum := p.number, startSector := p.startSector, endSector := p.endSector }

theorem parsePartitionInfo_gap {line : CppString} (gap : Words.Gap isSpace line) :
    parsePartitionInfo line = none := by
  rw [parsePartitionInfo_eq, spells_iff_tokens.mp (.done gap)]
  rfl

theorem parsePartitionInfo_partition {sectorSize : Nat} {p : ReportedPartition}
    {line : CppString} {columns : List CppString} (fits : p.Fits sectorSize)
    (spells : Words.Spells isSpace
      (ofNat p.number :: ofInt p.startSector :: ofInt p.endSector :: columns) line) :
    parsePartitionInfo line = some p.info := by
  have ordered := fits.ordered
  have lower := fits.start_lower
  have upper := fits.end_upper
  refine parsePartitionInfo_of_line ⟨_, _, _, _, spells, ?_, ?_, ?_, rfl⟩
  · exact convertStringToInt32_iff.mp (convertStringToInt32_ofNat fits.number_pos fits.number_le)
  · exact ⟨decimal_ofInt _, lower, Int.lt_of_le_of_lt ordered upper⟩
  · exact ⟨decimal_ofInt _, Int.le_trans lower ordered, upper⟩

/-- What is read of the list are the partitions in their order. -/
theorem partitionList_read {sectorSize : Nat} {ps : List ReportedPartition}
    {lines : List CppString} (list : PartitionList ps lines)
    (fits : ∀ p ∈ ps, p.Fits sectorSize) :
    (lines.filter fun line => !line.isEmpty).filterMap parsePartitionInfo =
      ps.map ReportedPartition.info := by
  induction list with
  | nil => rfl
  | @blank ps line lines gap rest ih =>
      rw [List.filter_cons]
      split
      · rw [List.filterMap_cons_none (parsePartitionInfo_gap gap)]
        exact ih fits
      · exact ih fits
  | @partition p ps line columns lines spells rest ih =>
      have nonempty : (!line.isEmpty) = true := by
        cases line with
        | nil => cases spells.read
        | cons c cs => rfl
      rw [List.filter_cons, if_pos nonempty,
        List.filterMap_cons_some (parsePartitionInfo_partition (fits p List.mem_cons_self) spells),
        ih fun q mem => fits q (List.mem_cons_of_mem p mem), List.map_cons]

/-- The sizes are exact. -/
theorem listed_of_fits {sectorSize : Nat} {ps : List ReportedPartition}
    {partitions : List PartitionInfo} (fits : ∀ p ∈ ps, p.Fits sectorSize)
    (listed : List.Forall₂ (ListedAs sectorSize) (ps.map ReportedPartition.info) partitions) :
    partitions.map (fun p => (p.partitionNum, p.startSector, p.endSector, p.sizeBytes)) =
      ps.map fun p => ((p.number : Int), p.startSector, p.endSector,
        (p.endSector - p.startSector + 1) * (sectorSize : Int)) := by
  induction ps generalizing partitions with
  | nil =>
      cases listed
      rfl
  | cons p ps ih =>
      rw [List.map_cons] at listed
      cases listed with
      | cons first rest =>
          obtain ⟨fsType, rfl⟩ := first
          have range := fits p List.mem_cons_self
          have positive : 0 ≤ (p.endSector - p.startSector + 1) * (sectorSize : Int) := by
            have ordered := range.ordered
            exact Int.mul_nonneg (by omega) (Int.natCast_nonneg _)
          have size : int64 ((p.endSector - p.startSector + 1) * (sectorSize : Int)) =
              (p.endSector - p.startSector + 1) * (sectorSize : Int) :=
            int64_of_fits ⟨by omega, range.size⟩
          rw [List.map_cons, List.map_cons, ih (fun q mem => fits q (List.mem_cons_of_mem p mem)) rest]
          dsimp only [ReportedPartition.info]
          rw [size]

/-! ## The round trip -/

section

variable {report : TableReport}

theorem OtherLine.free {others : List CppString} (other : ∀ line ∈ others, OtherLine line)
    {heading : CppString} (isHeading : heading ∈ headings) : Free heading others :=
  fun line mem => other line mem heading isHeading

/-- Of the headings, the opening has at most the banner. -/
theorem opening_free {opening : List CppString} (opens : report.Opening opening)
    {heading : CppString} (isHeading : heading ∈ headings)
    (apart : heading ≠ ("Found invalid GPT and valid MBR" : CppString)) :
    Free heading opening := by
  have incomparable : ∀ heading ∈ headings,
      heading ≠ ("Found invalid GPT and valid MBR" : CppString) →
      (("Found invalid GPT and valid MBR" : CppString).isPrefixOf heading ||
        heading.isPrefixOf ("Found invalid GPT and valid MBR" : CppString)) = false := by
    decide
  cases opens with
  | gpt _ others => exact OtherLine.free others isHeading
  | @mbr before after tail _ first second =>
      refine (OtherLine.free first isHeading).append (.cons ?_ (OtherLine.free second isHeading))
      exact other_heading (startsWith_append _ tail) (incomparable heading isHeading apart)

theorem sectorSizeLine_free {physical : Bool} {n : Nat} {tail heading : CppString}
    (apart : (("Sector size (logical" : CppString).isPrefixOf heading ||
      heading.isPrefixOf ("Sector size (logical" : CppString)) = false) :
    startsWith (sectorSizeLine physical n tail) heading = false :=
  other_heading (startsWith_append _ _) apart

theorem usableSectorLine_free {first last : Nat} {tail heading : CppString}
    (apart : (("First usable sector is " : CppString).isPrefixOf heading ||
      heading.isPrefixOf ("First usable sector is " : CppString)) = false) :
    startsWith (usableSectorLine first last tail) heading = false :=
  other_heading (startsWith_append _ _) apart

theorem alignSectorLine_free {n : Nat} {tail heading : CppString}
    (apart : (("Partitions will be aligned on " : CppString).isPrefixOf heading ||
      heading.isPrefixOf ("Partitions will be aligned on " : CppString)) = false) :
    startsWith (alignSectorLine n tail) heading = false :=
  other_heading (startsWith_append _ _) apart

/-- A line starts with its heading, which is a part of what it starts with. -/
theorem startsWith_of_prefix {line pre heading : CppString} (starts : startsWith line pre = true)
    (part : heading.isPrefixOf pre = true) : startsWith line heading = true :=
  List.isPrefixOf_iff_prefix.mpr ((List.isPrefixOf_iff_prefix.mp part).trans
    (List.isPrefixOf_iff_prefix.mp starts))

theorem sectorSizeLine_starts (physical : Bool) (n : Nat) (tail : CppString) :
    startsWith (sectorSizeLine physical n tail) "Sector size " = true :=
  startsWith_of_prefix (startsWith_append "Sector size (logical" _) (by decide)

theorem usableSectorLine_starts (first last : Nat) (tail : CppString) :
    startsWith (usableSectorLine first last tail) "First usable sector is" = true :=
  startsWith_of_prefix (startsWith_append "First usable sector is " _) (by decide)

theorem alignSectorLine_starts (n : Nat) (tail : CppString) :
    startsWith (alignSectorLine n tail) "Partitions will be aligned on" = true :=
  startsWith_of_prefix (startsWith_append "Partitions will be aligned on " _) (by decide)

/-- The three numbers are read of their lines. -/
theorem layout_numbers {lines : List CppString} (layout : report.Layout lines) :
    parseTableInfo (lines.filter fun line => !line.isEmpty) = some
      { sectorSize := report.sectorSize
        alignSector := report.alignSector
        lastUsableSector := report.lastUsableSector
        totalSector := report.lastUsableSector } := by
  cases layout with
  | @lines opening o₁ o₂ o₃ list physical afterSize afterUsable afterAlign gap columns opens others
    sizeEnds usableEnds listed =>
    have other₁ : ∀ line ∈ o₁, OtherLine line := fun line mem => others line (by simp [mem])
    have other₂ : ∀ line ∈ o₂, OtherLine line := fun line mem => others line (by simp [mem])
    refine parseTableInfo_eq_some_iff.mpr
      ⟨report.sectorSize, report.alignSector, report.lastUsableSector, ?_, ?_, ?_, rfl⟩
    · refine numberInLine_eq_some_iff.mpr ⟨sectorSizeLine physical report.sectorSize afterSize,
        ofNat report.sectorSize, ?_, search_sectorSize sizeEnds,
        convertStringToInt32_ofNat report.sectorSize_pos report.sectorSize_le⟩
      exact find_line _ (by decide) (opening_free opens (by decide) (by decide))
        (sectorSizeLine_starts _ _ _)
    · refine numberInLine_eq_some_iff.mpr ⟨alignSectorLine report.alignSector afterAlign,
        ofNat report.alignSector, ?_, search_alignSector,
        convertStringToInt32_ofNat report.alignSector_pos report.alignSector_le⟩
      have front : Free "Partitions will be aligned on" (opening ++
          (sectorSizeLine physical report.sectorSize afterSize :: (o₁ ++
            usableSectorLine report.firstUsableSector report.lastUsableSector afterUsable :: o₂))) :=
        (opening_free opens (by decide) (by decide)).append
          (.cons (sectorSizeLine_free (by decide)) ((OtherLine.free other₁ (by decide)).append
            (.cons (usableSectorLine_free (by decide)) (OtherLine.free other₂ (by decide)))))
      have found := find_line (o₃ ++ numberLine gap columns :: list) (by decide) front
        (alignSectorLine_starts report.alignSector afterAlign)
      simpa only [List.append_assoc, List.cons_append] using found
    · refine numberInLine_eq_some_iff.mpr
        ⟨usableSectorLine report.firstUsableSector report.lastUsableSector afterUsable,
        ofNat report.lastUsableSector, ?_, search_usableSector usableEnds,
        convertStringToInt_ofNat report.lastUsableSector_lt⟩
      have front : Free "First usable sector is" (opening ++
          (sectorSizeLine physical report.sectorSize afterSize :: o₁)) :=
        (opening_free opens (by decide) (by decide)).append
          (.cons (sectorSizeLine_free (by decide)) (OtherLine.free other₁ (by decide)))
      have found := find_line (o₂ ++ alignSectorLine report.alignSector afterAlign ::
        (o₃ ++ numberLine gap columns :: list)) (by decide) front
        (usableSectorLine_starts report.firstUsableSector report.lastUsableSector afterUsable)
      simpa only [List.append_assoc, List.cons_append] using found

theorem numberLine_free (gap columns : CppString) :
    startsWith (numberLine gap columns) "Found invalid GPT and valid MBR" = false :=
  other_heading (startsWith_append "Number" _) (by decide)

theorem any_filter_nonempty {pre : CppString} (nonempty : pre ≠ []) {lines : List CppString} :
    ((lines.filter fun line => !line.isEmpty).any fun buf => startsWith buf pre) =
      lines.any fun buf => startsWith buf pre := by
  rw [List.any_filter]
  refine congrArg (List.any lines) (funext fun line => ?_)
  cases starts : startsWith line pre with
  | false => exact Bool.and_false _
  | true => rw [ne_nil_of_startsWith nonempty starts]; rfl

/-- The lines below the first that starts with `Number`, which is the head of the list. -/
theorem partitionLines_below {front list : List CppString} (free : Free "Number" front)
    (gap columns : CppString) :
    partitionLines ((front ++ numberLine gap columns :: list).filter fun line => !line.isEmpty) =
      list.filter fun line => !line.isEmpty := by
  have starts : startsWith (numberLine gap columns) "Number" = true := startsWith_append _ _
  have start : contains "Start" (numberLine gap columns) = true := by
    refine (contains_iff (by decide)).mpr ⟨(("Number" : CppString) ++ gap).length, ?_⟩
    unfold numberLine
    rw [← List.append_assoc, List.drop_left]
    exact List.prefix_append _ _
  have head : (!(startsWith (numberLine gap columns) "Number" &&
      contains "Start" (numberLine gap columns))) = false := by
    rw [starts, start]
    rfl
  have before : ∀ line ∈ front.filter fun line => !line.isEmpty,
      (!(startsWith line "Number" && contains "Start" line)) = true := by
    intro line mem
    rw [free line (List.mem_filter.mp mem).1]
    rfl
  rw [partitionLines, List.filter_append, List.dropWhile_append_of_pos before, List.filter_cons,
    if_pos (by rw [ne_nil_of_startsWith (by decide) starts]; rfl),
    List.dropWhile_cons_of_neg (by rw [head]; decide), List.drop_one, List.tail_cons]

/-- What is left of the lines below the head of the list. -/
theorem layout_list {lines : List CppString} (layout : report.Layout lines) :
    ∃ list, PartitionList report.partitions list ∧
      partitionLines (lines.filter fun line => !line.isEmpty) =
        list.filter fun line => !line.isEmpty := by
  cases layout with
  | @lines opening o₁ o₂ o₃ list physical afterSize afterUsable afterAlign gap columns opens others
    sizeEnds usableEnds listed =>
    have other₁ : ∀ line ∈ o₁, OtherLine line := fun line mem => others line (by simp [mem])
    have other₂ : ∀ line ∈ o₂, OtherLine line := fun line mem => others line (by simp [mem])
    have other₃ : ∀ line ∈ o₃, OtherLine line := fun line mem => others line (by simp [mem])
    have front : Free "Number" (opening ++
        (sectorSizeLine physical report.sectorSize afterSize :: (o₁ ++
          usableSectorLine report.firstUsableSector report.lastUsableSector afterUsable :: (o₂ ++
          alignSectorLine report.alignSector afterAlign :: o₃)))) :=
      (opening_free opens (by decide) (by decide)).append
        (.cons (sectorSizeLine_free (by decide)) ((OtherLine.free other₁ (by decide)).append
          (.cons (usableSectorLine_free (by decide)) ((OtherLine.free other₂ (by decide)).append
            (.cons (alignSectorLine_free (by decide)) (OtherLine.free other₃ (by decide)))))))
    have found : partitionLines ((_ ++ numberLine gap columns :: list).filter
        fun line => !line.isEmpty) = list.filter fun line => !line.isEmpty :=
      partitionLines_below front gap columns
    refine ⟨list, listed, ?_⟩
    simpa only [List.append_assoc, List.cons_append] using found

/-- The banner is there just when the table was not GPT. -/
theorem layout_type {lines : List CppString} (layout : report.Layout lines) :
    ((lines.filter fun line => !line.isEmpty).any fun buf =>
      startsWith buf "Found invalid GPT and valid MBR") = report.invalidGpt := by
  cases layout with
  | @lines opening o₁ o₂ o₃ list physical afterSize afterUsable afterAlign gap columns opens others
    sizeEnds usableEnds listed =>
    have other₁ : ∀ line ∈ o₁, OtherLine line := fun line mem => others line (by simp [mem])
    have other₂ : ∀ line ∈ o₂, OtherLine line := fun line mem => others line (by simp [mem])
    have other₃ : ∀ line ∈ o₃, OtherLine line := fun line mem => others line (by simp [mem])
    rw [any_filter_nonempty (by decide)]
    cases opens with
    | gpt gpt first =>
        have free : Free "Found invalid GPT and valid MBR" (opening ++
            sectorSizeLine physical report.sectorSize afterSize :: (o₁ ++
            usableSectorLine report.firstUsableSector report.lastUsableSector afterUsable :: (o₂ ++
            alignSectorLine report.alignSector afterAlign ::
              (o₃ ++ numberLine gap columns :: list)))) :=
          (OtherLine.free first (by decide)).append (.cons (sectorSizeLine_free (by decide))
            ((OtherLine.free other₁ (by decide)).append (.cons (usableSectorLine_free (by decide))
              ((OtherLine.free other₂ (by decide)).append (.cons (alignSectorLine_free (by decide))
                ((OtherLine.free other₃ (by decide)).append
                  (.cons (numberLine_free gap columns) (partitionList_not_banner listed))))))))
        rw [gpt, List.any_eq_false]
        exact fun line mem => Bool.eq_false_iff.mp (free line mem)
    | @mbr before after tail mbr first second =>
        rw [mbr, List.any_eq_true]
        exact ⟨bannerLine tail, by simp, startsWith_append _ tail⟩

end

/-- Of a text that prints a table `GetPartitionTable` makes that table. -/
theorem table_report_round_trip {W : Type} {env : Env ManagerState W Req Req.Resp}
    {s : ManagerState} {w : W} {diskId : CppString} {disk : Disk} (report : TableReport)
    (text : CppString) (prints : report.Prints text) (known : s.diskMap[diskId]? = some disk)
    (answers : ∀ w answer w',
      env s w (.getPartitionTableInfo (DEV_BLOCK_PREFIX ++ diskId)) answer w' →
        answer = (E_OK, text)) :
    wp (.ofEnv env) (getPartitionTable diskId) (fun result _ _ =>
      ∃ info, result = (E_OK, some info) ∧ report.Tells info) s w := by
  obtain ⟨lines, layout, plain, rfl⟩ := prints
  have nonempty : lines ≠ [] := by
    rintro rfl
    cases layout_numbers layout
  have content := splitRawDumpToLines_intercalate nonempty plain
  have numbers := layout_numbers layout
  rw [← content] at numbers
  refine wp_mono ?_ wp_getPartitionTable
  rintro result - - outcome
  cases outcome with
  | unknown missing =>
      rw [known] at missing
      cases missing
  | failed printed refused =>
      obtain ⟨w, w', answered⟩ := printed
      have answer := answers _ _ _ answered
      subst answer
      rcases refused with failed | empty
      · exact absurd rfl failed
      · have empty : (['\n'] : CppString).intercalate lines = [] := List.isEmpty_iff.mp empty
        rw [empty] at numbers
        cases numbers
  | unreadable printed unread =>
      obtain ⟨w, w', answered⟩ := printed
      cases answers _ _ _ answered
      rw [numbers] at unread
      cases unread
  | @read raw head partitions printed parsed listed =>
      obtain ⟨w, w', answered⟩ := printed
      cases answers _ _ _ answered
      rw [numbers] at parsed
      cases parsed
      obtain ⟨list, isList, below⟩ := layout_list layout
      rw [content, below, partitionList_read isList report.fits] at listed
      refine ⟨_, rfl, rfl, rfl, rfl, ?_, listed_of_fits report.fits listed⟩
      dsimp only [tableOf, setTableType]
      rw [content, layout_type layout]

/-! ## A report -/

theorem stickReport_bounds : (1 ≤ 512 ∧ 512 ≤ 2 ^ 31 - 2) ∧ (1 ≤ 2048 ∧ 2048 ≤ 2 ^ 31 - 2) ∧
    15728606 < 2 ^ 63 := by
  decide

theorem stickReport_fits :
    ∀ p ∈ [(⟨1, 2048, 15728606⟩ : ReportedPartition)], p.Fits 512 := by
  intro p mem
  rw [List.mem_singleton.mp mem]
  exact ⟨by decide, by decide, by decide, by decide, by decide, by decide⟩

/-- The table of a USB stick with one partition. -/
def stickReport : TableReport where
  invalidGpt := false
  sectorSize := 512
  firstUsableSector := 34
  lastUsableSector := 15728606
  alignSector := 2048
  partitions := [⟨1, 2048, 15728606⟩]
  sectorSize_pos := stickReport_bounds.1.1
  sectorSize_le := stickReport_bounds.1.2
  alignSector_pos := stickReport_bounds.2.1.1
  alignSector_le := stickReport_bounds.2.1.2
  lastUsableSector_lt := stickReport_bounds.2.2
  fits := stickReport_fits

def stickPartitionLine : CppString :=
  "   1            2048        15728606   7.5 GiB     0700  Microsoft basic data"

/-- What is printed of a stick with one partition. -/
def printedLines (partitionLine : CppString) : List CppString :=
  ["Disk /dev/block/disk-8-0: 15728640 sectors, 7.5 GiB",
    "Sector size (logical/physical): 512/512 bytes",
    "Main partition table begins at sector 2 and ends at sector 33",
    "First usable sector is 34, last usable sector is 15728606",
    "Partitions will be aligned on 2048-sector boundaries",
    "",
    "Number  Start (sector)    End (sector)  Size       Code  Name",
    partitionLine,
    ""]

def stickLines : List CppString := printedLines stickPartitionLine

theorem stickReport_layout : stickReport.Layout stickLines := by
  have spelled : Words.Spells isSpace ((ofNat 1 : CppString) :: ofInt 2048 :: ofInt 15728606 ::
      ["7.5", "GiB", "0700", "Microsoft", "basic", "data"]) stickPartitionLine :=
    spells_iff_tokens.mpr (by decide +kernel)
  have opens : stickReport.Opening ["Disk /dev/block/disk-8-0: 15728640 sectors, 7.5 GiB"] :=
    .gpt rfl fun line mem => by
      rw [List.mem_singleton.mp mem]
      decide
  have others : ∀ line ∈ [("Main partition table begins at sector 2 and ends at sector 33" :
      CppString)] ++ [] ++ [[]], OtherLine line := by
    intro line mem
    simp only [List.append_nil, List.cons_append, List.nil_append, List.mem_cons,
      List.not_mem_nil, or_false] at mem
    rcases mem with rfl | rfl
    · decide
    · decide
  have layout := @TableReport.Layout.lines stickReport _ _ _ _ _ true "/512 bytes" "" ""
    "  " " (sector)    End (sector)  Size       Code  Name" opens others (by rintro c ⟨⟩; rfl)
    (by rintro c ⟨⟩) (.partition spelled (.blank .nil .nil))
  have same : ["Disk /dev/block/disk-8-0: 15728640 sectors, 7.5 GiB".toList] ++
      sectorSizeLine true 512 "/512 bytes" ::
        (["Main partition table begins at sector 2 and ends at sector 33".toList] ++
      usableSectorLine 34 15728606 "" :: ([] ++ alignSectorLine 2048 "" :: ([[]] ++
      numberLine "  " " (sector)    End (sector)  Size       Code  Name" ::
        [stickPartitionLine, []]))) = stickLines := by
    decide +kernel
  rwa [← same]

/-- The daemon prints the text for every disk. -/
def printsTable (text : CppString) : Env ManagerState Unit Req Req.Resp
  | _, _, .getPartitionTableInfo _, answer, _ => answer = (E_OK, text)
  | _, _, _, _, _ => True

def stickPresent : ManagerState :=
  { ManagerState.boot with
    diskMap := (∅ : StdMap Disk).insert "disk-8-0" (Disk.create "disk-8-0" 0 "sda" USB_FLAG) }

theorem table_report_round_trip_stick :
    wp (.ofEnv (printsTable ((['\n'] : CppString).intercalate stickLines)))
      (getPartitionTable "disk-8-0") (fun result _ _ =>
        ∃ info, result = (E_OK, some info) ∧ stickReport.Tells info) stickPresent () :=
  table_report_round_trip stickReport _ ⟨stickLines, stickReport_layout, by decide, rfl⟩
    (StdMap.get_insert_self _ _ _) fun _ _ _ answered => answered

end DiskManager
