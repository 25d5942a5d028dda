import DiskManager.Manager.PartitionTable

/-!
# Lines of the partition list

What `ParsePartitionInfo` takes for the line of a partition.

* `convertStringToInt32_iff`, `convertStringToInt_iff`: the two converters accept decimal numbers;
  the second one stops at a NUL.
* `partition_line_grammar_iff`: a line is read as it should be exactly when it is not one or two
  numbers, and no number ends at a NUL.
-/

namespace DiskManager

open CppString

/-! ## Decimal numbers -/

structure Digits (token : CppString) : Prop where
  nonempty : token ≠ []
  digits : ∀ c ∈ token, c.isDigit = true

/-- A decimal number with or without a sign. -/
inductive Decimal : CppString → Int → Prop
  | plain {number : CppString} : Digits number → Decimal number (digitsValue number)
  | plus {number : CppString} : Digits number → Decimal ('+' :: number) (digitsValue number)
  | minus {number : CppString} : Digits number → Decimal ('-' :: number) (-digitsValue number)

/-- A decimal number that an `int64_t` holds. -/
structure DecimalInt64 (token : CppString) (value : Int) : Prop where
  decimal : Decimal token value
  lower : -2 ^ 63 ≤ value
  upper : value < 2 ^ 63

/-- A decimal number from 1 to 2^31 - 2 without a leading zero. -/
structure PositiveInt32 (token : CppString) (value : Int) : Prop where
  digits : Digits token
  plain : token.head? ≠ some '0'
  reads : value = digitsValue token
  upper : value < 2 ^ 31 - 1

theorem digits_ofNat (n : Nat) : Digits (ofNat n) :=
  ⟨ofNat_ne_nil n, fun _ mem => isDigit_of_mem_ofNat mem⟩

theorem isDigit_of_bounds {c : Char} (lower : '0' ≤ c) (upper : c ≤ '9') : c.isDigit = true := by
  simp only [Char.isDigit, Bool.and_eq_true, decide_eq_true_eq]
  exact ⟨lower, upper⟩

theorem isPureDigitsInRange_iff {s : CppString} {minLen maxLen : Nat} :
    isPureDigitsInRange s minLen maxLen = true ↔
      (minLen ≤ s.length ∧ s.length ≤ maxLen) ∧ ∀ c ∈ s, c.isDigit = true := by
  unfold isPureDigitsInRange
  split
  next outside =>
    constructor
    · exact fun absurd => by cases absurd
    · rintro ⟨⟨lower, upper⟩, -⟩
      omega
  next inside =>
    rw [List.all_eq_true]
    constructor
    · intro all
      refine ⟨by omega, fun c mem => ?_⟩
      have bounds := of_decide_eq_true (all c mem)
      exact isDigit_of_bounds bounds.1 bounds.2
    · exact fun ⟨_, all⟩ c mem => decide_eq_true (isDigit_bounds (all c mem))

theorem convertStringToInt32_iff {token : CppString} {value : Int} :
    convertStringToInt32 token = some value ↔ PositiveInt32 token value := by
  unfold convertStringToInt32
  dsimp only
  constructor
  · intro converted
    split at converted
    next shape =>
      split at converted
      next small =>
        cases converted
        obtain ⟨⟨long, -⟩, digits⟩ := isPureDigitsInRange_iff.mp shape.1
        exact ⟨⟨List.length_pos_iff.mp long, digits⟩, shape.2, rfl, by omega⟩
      next => cases converted
    next => cases converted
  · rintro ⟨⟨nonempty, digits⟩, plain, rfl, upper⟩
    have written := ofNat_digitsValue digits nonempty plain
    have short : token.length ≤ 10 := by
      rw [← written]
      exact (Nat.length_toDigits_le_iff (by decide) (by decide)).mpr (by omega)
    have range : isPureDigitsInRange token 1 10 = true :=
      isPureDigitsInRange_iff.mpr ⟨⟨List.length_pos_iff.mpr nonempty, short⟩, digits⟩
    rw [if_pos ⟨range, plain⟩, if_pos (by omega)]

/-! ## What `strtoll` reads -/

/-- The C string of a `std::string`. -/
def cString (s : CppString) : CppString := s.takeWhile (· ≠ '\x00')

theorem cString_of_not_mem {s : CppString} (whole : '\x00' ∉ s) : cString s = s := by
  refine List.takeWhile_eq_self_iff.mpr fun c mem => decide_eq_true ?_
  rintro rfl
  exact whole mem

theorem cString_eq_self_iff {s : CppString} : cString s = s ↔ '\x00' ∉ s := by
  refine ⟨fun whole mem => ?_, cString_of_not_mem⟩
  rw [← whole] at mem
  have ended := List.mem_takeWhile_imp mem
  simp at ended

theorem digits_not_nul {s : CppString} (digits : ∀ c ∈ s, c.isDigit = true) : '\x00' ∉ s :=
  fun mem => absurd (digits _ mem) (by decide)

theorem cString_eq_digits_append (t : CppString) :
    cString t = t.takeWhile Char.isDigit ++ cString (t.dropWhile Char.isDigit) := by
  have digits : ∀ c ∈ t.takeWhile Char.isDigit, c.isDigit = true :=
    fun c mem => List.mem_takeWhile_imp mem
  have front : ∀ c ∈ t.takeWhile Char.isDigit, decide (c ≠ '\x00') = true := by
    intro c mem
    refine decide_eq_true ?_
    rintro rfl
    exact digits_not_nul digits mem
  calc cString t
      = cString (t.takeWhile Char.isDigit ++ t.dropWhile Char.isDigit) := by
        rw [List.takeWhile_append_dropWhile]
    _ = t.takeWhile Char.isDigit ++ cString (t.dropWhile Char.isDigit) :=
        List.takeWhile_append_of_pos front

theorem cString_eq_nil_iff {t : CppString} : cString t = [] ↔ t.headD '\x00' = '\x00' := by
  cases t with
  | nil => exact ⟨fun _ => rfl, fun _ => rfl⟩
  | cons c cs =>
      rw [cString, List.takeWhile_cons]
      by_cases nul : c = '\x00'
      · simp [nul]
      · simp [nul]

/-- A C string is a number when its digits go to its end. -/
theorem digits_cString_iff {t : CppString} : Digits (cString t) ↔
    t.takeWhile Char.isDigit ≠ [] ∧ (t.dropWhile Char.isDigit).headD '\x00' = '\x00' := by
  rw [← cString_eq_nil_iff]
  constructor
  · rintro ⟨nonempty, digits⟩
    have ends : cString (t.dropWhile Char.isDigit) = [] := by
      cases past : t.dropWhile Char.isDigit with
      | nil => rfl
      | cons c cs =>
          have first := List.head?_dropWhile_not Char.isDigit t
          rw [past] at first
          by_contra longer
          have inside : c ∈ cString (c :: cs) := by
            by_cases nul : c = '\x00'
            · exact absurd ((cString_eq_nil_iff (t := c :: cs)).mpr nul) longer
            · rw [cString, List.takeWhile_cons, if_pos (decide_eq_true nul)]
              exact List.mem_cons_self
          have digit := digits c (by
            rw [cString_eq_digits_append, past]
            exact List.mem_append_right _ inside)
          exact absurd digit (by simpa using first)
    refine ⟨fun none => nonempty ?_, ends⟩
    rw [cString_eq_digits_append, none, ends, List.nil_append]
  · rintro ⟨some', ends⟩
    rw [cString_eq_digits_append, ends, List.append_nil]
    exact ⟨some', fun c mem => List.mem_takeWhile_imp mem⟩

theorem takeWhile_eq_cString {t : CppString} (digits : Digits (cString t)) :
    t.takeWhile Char.isDigit = cString t := by
  have ends := cString_eq_nil_iff.mpr (digits_cString_iff.mp digits).2
  rw [cString_eq_digits_append, ends, List.append_nil]

/-- The number after the sign, which is the rest of the C string. -/
theorem convertDigits_iff {t : CppString} {negative : Bool} {value : Int} :
    (if (t.takeWhile Char.isDigit).isEmpty ∨ (t.dropWhile Char.isDigit).headD '\x00' ≠ '\x00' then
        none
      else if negative then
        if digitsValue (t.takeWhile Char.isDigit) ≤ 2 ^ 63 then
          some (-(digitsValue (t.takeWhile Char.isDigit) : Int)) else none
      else if digitsValue (t.takeWhile Char.isDigit) < 2 ^ 63 then
        some (digitsValue (t.takeWhile Char.isDigit) : Int) else none) = some value ↔
      Digits (cString t) ∧
        value = (if negative then -(digitsValue (cString t) : Int) else digitsValue (cString t)) ∧
        -2 ^ 63 ≤ value ∧ value < 2 ^ 63 := by
  by_cases digits : Digits (cString t)
  · obtain ⟨some', ends⟩ := digits_cString_iff.mp digits
    have accepted : ¬ ((t.takeWhile Char.isDigit).isEmpty = true ∨
        (t.dropWhile Char.isDigit).headD '\x00' ≠ '\x00') := by
      rw [not_or, List.isEmpty_iff, not_not]
      exact ⟨some', ends⟩
    rw [if_neg accepted, takeWhile_eq_cString digits, and_iff_right digits]
    cases negative with
    | true =>
        simp only [if_true]
        split
        · rw [Option.some.injEq]
          omega
        · simp only [reduceCtorEq, false_iff]
          omega
    | false =>
        simp only [Bool.false_eq_true, if_false]
        split
        · rw [Option.some.injEq]
          omega
        · simp only [reduceCtorEq, false_iff]
          omega
  · have refused : (t.takeWhile Char.isDigit).isEmpty = true ∨
        (t.dropWhile Char.isDigit).headD '\x00' ≠ '\x00' := by
      rw [digits_cString_iff] at digits
      by_contra neither
      rw [not_or, List.isEmpty_iff, not_not] at neither
      exact digits neither
    rw [if_pos refused]
    simp [digits]

/-! ## Signs -/

theorem decimal_minus_iff {number : CppString} {value : Int} :
    Decimal ('-' :: number) value ↔ Digits number ∧ value = -digitsValue number := by
  constructor
  · intro decimal
    cases decimal with
    | plain digits => exact absurd (digits.digits _ List.mem_cons_self) (by decide)
    | minus digits => exact ⟨digits, rfl⟩
  · rintro ⟨digits, rfl⟩
    exact .minus digits

theorem decimal_plus_iff {number : CppString} {value : Int} :
    Decimal ('+' :: number) value ↔ Digits number ∧ value = digitsValue number := by
  constructor
  · intro decimal
    cases decimal with
    | plain digits => exact absurd (digits.digits _ List.mem_cons_self) (by decide)
    | plus digits => exact ⟨digits, rfl⟩
  · rintro ⟨digits, rfl⟩
    exact .plus digits

theorem decimal_plain_iff {token : CppString} {value : Int} (minus : token.head? ≠ some '-')
    (plus : token.head? ≠ some '+') :
    Decimal token value ↔ Digits token ∧ value = digitsValue token := by
  constructor
  · intro decimal
    cases decimal with
    | plain digits => exact ⟨digits, rfl⟩
    | plus digits => exact absurd rfl plus
    | minus digits => exact absurd rfl minus
  · rintro ⟨digits, rfl⟩
    exact .plain digits

/-- The sign and what follows it, in the text and in its C string. -/
theorem decimal_splitSign_iff {token : CppString} {value : Int} :
    Decimal (cString token) value ↔ Digits (cString (splitSign token).2) ∧
      value = (if (splitSign token).1 then -(digitsValue (cString (splitSign token).2) : Int)
        else digitsValue (cString (splitSign token).2)) := by
  by_cases minus : token.head? = some '-'
  · obtain ⟨rest, rfl⟩ := List.head?_eq_some_iff.mp minus
    have cut : cString ('-' :: rest) = '-' :: cString rest :=
      List.takeWhile_cons_of_pos (by decide)
    rw [cut, decimal_minus_iff]
    rfl
  by_cases plus : token.head? = some '+'
  · obtain ⟨rest, rfl⟩ := List.head?_eq_some_iff.mp plus
    have cut : cString ('+' :: rest) = '+' :: cString rest :=
      List.takeWhile_cons_of_pos (by decide)
    rw [cut, decimal_plus_iff]
    rfl
  have head : ∀ c, token.head? ≠ some c → (cString token).head? ≠ some c := by
    intro c other same
    cases token with
    | nil => cases same
    | cons d ds =>
        rw [cString, List.takeWhile_cons] at same
        split at same
        · exact other same
        · cases same
  rw [decimal_plain_iff (head _ minus) (head _ plus), splitSign_plain minus plus]
  rfl

/-- `ConvertStringToInt` on a text that does not start with a blank. -/
theorem convertStringToInt_iff {token : CppString} {value : Int}
    (solid : ∀ c ∈ token, isSpace c = false) :
    convertStringToInt token = some value ↔ DecimalInt64 (cString token) value := by
  have start : token.dropWhile isSpace = token := by
    cases token with
    | nil => rfl
    | cons c cs => exact List.dropWhile_cons_of_neg (by simp [solid c List.mem_cons_self])
  unfold convertStringToInt
  rw [start]
  dsimp only
  rw [convertDigits_iff]
  constructor
  · rintro ⟨digits, reads, lower, upper⟩
    exact ⟨decimal_splitSign_iff.mpr ⟨digits, reads⟩, lower, upper⟩
  · rintro ⟨decimal, lower, upper⟩
    obtain ⟨digits, reads⟩ := decimal_splitSign_iff.mp decimal
    exact ⟨digits, reads, lower, upper⟩

/-- A number has no blanks and no NUL. -/
theorem Decimal.characters {token : CppString} {value : Int} (decimal : Decimal token value) :
    ∀ c ∈ token, isSpace c = false ∧ c ≠ '\x00' := by
  have digit : ∀ c : Char, c.isDigit = true → isSpace c = false ∧ c ≠ '\x00' := by
    intro c digit
    refine ⟨isSpace_of_isDigit digit, ?_⟩
    rintro rfl
    cases digit
  intro c mem
  cases decimal with
  | plain digits => exact digit c (digits.digits c mem)
  | plus digits =>
      rcases List.mem_cons.mp mem with rfl | later
      · decide
      · exact digit c (digits.digits c later)
  | minus digits =>
      rcases List.mem_cons.mp mem with rfl | later
      · decide
      · exact digit c (digits.digits c later)

theorem DecimalInt64.no_nul {token : CppString} {value : Int} (number : DecimalInt64 token value) :
    '\x00' ∉ token :=
  fun mem => (number.decimal.characters _ mem).2 rfl

theorem convertStringToInt_of_decimal {token : CppString} {value : Int}
    (number : DecimalInt64 token value) : convertStringToInt token = some value := by
  rw [convertStringToInt_iff fun c mem => (number.decimal.characters c mem).1,
    cString_of_not_mem number.no_nul]
  exact number

theorem PositiveInt32.decimalInt64 {token : CppString} {value : Int}
    (number : PositiveInt32 token value) : DecimalInt64 token value := by
  obtain ⟨digits, plain, rfl, upper⟩ := number
  exact ⟨.plain digits, by omega, by omega⟩

/-! ## Lines -/

/-- The line has at least three tokens: a partition number, a first and a last sector. -/
def PartitionLine (line : CppString) (info : PartitionInfo) : Prop :=
  ∃ (number first last : CppString) (rest : List CppString),
    Words.Spells isSpace (number :: first :: last :: rest) line ∧
    PositiveInt32 number info.partitionNum ∧ DecimalInt64 first info.startSector ∧
    DecimalInt64 last info.endSector ∧
    info = { partitionNum := info.partitionNum, startSector := info.startSector
             endSector := info.endSector }

/-- The line is a partition number, or a partition number and a text `strtoll` reads. -/
def FewNumbers (line : CppString) : Prop :=
  (∃ number n, Words.Spells isSpace [number] line ∧ PositiveInt32 number n) ∨
  ∃ number n first start, Words.Spells isSpace [number, first] line ∧ PositiveInt32 number n ∧
    DecimalInt64 (cString first) start

/-- One of the two sectors is a number up to a NUL inside its token. -/
def CutNumber (line : CppString) : Prop :=
  ∃ number n first start last stop rest,
    Words.Spells isSpace (number :: first :: last :: rest) line ∧ PositiveInt32 number n ∧
    DecimalInt64 (cString first) start ∧ DecimalInt64 (cString last) stop ∧
    ('\x00' ∈ first ∨ '\x00' ∈ last)

section

variable {line : CppString} {info : PartitionInfo}

/-- What is read of the tokens of a line. -/
def readTokens : List CppString → Option PartitionInfo
  | [] => none
  | item :: items => do
      let partitionNum ← convertStringToInt32 item
      let startSector ← convertStringToInt (items.headD item)
      let endSector ← convertStringToInt (items[1]?.getD (items.headD item))
      return { partitionNum, startSector, endSector }

theorem parsePartitionInfo_eq (line : CppString) :
    parsePartitionInfo line = readTokens (tokens line) := by
  unfold parsePartitionInfo
  cases tokens line with
  | nil => rfl
  | cons item items => cases items <;> rfl

theorem readTokens_cons_iff {item : CppString} {items : List CppString} :
    readTokens (item :: items) = some info ↔
      ∃ n start stop, convertStringToInt32 item = some n ∧
        convertStringToInt (items.headD item) = some start ∧
        convertStringToInt (items[1]?.getD (items.headD item)) = some stop ∧
        info = { partitionNum := n, startSector := start, endSector := stop } := by
  simp only [readTokens, Option.bind_eq_bind, Option.bind_eq_some_iff, Option.pure_def,
    Option.some.injEq]
  constructor
  · rintro ⟨n, number, start, first, stop, last, rfl⟩
    exact ⟨n, start, stop, number, first, last, rfl⟩
  · rintro ⟨n, start, stop, number, first, last, rfl⟩
    exact ⟨n, number, start, first, stop, last, rfl⟩

/-- A line with a token for each number. -/
theorem parsePartitionInfo_three {number first last : CppString} {rest : List CppString}
    (shape : tokens line = number :: first :: last :: rest) :
    parsePartitionInfo line = some info ↔
      PositiveInt32 number info.partitionNum ∧ DecimalInt64 (cString first) info.startSector ∧
      DecimalInt64 (cString last) info.endSector ∧
      info = { partitionNum := info.partitionNum, startSector := info.startSector
               endSector := info.endSector } := by
  have solid : ∀ token ∈ tokens line, ∀ c ∈ token, isSpace c = false :=
    fun token mem => isSpace_of_mem_tokens mem
  rw [shape] at solid
  have firstSolid := solid first (by simp)
  have lastSolid := solid last (by simp)
  rw [parsePartitionInfo_eq, shape, readTokens_cons_iff]
  simp only [convertStringToInt32_iff, List.headD_cons, convertStringToInt_iff firstSolid,
    List.getElem?_cons_succ, List.getElem?_cons_zero, Option.getD_some,
    convertStringToInt_iff lastSolid]
  constructor
  · rintro ⟨n, start, stop, isNumber, isFirst, isLast, rfl⟩
    exact ⟨isNumber, isFirst, isLast, rfl⟩
  · rintro ⟨isNumber, isFirst, isLast, same⟩
    exact ⟨_, _, _, isNumber, isFirst, isLast, same⟩

/-- A line that is spelled as it should be is read. -/
theorem parsePartitionInfo_of_line (spelled : PartitionLine line info) :
    parsePartitionInfo line = some info := by
  obtain ⟨number, first, last, rest, spells, isNumber, isFirst, isLast, same⟩ := spelled
  have solid : ∀ {token : CppString} {value : Int}, DecimalInt64 token value →
      convertStringToInt token = some value := convertStringToInt_of_decimal
  rw [parsePartitionInfo_eq, spells_iff_tokens.mp spells, readTokens_cons_iff]
  exact ⟨_, _, _, convertStringToInt32_iff.mpr isNumber, solid isFirst, solid isLast, same⟩

theorem not_partitionLine_of_short (short : (tokens line).length < 3) :
    ¬ PartitionLine line info := by
  rintro ⟨number, first, last, rest, spells, -⟩
  rw [spells_iff_tokens.mp spells] at short
  simp only [List.length_cons] at short
  omega

/-- Some partition is read of a line of one or two numbers. -/
theorem read_of_fewNumbers (few : FewNumbers line) :
    (tokens line).length < 3 ∧ ∃ info, parsePartitionInfo line = some info := by
  rcases few with ⟨number, n, spells, isNumber⟩ | ⟨number, n, first, start, spells, isNumber, isFirst⟩
  · have shape := spells_iff_tokens.mp spells
    have converted := convertStringToInt_of_decimal isNumber.decimalInt64
    rw [parsePartitionInfo_eq, shape]
    refine ⟨by simp, _, readTokens_cons_iff.mpr ⟨n, n, n, ?_, converted, converted, rfl⟩⟩
    exact convertStringToInt32_iff.mpr isNumber
  · have shape := spells_iff_tokens.mp spells
    have solid : ∀ c ∈ first, isSpace c = false :=
      isSpace_of_mem_tokens (s := line) (by rw [shape]; simp)
    have converted := (convertStringToInt_iff solid).mpr isFirst
    rw [parsePartitionInfo_eq, shape]
    refine ⟨by simp, _, readTokens_cons_iff.mpr ⟨n, start, start, ?_, converted, converted, rfl⟩⟩
    exact convertStringToInt32_iff.mpr isNumber

/-- Only a line of one or two numbers is read that has fewer than three tokens. -/
theorem fewNumbers_of_read (short : (tokens line).length < 3)
    (read : parsePartitionInfo line = some info) : FewNumbers line := by
  rw [parsePartitionInfo_eq] at read
  cases shape : tokens line with
  | nil =>
      rw [shape] at read
      cases read
  | cons number items =>
      rw [shape] at read
      obtain ⟨n, start, stop, isNumber, isFirst, -, -⟩ := readTokens_cons_iff.mp read
      have isNumber := convertStringToInt32_iff.mp isNumber
      cases items with
      | nil => exact .inl ⟨number, n, spells_iff_tokens.mpr shape, isNumber⟩
      | cons first items =>
          cases items with
          | nil =>
              have solid : ∀ c ∈ first, isSpace c = false :=
                isSpace_of_mem_tokens (s := line) (by rw [shape]; simp)
              refine .inr ⟨number, n, first, start, spells_iff_tokens.mpr shape, isNumber, ?_⟩
              exact (convertStringToInt_iff solid).mp isFirst
          | cons last items =>
              rw [shape] at short
              simp only [List.length_cons] at short
              omega

/-- `ParsePartitionInfo` reads a line as it should, whatever comes of it, exactly when the line is
neither one or two numbers nor has a sector that ends at a NUL. -/
theorem partition_line_grammar_iff (line : CppString) :
    (∀ info, parsePartitionInfo line = some info ↔ PartitionLine line info) ↔
      ¬ FewNumbers line ∧ ¬ CutNumber line := by
  constructor
  · intro grammar
    constructor
    · intro few
      obtain ⟨short, info, read⟩ := read_of_fewNumbers few
      exact not_partitionLine_of_short short ((grammar info).mp read)
    · rintro ⟨number, n, first, start, last, stop, rest, spells, isNumber, isFirst, isLast, cut⟩
      have shape := spells_iff_tokens.mp spells
      have read : parsePartitionInfo line =
          some { partitionNum := n, startSector := start, endSector := stop } :=
        (parsePartitionInfo_three shape).mpr ⟨isNumber, isFirst, isLast, rfl⟩
      obtain ⟨number', first', last', rest', spells', -, isFirst', isLast', -⟩ :=
        (grammar _).mp read
      have same := shape.symm.trans (spells_iff_tokens.mp spells')
      cases same
      rcases cut with inFirst | inLast
      · exact isFirst'.no_nul inFirst
      · exact isLast'.no_nul inLast
  · rintro ⟨notFew, notCut⟩ info
    refine ⟨fun read => ?_, parsePartitionInfo_of_line⟩
    by_cases short : (tokens line).length < 3
    · exact absurd (fewNumbers_of_read short read) notFew
    · obtain ⟨number, first, last, rest, shape⟩ :
          ∃ number first last rest, tokens line = number :: first :: last :: rest := by
        rcases shape : tokens line with - | ⟨number, - | ⟨first, - | ⟨last, rest⟩⟩⟩
        case cons.cons.cons => exact ⟨number, first, last, rest, rfl⟩
        all_goals
          rw [shape] at short
          simp at short
      have spells := spells_iff_tokens.mpr shape
      obtain ⟨isNumber, isFirst, isLast, same⟩ := (parsePartitionInfo_three shape).mp read
      by_cases cut : '\x00' ∈ first ∨ '\x00' ∈ last
      · exact absurd ⟨_, _, _, _, _, _, _, spells, isNumber, isFirst, isLast, cut⟩ notCut
      · rw [not_or] at cut
        rw [cString_of_not_mem cut.1] at isFirst
        rw [cString_of_not_mem cut.2] at isLast
        exact ⟨number, first, last, rest, spells, isNumber, isFirst, isLast, same⟩

end

/-- A line of one number is taken for a partition of one sector. -/
theorem partition_line_one_token :
    parsePartitionInfo "5" = some { partitionNum := 5, startSector := 5, endSector := 5 } ∧
      ¬ PartitionLine "5" { partitionNum := 5, startSector := 5, endSector := 5 } :=
  ⟨by decide, not_partitionLine_of_short (by decide)⟩

end DiskManager
