import Mathlib.Algebra.Group.Int.Defs
import Mathlib.Algebra.Group.Nat.Defs
import Mathlib.Data.List.Basic
import Mathlib.Data.List.Induction
import Mathlib.Data.List.TakeWhile
import Mathlib.Tactic.Common
import DiskManager.Words

/-!
# Byte strings

A `std::string` is the list of its bytes. A byte is written as the character with its code, so
ASCII text reads as itself and `size()` is the length of the list. Only the members of
`std::string` and the C functions the service calls are here, under their own names.
-/

namespace DiskManager

abbrev CppString : Type := List Char

instance : Coe String CppString := ⟨String.toList⟩

namespace CppString

/-- `s.find(pat)`: the first position at which `pat` occurs. -/
def find (pat : CppString) : CppString → Option Nat
  | [] => if pat.isEmpty then some 0 else none
  | c :: cs => if pat.isPrefixOf (c :: cs) then some 0 else (find pat cs).map (· + 1)

/-- `s.find(pat, pos)`. -/
def findFrom (pat s : CppString) (pos : Nat) : Option Nat :=
  if pos ≤ s.length then (find pat (s.drop pos)).map (· + pos) else none

/-- `s.find(pat) != npos`. -/
def contains (pat s : CppString) : Bool := (find pat s).isSome

/-- `s.rfind(pat)`: the last position at which `pat` occurs. -/
def rfind (pat : CppString) : CppString → Option Nat
  | [] => if pat.isEmpty then some 0 else none
  | c :: cs =>
      match rfind pat cs with
      | some i => some (i + 1)
      | none => if pat.isPrefixOf (c :: cs) then some 0 else none

/-- `StartsWith(value, prefix)`, also written `value.find(prefix) == 0`. -/
def startsWith (value pre : CppString) : Bool := pre.isPrefixOf value

/-- `std::tolower` in the C locale, byte by byte. -/
def toLower (s : CppString) : CppString := s.map Char.toLower

/-- `std::to_string` of an unsigned number. -/
def ofNat (n : Nat) : CppString := Nat.toDigits 10 n

/-- `std::to_string` of a signed number. -/
def ofInt : Int → CppString
  | .ofNat n => ofNat n
  | .negSucc n => '-' :: ofNat (n + 1)

/-- `s.substr(s.find_last_of(c) + 1)`: all of `s` when `c` does not occur. -/
def afterLast (c : Char) (s : CppString) : CppString :=
  (s.reverse.takeWhile (· ≠ c)).reverse

/-- The value `strtoul` returns for a run of decimal digits that fits. -/
def digitsValue (s : CppString) : Nat := Nat.ofDigitChars 10 s 0

@[simp] theorem digitsValue_ofNat (n : Nat) : digitsValue (ofNat n) = n :=
  Nat.ofDigitChars_ten_toDigits

theorem ofNat_injective {m n : Nat} (same : ofNat m = ofNat n) : m = n := by
  have values := congrArg digitsValue same
  simpa only [digitsValue_ofNat] using values

theorem ofNat_ne_nil (n : Nat) : ofNat n ≠ [] := Nat.toDigits_ne_nil

theorem isDigit_of_mem_ofNat {n : Nat} {c : Char} (mem : c ∈ ofNat n) : c.isDigit = true :=
  Nat.isDigit_of_mem_toDigits (by decide) (by decide) mem

/-- `isspace` in the C locale. -/
def isSpace (c : Char) : Bool := c = ' ' || ('\t' ≤ c && c ≤ '\r')

/-- The tokens `istringstream >> token` reads, one after another. `tok` holds what is read of the
current one. -/
def tokensFrom (tok : CppString) : CppString → List CppString
  | [] => if tok.isEmpty then [] else [tok]
  | c :: cs =>
      if isSpace c then if tok.isEmpty then tokensFrom [] cs else tok :: tokensFrom [] cs
      else tokensFrom (tok ++ [c]) cs

def tokens (s : CppString) : List CppString := tokensFrom [] s

/-- The value of a digit in a base up to 36; 36 for what is none. -/
def digitValue (c : Char) : Nat :=
  if '0' ≤ c && c ≤ '9' then c.toNat - '0'.toNat
  else if 'a' ≤ c && c ≤ 'z' then c.toNat - 'a'.toNat + 10
  else if 'A' ≤ c && c ≤ 'Z' then c.toNat - 'A'.toNat + 10
  else 36

/-- The number at the start of the text, after the sign. -/
def unsignedPrefix (base : Nat) (s : CppString) : Nat :=
  (s.takeWhile fun c => digitValue c < base).foldl (fun n c => n * base + digitValue c) 0

/-- A `0x` in base 16 is skipped when a digit follows. -/
def skipHexMark (base : Nat) : CppString → CppString
  | '0' :: x :: d :: rest =>
      if base = 16 ∧ (x = 'x' ∨ x = 'X') ∧ digitValue d < 16 then d :: rest
      else '0' :: x :: d :: rest
  | s => s

/-- Whether a minus stands in front, and what follows the sign. -/
def splitSign : CppString → Bool × CppString
  | '-' :: rest => (true, rest)
  | '+' :: rest => (false, rest)
  | s => (false, s)

/-- `strtoul(s.c_str(), nullptr, base)` with a 64-bit `unsigned long`. -/
def strtoul (base : Nat) (s : CppString) : Nat :=
  let (negative, digits) := splitSign (s.dropWhile isSpace)
  let value := unsignedPrefix base (skipHexMark base digits)
  if 2 ^ 64 ≤ value then 2 ^ 64 - 1 else if negative then (2 ^ 64 - value) % 2 ^ 64 else value

/-! ## Numbers in texts -/

/-- A number is read up to the separator. -/
theorem ofNat_append_inj {m n : Nat} {sep : Char} (other : sep.isDigit = false) {x y : CppString}
    (same : ofNat m ++ sep :: x = ofNat n ++ sep :: y) : m = n ∧ x = y := by
  have digits : ∀ (k : Nat) (z : CppString), (ofNat k ++ sep :: z).takeWhile Char.isDigit = ofNat k := by
    intro k z
    rw [List.takeWhile_append_of_pos fun c mem => isDigit_of_mem_ofNat mem,
      List.takeWhile_cons_of_neg (by simp [other]), List.append_nil]
  have first := congrArg (List.takeWhile Char.isDigit) same
  rw [digits, digits] at first
  have number := ofNat_injective first
  subst number
  exact ⟨rfl, (List.cons.inj (List.append_cancel_left same)).2⟩

theorem isDigit_bounds {c : Char} (digit : c.isDigit = true) : '0' ≤ c ∧ c ≤ '9' := by
  simp only [Char.isDigit, Bool.and_eq_true, decide_eq_true_eq] at digit
  exact digit

theorem digitValue_of_isDigit {c : Char} (digit : c.isDigit = true) :
    digitValue c = c.toNat - '0'.toNat := by
  have bounds := isDigit_bounds digit
  unfold digitValue
  rw [if_pos (by simp [bounds])]

theorem isSpace_of_isDigit {c : Char} (digit : c.isDigit = true) : isSpace c = false := by
  have lower : 48 ≤ c.toNat := Char.le_def.mp (isDigit_bounds digit).1
  have notSpace : c ≠ ' ' := by
    rintro rfl
    exact absurd lower (by decide)
  have notAbove : ¬ c ≤ '\r' := by
    intro upper
    have upper : c.toNat ≤ 13 := Char.le_def.mp upper
    omega
  simp [isSpace, notSpace, notAbove]

/-- A text without a sign. -/
theorem splitSign_plain {s : CppString} (minus : s.head? ≠ some '-') (plus : s.head? ≠ some '+') :
    splitSign s = (false, s) := by
  unfold splitSign
  split
  · exact absurd rfl minus
  · exact absurd rfl plus
  · rfl

/-- A digit is no blank and no sign. -/
theorem not_space_of_digitValue {c : Char} (digit : digitValue c < 36) : isSpace c = false := by
  have lower : 48 ≤ c.toNat := by
    unfold digitValue at digit
    split at digit
    next decimal =>
      rw [Bool.and_eq_true, decide_eq_true_eq, decide_eq_true_eq] at decimal
      exact Char.le_def.mp decimal.1
    split at digit
    next small =>
      rw [Bool.and_eq_true, decide_eq_true_eq, decide_eq_true_eq] at small
      exact Nat.le_trans (by decide) (Char.le_def.mp small.1 : 97 ≤ c.toNat)
    split at digit
    next large =>
      rw [Bool.and_eq_true, decide_eq_true_eq, decide_eq_true_eq] at large
      exact Nat.le_trans (by decide) (Char.le_def.mp large.1 : 65 ≤ c.toNat)
    next => exact absurd digit (Nat.lt_irrefl 36)
  have notSpace : c ≠ ' ' := by
    rintro rfl
    exact absurd lower (by decide)
  have notAbove : ¬ c ≤ '\r' := by
    intro upper
    have upper : c.toNat ≤ 13 := Char.le_def.mp upper
    omega
  simp [isSpace, notSpace, notAbove]

/-- The value of a text of digits. -/
def numeralValue (base : Nat) (digits : CppString) : Nat :=
  digits.foldl (fun n c => n * base + digitValue c) 0

/-- `strtoul` of nothing but digits. -/
theorem strtoul_digits {base : Nat} {digits : CppString} (le : base ≤ 36) (nonempty : digits ≠ [])
    (inBase : ∀ c ∈ digits, digitValue c < base) (skip : skipHexMark base digits = digits) :
    strtoul base digits = min (numeralValue base digits) (2 ^ 64 - 1) := by
  obtain ⟨c, cs, shape⟩ := List.exists_cons_of_ne_nil nonempty
  have digit : digitValue c < 36 :=
    Nat.lt_of_lt_of_le (inBase c (shape ▸ List.mem_cons_self)) le
  have noSign : ∀ d : Char, 36 ≤ digitValue d → digits.head? ≠ some d := by
    intro d sign same
    rw [shape, List.head?_cons, Option.some.injEq] at same
    rw [same] at digit
    omega
  have start : digits.dropWhile isSpace = digits := by
    rw [shape, List.dropWhile_cons_of_neg (by simp [not_space_of_digitValue digit])]
  have unsigned : splitSign digits = (false, digits) :=
    splitSign_plain (noSign '-' (by decide)) (noSign '+' (by decide))
  have whole : unsignedPrefix base digits = numeralValue base digits := by
    rw [unsignedPrefix, List.takeWhile_eq_self_iff.mpr fun c mem => decide_eq_true (inBase c mem)]
    rfl
  unfold strtoul
  rw [start, unsigned]
  dsimp only
  rw [skip, whole, if_neg Bool.false_ne_true]
  split
  · omega
  · omega

theorem digitValue_lt_of_isDigit {c : Char} (digit : c.isDigit = true) : digitValue c < 10 := by
  have upper : c.toNat ≤ 57 := Char.le_def.mp (isDigit_bounds digit).2
  rw [digitValue_of_isDigit digit]
  exact Nat.lt_of_le_of_lt (Nat.sub_le_sub_right upper 48) (by decide)

theorem numeralValue_ten {digits : CppString} (decimal : ∀ c ∈ digits, c.isDigit = true) :
    numeralValue 10 digits = digitsValue digits := by
  have general : ∀ (s : CppString) (start : Nat), (∀ c ∈ s, c.isDigit = true) →
      s.foldl (fun n c => n * 10 + digitValue c) start = Nat.ofDigitChars 10 s start := by
    intro s
    induction s with
    | nil => exact fun start decimal => rfl
    | cons c cs ih =>
        intro start decimal
        rw [List.foldl_cons, ih _ fun d mem => decimal d (List.mem_cons_of_mem c mem),
          Nat.ofDigitChars_cons, digitValue_of_isDigit (decimal c List.mem_cons_self), Nat.mul_comm]
  exact general digits 0 decimal

/-- `strtoul` of decimal digits. -/
theorem strtoul_decimal {digits : CppString} (nonempty : digits ≠ [])
    (decimal : ∀ c ∈ digits, c.isDigit = true) (small : digitsValue digits < 2 ^ 64) :
    strtoul 10 digits = digitsValue digits := by
  have value := numeralValue_ten decimal
  have skip : skipHexMark 10 digits = digits := by
    unfold skipHexMark
    split
    · rfl
    · rfl
  have read := strtoul_digits (by decide) nonempty
    (fun c mem => digitValue_lt_of_isDigit (decimal c mem)) skip
  omega

/-- `strtoul` reads back what `to_string` wrote. -/
theorem strtoul_ofNat {n : Nat} (small : n < 2 ^ 64) : strtoul 10 (ofNat n) = n := by
  have value := digitsValue_ofNat n
  have read := strtoul_decimal (ofNat_ne_nil n) (fun c mem => isDigit_of_mem_ofNat mem)
    (by rwa [value])
  exact read.trans value

/-- Only zero is written with a leading zero. -/
theorem head?_ofNat {n : Nat} (pos : 0 < n) : (ofNat n).head? ≠ some '0' := by
  induction n using Nat.strongRecOn with
  | ind n ih =>
      rw [ofNat, Nat.toDigits_eq_if (by decide)]
      split
      next => simpa using Nat.ne_of_gt pos
      next large =>
        have smaller := ih (n / 10) (by omega) (by omega)
        rwa [List.head?_append_of_ne_nil _ Nat.toDigits_ne_nil]

/-- Digits without a leading zero are what `to_string` writes for their value. -/
theorem ofNat_digitsValue {s : CppString} (digits : ∀ c ∈ s, c.isDigit = true) (nonempty : s ≠ [])
    (plain : s.head? ≠ some '0') : ofNat (digitsValue s) = s := by
  induction s using List.reverseRecOn with
  | nil => exact absurd rfl nonempty
  | append_singleton s c ih =>
      have bounds := isDigit_bounds (digits c (by simp))
      have lower : 48 ≤ c.toNat := Char.le_def.mp bounds.1
      have upper : c.toNat ≤ 57 := Char.le_def.mp bounds.2
      have small : c.toNat - '0'.toNat < 10 := by
        change c.toNat - 48 < 10
        omega
      have char : Nat.digitChar (c.toNat - '0'.toNat) = c := by
        have same := Nat.toNat_digitChar_of_lt_ten small
        refine Char.toNat_inj.mp (same.trans ?_)
        change 48 + (c.toNat - 48) = c.toNat
        omega
      have value : digitsValue (s ++ [c]) = 10 * digitsValue s + (c.toNat - '0'.toNat) := by
        rw [digitsValue, Nat.ofDigitChars_append, Nat.ofDigitChars_cons, Nat.ofDigitChars_nil]
        rfl
      rw [value]
      by_cases single : s = []
      · subst single
        have zero : digitsValue [] = 0 := rfl
        rw [zero, Nat.mul_zero, Nat.zero_add, ofNat, Nat.toDigits_of_lt_base small, char]
        rfl
      · have head : s.head? ≠ some '0' := by
          rwa [List.head?_append_of_ne_nil _ single] at plain
        have front := ih (fun d mem => digits d (List.mem_append_left _ mem)) single head
        have pos : 0 < digitsValue s := by
          refine Nat.pos_of_ne_zero fun zero => head ?_
          rw [← front, zero]
          rfl
        rw [ofNat, ← Nat.toDigits_append_toDigits (by decide) pos small,
          Nat.toDigits_of_lt_base small, char]
        exact congrArg (· ++ [c]) front

/-- A character is last where it does not follow. -/
theorem rfind_last {sep : Char} {s t : CppString} (apart : sep ∉ t) :
    rfind [sep] (s ++ sep :: t) = some s.length := by
  have none : ∀ t : CppString, sep ∉ t → rfind [sep] t = none := by
    intro t
    induction t with
    | nil => exact fun _ => rfl
    | cons c cs ih =>
        intro apart
        rw [List.mem_cons, not_or] at apart
        have here : [sep].isPrefixOf (c :: cs) = false := by
          simpa [List.isPrefixOf] using apart.1
        rw [rfind, ih apart.2, here]
        rfl
  induction s with
  | nil =>
      have here : [sep].isPrefixOf (sep :: t) = true := by simp
      rw [List.nil_append, rfind, none t apart, here]
      rfl
  | cons c cs ih =>
      rw [List.cons_append, rfind, ih]
      rfl

/-- The last dash of a text that ends in a number after a dash. -/
theorem rfind_dash_ofNat (s : CppString) (n : Nat) :
    rfind "-" (s ++ '-' :: ofNat n) = some s.length :=
  rfind_last fun mem => absurd (isDigit_of_mem_ofNat mem) (by decide)

/-! ## Tokens -/

/-- The tokens of a text are its words. -/
theorem tokens_eq_words (s : CppString) : tokens s = Words.words isSpace s := by
  have general : ∀ tok, tokensFrom tok s = Words.wordsFrom isSpace tok s := by
    induction s with
    | nil => exact fun tok => rfl
    | cons c cs ih =>
        intro tok
        rw [tokensFrom, Words.wordsFrom, ih, ih]
  exact general []

theorem spells_iff_tokens {s : CppString} {ws : List CppString} :
    Words.Spells isSpace ws s ↔ tokens s = ws := by
  rw [tokens_eq_words]
  exact Words.spells_iff

theorem isSpace_of_mem_tokens {s token : CppString} (mem : token ∈ tokens s) :
    ∀ c ∈ token, isSpace c = false := by
  rw [tokens_eq_words] at mem
  exact (Words.word_of_mem mem).solid

/-! ## UTF-8 -/

/-- The ranges of the continuation bytes that may follow a lead byte. -/
def utf8Continuation (lead : Nat) : Option (List (Nat × Nat)) :=
  if lead < 0x80 then some []
  else if 0xC2 ≤ lead ∧ lead ≤ 0xDF then some [(0x80, 0xBF)]
  else if lead = 0xE0 then some [(0xA0, 0xBF), (0x80, 0xBF)]
  else if lead = 0xED then some [(0x80, 0x9F), (0x80, 0xBF)]
  else if 0xE1 ≤ lead ∧ lead ≤ 0xEF then some [(0x80, 0xBF), (0x80, 0xBF)]
  else if lead = 0xF0 then some [(0x90, 0xBF), (0x80, 0xBF), (0x80, 0xBF)]
  else if 0xF1 ≤ lead ∧ lead ≤ 0xF3 then some [(0x80, 0xBF), (0x80, 0xBF), (0x80, 0xBF)]
  else if lead = 0xF4 then some [(0x80, 0x8F), (0x80, 0xBF), (0x80, 0xBF)]
  else none

def utf8From : List (Nat × Nat) → CppString → Bool
  | [], [] => true
  | _ :: _, [] => false
  | (lo, hi) :: pending, c :: cs => (lo ≤ c.toNat && c.toNat ≤ hi) && utf8From pending cs
  | [], c :: cs =>
      match utf8Continuation c.toNat with
      | some pending => utf8From pending cs
      | none => false

/-- The bytes are well-formed UTF-8. -/
def isUtf8 (s : CppString) : Bool := utf8From [] s

theorem isUtf8_of_ascii {s : CppString} (ascii : ∀ c ∈ s, c.toNat < 0x80) : isUtf8 s = true := by
  induction s with
  | nil => rfl
  | cons c cs ih =>
      have lead : utf8Continuation c.toNat = some [] := if_pos (ascii c List.mem_cons_self)
      have rest : utf8From [] cs = true := ih fun d mem => ascii d (List.mem_cons_of_mem c mem)
      rw [isUtf8, utf8From, lead]
      exact rest

theorem ascii_of_isDigit {c : Char} (digit : c.isDigit = true) : c.toNat < 0x80 := by
  simp only [Char.isDigit, Bool.and_eq_true, decide_eq_true_eq, UInt32.le_iff_toNat_le] at digit
  have upper : c.toNat ≤ 57 := digit.2
  omega

end CppString

end DiskManager
