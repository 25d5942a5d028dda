import DiskManager.LexicalPath
import DiskManager.Search
import DiskManager.Utils
import Mathlib.Data.List.Infix

/-!
# What the traversal filter refuses

`IsFilePathInvalid` searches for `../` in steps of three bytes, compares the last `/..` with the end
and looks back from each backslash.

* `isFilePathInvalid_iff`: the filter without its loops, by occurrences.
* `parent_segment_iff`: the two searches for `..` see its segments, in a text that has a separator.
* `isFilePathInvalid_exact`: the filter by segments and by what a text may not contain.
-/

namespace DiskManager

open CppString LexicalPath

/-! ## The loops -/

/-- Two occurrences of `../` do not overlap. -/
theorem relativeSegment_apart {s : CppString} {i j : Nat} (first : ("../" : CppString) <+: s.drop i)
    (second : ("../" : CppString) <+: s.drop j) (less : i < j) : i + 3 ≤ j := by
  obtain ⟨rest, shape⟩ := first
  obtain ⟨rest', shape'⟩ := second
  have later : (s.drop i).drop (j - i) = ("../" : CppString) ++ rest' := by
    rw [List.drop_drop, Nat.add_sub_cancel' (Nat.le_of_lt less), shape']
  rw [← shape] at later
  by_contra close
  have gap : j - i = 1 ∨ j - i = 2 := by omega
  rcases gap with one | two
  · rw [one] at later
    have tail := congrArg (·[1]?) later
    exact absurd tail (by simp)
  · rw [two] at later
    have head := congrArg List.head? later
    exact absurd head (by simp)

/-- The loop finds every `../` that starts a segment. -/
theorem relativeSegmentFrom_of_occurs {s : CppString} {i : Nat}
    (hit : ("../" : CppString) <+: s.drop i) (inside : i ≤ s.length)
    (start : i = 0 ∨ s[i - 1]? = some '/') {fuel pos : Nat} (after : pos ≤ i)
    (enough : i < fuel + pos) :
    relativeSegmentFrom s fuel (findFrom "../" s pos) = true := by
  induction fuel generalizing pos with
  | zero => omega
  | succ fuel ih =>
      obtain ⟨q, found, low, high, occurs⟩ := findFrom_le hit after inside
      rw [found, relativeSegmentFrom]
      split
      next => rfl
      next notStart =>
        have before : q < i := by
          refine Nat.lt_of_le_of_ne high ?_
          rintro rfl
          exact notStart start
        have next := relativeSegment_apart occurs hit before
        exact ih next (by omega)

theorem relativeSegmentFrom_iff {s : CppString} :
    relativeSegmentFrom s (s.length + 1) (find "../" s) = true ↔
      ∃ i, ("../" : CppString) <+: s.drop i ∧ (i = 0 ∨ s[i - 1]? = some '/') := by
  have sound : ∀ fuel pos, relativeSegmentFrom s fuel (findFrom "../" s pos) = true →
      ∃ i, ("../" : CppString) <+: s.drop i ∧ (i = 0 ∨ s[i - 1]? = some '/') := by
    intro fuel
    induction fuel with
    | zero => exact fun pos hit => absurd hit Bool.false_ne_true
    | succ fuel ih =>
        intro pos hit
        cases found : findFrom "../" s pos with
        | none =>
            rw [found] at hit
            exact absurd hit Bool.false_ne_true
        | some i =>
            rw [found, relativeSegmentFrom] at hit
            split at hit
            next start => exact ⟨i, prefix_of_findFrom found, start⟩
            next => exact ih _ hit
  rw [← findFrom_zero]
  constructor
  · exact sound _ 0
  · rintro ⟨i, occurs, start⟩
    have inside := length_le_of_occurs (by decide) occurs
    exact relativeSegmentFrom_of_occurs occurs (by omega) start (Nat.zero_le i) (by omega)

theorem backslashTraversalFrom_of_occurs {s : CppString} {i : Nat}
    (hit : ("\\" : CppString) <+: s.drop i) (inside : i ≤ s.length)
    (dots : 2 ≤ i ∧ s[i - 1]? = some '.' ∧ s[i - 2]? = some '.') {fuel pos : Nat} (after : pos ≤ i)
    (enough : i < fuel + pos) :
    backslashTraversalFrom s fuel (findFrom "\\" s pos) = true := by
  induction fuel generalizing pos with
  | zero => omega
  | succ fuel ih =>
      obtain ⟨q, found, low, high, occurs⟩ := findFrom_le hit after inside
      rw [found, backslashTraversalFrom]
      split
      next => rfl
      next notDots =>
        have before : q < i := by
          refine Nat.lt_of_le_of_ne high ?_
          rintro rfl
          exact notDots dots
        exact ih before (by omega)

theorem backslashTraversalFrom_iff {s : CppString} :
    backslashTraversalFrom s (s.length + 1) (find "\\" s) = true ↔
      ∃ i, ("\\" : CppString) <+: s.drop i ∧ 2 ≤ i ∧ s[i - 1]? = some '.' ∧
        s[i - 2]? = some '.' := by
  have sound : ∀ fuel pos, backslashTraversalFrom s fuel (findFrom "\\" s pos) = true →
      ∃ i, ("\\" : CppString) <+: s.drop i ∧ 2 ≤ i ∧ s[i - 1]? = some '.' ∧
        s[i - 2]? = some '.' := by
    intro fuel
    induction fuel with
    | zero => exact fun pos hit => absurd hit Bool.false_ne_true
    | succ fuel ih =>
        intro pos hit
        cases found : findFrom "\\" s pos with
        | none =>
            rw [found] at hit
            exact absurd hit Bool.false_ne_true
        | some i =>
            rw [found, backslashTraversalFrom] at hit
            split at hit
            next dots => exact ⟨i, prefix_of_findFrom found, dots⟩
            next => exact ih _ hit
  rw [← findFrom_zero]
  constructor
  · exact sound _ 0
  · rintro ⟨i, occurs, dots⟩
    have inside := length_le_of_occurs (by decide) occurs
    exact backslashTraversalFrom_of_occurs occurs (by omega) dots (Nat.zero_le i) (by omega)

/-- The texts of which one occurrence anywhere is enough. -/
def refusedAnywhere : List CppString := 
  urlTraversalPatterns ++ [("%00" : CppString), [Char.ofNat 0]]

/-- What `IsFilePathInvalid` refuses. -/
theorem isFilePathInvalid_iff {s : CppString} : isFilePathInvalid s = true ↔
    s = [] ∨
    (∃ i, ("../" : CppString) <+: s.drop i ∧ (i = 0 ∨ s[i - 1]? = some '/')) ∨
    (∃ i, rfind "/.." s = some i ∧ s.length - i = 3) ∨
    (∃ i, ("\\" : CppString) <+: s.drop i ∧ 2 ≤ i ∧ s[i - 1]? = some '.' ∧
      s[i - 2]? = some '.') ∨
    ∃ pat ∈ refusedAnywhere, ∃ i, pat <+: s.drop i := by
  have anywhere : (∃ pat ∈ refusedAnywhere, ∃ i, pat <+: s.drop i) ↔
      (urlTraversalPatterns.any fun pattern => contains pattern s) = true ∨
        (contains "%00" s || contains [Char.ofNat 0] s) = true := by
    have nonempty : ∀ pat ∈ refusedAnywhere, pat ≠ [] := by decide
    have found : (∃ pat ∈ refusedAnywhere, ∃ i, pat <+: s.drop i) ↔
        refusedAnywhere.any (fun pattern => contains pattern s) = true := by
      rw [List.any_eq_true]
      constructor
      · rintro ⟨pat, mem, occurs⟩
        exact ⟨pat, mem, (contains_iff (nonempty pat mem)).mpr occurs⟩
      · rintro ⟨pat, mem, hit⟩
        exact ⟨pat, mem, (contains_iff (nonempty pat mem)).mp hit⟩
    rw [found, refusedAnywhere, List.any_append, Bool.or_eq_true, List.any_cons, List.any_cons,
      List.any_nil, Bool.or_false]
  rw [anywhere, ← relativeSegmentFrom_iff, ← backslashTraversalFrom_iff, isFilePathInvalid]
  simp only [Bool.if_true_left, Bool.or_eq_true, decide_eq_true_eq, List.isEmpty_iff,
    Option.any_eq_true]

/-- The bytes one of which is in every text that the filter looks for. -/
def filteredBytes : List Char := ['/', '\\', '%', Char.ofNat 0]

/-- A text without these bytes passes. -/
theorem isFilePathInvalid_plain {s : CppString} (nonempty : s ≠ [])
    (plain : ∀ c ∈ filteredBytes, c ∉ s) : isFilePathInvalid s = false := by
  have absent : ∀ {pat : CppString} {i : Nat}, (∃ c ∈ filteredBytes, c ∈ pat) →
      ¬ pat <+: s.drop i := by
    rintro pat i ⟨c, filtered, mem⟩ occurs
    exact plain c filtered (List.mem_of_mem_drop (occurs.subset mem))
  rw [← Bool.not_eq_true, isFilePathInvalid_iff]
  rintro (empty | ⟨i, occurs, -⟩ | ⟨i, found, -⟩ | ⟨i, occurs, -⟩ | ⟨pat, mem, i, occurs⟩)
  · exact nonempty empty
  · exact absent ⟨'/', by decide, by decide⟩ occurs
  · exact absent ⟨'/', by decide, by decide⟩ (prefix_of_rfind found)
  · exact absent ⟨'\\', by decide, by decide⟩ occurs
  · have filtered : (refusedAnywhere.all fun pat => filteredBytes.any fun c => c ∈ pat) = true := by
      decide
    obtain ⟨c, byte, inside⟩ := List.any_eq_true.mp (List.all_eq_true.mp filtered pat mem)
    exact absent ⟨c, byte, of_decide_eq_true inside⟩ occurs

/-! ## Segments -/

theorem leading_parent_iff {s : CppString} :
    (∃ i, ("../" : CppString) <+: s.drop i ∧ (i = 0 ∨ s[i - 1]? = some '/')) ↔
      ∃ before after, s = before ++ ("../" : CppString) ++ after ∧
        (before = [] ∨ ∃ front, before = front ++ ['/']) := by
  constructor
  · rintro ⟨i, ⟨after, shape⟩, start⟩
    refine ⟨s.take i, after, ?_, ?_⟩
    · rw [List.append_assoc, shape, List.take_append_drop]
    · rcases start with rfl | separated
      · exact .inl List.take_zero
      · cases i with
        | zero => exact .inl List.take_zero
        | succ i =>
            rw [Nat.add_sub_cancel] at separated
            exact .inr ⟨s.take i, by rw [List.take_add_one, separated]; rfl⟩
  · rintro ⟨before, after, rfl, front⟩
    refine ⟨before.length, ⟨after, by rw [List.append_assoc, List.drop_left]⟩, ?_⟩
    rcases front with rfl | ⟨front, rfl⟩
    · exact .inl rfl
    · right
      simp

theorem trailing_parent_iff {s : CppString} :
    (∃ i, rfind "/.." s = some i ∧ s.length - i = 3) ↔ ∃ front, s = front ++ ("/.." : CppString) := by
  constructor
  · rintro ⟨i, found, last⟩
    have occurs := prefix_of_rfind found
    have size : (s.drop i).length = ("/.." : CppString).length := by
      rw [List.length_drop, last]
      rfl
    have whole := occurs.eq_of_length size.symm
    exact ⟨s.take i, by rw [whole, List.take_append_drop]⟩
  · rintro ⟨front, rfl⟩
    refine ⟨front.length, rfind_append (by decide) front, ?_⟩
    rw [List.length_append, Nat.add_sub_cancel_left]
    rfl

/-- A text with a separator has a segment `..` exactly when one of the two searches sees it. -/
theorem parent_segment_iff {s : CppString} :
    '/' ∈ s ∧ (".." : CppString) ∈ s.splitOn '/' ↔
      (∃ i, ("../" : CppString) <+: s.drop i ∧ (i = 0 ∨ s[i - 1]? = some '/')) ∨
        ∃ i, rfind "/.." s = some i ∧ s.length - i = 3 := by
  have clean : '/' ∉ (".." : CppString) := by decide
  rw [leading_parent_iff, trailing_parent_iff]
  constructor
  · rintro ⟨separated, mem⟩
    obtain ⟨before, after, rfl, front, back⟩ := mem_splitOn mem
    rcases back with rfl | ⟨back, rfl⟩
    · rcases front with rfl | ⟨front, rfl⟩
      · exact absurd separated (by simp)
      · exact .inr ⟨front, by simp⟩
    · exact .inl ⟨before, back, by simp, front⟩
  · rintro (⟨before, after, rfl, front⟩ | ⟨front, rfl⟩)
    · have mem := mem_splitOn_between clean front (.inr ⟨after, rfl⟩)
      refine ⟨by simp, ?_⟩
      rwa [List.append_assoc] at mem ⊢
    · have mem := mem_splitOn_between clean (.inr ⟨front, rfl⟩) (.inl rfl)
      refine ⟨by simp, ?_⟩
      rwa [List.append_nil, List.append_assoc] at mem

/-! ## Backslashes and encoded forms -/

theorem backslash_parent_iff {s : CppString} :
    (∃ i, ("\\" : CppString) <+: s.drop i ∧ 2 ≤ i ∧ s[i - 1]? = some '.' ∧
      s[i - 2]? = some '.') ↔ ("..\\" : CppString) <:+: s := by
  constructor
  · rintro ⟨i, ⟨rest, shape⟩, two, one, other⟩
    obtain ⟨n, rfl⟩ : ∃ n, i = n + 2 := ⟨i - 2, by omega⟩
    rw [show n + 2 - 1 = n + 1 by omega] at one
    rw [Nat.add_sub_cancel] at other
    have dots : s.take (n + 2) = s.take n ++ ['.', '.'] := by
      rw [List.take_add_one, List.take_add_one, one, other, List.append_assoc]
      rfl
    refine ⟨s.take n, rest, ?_⟩
    calc s.take n ++ ("..\\" : CppString) ++ rest
        = (s.take n ++ ['.', '.']) ++ (("\\" : CppString) ++ rest) := by simp
      _ = s.take (n + 2) ++ s.drop (n + 2) := by rw [dots, shape]
      _ = s := List.take_append_drop _ _
  · rintro ⟨front, rest, rfl⟩
    refine ⟨front.length + 2, ⟨rest, ?_⟩, by omega, ?_, ?_⟩
    · rw [List.append_assoc, List.drop_length_add_append]
      rfl
    · simp
    · simp

/-- The two hexadecimal forms of a byte, with digits of either case. -/
def hexForms (c : Char) : List CppString :=
  [Nat.toDigits 16 c.toNat, (Nat.toDigits 16 c.toNat).map Char.toUpper]

/-- Dot, slash and backslash, encoded once or twice. -/
def percentEncodings : List CppString :=
  (["%", "%25"] : List CppString).flatMap fun mark =>
    ['.', '/', '\\'].flatMap fun c => (hexForms c).map (mark ++ ·)

theorem mem_urlTraversalPatterns_iff {pattern : CppString} :
    pattern ∈ urlTraversalPatterns ↔ pattern ∈ percentEncodings := by
  have listed : urlTraversalPatterns ⊆ percentEncodings := by decide
  have complete : percentEncodings ⊆ urlTraversalPatterns := by decide
  exact ⟨fun mem => listed mem, fun mem => complete mem⟩

theorem refused_anywhere_iff {s : CppString} :
    (∃ pat ∈ refusedAnywhere, ∃ i, pat <+: s.drop i) ↔
      (∃ pattern ∈ percentEncodings, pattern <:+: s) ∨ ("%00" : CppString) <:+: s ∨
        Char.ofNat 0 ∈ s := by
  simp only [refusedAnywhere, occurs_iff_infix, List.mem_append, or_and_right, exists_or,
    mem_urlTraversalPatterns_iff, List.mem_cons, List.not_mem_nil, or_false, exists_eq_left,
    List.singleton_infix_iff]

/-- The filter refuses the empty text, a segment `..` beside a separator, `..` before a backslash,
an encoded dot, slash or backslash and a NUL, and nothing else. -/
theorem isFilePathInvalid_exact (s : CppString) : isFilePathInvalid s = true ↔
    s = [] ∨ ('/' ∈ s ∧ (".." : CppString) ∈ s.splitOn '/') ∨ ("..\\" : CppString) <:+: s ∨
      (∃ pattern ∈ percentEncodings, pattern <:+: s) ∨ ("%00" : CppString) <:+: s ∨
      Char.ofNat 0 ∈ s := by
  rw [isFilePathInvalid_iff, parent_segment_iff, ← backslash_parent_iff, ← refused_anywhere_iff,
    or_assoc]

end DiskManager
