import DiskManager.Text

/-!
# Occurrences in texts

What `find` and `rfind` of a `std::string` return, as occurrences of the text that is looked for.
-/

namespace DiskManager

namespace CppString

/-- A search stops at or before an occurrence. -/
theorem find_le {pat s : CppString} {i : Nat} (hit : pat <+: s.drop i)
    (inside : i ≤ s.length) : ∃ q, find pat s = some q ∧ q ≤ i ∧ pat <+: s.drop q := by
  induction s generalizing i with
  | nil =>
      rw [List.drop_nil, List.prefix_nil] at hit
      subst hit
      exact ⟨0, rfl, Nat.zero_le _, List.nil_prefix⟩
  | cons c cs ih =>
      rw [find]
      by_cases here : pat.isPrefixOf (c :: cs) = true
      · rw [if_pos here]
        exact ⟨0, rfl, Nat.zero_le _, List.isPrefixOf_iff_prefix.mp here⟩
      · rw [if_neg here]
        cases i with
        | zero => exact absurd (List.isPrefixOf_iff_prefix.mpr hit) here
        | succ i =>
            obtain ⟨q, found, le, occurs⟩ := ih hit (Nat.le_of_succ_le_succ inside)
            exact ⟨q + 1, by rw [found]; rfl, Nat.succ_le_succ le, occurs⟩

theorem findFrom_le {pat s : CppString} {pos i : Nat} (hit : pat <+: s.drop i)
    (after : pos ≤ i) (inside : i ≤ s.length) :
    ∃ q, findFrom pat s pos = some q ∧ pos ≤ q ∧ q ≤ i ∧ pat <+: s.drop q := by
  have shifted : pat <+: (s.drop pos).drop (i - pos) := by
    rwa [List.drop_drop, Nat.add_sub_cancel' after]
  have bound : i - pos ≤ (s.drop pos).length := by
    rw [List.length_drop]
    omega
  obtain ⟨q, found, le, occurs⟩ := find_le shifted bound
  refine ⟨q + pos, ?_, by omega, by omega, ?_⟩
  · rw [findFrom, if_pos (by omega), found]
    rfl
  · rwa [List.drop_drop, Nat.add_comm] at occurs

theorem prefix_of_rfind {pat s : CppString} {i : Nat} (found : rfind pat s = some i) :
    pat <+: s.drop i := by
  induction s generalizing i with
  | nil =>
      rw [rfind] at found
      split at found
      next empty =>
        rw [List.isEmpty_iff.mp empty]
        exact List.nil_prefix
      next => cases found
  | cons c cs ih =>
      rw [rfind] at found
      split at found
      next j later =>
        cases found
        exact ih later
      next =>
        split at found
        next here =>
          cases found
          exact List.isPrefixOf_iff_prefix.mp here
        next => cases found

/-- The last occurrence of what a string ends with. -/
theorem rfind_append {pat : CppString} (nonempty : pat ≠ []) (front : CppString) :
    rfind pat (front ++ pat) = some front.length := by
  induction front with
  | nil =>
      obtain ⟨c, cs, rfl⟩ := List.exists_cons_of_ne_nil nonempty
      have short : rfind (c :: cs) cs = none := by
        cases found : rfind (c :: cs) cs with
        | none => rfl
        | some i =>
            have size := (prefix_of_rfind found).length_le
            rw [List.length_drop, List.length_cons] at size
            omega
      have here : (c :: cs).isPrefixOf (c :: cs) = true :=
        List.isPrefixOf_iff_prefix.mpr (List.prefix_refl _)
      rw [List.nil_append, rfind, short, here]
      rfl
  | cons c cs ih =>
      rw [List.cons_append, rfind, ih]
      rfl

theorem prefix_of_find {pat s : CppString} {i : Nat} (found : find pat s = some i) :
    pat <+: s.drop i := by
  induction s generalizing i with
  | nil =>
      rw [find] at found
      split at found
      next empty =>
        rw [List.isEmpty_iff.mp empty]
        exact List.nil_prefix
      next => cases found
  | cons c cs ih =>
      rw [find] at found
      split at found
      next here =>
        cases found
        exact List.isPrefixOf_iff_prefix.mp here
      next =>
        obtain ⟨j, later, rfl⟩ := Option.map_eq_some_iff.mp found
        exact ih later

/-- The first occurrence of what a text starts with after a part without it. -/
theorem find_first {sep : Char} {s t : CppString} (absent : sep ∉ s) :
    find [sep] (s ++ sep :: t) = some s.length := by
  induction s with
  | nil => simp [find]
  | cons c s ih =>
      rw [List.mem_cons, not_or] at absent
      have other : ¬ [sep].isPrefixOf (c :: (s ++ sep :: t)) = true := by simp [absent.1]
      rw [List.cons_append, find, if_neg other, ih absent.2]
      rfl

theorem find_absent {sep : Char} {s : CppString} (absent : sep ∉ s) : find [sep] s = none := by
  cases found : find [sep] s with
  | none => rfl
  | some i =>
      have occurs := (prefix_of_find found).subset List.mem_cons_self
      exact absurd (List.mem_of_mem_drop occurs) absent

theorem prefix_of_findFrom {pat s : CppString} {pos i : Nat}
    (found : findFrom pat s pos = some i) : pat <+: s.drop i := by
  rw [findFrom] at found
  split at found
  next =>
    obtain ⟨j, later, rfl⟩ := Option.map_eq_some_iff.mp found
    have occurs := prefix_of_find later
    rwa [List.drop_drop, Nat.add_comm] at occurs
  next => cases found

theorem findFrom_zero (pat s : CppString) : findFrom pat s 0 = find pat s := by
  rw [findFrom, if_pos (Nat.zero_le _), List.drop_zero]
  simp

/-- What occurs somewhere occurs inside the text. -/
theorem length_le_of_occurs {pat s : CppString} {i : Nat} (nonempty : pat ≠ [])
    (occurs : pat <+: s.drop i) : i + pat.length ≤ s.length := by
  have size := occurs.length_le
  have pos := List.length_pos_iff.mpr nonempty
  rw [List.length_drop] at size
  omega

theorem contains_iff {pat s : CppString} (nonempty : pat ≠ []) :
    contains pat s = true ↔ ∃ i, pat <+: s.drop i := by
  rw [contains, Option.isSome_iff_exists]
  constructor
  · rintro ⟨i, found⟩
    exact ⟨i, prefix_of_find found⟩
  · rintro ⟨i, occurs⟩
    have inside := length_le_of_occurs nonempty occurs
    obtain ⟨q, found, -, -⟩ := find_le occurs (by omega)
    exact ⟨q, found⟩

theorem occurs_iff_infix {pat s : CppString} : (∃ i, pat <+: s.drop i) ↔ pat <:+: s := by
  constructor
  · rintro ⟨i, rest, shape⟩
    exact ⟨s.take i, rest, by rw [List.append_assoc, shape, List.take_append_drop]⟩
  · rintro ⟨front, rest, rfl⟩
    exact ⟨front.length, rest, by rw [List.append_assoc, List.drop_left]⟩

/-- A character occurs nowhere, or the text is cut at the last place where it does. -/
theorem rfind_cases (sep : Char) (s : CppString) :
    (sep ∉ s ∧ rfind [sep] s = none) ∨
      ∃ front back, s = front ++ sep :: back ∧ sep ∉ back ∧ rfind [sep] s = some front.length := by
  by_cases mem : sep ∈ s
  · obtain ⟨before, after, shape, clean⟩ := List.eq_append_cons_of_mem (List.mem_reverse.mpr mem)
    have cut : s = after.reverse ++ sep :: before.reverse := by
      rw [← List.reverse_reverse s, shape]
      simp
    have apart : sep ∉ before.reverse := by rwa [List.mem_reverse]
    exact .inr ⟨after.reverse, before.reverse, cut, apart, by rw [cut, rfind_last apart]⟩
  · left
    refine ⟨mem, ?_⟩
    cases found : rfind [sep] s with
    | none => rfl
    | some i =>
        have occurs := (prefix_of_rfind found).subset List.mem_cons_self
        exact absurd (List.mem_of_mem_drop occurs) mem

end CppString

end DiskManager
