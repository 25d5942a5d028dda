import Mathlib.Data.List.Basic

/-!
# Lexical resolution of paths

A path is a word over an alphabet with a separator and a dot. Its segments lie between separators;
the empty segment and a single dot name the directory they stand in, two dots its parent. `resolve`
works these off without looking at a file system.

* `resolve_append`: below a directory, resolution goes on from what the directory resolves to.
* `strictlyBelow_append_iff`: without a segment of two dots, a path leads below its directory
  exactly when some segment is a name.
* `atOrAbove_cut`: the ancestors of a path, one separator at a time.
-/

namespace LexicalPath

variable {α : Type} {sep dot : α}

/-! ## Ancestors -/

/-- `above` is `path` itself or `path` cut before one of its separators. -/
def AtOrAbove (sep : α) (path above : List α) : Prop :=
  above = path ∨ ∃ rest, path = above ++ sep :: rest

theorem AtOrAbove.length_le {path above : List α} (at_or_above : AtOrAbove sep path above) :
    above.length ≤ path.length := by
  rcases at_or_above with rfl | ⟨rest, rfl⟩
  · exact Nat.le_refl _
  · rw [List.length_append]
    omega

theorem atOrAbove_of_clean {path above : List α} (clean : sep ∉ path) :
    AtOrAbove sep path above ↔ above = path := by
  constructor
  · rintro (same | ⟨rest, rfl⟩)
    · exact same
    · exact absurd (List.mem_append_right above List.mem_cons_self) clean
  · exact .inl

/-- Above a path is the path without its last name, and what is above that. -/
theorem atOrAbove_cut {parent name above : List α} (clean : sep ∉ name) :
    AtOrAbove sep (parent ++ sep :: name) above ↔
      above = parent ++ sep :: name ∨ AtOrAbove sep parent above := by
  constructor
  · rintro (same | ⟨rest, cut⟩)
    · exact .inl same
    · right
      rcases List.append_eq_append_iff.mp cut with ⟨more, rfl, tail⟩ | ⟨more, rfl, tail⟩
      · cases more with
        | nil => exact .inl (List.append_nil parent)
        | cons c more =>
            rw [List.cons_append, List.cons.injEq] at tail
            rw [tail.2] at clean
            exact absurd (List.mem_append_right more List.mem_cons_self) clean
      · cases more with
        | nil => exact .inl (List.append_nil above).symm
        | cons c more =>
            rw [List.cons_append, List.cons.injEq] at tail
            rw [← tail.1]
            exact .inr ⟨more, rfl⟩
  · rintro (same | rfl | ⟨rest, rfl⟩)
    · exact .inl same
    · exact .inr ⟨name, rfl⟩
    · exact .inr ⟨rest ++ sep :: name, by rw [List.append_assoc, List.cons_append]⟩

variable [DecidableEq α]

/-! ## Resolution -/

/-- A segment that stays where it stands. -/
def Idle (dot : α) (segment : List α) : Prop := segment = [] ∨ segment = [dot]

instance decidableIdle (dot : α) (segment : List α) : Decidable (Idle dot segment) :=
  inferInstanceAs (Decidable (_ ∨ _))

/-- One segment, from the directory whose names are `stack`. -/
def enter (dot : α) (stack : List (List α)) (segment : List α) : List (List α) :=
  if Idle dot segment then stack
  else if segment = [dot, dot] then stack.dropLast
  else stack ++ [segment]

/-- The names that lead from the root to what `path` names. -/
def resolve (sep dot : α) (path : List α) : List (List α) :=
  (path.splitOn sep).foldl (enter dot) []

/-- `path` names something inside the directory `root`, other than `root` itself. -/
def StrictlyBelow (sep dot : α) (root path : List α) : Prop :=
  resolve sep dot root <+: resolve sep dot path ∧ resolve sep dot path ≠ resolve sep dot root

instance decidableStrictlyBelow (sep dot : α) (root path : List α) :
    Decidable (StrictlyBelow sep dot root path) :=
  inferInstanceAs (Decidable (_ ∧ _))

/-! ## Segments -/

/-- A segment is preceded by nothing or a separator, and so followed. -/
theorem mem_splitOn {path segment : List α} (mem : segment ∈ path.splitOn sep) :
    ∃ before after, path = before ++ segment ++ after ∧
      (before = [] ∨ ∃ front, before = front ++ [sep]) ∧
      (after = [] ∨ ∃ back, after = sep :: back) := by
  induction size : path.length using Nat.strongRecOn generalizing path with
  | ind n ih =>
  by_cases inside : sep ∈ path
  · obtain ⟨first, rest, rfl, clean⟩ := List.eq_append_cons_of_mem inside
    rw [List.splitOn_append_cons_self, List.splitOn_eq_singleton clean, List.singleton_append,
      List.mem_cons] at mem
    rcases mem with rfl | later
    · exact ⟨[], sep :: rest, rfl, .inl rfl, .inr ⟨rest, rfl⟩⟩
    · rw [List.length_append, List.length_cons] at size
      obtain ⟨before, after, rfl, front, back⟩ := ih rest.length (by omega) later rfl
      refine ⟨first ++ sep :: before, after, by simp, .inr ?_, back⟩
      rcases front with rfl | ⟨front, rfl⟩
      · exact ⟨first, rfl⟩
      · exact ⟨first ++ sep :: front, by simp⟩
  · rw [List.splitOn_eq_singleton inside, List.mem_singleton] at mem
    subst mem
    exact ⟨[], [], by simp, .inl rfl, .inl rfl⟩

/-- What stands between separators or ends of a path, and has none itself, is a segment. -/
theorem mem_splitOn_between {before segment after : List α} (clean : sep ∉ segment)
    (front : before = [] ∨ ∃ front, before = front ++ [sep])
    (back : after = [] ∨ ∃ back, after = sep :: back) :
    segment ∈ (before ++ segment ++ after).splitOn sep := by
  have first : segment ∈ (segment ++ after).splitOn sep := by
    rcases back with rfl | ⟨back, rfl⟩
    · rw [List.append_nil, List.splitOn_eq_singleton clean]
      exact List.mem_singleton_self segment
    · rw [List.splitOn_append_cons_self, List.splitOn_eq_singleton clean]
      exact List.mem_append_left _ (List.mem_singleton_self segment)
  rcases front with rfl | ⟨front, rfl⟩
  · rwa [List.nil_append]
  · rw [List.append_assoc, List.append_assoc, List.singleton_append, List.splitOn_append_cons_self]
    exact List.mem_append_right _ first

theorem foldl_enter {segments : List (List α)} (noParent : [dot, dot] ∉ segments)
    (stack : List (List α)) :
    segments.foldl (enter dot) stack =
      stack ++ segments.filter fun segment => ¬ Idle dot segment := by
  induction segments generalizing stack with
  | nil => rw [List.foldl_nil, List.filter_nil, List.append_nil]
  | cons segment segments ih =>
      rw [List.mem_cons, not_or] at noParent
      rw [List.foldl_cons, ih noParent.2, enter]
      by_cases idle : Idle dot segment
      · rw [if_pos idle, List.filter_cons_of_neg (by simpa using idle)]
      · have other : segment ≠ [dot, dot] := fun same => noParent.1 same.symm
        rw [if_neg idle, if_neg other, List.filter_cons_of_pos (by simpa using idle),
          List.append_assoc, List.singleton_append]

/-! ## Below a directory -/

theorem resolve_append (root path : List α) :
    resolve sep dot (root ++ [sep] ++ path) =
      (path.splitOn sep).foldl (enter dot) (resolve sep dot root) := by
  rw [resolve, List.append_assoc, List.singleton_append, List.splitOn_append_cons_self,
    List.foldl_append]
  rfl

theorem resolve_directory (root : List α) :
    resolve sep dot (root ++ [sep]) = resolve sep dot root := by
  have whole : resolve sep dot (root ++ [sep] ++ []) = _ := resolve_append root []
  rw [List.append_nil, List.splitOn_nil] at whole
  rw [whole, List.foldl_cons, List.foldl_nil, enter, if_pos (.inl rfl)]

/-- Without two dots a path leads below the directory exactly when it has a name. -/
theorem strictlyBelow_append_iff {root path : List α} (noParent : [dot, dot] ∉ path.splitOn sep) :
    StrictlyBelow sep dot (root ++ [sep]) (root ++ [sep] ++ path) ↔
      ∃ segment ∈ path.splitOn sep, ¬ Idle dot segment := by
  rw [StrictlyBelow, resolve_append, resolve_directory, foldl_enter noParent]
  have below : resolve sep dot root <+: resolve sep dot root ++
      (path.splitOn sep).filter fun segment => ¬ Idle dot segment := List.prefix_append _ _
  rw [and_iff_right below, Ne, List.append_right_eq_self, List.filter_eq_nil_iff]
  simp

/-- Two dots alone lead to the parent, or stay at the root of everything. -/
theorem not_strictlyBelow_parent {root : List α} (apart : dot ≠ sep) :
    ¬ StrictlyBelow sep dot (root ++ [sep]) (root ++ [sep] ++ [dot, dot]) := by
  have single : [dot, dot].splitOn sep = [[dot, dot]] :=
    List.splitOn_eq_singleton (by simp [apart.symm])
  have parent : enter dot (resolve sep dot root) [dot, dot] = (resolve sep dot root).dropLast := by
    rw [enter, if_neg (by simp [Idle]), if_pos rfl]
  rw [StrictlyBelow, resolve_append, resolve_directory, single, List.foldl_cons, List.foldl_nil,
    parent]
  rintro ⟨below, moved⟩
  have sizes := below.length_le
  exact moved ((List.dropLast_prefix _).eq_of_length_le sizes)

end LexicalPath
