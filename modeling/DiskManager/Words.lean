import Mathlib.Data.List.Basic

/-!
# Words in a text

A text over an alphabet with blanks is a list of words with gaps around and between them. Reading
the words one after another, as a stream does, forgets the gaps and nothing else.

* `words`: the words of a text, read from left to right.
* `Spells ws s`: `s` is written by putting gaps around and between the words `ws`.
* `spells_iff`: a text spells exactly the words that are read from it.
-/

namespace Words

variable {α : Type} {blank : α → Bool}

/-- The words of a text of which `word` has been read already. -/
def wordsFrom (blank : α → Bool) (word : List α) : List α → List (List α)
  | [] => if word.isEmpty then [] else [word]
  | c :: cs =>
      if blank c then if word.isEmpty then wordsFrom blank [] cs else word :: wordsFrom blank [] cs
      else wordsFrom blank (word ++ [c]) cs

def words (blank : α → Bool) (s : List α) : List (List α) := wordsFrom blank [] s

/-- Nothing but blanks. -/
def Gap (blank : α → Bool) (s : List α) : Prop := ∀ c ∈ s, blank c = true

structure Word (blank : α → Bool) (s : List α) : Prop where
  nonempty : s ≠ []
  solid : ∀ c ∈ s, blank c = false

/-- The text consists of the words with gaps around and between them. -/
inductive Spells (blank : α → Bool) : List (List α) → List α → Prop
  | done {gap : List α} : Gap blank gap → Spells blank [] gap
  | last {gap word : List α} : Gap blank gap → Word blank word → Spells blank [word] (gap ++ word)
  | next {gap word rest : List α} {ws : List (List α)} {b : α} : Gap blank gap →
    Word blank word → blank b = true → Spells blank ws rest →
    Spells blank (word :: ws) (gap ++ word ++ b :: rest)

theorem Gap.nil : Gap blank [] := fun _ mem => absurd mem List.not_mem_nil

theorem Gap.cons {b : α} {s : List α} (first : blank b = true) (rest : Gap blank s) :
    Gap blank (b :: s) := by
  intro c mem
  rcases List.mem_cons.mp mem with rfl | later
  · exact first
  · exact rest c later

theorem Gap.append {s t : List α} (first : Gap blank s) (second : Gap blank t) :
    Gap blank (s ++ t) := by
  intro c mem
  rcases List.mem_append.mp mem with left | right
  · exact first c left
  · exact second c right

theorem Word.isEmpty {s : List α} (word : Word blank s) : s.isEmpty = false :=
  List.isEmpty_eq_false_iff.mpr word.nonempty

theorem Word.of_all {s : List α} (nonempty : s ≠ []) (solid : (s.all fun c => !blank c) = true) :
    Word blank s where
  nonempty := nonempty
  solid c mem := by simpa using List.all_eq_true.mp solid c mem

/-- A word that is read goes on with a character that is no blank. -/
theorem Word.concat {s : List α} {c : α} (solid : ∀ d ∈ s, blank d = false)
    (plain : blank c = false) : Word blank (s ++ [c]) := by
  refine ⟨by simp, fun d mem => ?_⟩
  rcases List.mem_append.mp mem with old | new
  · exact solid d old
  · rw [List.mem_singleton.mp new]
    exact plain

/-! ## Reading what is spelled -/

theorem wordsFrom_gap_append {gap s : List α} (blanks : Gap blank gap) :
    wordsFrom blank [] (gap ++ s) = wordsFrom blank [] s := by
  induction gap with
  | nil => rfl
  | cons b gap ih =>
      rw [List.cons_append, wordsFrom, if_pos (blanks b List.mem_cons_self), if_pos List.isEmpty_nil]
      exact ih fun c mem => blanks c (List.mem_cons_of_mem b mem)

theorem wordsFrom_solid_append {word s before : List α} (solid : ∀ c ∈ word, blank c = false) :
    wordsFrom blank before (word ++ s) = wordsFrom blank (before ++ word) s := by
  induction word generalizing before with
  | nil => rw [List.nil_append, List.append_nil]
  | cons c word ih =>
      have plain : ¬ blank c = true := by simp [solid c List.mem_cons_self]
      rw [List.cons_append, wordsFrom, if_neg plain,
        ih fun d mem => solid d (List.mem_cons_of_mem c mem), List.append_assoc]
      rfl

/-- A word ends at the end of the text. -/
theorem wordsFrom_nil {word : List α} (isWord : Word blank word) :
    wordsFrom blank word [] = [word] := by
  rw [wordsFrom, isWord.isEmpty]
  rfl

/-- A word ends at the next blank. -/
theorem wordsFrom_blank {word s : List α} {b : α} (isWord : Word blank word)
    (ends : blank b = true) : wordsFrom blank word (b :: s) = word :: words blank s := by
  rw [wordsFrom, if_pos ends, isWord.isEmpty]
  rfl

theorem Spells.read {ws : List (List α)} {s : List α} (spells : Spells blank ws s) :
    words blank s = ws := by
  induction spells with
  | @done gap blanks =>
      have read := wordsFrom_gap_append (s := []) blanks
      rw [List.append_nil] at read
      exact read
  | @last gap word blanks isWord =>
      have read : wordsFrom blank [] (word ++ []) = wordsFrom blank ([] ++ word) [] :=
        wordsFrom_solid_append isWord.solid
      rw [List.append_nil, List.nil_append] at read
      rw [words, wordsFrom_gap_append blanks, read, wordsFrom_nil isWord]
  | @next gap word rest ws b blanks isWord ends spells ih =>
      rw [words, List.append_assoc, wordsFrom_gap_append blanks, wordsFrom_solid_append isWord.solid,
        List.nil_append, wordsFrom_blank isWord ends, ih]

/-- The first word of a text. -/
theorem words_word_append {word s : List α} {b : α} (isWord : Word blank word)
    (ends : blank b = true) : words blank (word ++ b :: s) = word :: words blank s := by
  rw [words, wordsFrom_solid_append isWord.solid, List.nil_append, wordsFrom_blank isWord ends]

/-! ## Spelling what is read -/

/-- A blank in front belongs to the first gap. -/
theorem Spells.blank_cons {ws : List (List α)} {s : List α} {b : α} (isBlank : blank b = true)
    (spells : Spells blank ws s) : Spells blank ws (b :: s) := by
  cases spells with
  | done blanks => exact .done (blanks.cons isBlank)
  | last blanks isWord => exact .last (blanks.cons isBlank) isWord
  | next blanks isWord ends rest => exact .next (blanks.cons isBlank) isWord ends rest

theorem Spells.gap_append {ws : List (List α)} {s gap : List α} (blanks : Gap blank gap)
    (spells : Spells blank ws s) : Spells blank ws (gap ++ s) := by
  induction gap with
  | nil => exact spells
  | cons b gap ih =>
      exact (ih fun c mem => blanks c (List.mem_cons_of_mem b mem)).blank_cons
        (blanks b List.mem_cons_self)

theorem spells_wordsFrom (s : List α) : Spells blank (words blank s) s ∧
    ∀ word, Word blank word → Spells blank (wordsFrom blank word s) (word ++ s) := by
  induction s with
  | nil =>
      refine ⟨.done .nil, fun word isWord => ?_⟩
      rw [wordsFrom_nil isWord, List.append_nil]
      exact .last .nil isWord
  | cons c s ih =>
      obtain ⟨fresh, inside⟩ := ih
      by_cases isBlank : blank c = true
      · refine ⟨?_, fun word isWord => ?_⟩
        · rw [words, wordsFrom, if_pos isBlank, if_pos List.isEmpty_nil]
          exact fresh.blank_cons isBlank
        · rw [wordsFrom_blank isWord isBlank]
          exact .next .nil isWord isBlank fresh
      · have plain : blank c = false := eq_false_of_ne_true isBlank
        refine ⟨?_, fun word isWord => ?_⟩
        · rw [words, wordsFrom, if_neg isBlank, List.nil_append]
          exact inside [c] ⟨List.cons_ne_nil c [], by simp [plain]⟩
        · rw [wordsFrom, if_neg isBlank]
          have longer := inside (word ++ [c]) (.concat isWord.solid plain)
          rwa [List.append_assoc] at longer

/-- A text spells exactly the words that are read from it. -/
theorem spells_iff {ws : List (List α)} {s : List α} : Spells blank ws s ↔ words blank s = ws := by
  constructor
  · exact Spells.read
  · rintro rfl
    exact (spells_wordsFrom s).1

/-- What is read are words. -/
theorem word_of_mem {s w : List α} (mem : w ∈ words blank s) : Word blank w := by
  have each : ∀ {ws : List (List α)} {s : List α}, Spells blank ws s → ∀ w ∈ ws, Word blank w := by
    intro ws s spells
    induction spells with
    | done => exact fun w mem => absurd mem List.not_mem_nil
    | last blanks isWord =>
        intro w mem
        rw [List.mem_singleton.mp mem]
        exact isWord
    | next blanks isWord ends rest ih =>
        intro w mem
        rcases List.mem_cons.mp mem with rfl | later
        · exact isWord
        · exact ih w later
  exact each (spells_wordsFrom s).1 w mem

/-! ## Gaps around a text -/

theorem words_gap_append {gap s : List α} (blanks : Gap blank gap) :
    words blank (gap ++ s) = words blank s := wordsFrom_gap_append blanks

theorem Spells.append_gap {ws : List (List α)} {s gap : List α} (blanks : Gap blank gap)
    (spells : Spells blank ws s) : Spells blank ws (s ++ gap) := by
  induction spells with
  | done before => exact .done (before.append blanks)
  | @last before word isGap isWord =>
      cases gap with
      | nil =>
          rw [List.append_nil]
          exact .last isGap isWord
      | cons b gap =>
          exact .next isGap isWord (blanks b List.mem_cons_self)
            (.done fun c mem => blanks c (List.mem_cons_of_mem b mem))
  | next isGap isWord ends rest ih =>
      rw [List.append_assoc, List.cons_append]
      exact .next isGap isWord ends ih

theorem words_append_gap {gap s : List α} (blanks : Gap blank gap) :
    words blank (s ++ gap) = words blank s :=
  ((spells_wordsFrom s).1.append_gap blanks).read

end Words
