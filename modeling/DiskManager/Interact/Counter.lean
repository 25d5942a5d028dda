import DiskManager.Interact.Beside
import Mathlib.Data.Finset.Card

/-!
# A counter of operations in progress

An operation raises a counter once and lowers it again. `Counted` is the discipline: sections of an
operation that is not counted are calm. `TaskRun.counted`: the counter is the number of operations
that have raised it and not lowered it yet, so a section that is not calm finds it above zero.
-/

namespace Interact

variable {S Q W O ι : Type} {R : Q → Type} {α β : Type} {count : S → ℤ} {Calm : S → S → Prop}

/-- The operation raised the counter and has not lowered it since. -/
def History.raised (count : S → ℤ) : History S Q R → Bool
  | .came _ => false
  | .own before s =>
      if count s = count before.now then before.raised count else decide (count before.now < count s)
  | .other before _ => before.raised count
  | .answer before _ _ => before.raised count

def Counted (count : S → ℤ) (Calm : S → S → Prop) : Prog S Q R α → Bool → Prop
  | .done _, has => has = false
  | .atomic upd next, has => ∀ s,
      count (upd s) = count s ∧ (has = false → Calm s (upd s)) ∧ Counted count Calm (next s) has ∨
      has = false ∧ count (upd s) = count s + 1 ∧ Calm s (upd s) ∧
        Counted count Calm (next s) true ∨
      has = true ∧ count (upd s) = count s - 1 ∧ Counted count Calm (next s) false
  | .call _ next, has => ∀ r, Counted count Calm (next r) has

/-! ## Rules -/

section Rules

variable {has : Bool} {post : α → Prop}

/-- A part that is calm and leaves the counter alone. -/
theorem counted_calm_bind {p : Prog S Q R α} {f : α → Prog S Q R β}
    (within : Within (fun s s' => count s' = count s ∧ Calm s s') p post)
    (rest : ∀ a, post a → Counted count Calm (f a) has) : Counted count Calm (p >>= f) has := by
  change Counted count Calm (p.bind f) has
  induction p with
  | done a => exact rest a within
  | atomic upd next ih =>
      exact fun s => .inl ⟨(within s).1.1, fun _ => (within s).1.2, ih s (within s).2⟩
  | call q next ih => exact fun r => ih r (within r)

/-- A part of an operation that is counted. -/
theorem counted_bind {p : Prog S Q R α} {f : α → Prog S Q R β}
    (within : Within (fun s s' => count s' = count s) p post)
    (rest : ∀ a, post a → Counted count Calm (f a) true) : Counted count Calm (p >>= f) true := by
  change Counted count Calm (p.bind f) true
  induction p with
  | done a => exact rest a within
  | atomic upd next ih =>
      exact fun s => .inl ⟨(within s).1, fun wrong => (by cases wrong), ih s (within s).2⟩
  | call q next ih => exact fun r => ih r (within r)

/-- One operation after another. -/
theorem counted_seq {p : Prog S Q R α} {f : α → Prog S Q R β} (first : Counted count Calm p has)
    (rest : ∀ a, Counted count Calm (f a) false) : Counted count Calm (p >>= f) has := by
  change Counted count Calm (p.bind f) has
  induction p generalizing has with
  | done a =>
      have none : has = false := first
      rw [none]
      exact rest a
  | atomic upd next ih =>
      intro s
      rcases first s with ⟨same, calm, next⟩ | ⟨without, raises, calm, next⟩ | ⟨with', lowers, next⟩
      · exact .inl ⟨same, calm, ih s next⟩
      · exact .inr (.inl ⟨without, raises, calm, ih s next⟩)
      · exact .inr (.inr ⟨with', lowers, ih s next⟩)
  | call q next ih => exact fun r => ih r (first r)

theorem counted_of_calm {p : Prog S Q R α}
    (within : Within (fun s s' => count s' = count s ∧ Calm s s') p post) :
    Counted count Calm p false := by
  induction p with
  | done a => rfl
  | atomic upd next ih =>
      exact fun s => .inl ⟨(within s).1.1, fun _ => (within s).1.2, ih s (within s).2⟩
  | call q next ih => exact fun r => ih r (within r)

end Rules

/-! ## Runs -/

/-- The operation of slot `i` is counted. -/
def Tasks.IsCounted (count : S → ℤ) (c : Tasks ι O S W Q R α) (i : ι) : Prop :=
  ∃ task, c.pool i = some task ∧ task.past.raised count = true

/-- The counter is the number of counted operations. -/
structure Tasks.Counting (count : S → ℤ) (Calm : S → S → Prop) (c : Tasks ι O S W Q R α) :
    Prop where
  now {i : ι} {task : Task O S Q R α} : c.pool i = some task → task.past.now = c.s
  each {i : ι} {task : Task O S Q R α} : c.pool i = some task →
    Counted count Calm task.rest (task.past.raised count)
  number : ∃ F : Finset ι, (∀ i, i ∈ F ↔ c.IsCounted count i) ∧ count c.s = F.card

theorem Tasks.isCounted_iff {c : Tasks ι O S W Q R α} {i : ι} {task : Task O S Q R α}
    (there : c.pool i = some task) :
    c.IsCounted count i ↔ task.past.raised count = true := by
  constructor
  · rintro ⟨other, there', raised⟩
    rw [there, Option.some.injEq] at there'
    subst there'
    exact raised
  · exact fun raised => ⟨task, there, raised⟩

/-- A counted operation in progress: the counter is above zero. -/
theorem Tasks.Counting.pos {c : Tasks ι O S W Q R α} (counting : c.Counting count Calm) {i : ι}
    (counted : c.IsCounted count i) : 1 ≤ count c.s := by
  obtain ⟨F, mem, number⟩ := counting.number
  have some' : 0 < F.card := Finset.card_pos.mpr ⟨i, (mem i).mpr counted⟩
  omega

/-- The same operations are counted, and the counter is the same. -/
theorem Tasks.Counting.keep {c c' : Tasks ι O S W Q R α} (counting : c.Counting count Calm)
    (each : ∀ i task, c'.pool i = some task → task.past.now = c'.s ∧
      Counted count Calm task.rest (task.past.raised count))
    (counted : ∀ i, c'.IsCounted count i ↔ c.IsCounted count i) (same : count c'.s = count c.s) :
    c'.Counting count Calm where
  now := fun there => (each _ _ there).1
  each := fun there => (each _ _ there).2
  number := by
    obtain ⟨F, mem, number⟩ := counting.number
    exact ⟨F, fun i => (mem i).trans (counted i).symm, same.trans number⟩

variable [DecidableEq ι] {allowed : O → History S Q R → Prop} {prog : O → Prog S Q R α}
  {env : Env S W Q R} {c₀ c : Tasks ι O S W Q R α}

theorem Tasks.isCounted_put_ne {i j : ι} {task : Option (Task O S Q R α)} (ne : j ≠ i) :
    (c.put i task).IsCounted count j ↔ c.IsCounted count j := by
  rw [Tasks.IsCounted, Tasks.IsCounted, pool_put_ne ne]

theorem Tasks.isCounted_ran_ne {i j : ι} {task : Task O S Q R α} {s : S} (ne : j ≠ i) :
    (c.ran i task s).IsCounted count j ↔ c.IsCounted count j := by
  constructor
  · rintro ⟨t, there, raised⟩
    rw [pool_ran_ne ne, Option.map_eq_some_iff] at there
    obtain ⟨before, there, rfl⟩ := there
    exact ⟨before, there, raised⟩
  · rintro ⟨t, there, raised⟩
    refine ⟨t.witness s, ?_, raised⟩
    rw [pool_ran_ne ne, there, Option.map_some]

/-- A section of slot `i`. -/
theorem Tasks.Counting.ran (counting : c.Counting count Calm) {i : ι} {op : O}
    {past : History S Q R} {upd : S → S} {next : S → Prog S Q R α}
    (here : c.pool i = some ⟨op, past, .atomic upd next⟩) :
    (c.ran i ⟨op, .own past (upd c.s), next c.s⟩ (upd c.s)).Counting count Calm ∧
      (Calm c.s (upd c.s) ∨ 1 ≤ count c.s) := by
  have now : past.now = c.s := counting.now here
  have own : (c.ran i ⟨op, .own past (upd c.s), next c.s⟩ (upd c.s)).IsCounted count i ↔
      History.raised count (.own past (upd c.s)) = true := Tasks.isCounted_iff pool_ran_self
  have each : Counted count Calm (next c.s) (History.raised count (.own past (upd c.s))) →
      ∀ j task, (c.ran i ⟨op, .own past (upd c.s), next c.s⟩ (upd c.s)).pool j = some task →
        task.past.now = upd c.s ∧ Counted count Calm task.rest (task.past.raised count) := by
    intro mine j task there
    by_cases eq : j = i
    · subst eq
      rw [pool_ran_self, Option.some.injEq] at there
      subst there
      exact ⟨rfl, mine⟩
    · rw [pool_ran_ne eq, Option.map_eq_some_iff] at there
      obtain ⟨before, there, rfl⟩ := there
      have keeps := counting.each there
      exact ⟨rfl, keeps⟩
  obtain ⟨F, mem, number⟩ := counting.number
  rcases counting.each here c.s with ⟨same, calm, rest⟩ | ⟨without, raises, calm, rest⟩ |
    ⟨with', lowers, rest⟩
  · have kept : History.raised count (.own past (upd c.s)) = past.raised count := by
      rw [History.raised, now, if_pos same]
    refine ⟨counting.keep (each (by rwa [kept])) (fun j => ?_) same, ?_⟩
    · by_cases eq : j = i
      · subst eq
        rw [own, kept, Tasks.isCounted_iff here]
      · exact isCounted_ran_ne eq
    · cases has : past.raised count with
      | false => exact .inl (calm has)
      | true => exact .inr (counting.pos ((Tasks.isCounted_iff here).mpr has))
  · have raised : History.raised count (.own past (upd c.s)) = true := by
      rw [History.raised, now, if_neg (by omega)]
      exact decide_eq_true (by omega)
    have absent : i ∉ F := by
      rw [mem, Tasks.isCounted_iff here, without]
      exact Bool.false_ne_true
    refine ⟨⟨fun there => (each (by rwa [raised]) _ _ there).1,
      fun there => (each (by rwa [raised]) _ _ there).2, insert i F, fun j => ?_, ?_⟩, .inl calm⟩
    · by_cases eq : j = i
      · subst eq
        exact ⟨fun _ => own.mpr raised, fun _ => Finset.mem_insert_self _ _⟩
      · rw [Finset.mem_insert, isCounted_ran_ne eq, mem]
        exact or_iff_right eq
    · change count (upd c.s) = _
      rw [Finset.card_insert_of_notMem absent, raises, number]
      omega
  · have lowered : History.raised count (.own past (upd c.s)) = false := by
      rw [History.raised, now, if_neg (by omega)]
      exact decide_eq_false (by omega)
    have counted : c.IsCounted count i := (Tasks.isCounted_iff here).mpr with'
    have pos := counting.pos counted
    refine ⟨⟨fun there => (each (by rwa [lowered]) _ _ there).1,
      fun there => (each (by rwa [lowered]) _ _ there).2, F.erase i, fun j => ?_, ?_⟩, .inr pos⟩
    · by_cases eq : j = i
      · subst eq
        rw [own, lowered]
        exact ⟨fun there => absurd there (Finset.notMem_erase _ _), fun wrong => (by cases wrong)⟩
      · rw [Finset.mem_erase, isCounted_ran_ne eq, mem]
        exact and_iff_right eq
    · change count (upd c.s) = _
      have card := Finset.card_erase_of_mem ((mem i).mpr counted)
      rw [card, lowers, number]
      omega

/-- The rule for a counter. -/
theorem TaskRun.counted (run : TaskRun allowed prog env c₀ c) (quiet : c₀.quiet)
    (zero : count c₀.s = 0) (keeps : ∀ op, Counted count Calm (prog op) false) :
    c.Counting count Calm ∧ TaskRun (fun op h => allowed op h ∧
      h.OthersMake fun s s' => Calm s s' ∨ 1 ≤ count s) prog env c₀ c := by
  induction run with
  | start =>
      refine ⟨⟨fun {i task} there => ?_, fun {i task} there => ?_, ∅, fun i => ?_, zero⟩, .start⟩
      · rw [quiet i] at there
        cases there
      · rw [quiet i] at there
        cases there
      · refine ⟨fun there => absurd there (Finset.notMem_empty i), ?_⟩
        rintro ⟨task, there, -⟩
        rw [quiet i] at there
        cases there
  | @enter c i op _ free ih =>
      obtain ⟨counting, run⟩ := ih
      refine ⟨counting.keep (fun j task there => ?_) (fun j => ?_) rfl, run.enter op free⟩
      · by_cases eq : j = i
        · subst eq
          rw [Tasks.pool_put_self, Option.some.injEq] at there
          subst there
          exact ⟨rfl, keeps op⟩
        · rw [Tasks.pool_put_ne eq] at there
          exact ⟨counting.now there, counting.each there⟩
      · by_cases eq : j = i
        · subst eq
          rw [Tasks.isCounted_iff Tasks.pool_put_self]
          refine ⟨fun raised => (by cases raised), ?_⟩
          rintro ⟨task, there, -⟩
          rw [free] at there
          cases there
        · exact Tasks.isCounted_put_ne eq
  | @atomic c i op past upd next _ here fine fair ih =>
      obtain ⟨counting, run⟩ := ih
      obtain ⟨counting', step⟩ := counting.ran here
      refine ⟨counting', run.atomic here ⟨fine, trivial⟩ fun j task ne there => ?_⟩
      refine ⟨fair j task ne there, ?_⟩
      change Calm task.past.now (upd c.s) ∨ 1 ≤ count task.past.now
      rw [counting.now there]
      exact step
  | @call c i op past q next r w' _ here answered fine ih =>
      obtain ⟨counting, run⟩ := ih
      refine ⟨counting.keep (fun j task there => ?_) (fun j => ?_) rfl,
        run.call here answered ⟨fine, trivial⟩⟩
      · by_cases eq : j = i
        · subst eq
          rw [show _ = some _ from Tasks.pool_put_self, Option.some.injEq] at there
          subst there
          have now : past.now = c.s := counting.now here
          exact ⟨now, counting.each here r⟩
        · have there := (Tasks.pool_put_ne eq).symm.trans there
          exact ⟨counting.now there, counting.each there⟩
      · by_cases eq : j = i
        · subst eq
          rw [Tasks.isCounted_iff here]
          have own : (c.put j (some ⟨op, .answer past q r, next r⟩)).IsCounted count j ↔
              History.raised count (.answer past q r) = true :=
            Tasks.isCounted_iff Tasks.pool_put_self
          exact own
        · exact Tasks.isCounted_put_ne eq
  | @leave c i op past a _ here ih =>
      obtain ⟨counting, run⟩ := ih
      have done : past.raised count = false := counting.each here
      refine ⟨counting.keep (fun j task there => ?_) (fun j => ?_) rfl, run.leave here⟩
      · by_cases eq : j = i
        · subst eq
          rw [Tasks.pool_put_self] at there
          cases there
        · rw [Tasks.pool_put_ne eq] at there
          exact ⟨counting.now there, counting.each there⟩
      · by_cases eq : j = i
        · subst eq
          rw [Tasks.isCounted_iff here, done]
          refine ⟨?_, fun raised => (by cases raised)⟩
          rintro ⟨task, there, -⟩
          rw [Tasks.pool_put_self] at there
          cases there
        · exact Tasks.isCounted_put_ne eq

end Interact
