import DiskManager.Interact.Tasks
import Mathlib.Data.Fintype.Basic

/-!
# One operation beside others

An operation in a slot of its own, and others of which it is only known what each of their sections
does to memory. `TaskRun.beside` is the rule for it: what it owes when the sections of the others
are `G` steps, it keeps to in every run. Schedules here may block: a request that has no answer yet
waits.
-/

namespace Interact

variable {S Q W O ι : Type} {R : Q → Type} {α : Type}

/-- If the last of it is a section of another operation, it is a `G` step. -/
def History.OthersMake (G : S → S → Prop) : History S Q R → Prop
  | .other before s => G before.now s
  | _ => True

theorem along_trivial {allowed : History S Q R → Prop} {p : Prog S Q R α} {h : History S Q R} :
    Along allowed (fun _ _ => True) p (fun _ _ => True) h := by
  induction p generalizing h with
  | done a => trivial
  | atomic upd next ih => exact fun h' _ => ⟨trivial, fun _ => ih _⟩
  | call q next ih => exact fun h' _ => ⟨trivial, fun r _ => ih r⟩

section

variable [DecidableEq ι]

/-- Only the operation of slot `i` is in progress. -/
def Tasks.alone (i : ι) (task : Task O S Q R α) (s : S) (w : W) : Tasks ι O S W Q R α :=
  ⟨Function.update (fun _ => none) i (some task), s, w⟩

variable {allowed : O → History S Q R → Prop} {prog : O → Prog S Q R α} {env : Env S W Q R}
  {G : S → S → Prop} {ok : O → History S Q R → Move S Q → Prop} {i : ι}

/-- What the operation of slot `i` owes, and what the others do. -/
structure Tasks.Beside (allowed : O → History S Q R → Prop) (G : S → S → Prop)
    (ok : O → History S Q R → Move S Q → Prop) (i : ι) (c : Tasks ι O S W Q R α) : Prop where
  now {task : Task O S Q R α} : c.pool i = some task → task.past.now = c.s
  owed {task : Task O S Q R α} : c.pool i = some task →
    Along (fun h => allowed task.op h ∧ h.OthersMake G) (ok task.op) task.rest (fun _ _ => True)
      task.past
  others {j : ι} {task : Task O S Q R α} : j ≠ i → c.pool j = some task →
    Within G task.rest fun _ => True

omit [DecidableEq ι] in
/-- Another pool and memory, told slot by slot. -/
theorem Tasks.Beside.of {c : Tasks ι O S W Q R α}
    (own : ∀ task, c.pool i = some task → task.past.now = c.s ∧
      Along (fun h => allowed task.op h ∧ h.OthersMake G) (ok task.op) task.rest (fun _ _ => True)
        task.past)
    (others : ∀ j task, j ≠ i → c.pool j = some task → Within G task.rest fun _ => True) :
    c.Beside allowed G ok i :=
  ⟨fun there => (own _ there).1, fun there => (own _ there).2, fun ne there => others _ _ ne there⟩

/-- The rule for one operation beside others. -/
theorem TaskRun.beside {c₀ c : Tasks ι O S W Q R α} (run : TaskRun allowed prog env c₀ c)
    (start : c₀.Beside allowed G ok i) (newcomers : ∀ op, Within G (prog op) fun _ => True)
    (owes : ∀ op s, Along (fun h => allowed op h ∧ h.OthersMake G) (ok op) (prog op)
      (fun _ _ => True) (.came s)) : c.Beside allowed G ok i := by
  induction run with
  | start => exact start
  | @enter c j op _ _ ih =>
      refine .of (fun task there => ?_) fun k task ne there => ?_
      · by_cases same : i = j
        · subst same
          rw [Tasks.pool_put_self, Option.some.injEq] at there
          subst there
          exact ⟨rfl, owes op c.s⟩
        · rw [Tasks.pool_put_ne same] at there
          exact ⟨ih.now there, ih.owed there⟩
      · by_cases same : k = j
        · subst same
          rw [Tasks.pool_put_self, Option.some.injEq] at there
          subst there
          exact newcomers op
        · rw [Tasks.pool_put_ne same] at there
          exact ih.others ne there
  | @atomic c j op past upd next _ here fine fair ih =>
      refine .of (fun task there => ?_) fun k task ne there => ?_
      · by_cases same : i = j
        · subst same
          rw [Tasks.pool_ran_self, Option.some.injEq] at there
          subst there
          have now : past.now = c.s := ih.now here
          refine ⟨rfl, ?_⟩
          have moved := (ih.owed here past .refl).2
          rw [now] at moved
          exact moved ⟨fine, trivial⟩
        · rw [Tasks.pool_ran_ne same, Option.map_eq_some_iff] at there
          obtain ⟨before, there, rfl⟩ := there
          have step : G c.s (upd c.s) := (ih.others (fun eq => same eq.symm) here c.s).1
          refine ⟨rfl, (ih.owed there).since (.other .refl ⟨fair i before same there, ?_⟩)⟩
          change G before.past.now (upd c.s)
          rw [ih.now there]
          exact step
      · by_cases same : k = j
        · subst same
          rw [Tasks.pool_ran_self, Option.some.injEq] at there
          subst there
          exact (ih.others ne here c.s).2
        · rw [Tasks.pool_ran_ne same, Option.map_eq_some_iff] at there
          obtain ⟨before, there, rfl⟩ := there
          have kept : Within G before.rest fun _ => True := ih.others ne there
          exact kept
  | @call c j op past q next r w' _ here _ fine ih =>
      refine .of (fun task there => ?_) fun k task ne there => ?_
      · by_cases same : i = j
        · subst same
          rw [show _ = some _ from Tasks.pool_put_self, Option.some.injEq] at there
          subst there
          have now : past.now = c.s := ih.now here
          exact ⟨now, (ih.owed here past .refl).2 r ⟨fine, trivial⟩⟩
        · have there := (Tasks.pool_put_ne same).symm.trans there
          exact ⟨ih.now there, ih.owed there⟩
      · by_cases same : k = j
        · subst same
          rw [show _ = some _ from Tasks.pool_put_self, Option.some.injEq] at there
          subst there
          exact ih.others ne here r
        · exact ih.others ne ((Tasks.pool_put_ne same).symm.trans there)
  | @leave c j op past a _ here ih =>
      refine .of (fun task there => ?_) fun k task ne there => ?_
      · by_cases same : i = j
        · subst same
          rw [Tasks.pool_put_self] at there
          cases there
        · rw [Tasks.pool_put_ne same] at there
          exact ⟨ih.now there, ih.owed there⟩
      · by_cases same : k = j
        · subst same
          rw [Tasks.pool_put_self] at there
          cases there
        · rw [Tasks.pool_put_ne same] at there
          exact ih.others ne there

/-- An operation that starts alone. -/
theorem Tasks.beside_alone {op : O} {p : Prog S Q R α} {s : S} {w : W}
    (owed : Along (fun h => allowed op h ∧ h.OthersMake G) (ok op) p (fun _ _ => True)
      (.came s)) : (Tasks.alone i ⟨op, .came s, p⟩ s w).Beside allowed G ok i := by
  refine .of (fun task there => ?_) fun j task ne there => ?_
  · simp only [Tasks.alone, Function.update_self, Option.some.injEq] at there
    subst there
    exact ⟨rfl, owed⟩
  · simp only [Tasks.alone, Function.update_of_ne ne] at there
    cases there

/-! ## Schedules that block -/

/-- One step of a schedule. A request without an answer leaves everything as it is. -/
def Tasks.turnWhere (prog : O → Prog S Q R α) (handle : S → W → (q : Q) → Option (R q × W))
    (c : Tasks ι O S W Q R α) : Sched ι O → Tasks ι O S W Q R α
  | .enter i op =>
      match c.pool i with
      | none => c.put i (some ⟨op, .came c.s, prog op⟩)
      | some _ => c
  | .run i =>
      match c.pool i with
      | none => c
      | some ⟨_, _, .done _⟩ => c.put i none
      | some ⟨op, past, .atomic upd next⟩ =>
          c.ran i ⟨op, .own past (upd c.s), next c.s⟩ (upd c.s)
      | some ⟨op, past, .call q next⟩ =>
          match handle c.s c.w q with
          | none => c
          | some (r, w') => { c.put i (some ⟨op, .answer past q r, next r⟩) with w := w' }

/-- No operation in progress has just lived through what `allowed` excludes. -/
def Tasks.Fair (allowed : O → History S Q R → Prop) (c : Tasks ι O S W Q R α) : Prop :=
  ∀ j, ∀ task ∈ c.pool j, allowed task.op task.past

instance [Fintype ι] [∀ op h, Decidable (allowed op h)] (c : Tasks ι O S W Q R α) :
    Decidable (c.Fair allowed) :=
  inferInstanceAs (Decidable (∀ j, ∀ task ∈ c.pool j, allowed task.op task.past))

/-- A schedule in which a step that `allowed` excludes is left out. -/
def Tasks.playFair [Fintype ι] (allowed : O → History S Q R → Prop)
    [∀ op h, Decidable (allowed op h)] (prog : O → Prog S Q R α)
    (handle : S → W → (q : Q) → Option (R q × W)) (c : Tasks ι O S W Q R α)
    (schedule : List (Sched ι O)) : Tasks ι O S W Q R α :=
  schedule.foldl (fun c t =>
    if (Tasks.turnWhere prog handle c t).Fair allowed then Tasks.turnWhere prog handle c t else c) c

theorem TaskRun.turnWhere {handle : S → W → (q : Q) → Option (R q × W)}
    (obeys : ∀ s w q r w', handle s w q = some (r, w') → env s w q r w')
    {c₀ c : Tasks ι O S W Q R α} (run : TaskRun allowed prog env c₀ c) {t : Sched ι O}
    (fair : (Tasks.turnWhere prog handle c t).Fair allowed) :
    TaskRun allowed prog env c₀ (Tasks.turnWhere prog handle c t) := by
  cases t with
  | enter i op =>
      unfold Tasks.turnWhere
      dsimp only
      split
      next free => exact run.enter op free
      · exact run
  | run i =>
      unfold Tasks.turnWhere at fair ⊢
      dsimp only at fair ⊢
      split at fair
      · exact run
      next here => exact run.leave here
      next op past upd rest here =>
        refine run.atomic here (fair i _ Tasks.pool_ran_self) fun j task ne there => ?_
        have moved : (c.ran i ⟨op, .own past (upd c.s), rest c.s⟩ (upd c.s)).pool j =
            some (task.witness (upd c.s)) := by
          rw [Tasks.pool_ran_ne ne, there, Option.map_some]
        exact fair j _ moved
      next here =>
        split at fair
        · exact run
        next answered =>
          exact run.call here (obeys _ _ _ _ _ answered) (fair i _ Tasks.pool_put_self)

/-- A fair schedule is a run of every environment the handler obeys. -/
theorem TaskRun.playFair [Fintype ι] [∀ op h, Decidable (allowed op h)]
    {handle : S → W → (q : Q) → Option (R q × W)}
    (obeys : ∀ s w q r w', handle s w q = some (r, w') → env s w q r w')
    {c₀ c : Tasks ι O S W Q R α} (run : TaskRun allowed prog env c₀ c)
    (schedule : List (Sched ι O)) :
    TaskRun allowed prog env c₀ (Tasks.playFair allowed prog handle c schedule) := by
  induction schedule generalizing c with
  | nil => exact run
  | cons t schedule ih =>
      refine ih ?_
      dsimp only
      split
      next fair => exact run.turnWhere obeys fair
      · exact run

end

end Interact
