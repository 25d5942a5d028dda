import Mathlib.Logic.Function.Basic
import DiskManager.Interact.Prog

/-!
# Operations side by side

Any number of operations of a service run at once. They share memory and world; one step is one
critical section or one request of one of them.

* `Sys`, `PoolRun`: the interleaving semantics. A slot of the pool is free or holds what is left of
  an operation; operations come into free slots at any time and leave when done. A run keeps the
  log of its sections.
* `Writes look upd`: a section can change the part of memory that `look` watches. `lastWrite`: what
  the others last wrote there; `sinceWrite`: the sections after that.
* `Sys.play`: an executable schedule.
-/

namespace Interact

variable {S Q W V O ι : Type} {R : Q → Type} {α : Type}

/-! ## Interleavings -/

/-- A pool of operations, memory and world. -/
structure Sys (ι S W Q : Type) (R : Q → Type) (α : Type) : Type where
  pool : ι → Option (Prog S Q R α)
  s : S
  w : W

/-- No operation is in progress. -/
def Sys.quiet (c : Sys ι S W Q R α) : Prop := ∀ i, c.pool i = none

/-- A section that was run: by whom, what it does, and the memory it found. -/
structure Entry (ι S : Type) : Type where
  slot : ι
  upd : S → S
  found : S

section

variable [DecidableEq ι]

/-- Slot `i` holds `p` from now on. -/
def Sys.put (c : Sys ι S W Q R α) (i : ι) (p : Option (Prog S Q R α)) : Sys ι S W Q R α :=
  { c with pool := Function.update c.pool i p }

@[simp] theorem Sys.put_self (c : Sys ι S W Q R α) (i : ι) (p : Option (Prog S Q R α)) :
    (c.put i p).pool i = p := by
  simp only [Sys.put, Function.update_self]

theorem Sys.put_ne {c : Sys ι S W Q R α} {i j : ι} {p : Option (Prog S Q R α)} (ne : j ≠ i) :
    (c.put i p).pool j = c.pool j := by
  simp only [Sys.put, Function.update_of_ne ne]

/-- A run from `c₀`, with its log, the newest section first. Operations `prog op` come into the
slots of `seats`. -/
inductive PoolRun (seats : ι → Prop) (prog : O → Prog S Q R α) (env : Env S W Q R)
    (c₀ : Sys ι S W Q R α) : Sys ι S W Q R α → List (Entry ι S) → Prop
  | start : PoolRun seats prog env c₀ c₀ []
  | enter {c : Sys ι S W Q R α} {log : List (Entry ι S)} {i : ι} (op : O) :
    PoolRun seats prog env c₀ c log → seats i → c.pool i = none →
    PoolRun seats prog env c₀ (c.put i (some (prog op))) log
  | atomic {c : Sys ι S W Q R α} {log : List (Entry ι S)} {i : ι} {upd : S → S}
      {next : S → Prog S Q R α} :
    PoolRun seats prog env c₀ c log → c.pool i = some (.atomic upd next) →
    PoolRun seats prog env c₀ { c.put i (some (next c.s)) with s := upd c.s } (⟨i, upd, c.s⟩ :: log)
  | call {c : Sys ι S W Q R α} {log : List (Entry ι S)} {i : ι} {q : Q}
      {next : R q → Prog S Q R α} {r : R q} {w' : W} :
    PoolRun seats prog env c₀ c log → c.pool i = some (.call q next) → env c.s c.w q r w' →
    PoolRun seats prog env c₀ { c.put i (some (next r)) with w := w' } log
  | leave {c : Sys ι S W Q R α} {log : List (Entry ι S)} {i : ι} {a : α} :
    PoolRun seats prog env c₀ c log → c.pool i = some (.done a) →
    PoolRun seats prog env c₀ (c.put i none) log

end

/-! ## Operations one at a time -/

section

variable [DecidableEq ι] {seats : ι → Prop} {prog : O → Prog S Q R α} {env : Env S W Q R}
  {c₀ : Sys ι S W Q R α}

/-- Slot `i` holds the only operation. -/
def Sys.sole (i : ι) (p : Prog S Q R α) (s : S) (w : W) : Sys ι S W Q R α :=
  ⟨Function.update (fun _ => none) i (some p), s, w⟩

@[simp] theorem Sys.sole_self (i : ι) (p : Prog S Q R α) (s : S) (w : W) :
    (Sys.sole i p s w).pool i = some p := by
  simp only [Sys.sole, Function.update_self]

theorem Sys.sole_put (i : ι) (p : Prog S Q R α) (s : S) (w : W) (slot : Option (Prog S Q R α)) :
    ((Sys.sole i p s w).put i slot).pool = Function.update (fun _ => none) i slot := by
  simp only [Sys.sole, Sys.put, Function.update_idem]

/-- An operation on its own is run like one of a pool. -/
theorem PoolRun.steps {i : ι} {c c' : Conf S W Q R α} {log : List (Entry ι S)}
    (run : PoolRun seats prog env c₀ (Sys.sole i c.prog c.s c.w) log) (steps : Reach env c c') :
    ∃ log', PoolRun seats prog env c₀ (Sys.sole i c'.prog c'.s c'.w) log' := by
  induction steps with
  | refl => exact ⟨log, run⟩
  | tail _ step ih =>
      obtain ⟨log', before⟩ := ih
      cases step with
      | atomic =>
          have next := before.atomic (Sys.sole_self ..)
          simp only [Sys.sole_put] at next
          exact ⟨_, next⟩
      | call answered =>
          have next := before.call (Sys.sole_self ..) answered
          simp only [Sys.sole_put] at next
          exact ⟨_, next⟩

/-- An operation comes to an idle pool, is run and leaves. -/
theorem PoolRun.operation {s s' : S} {w w' : W} {log : List (Entry ι S)} {i : ι} {a : α}
    (run : PoolRun seats prog env c₀ ⟨fun _ => none, s, w⟩ log) (seat : seats i) (op : O)
    (returned : Returns env (prog op) s w a s' w') :
    ∃ log', PoolRun seats prog env c₀ ⟨fun _ => none, s', w'⟩ log' := by
  obtain ⟨log', ended⟩ := PoolRun.steps (c := ⟨prog op, s, w⟩) (run.enter op seat rfl) returned
  have left := ended.leave (Sys.sole_self ..)
  refine ⟨log', ?_⟩
  have empty : (Function.update (fun _ => none) i none : ι → Option (Prog S Q R α)) =
      fun _ => none := Function.update_eq_self i _
  simp only [Sys.put, Sys.sole, Function.update_idem, empty] at left
  exact left

end

/-! ## Writing -/

/-- The section can change what `look` shows. -/
def Writes (look : S → V) (upd : S → S) : Prop := ∃ s, look (upd s) ≠ look s

theorem look_of_not_writes {look : S → V} {upd : S → S} (other : ¬ Writes look upd) (s : S) :
    look (upd s) = look s := by
  by_contra ne
  exact other ⟨s, ne⟩

open Classical in
/-- What a slot other than `i` last wrote to the watched part. -/
noncomputable def lastWrite (look : S → V) (i : ι) : List (Entry ι S) → Option V
  | [] => none
  | e :: log =>
      if e.slot ≠ i ∧ Writes look e.upd then some (look (e.upd e.found)) else lastWrite look i log

theorem lastWrite_own {look : S → V} {i : ι} {upd : S → S} {found : S} {log : List (Entry ι S)} :
    lastWrite look i (⟨i, upd, found⟩ :: log) = lastWrite look i log :=
  if_neg fun both => both.1 rfl

theorem lastWrite_other {look : S → V} {i : ι} {e : Entry ι S} {log : List (Entry ι S)}
    (other : ¬ Writes look e.upd) : lastWrite look i (e :: log) = lastWrite look i log :=
  if_neg fun both => other both.2

theorem lastWrite_writes {look : S → V} {i : ι} {e : Entry ι S} {log : List (Entry ι S)}
    (ne : e.slot ≠ i) (writes : Writes look e.upd) :
    lastWrite look i (e :: log) = some (look (e.upd e.found)) := if_pos ⟨ne, writes⟩

/-- The newest `n` sections are those of slot `i`, the one before changed the watched part. -/
theorem lastWrite_of_changed {look : S → V} {i : ι} {e : Entry ι S} {log : List (Entry ι S)} (n : ℕ)
    (own : ∀ e ∈ log.take n, e.slot = i) (there : (log.drop n).head? = some e) (ne : e.slot ≠ i)
    (changed : look (e.upd e.found) ≠ look e.found) :
    lastWrite look i log = some (look (e.upd e.found)) := by
  induction n generalizing log with
  | zero =>
      cases log with
      | nil => cases there
      | cons e' log =>
          cases there
          exact lastWrite_writes ne ⟨e.found, changed⟩
  | succ n ih =>
      cases log with
      | nil => cases there
      | cons e' log =>
          have mine : e'.slot = i := own e' List.mem_cons_self
          refine (if_neg fun both => both.1 mine).trans (ih ?_ there)
          exact fun e'' mem => own e'' (List.mem_cons_of_mem e' mem)

open Classical in
/-- The sections after the last one with which a slot other than `i` wrote to the watched part. -/
noncomputable def sinceWrite (look : S → V) (i : ι) : List (Entry ι S) → List (Entry ι S)
  | [] => []
  | e :: log => if e.slot ≠ i ∧ Writes look e.upd then [] else e :: sinceWrite look i log

theorem sinceWrite_own {look : S → V} {i : ι} {upd : S → S} {found : S} {log : List (Entry ι S)} :
    sinceWrite look i (⟨i, upd, found⟩ :: log) = ⟨i, upd, found⟩ :: sinceWrite look i log :=
  if_neg fun both => both.1 rfl

theorem sinceWrite_other {look : S → V} {i : ι} {e : Entry ι S} {log : List (Entry ι S)}
    (other : ¬ Writes look e.upd) : sinceWrite look i (e :: log) = e :: sinceWrite look i log :=
  if_neg fun both => other both.2

section

variable [DecidableEq ι]

/-! ## Schedules -/

/-- What happens next: an operation comes, or an operation in the pool goes one step on. -/
inductive Sched (ι O : Type) : Type
  | enter (i : ι) (op : O)
  | run (i : ι)

/-- One step of a schedule; an operation that is done leaves. -/
def Sys.turn (prog : O → Prog S Q R α) (handle : W → (q : Q) → R q × W)
    (c : Sys ι S W Q R α × List (Entry ι S)) :
    Sched ι O → Sys ι S W Q R α × List (Entry ι S)
  | .enter i op =>
      match c.1.pool i with
      | none => (c.1.put i (some (prog op)), c.2)
      | some _ => c
  | .run i =>
      match c.1.pool i with
      | none => c
      | some (.done _) => (c.1.put i none, c.2)
      | some (.atomic upd next) =>
          ({ c.1.put i (some (next c.1.s)) with s := upd c.1.s }, ⟨i, upd, c.1.s⟩ :: c.2)
      | some (.call q next) =>
          ({ c.1.put i (some (next (handle c.1.w q).1)) with w := (handle c.1.w q).2 }, c.2)

def Sys.play (prog : O → Prog S Q R α) (handle : W → (q : Q) → R q × W)
    (c : Sys ι S W Q R α × List (Entry ι S)) (schedule : List (Sched ι O)) :
    Sys ι S W Q R α × List (Entry ι S) :=
  schedule.foldl (Sys.turn prog handle) c

/-- The slots a schedule brings operations to. -/
def Sched.seated (seats : ι → Prop) : Sched ι O → Prop
  | .enter i _ => seats i
  | .run _ => True

theorem PoolRun.turn {seats : ι → Prop} {prog : O → Prog S Q R α} {env : Env S W Q R}
    {handle : W → (q : Q) → R q × W} (obeys : ∀ s w q, env s w q (handle w q).1 (handle w q).2)
    {c₀ : Sys ι S W Q R α} {c : Sys ι S W Q R α × List (Entry ι S)}
    (run : PoolRun seats prog env c₀ c.1 c.2) {t : Sched ι O} (seated : t.seated seats) :
    PoolRun seats prog env c₀ (Sys.turn prog handle c t).1 (Sys.turn prog handle c t).2 := by
  cases t with
  | enter i op =>
      unfold Sys.turn
      dsimp only
      split
      next free => exact run.enter op seated free
      · exact run
  | run i =>
      unfold Sys.turn
      dsimp only
      split
      · exact run
      next here => exact run.leave here
      next here => exact run.atomic here
      next here => exact run.call here (obeys _ _ _)

/-- A schedule is a run of every environment the handler obeys. -/
theorem PoolRun.play {seats : ι → Prop} {prog : O → Prog S Q R α} {env : Env S W Q R}
    {handle : W → (q : Q) → R q × W} (obeys : ∀ s w q, env s w q (handle w q).1 (handle w q).2)
    {c₀ : Sys ι S W Q R α} {c : Sys ι S W Q R α × List (Entry ι S)}
    (run : PoolRun seats prog env c₀ c.1 c.2) {schedule : List (Sched ι O)}
    (seated : ∀ t ∈ schedule, t.seated seats) :
    PoolRun seats prog env c₀ (Sys.play prog handle c schedule).1
      (Sys.play prog handle c schedule).2 := by
  induction schedule generalizing c with
  | nil => exact run
  | cons t schedule ih =>
      exact ih (run.turn obeys (seated t List.mem_cons_self))
        fun t' mem => seated t' (List.mem_cons_of_mem t mem)

end

end Interact
