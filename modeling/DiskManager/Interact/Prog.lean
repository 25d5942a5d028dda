import Mathlib.Data.List.Induction
import Mathlib.Logic.Relation
import Mathlib.Tactic.Common

/-!
# Interaction programs

A service holds process memory `S` behind mutexes and talks to the outside through requests `Q`,
where request `q` is answered by an `R q`. `Prog S Q R α` is one operation of such a service as
the outside sees it: a tree whose nodes are critical sections (`atomic`) and requests (`call`).
The tree is finite, so every operation returns once its requests are answered.

* `Step`, `Reach`: the small-step semantics, against an environment that says how the outside may
  answer in a given state and how it then looks.
* `Contract`, `wp`: a demonic weakest precondition. A contract is an environment together with the
  condition under which a request may be issued and what a section may do to memory.
* `wp_reach`: `wp` is preserved by every step, so it is an invariant of runs; `wp_returns` and
  `wp_issued` read it at a returned value and at an issued request.
* `Runs`: operations one after another, with the invariant rule `Runs.invariant`; `GuardedRuns` with
  a condition on the state an operation starts from; `NotedRuns` with a history.
-/

namespace Interact

/-- One operation: critical sections and requests. A section sees the memory it starts from. -/
inductive Prog (S Q : Type) (R : Q → Type) (α : Type) : Type
  | done (a : α)
  | atomic (upd : S → S) (next : S → Prog S Q R α)
  | call (q : Q) (next : R q → Prog S Q R α)

variable {S Q W : Type} {R : Q → Type} {α β : Type}

namespace Prog

def bind : Prog S Q R α → (α → Prog S Q R β) → Prog S Q R β
  | .done a, f => f a
  | .atomic upd next, f => .atomic upd fun s => (next s).bind f
  | .call q next, f => .call q fun r => (next r).bind f

instance : Monad (Prog S Q R) where
  pure := .done
  bind := Prog.bind

/-- One critical section that computes a value and a new memory. -/
def atomically (f : S → α × S) : Prog S Q R α :=
  .atomic (fun s => (f s).2) fun s => .done (f s).1

/-- One critical section that only reads. -/
def read (f : S → α) : Prog S Q R α :=
  .atomic id fun s => .done (f s)

/-- One critical section that only writes. -/
def modify (f : S → S) : Prog S Q R Unit :=
  .atomic f fun _ => .done ()

def request (q : Q) : Prog S Q R (R q) :=
  .call q .done

/-- Run an operation of a component whose memory `T` is part of `S` and whose requests are
requests of the whole. -/
def lift {T P : Type} {U : P → Type} (get : S → T) (put : T → S → S) (inj : P → Q)
    (conv : ∀ p, R (inj p) → U p) : Prog T P U α → Prog S Q R α
  | .done a => .done a
  | .atomic upd next =>
      .atomic (fun s => put (upd (get s)) s) fun s => lift get put inj conv (next (get s))
  | .call p next => .call (inj p) fun r => lift get put inj conv (next (conv p r))

/-- Run to the end with a handler for the requests. -/
def exec (handle : W → (q : Q) → R q × W) : Prog S Q R α → S → W → α × S × W
  | .done a, s, w => (a, s, w)
  | .atomic upd next, s, w => (next s).exec handle (upd s) w
  | .call q next, s, w => (next (handle w q).1).exec handle s (handle w q).2

end Prog

/-! ## Small steps -/

/-- How the outside may answer request `q` in memory `s` and world `w`, and the world after. -/
abbrev Env (S W Q : Type) (R : Q → Type) : Type :=
  S → W → (q : Q) → R q → W → Prop

/-- A program under way: what is left of it, the memory, the world. -/
structure Conf (S W Q : Type) (R : Q → Type) (α : Type) : Type where
  prog : Prog S Q R α
  s : S
  w : W

inductive Step (env : Env S W Q R) : Conf S W Q R α → Conf S W Q R α → Prop
  | atomic {upd : S → S} {next : S → Prog S Q R α} {s : S} {w : W} :
    Step env ⟨.atomic upd next, s, w⟩ ⟨next s, upd s, w⟩
  | call {q : Q} {next : R q → Prog S Q R α} {s : S} {w w' : W} {r : R q} :
    env s w q r w' → Step env ⟨.call q next, s, w⟩ ⟨next r, s, w'⟩

abbrev Reach (env : Env S W Q R) : Conf S W Q R α → Conf S W Q R α → Prop :=
  Relation.ReflTransGen (Step env)

/-- `p` started in `s` and `w` returns `a`, leaving `s'` and `w'`. -/
def Returns (env : Env S W Q R) (p : Prog S Q R α) (s : S) (w : W) (a : α) (s' : S) (w' : W) :
    Prop :=
  Reach env ⟨p, s, w⟩ ⟨.done a, s', w'⟩

theorem Reach.mono {env env' : Env S W Q R} {c c' : Conf S W Q R α}
    (sub : ∀ {s w q r w'}, env s w q r w' → env' s w q r w') (run : Reach env c c') :
    Reach env' c c' := by
  induction run with
  | refl => exact .refl
  | tail _ step ih =>
      refine .tail ih ?_
      cases step with
      | atomic => exact .atomic
      | call answered => exact .call (sub answered)

/-- A handled run is a run of every environment the handler obeys. -/
theorem Prog.exec_returns {env : Env S W Q R} {handle : W → (q : Q) → R q × W}
    (obeys : ∀ s w q, env s w q (handle w q).1 (handle w q).2) (p : Prog S Q R α) (s : S) (w : W) :
    Returns env p s w (p.exec handle s w).1 (p.exec handle s w).2.1 (p.exec handle s w).2.2 := by
  induction p generalizing s w with
  | done a => exact .refl
  | atomic upd next ih => exact .head .atomic (ih s (upd s) w)
  | call q next ih => exact .head (.call (obeys s w q)) (ih (handle w q).1 s (handle w q).2)

/-! ## Contracts and weakest preconditions -/

/-- What an operation may rely on and what it owes: the environment it runs against, when it may
issue a request, and what one of its sections may do to memory. -/
structure Contract (S W Q : Type) (R : Q → Type) : Type where
  env : Env S W Q R
  ok : S → W → Q → Prop
  guar : W → S → S → Prop

/-- The contract that only restricts the answers. -/
def Contract.ofEnv (env : Env S W Q R) : Contract S W Q R :=
  ⟨env, fun _ _ _ => True, fun _ _ _ => True⟩

/-- `wp C p post s w`: whatever the outside answers, `p` keeps the contract `C` and returns with
`post`. -/
def wp (C : Contract S W Q R) : Prog S Q R α → (α → S → W → Prop) → S → W → Prop
  | .done a, post, s, w => post a s w
  | .atomic upd next, post, s, w => C.guar w s (upd s) ∧ wp C (next s) post (upd s) w
  | .call q next, post, s, w => C.ok s w q ∧ ∀ r w', C.env s w q r w' → wp C (next r) post s w'

section Rules

variable {C : Contract S W Q R} {post post' : α → S → W → Prop} {s : S} {w : W}

@[simp] theorem wp_done {a : α} : wp C (.done a) post s w ↔ post a s w := Iff.rfl

@[simp] theorem wp_pure {a : α} : wp C (pure a : Prog S Q R α) post s w ↔ post a s w := Iff.rfl

@[simp] theorem wp_atomic {upd : S → S} {next : S → Prog S Q R α} :
    wp C (.atomic upd next) post s w ↔ C.guar w s (upd s) ∧ wp C (next s) post (upd s) w := Iff.rfl

@[simp] theorem wp_atomically {f : S → α × S} :
    wp C (Prog.atomically f) post s w ↔ C.guar w s (f s).2 ∧ post (f s).1 (f s).2 w := Iff.rfl

@[simp] theorem wp_read {f : S → α} :
    wp C (Prog.read f) post s w ↔ C.guar w s s ∧ post (f s) s w := Iff.rfl

@[simp] theorem wp_modify {f : S → S} {post : Unit → S → W → Prop} :
    wp C (Prog.modify f) post s w ↔ C.guar w s (f s) ∧ post () (f s) w := Iff.rfl

theorem wp_request {q : Q} {post : R q → S → W → Prop} :
    wp C (Prog.request q) post s w ↔
      C.ok s w q ∧ ∀ r w', C.env s w q r w' → post r s w' := Iff.rfl

@[simp] theorem wp_bind {p : Prog S Q R α} {f : α → Prog S Q R β} {post : β → S → W → Prop} :
    wp C (p >>= f) post s w ↔ wp C p (fun a => wp C (f a) post) s w := by
  change wp C (p.bind f) post s w ↔ _
  induction p generalizing s w with
  | done a => exact Iff.rfl
  | atomic upd next ih => simp only [Prog.bind, wp_atomic, ih]
  | call q next ih => simp only [Prog.bind, wp, ih]

theorem wp_mono {p : Prog S Q R α} (imp : ∀ a s w, post a s w → post' a s w)
    (pre : wp C p post s w) : wp C p post' s w := by
  induction p generalizing s w with
  | done a => exact imp _ _ _ pre
  | atomic upd next ih => exact ⟨pre.1, ih _ pre.2⟩
  | call q next ih => exact ⟨pre.1, fun r w' answered => ih r (pre.2 r w' answered)⟩

/-- Sequencing through a lemma about the first part. -/
theorem wp_seq {p : Prog S Q R α} {f : α → Prog S Q R β} {mid : α → S → W → Prop}
    {post : β → S → W → Prop} (first : wp C p mid s w)
    (rest : ∀ a s' w', mid a s' w' → wp C (f a) post s' w') : wp C (p >>= f) post s w :=
  wp_bind.mpr (wp_mono rest first)

/-- Two facts about one program. -/
theorem wp_and {p : Prog S Q R α} (left : wp C p post s w) (right : wp C p post' s w) :
    wp C p (fun a s w => post a s w ∧ post' a s w) s w := by
  induction p generalizing s w with
  | done a => exact ⟨left, right⟩
  | atomic upd next ih => exact ⟨left.1, ih _ left.2 right.2⟩
  | call q next ih =>
      exact ⟨left.1, fun r w' answered => ih r (left.2 r w' answered) (right.2 r w' answered)⟩

/-- A loop with an invariant over the elements still to come. -/
theorem wp_forM {γ : Type} {body : γ → Prog S Q R PUnit} (inv : List γ → S → W → Prop)
    (round : ∀ x xs s w, inv (x :: xs) s w → wp C (body x) (fun _ => inv xs) s w)
    (xs : List γ) (start : inv xs s w) : wp C (xs.forM body) (fun _ => inv []) s w := by
  induction xs generalizing s w with
  | nil => exact start
  | cons x xs ih =>
      change wp C (body x >>= fun _ => xs.forM body) _ s w
      exact wp_seq (round x xs s w start) fun _ s' w' held => ih held

end Rules

/-! ## Loops -/

/-- The rounds of a loop over a list, as steps of what they do to `σ`. -/
inductive Rounds {γ σ : Type} (step : γ → σ → σ → Prop) : List γ → σ → σ → Prop
  | nil {i : σ} : Rounds step [] i i
  | cons {x : γ} {xs : List γ} {i i' i'' : σ} :
    step x i i' → Rounds step xs i' i'' → Rounds step (x :: xs) i i''

theorem Rounds.invariant {γ σ : Type} {step : γ → σ → σ → Prop} (inv : σ → Prop) {xs : List γ}
    {i i' : σ} (rounds : Rounds step xs i i') (kept : ∀ x ∈ xs, ∀ i i', inv i → step x i i' → inv i')
    (start : inv i) : inv i' := by
  induction rounds with
  | nil => exact start
  | cons first _ ih =>
      refine ih (fun x mem => kept x (List.mem_cons_of_mem _ mem)) ?_
      exact kept _ List.mem_cons_self _ _ start first

theorem Rounds.eq_of_nil {γ σ : Type} {step : γ → σ → σ → Prop} {i i' : σ}
    (rounds : Rounds step [] i i') : i' = i := by
  cases rounds
  rfl

theorem Rounds.mono {γ σ : Type} {step step' : γ → σ → σ → Prop} {xs : List γ} {i i' : σ}
    (rounds : Rounds step xs i i') (imp : ∀ x ∈ xs, ∀ i i', step x i i' → step' x i i') :
    Rounds step' xs i i' := by
  induction rounds with
  | nil => exact .nil
  | cons first _ ih =>
      refine .cons (imp _ List.mem_cons_self _ _ first) (ih ?_)
      exact fun x mem => imp x (List.mem_cons_of_mem _ mem)

/-- A loop, seen through `view`, is the rounds of its body. -/
theorem wp_rounds {C : Contract S W Q R} {γ σ : Type} {body : γ → Prog S Q R PUnit} (inv : S → Prop)
    (view : S → σ) (step : γ → σ → σ → Prop) {s : S} {w : W} (xs : List γ)
    (round : ∀ x ∈ xs, ∀ s w, inv s →
      wp C (body x) (fun _ s' _ => inv s' ∧ step x (view s) (view s')) s w)
    (start : inv s) :
    wp C (xs.forM body) (fun _ s' _ => inv s' ∧ Rounds step xs (view s) (view s')) s w := by
  induction xs generalizing s w with
  | nil => exact ⟨start, .nil⟩
  | cons x xs ih =>
      change wp C (body x >>= fun _ => xs.forM body) _ s w
      refine wp_seq (round x List.mem_cons_self s w start) fun _ s' w' first => ?_
      refine wp_mono ?_ (ih (fun y mem => round y (List.mem_cons_of_mem x mem)) first.1)
      exact fun _ s'' w'' ended => ⟨ended.1, .cons first.2 ended.2⟩

/-- A contract that allows fewer answers and asks for less is kept by the same programs. -/
theorem wp_weaken {C D : Contract S W Q R} {p : Prog S Q R α} {post : α → S → W → Prop} {s : S}
    {w : W} (pre : wp C p post s w) (env : ∀ {s w q r w'}, D.env s w q r w' → C.env s w q r w')
    (ok : ∀ {s w q}, C.ok s w q → D.ok s w q)
    (guar : ∀ {w s s'}, C.guar w s s' → D.guar w s s') : wp D p post s w := by
  induction p generalizing s w with
  | done a => exact pre
  | atomic upd next ih => exact ⟨guar pre.1, ih _ pre.2⟩
  | call q next ih => exact ⟨ok pre.1, fun r w' answered => ih r (pre.2 r w' (env answered))⟩

/-- Contracts over different worlds: what holds against every answer holds against some. -/
theorem wp_world {V : Type} {C : Contract S V Q R} {D : Contract S W Q R} {p : Prog S Q R α}
    {post : α → S → Prop} {s : S} {v : V} {w : W}
    (env : ∀ {s w q r w'} (v : V), D.env s w q r w' → ∃ v', C.env s v q r v')
    (ok : ∀ {s w q}, D.ok s w q) (guar : ∀ {v w s s'}, C.guar v s s' → D.guar w s s')
    (pre : wp C p (fun a s _ => post a s) s v) : wp D p (fun a s _ => post a s) s w := by
  induction p generalizing s v w with
  | done a => exact pre
  | atomic upd next ih => exact ⟨guar pre.1, ih _ pre.2⟩
  | call q next ih =>
      refine ⟨ok, fun r w' answered => ?_⟩
      obtain ⟨v', answered'⟩ := env v answered
      exact ih r (pre.2 r v' answered')

/-! ## What a weakest precondition says about runs -/

section Adequacy

variable {C : Contract S W Q R} {post : α → S → W → Prop}

theorem wp_step {c c' : Conf S W Q R α} (pre : wp C c.prog post c.s c.w) (step : Step C.env c c') :
    wp C c'.prog post c'.s c'.w := by
  cases step with
  | atomic => exact pre.2
  | call answered => exact pre.2 _ _ answered

theorem wp_reach {c c' : Conf S W Q R α} (pre : wp C c.prog post c.s c.w)
    (run : Reach C.env c c') : wp C c'.prog post c'.s c'.w := by
  induction run with
  | refl => exact pre
  | tail _ step ih => exact wp_step ih step

theorem wp_returns {p : Prog S Q R α} {s s' : S} {w w' : W} {a : α} (pre : wp C p post s w)
    (run : Returns C.env p s w a s' w') : post a s' w' :=
  wp_reach (c := ⟨p, s, w⟩) pre run

/-- When every request can be answered, what every run ends with is what some run ends with. -/
theorem wp_exists {p : Prog S Q R α} {s : S} {w : W}
    (answerable : ∀ s w q, ∃ r w', C.env s w q r w') (pre : wp C p post s w) :
    ∃ a s' w', post a s' w' := by
  induction p generalizing s w with
  | done a => exact ⟨a, s, w, pre⟩
  | atomic upd next ih => exact ih s pre.2
  | call q next ih =>
      obtain ⟨r, w', answered⟩ := answerable s w q
      exact ih r (pre.2 r w' answered)

/-- Some run gets through the first part, and the rest is as it should be from there. -/
theorem wp_exists_bind {p : Prog S Q R α} {f : α → Prog S Q R β} {post : β → S → W → Prop}
    {mid : α → S → W → Prop} {s : S} {w : W} (answerable : ∀ s w q, ∃ r w', C.env s w q r w')
    (first : wp C p mid s w) (pre : wp C (p >>= f) post s w) :
    ∃ a s' w', mid a s' w' ∧ wp C (f a) post s' w' :=
  wp_exists answerable (wp_and first (wp_bind.mp pre))

/-- A postcondition that comes to the same at the end of every run. -/
theorem wp_iff {p : Prog S Q R α} {s : S} {w : W} {cond : Prop}
    (answerable : ∀ s w q, ∃ r w', C.env s w q r w')
    (ends : wp C p (fun a s' w' => post a s' w' ↔ cond) s w) : wp C p post s w ↔ cond := by
  refine ⟨fun pre => ?_, fun held => wp_mono (fun _ _ _ same => same.mpr held) ends⟩
  obtain ⟨a, s', w', ended, same⟩ := wp_exists answerable (wp_and pre ends)
  exact same.mp ended

theorem wp_issued {p : Prog S Q R α} {s s' : S} {w w' : W} {q : Q} {next : R q → Prog S Q R α}
    (pre : wp C p post s w) (run : Reach C.env ⟨p, s, w⟩ ⟨.call q next, s', w'⟩) : C.ok s' w' q :=
  (wp_reach (c := ⟨p, s, w⟩) pre run).1

/-- A condition on requests holds of every request that is issued just when it is a weakest
precondition. -/
theorem wp_iff_issued {env : Env S W Q R} {ok : S → W → Q → Prop} {p : Prog S Q R α} {s : S}
    {w : W} : wp ⟨env, ok, fun _ _ _ => True⟩ p (fun _ _ _ => True) s w ↔
      ∀ s' w' q next, Reach env ⟨p, s, w⟩ ⟨.call q next, s', w'⟩ → ok s' w' q := by
  refine ⟨fun pre s' w' q next path => wp_issued pre path, fun all => ?_⟩
  induction p generalizing s w with
  | done a => trivial
  | atomic upd next ih =>
      exact ⟨trivial, ih s fun s' w' q next' path => all s' w' q next' (.head .atomic path)⟩
  | call q next ih =>
      refine ⟨all s w q next .refl, fun r w' answered => ih r fun s'' w'' q' next' path => ?_⟩
      exact all s'' w'' q' next' (.head (.call answered) path)

/-- What every section preserves holds in every state a run passes through. -/
theorem wp_always (inv : S → W → Prop) {c c' : Conf S W Q R α} (pre : wp C c.prog post c.s c.w)
    (run : Reach C.env c c') (start : inv c.s c.w)
    (guar : ∀ {w s s'}, inv s w → C.guar w s s' → inv s' w)
    (answer : ∀ {s w q r w'}, inv s w → C.env s w q r w' → inv s w') : inv c'.s c'.w := by
  induction run with
  | refl => exact start
  | tail path step ih =>
      have owed := wp_reach pre path
      cases step with
      | atomic => exact guar ih owed.1
      | call answered => exact answer ih answered

/-- A condition on the world that every request and every return meets holds at every point of a
run, so also where the process is killed. -/
theorem wp_crash (crash : W → Prop) {p : Prog S Q R α} {s : S} {w : W} (pre : wp C p post s w)
    (ok : ∀ {s w q}, C.ok s w q → crash w) (done : ∀ {a s w}, post a s w → crash w) : crash w := by
  induction p generalizing s with
  | done a => exact done pre
  | atomic upd next ih => exact ih s pre.2
  | call q next ih => exact ok pre.1

end Adequacy

/-! ## Handled runs -/

section Exec

variable {handle : W → (q : Q) → R q × W} {s : S} {w : W}

@[simp] theorem Prog.exec_pure {a : α} :
    (pure a : Prog S Q R α).exec handle s w = (a, s, w) := rfl

@[simp] theorem Prog.exec_bind {p : Prog S Q R α} {f : α → Prog S Q R β} :
    (p >>= f).exec handle s w =
      (f (p.exec handle s w).1).exec handle (p.exec handle s w).2.1 (p.exec handle s w).2.2 := by
  change (p.bind f).exec handle s w = _
  induction p generalizing s w with
  | done a => rfl
  | atomic upd next ih => exact ih s
  | call q next ih => exact ih _

@[simp] theorem Prog.exec_read {f : S → α} :
    (Prog.read f : Prog S Q R α).exec handle s w = (f s, s, w) := rfl

@[simp] theorem Prog.exec_modify {f : S → S} :
    (Prog.modify f : Prog S Q R Unit).exec handle s w = ((), f s, w) := rfl

@[simp] theorem Prog.exec_request {q : Q} :
    (Prog.request q : Prog S Q R (R q)).exec handle s w = ((handle w q).1, s, (handle w q).2) := rfl

/-- The first part of an operation, with a handler for its requests. -/
theorem wp_exec_bind {C : Contract S W Q R} {p : Prog S Q R α} {f : α → Prog S Q R β}
    {post : β → S → W → Prop}
    (obeys : ∀ s w q, C.env s w q (handle w q).1 (handle w q).2) (pre : wp C (p >>= f) post s w) :
    wp C (f (p.exec handle s w).1) post (p.exec handle s w).2.1 (p.exec handle s w).2.2 := by
  have first : wp C p (fun a => wp C (f a) post) s w := wp_bind.mp pre
  have ended := wp_returns first (Prog.exec_returns obeys p s w)
  exact ended

/-- A handler that leaves the world as it is. -/
theorem Prog.exec_world (answer : (q : Q) → R q) (p : Prog S Q R α) (s : S) (w : W) :
    (p.exec (fun w q => (answer q, w)) s w).2.2 = w := by
  induction p generalizing s with
  | done a => rfl
  | atomic upd next ih => exact ih s (upd s)
  | call q next ih => exact ih (answer q) s

/-- Run with a handler up to the first request that `stop` is for. -/
def Prog.runTo (handle : W → (q : Q) → R q × W) (stop : Q → Bool) :
    Prog S Q R α → S → W → Conf S W Q R α
  | .done a, s, w => ⟨.done a, s, w⟩
  | .atomic upd next, s, w => (next s).runTo handle stop (upd s) w
  | .call q next, s, w =>
      if stop q then ⟨.call q next, s, w⟩
      else (next (handle w q).1).runTo handle stop s (handle w q).2

/-- The next thing that happens is a request `stop` is for. -/
def Conf.stopsAt (stop : Q → Bool) (c : Conf S W Q R α) : Bool :=
  match c.prog with
  | .call q _ => stop q
  | _ => false

theorem Prog.runTo_reach {env : Env S W Q R}
    (obeys : ∀ s w q, env s w q (handle w q).1 (handle w q).2) (stop : Q → Bool)
    (p : Prog S Q R α) (s : S) (w : W) : Reach env ⟨p, s, w⟩ (p.runTo handle stop s w) := by
  induction p generalizing s w with
  | done a => exact .refl
  | atomic upd next ih => exact .head .atomic (ih s (upd s) w)
  | call q next ih =>
      rw [Prog.runTo]
      split
      · exact .refl
      · exact .head (.call (obeys s w q)) (ih (handle w q).1 s (handle w q).2)

/-- A handled run that stops shows the request. -/
theorem Prog.runTo_issues (env : Env S W Q R)
    (obeys : ∀ s w q, env s w q (handle w q).1 (handle w q).2) {stop : Q → Bool}
    {p : Prog S Q R α} {s : S} {w : W} (stops : (p.runTo handle stop s w).stopsAt stop = true) :
    ∃ q next s' w', Reach env ⟨p, s, w⟩ ⟨.call q next, s', w'⟩ ∧ stop q = true := by
  have reach := p.runTo_reach obeys stop s w
  generalize p.runTo handle stop s w = c at stops reach
  obtain ⟨rest, s', w'⟩ := c
  cases rest with
  | done a => cases stops
  | atomic upd next => cases stops
  | call q next => exact ⟨q, next, s', w', reach, stops⟩

end Exec

/-! ## Operations one after another -/

/-- A finite sequential run: each operation starts where the last one returned. -/
inductive Runs {O : Type} (prog : O → Prog S Q R α) (env : O → Env S W Q R) :
    S → W → List O → S → W → Prop
  | start {s : S} {w : W} : Runs prog env s w [] s w
  | next {s₀ s s' : S} {w₀ w w' : W} {ops : List O} {op : O} {a : α} :
    Runs prog env s₀ w₀ ops s w → Returns (env op) (prog op) s w a s' w' →
    Runs prog env s₀ w₀ (ops ++ [op]) s' w'

theorem Runs.invariant {O : Type} {prog : O → Prog S Q R α} {C : O → Contract S W Q R}
    (inv : S → W → Prop) {s₀ s : S} {w₀ w : W} {ops : List O}
    (kept : ∀ op s w, inv s w → wp (C op) (prog op) (fun _ => inv) s w)
    (start : inv s₀ w₀) (run : Runs prog (fun op => (C op).env) s₀ w₀ ops s w) : inv s w := by
  induction run with
  | start => exact start
  | next _ returned ih => exact wp_returns (kept _ _ _ (ih start)) returned

theorem Runs.last {O : Type} {prog : O → Prog S Q R α} {env : O → Env S W Q R} {s₀ s : S} {w₀ w : W}
    {ops : List O} {op : O} (run : Runs prog env s₀ w₀ (ops ++ [op]) s w) :
    ∃ s₁ w₁ a, Runs prog env s₀ w₀ ops s₁ w₁ ∧ Returns (env op) (prog op) s₁ w₁ a s w := by
  generalize whole : ops ++ [op] = all at run
  cases run with
  | start => exact absurd whole (by simp)
  | next before returned =>
      obtain ⟨rfl, last⟩ := List.append_inj' whole rfl
      cases last
      exact ⟨_, _, _, before, returned⟩

/-- A run in which each operation is started only where `may` allows it. -/
inductive GuardedRuns {O : Type} (prog : O → Prog S Q R α) (env : O → Env S W Q R)
    (may : O → S → W → Prop) : S → W → List O → S → W → Prop
  | start {s : S} {w : W} : GuardedRuns prog env may s w [] s w
  | next {s₀ s s' : S} {w₀ w w' : W} {ops : List O} {op : O} {a : α} :
    GuardedRuns prog env may s₀ w₀ ops s w → may op s w →
    Returns (env op) (prog op) s w a s' w' → GuardedRuns prog env may s₀ w₀ (ops ++ [op]) s' w'

theorem GuardedRuns.invariant {O : Type} {prog : O → Prog S Q R α} {C : O → Contract S W Q R}
    {may : O → S → W → Prop} (inv : S → W → Prop) {s₀ s : S} {w₀ w : W} {ops : List O}
    (kept : ∀ op s w, inv s w → may op s w → wp (C op) (prog op) (fun _ => inv) s w)
    (start : inv s₀ w₀) (run : GuardedRuns prog (fun op => (C op).env) may s₀ w₀ ops s w) :
    inv s w := by
  induction run with
  | start => exact start
  | next _ may returned ih => exact wp_returns (kept _ _ _ (ih start) may) returned

/-- Operations one after another, with a handler for the requests. -/
def execAll {O : Type} (prog : O → Prog S Q R α) (handle : W → (q : Q) → R q × W) (ops : List O)
    (c : S × W) : S × W :=
  ops.foldl (fun c op => ((prog op).exec handle c.1 c.2).2) c

theorem execAll_concat {O : Type} (prog : O → Prog S Q R α) (handle : W → (q : Q) → R q × W)
    (ops : List O) (op : O) (c : S × W) :
    execAll prog handle (ops ++ [op]) c =
      ((prog op).exec handle (execAll prog handle ops c).1 (execAll prog handle ops c).2).2 := by
  rw [execAll, List.foldl_append]
  rfl

theorem GuardedRuns.execAll {O : Type} {prog : O → Prog S Q R α} {env : O → Env S W Q R}
    {may : O → S → W → Prop} {handle : W → (q : Q) → R q × W} {ops : List O}
    (obeys : ∀ op ∈ ops, ∀ s w q, env op s w q (handle w q).1 (handle w q).2)
    (allowed : ∀ op ∈ ops, ∀ s w, may op s w) (s : S) (w : W) :
    GuardedRuns prog env may s w ops (Interact.execAll prog handle ops (s, w)).1
      (Interact.execAll prog handle ops (s, w)).2 := by
  induction ops using List.reverseRecOn with
  | nil => exact .start
  | append_singleton ops op ih =>
      have last : op ∈ ops ++ [op] := List.mem_append_right ops List.mem_cons_self
      rw [execAll_concat]
      refine .next (ih ?_ ?_) (allowed op last _ _)
        (Prog.exec_returns (obeys op last) (prog op) _ _)
      · exact fun op mem => obeys op (List.mem_append_left _ mem)
      · exact fun op mem => allowed op (List.mem_append_left _ mem)

/-- One more operation, with a handler for its requests. -/
theorem GuardedRuns.exec {O : Type} {prog : O → Prog S Q R α} {env : O → Env S W Q R}
    {may : O → S → W → Prop} {s₀ s : S} {w₀ w : W} {ops : List O} {op : O}
    (run : GuardedRuns prog env may s₀ w₀ ops s w) (allowed : may op s w)
    {handle : W → (q : Q) → R q × W} (obeys : ∀ s w q, env op s w q (handle w q).1 (handle w q).2) :
    GuardedRuns prog env may s₀ w₀ (ops ++ [op]) ((prog op).exec handle s w).2.1
      ((prog op).exec handle s w).2.2 :=
  .next run allowed (Prog.exec_returns obeys (prog op) s w)

theorem GuardedRuns.runs {O : Type} {prog : O → Prog S Q R α} {env : O → Env S W Q R}
    {may : O → S → W → Prop} {s₀ s : S} {w₀ w : W} {ops : List O}
    (run : GuardedRuns prog env may s₀ w₀ ops s w) : Runs prog env s₀ w₀ ops s w := by
  induction run with
  | start => exact .start
  | next _ _ returned ih => exact .next ih returned

theorem Runs.execAll {O : Type} {prog : O → Prog S Q R α} {env : O → Env S W Q R}
    {handle : W → (q : Q) → R q × W}
    (obeys : ∀ op s w q, env op s w q (handle w q).1 (handle w q).2) (ops : List O) (s : S) (w : W) :
    Runs prog env s w ops (Interact.execAll prog handle ops (s, w)).1
      (Interact.execAll prog handle ops (s, w)).2 :=
  (GuardedRuns.execAll (fun op _ => obeys op) (fun _ _ _ _ => (trivial : True)) s w).runs

/-- A run with its history: each operation that returned leaves its notes, the newest first. -/
inductive NotedRuns {O N : Type} (prog : O → Prog S Q R α) (env : O → Env S W Q R)
    (note : O → α → List N) (may : O → S → List N → Prop) (s₀ : S) (w₀ : W) :
    S → W → List N → Prop
  | start : NotedRuns prog env note may s₀ w₀ s₀ w₀ []
  | next {s s' : S} {w w' : W} {notes : List N} {op : O} {a : α} :
    NotedRuns prog env note may s₀ w₀ s w notes → may op s notes →
    Returns (env op) (prog op) s w a s' w' →
    NotedRuns prog env note may s₀ w₀ s' w' (note op a ++ notes)

theorem NotedRuns.invariant {O N : Type} {prog : O → Prog S Q R α} {C : O → Contract S W Q R}
    {note : O → α → List N} {may : O → S → List N → Prop} (inv : S → List N → Prop) {s₀ s : S}
    {w₀ w : W} {notes : List N}
    (kept : ∀ op s w notes, inv s notes → may op s notes →
      wp (C op) (prog op) (fun a s' _ => inv s' (note op a ++ notes)) s w)
    (start : inv s₀ []) (run : NotedRuns prog (fun op => (C op).env) note may s₀ w₀ s w notes) :
    inv s notes := by
  induction run with
  | start => exact start
  | next _ may returned ih => exact wp_returns (kept _ _ _ _ ih may) returned

/-- One more operation, with a handler for its requests. -/
theorem NotedRuns.exec {O N : Type} {prog : O → Prog S Q R α} {env : O → Env S W Q R}
    {note : O → α → List N} {may : O → S → List N → Prop} {s₀ s : S} {w₀ w : W} {notes : List N}
    (run : NotedRuns prog env note may s₀ w₀ s w notes) {op : O} (allowed : may op s notes)
    {handle : W → (q : Q) → R q × W} (obeys : ∀ s w q, env op s w q (handle w q).1 (handle w q).2) :
    NotedRuns prog env note may s₀ w₀ ((prog op).exec handle s w).2.1
      ((prog op).exec handle s w).2.2 (note op ((prog op).exec handle s w).1 ++ notes) :=
  .next run allowed (Prog.exec_returns obeys (prog op) s w)

/-- A run in which the process may also be killed at any point of an operation and started again:
memory is lost, the world stays as it is. -/
inductive CrashRuns {O : Type} (prog : O → Prog S Q R α) (env : Env S W Q R) (boot : S) (w₀ : W) :
    S → W → Prop
  | start : CrashRuns prog env boot w₀ boot w₀
  | next {s s' : S} {w w' : W} {op : O} {a : α} :
    CrashRuns prog env boot w₀ s w → Returns env (prog op) s w a s' w' →
    CrashRuns prog env boot w₀ s' w'
  | killed {s : S} {w : W} {op : O} {c : Conf S W Q R α} :
    CrashRuns prog env boot w₀ s w → Reach env ⟨prog op, s, w⟩ c →
    CrashRuns prog env boot w₀ boot c.w

theorem CrashRuns.invariant {O : Type} {prog : O → Prog S Q R α} {C : Contract S W Q R}
    {boot s : S} {w₀ w : W} (inv : S → W → Prop)
    (kept : ∀ op s w, inv s w → wp C (prog op) (fun _ => inv) s w)
    (recover : ∀ {s w q}, C.ok s w q → inv boot w) (restart : ∀ {s w}, inv s w → inv boot w)
    (start : inv boot w₀) (run : CrashRuns prog C.env boot w₀ s w) : inv s w := by
  induction run with
  | start => exact start
  | next _ returned ih => exact wp_returns (kept _ _ _ ih) returned
  | killed _ path ih =>
      exact wp_crash (inv boot) (wp_reach (kept _ _ _ ih) path) recover restart

end Interact
