import DiskManager.Interact.Pool

/-!
# Fresh runs

Interleavings in which no operation writes over something it has not seen.

* `FreshRun`: every section of a watching operation that writes the watched part finds it as the
  operation last saw it.
* `Protocol`, `Follows`: an operation moves through phases, whatever the others do between its
  sections. `FreshRun.invariant`: what the moves of one operation keep holds in every fresh run.
-/

namespace Interact

variable {S Q W V O ι Φ : Type} {R : Q → Type} {α β : Type}

/-! ## Watching -/

section

variable [DecidableEq ι]

/-- Whether an operation watches, and what it has seen. -/
inductive Watch (V : Type) : Type
  | careless
  | unseen
  | saw (x : V)

/-- A section that writes finds what its operation has seen, if it has seen anything. -/
def Fresh (look : S → V) (upd : S → S) (watch : Watch V) (s : S) : Prop :=
  ∀ x, watch = .saw x → Writes look upd → look s = x

open Classical in
/-- What an operation has seen after a section: its first section looks, and so does every section
that writes. -/
noncomputable def Watch.noticed (look : S → V) (upd : S → S) (s : S) : Watch V → Watch V
  | .careless => .careless
  | .unseen => .saw (look (upd s))
  | .saw x => if Writes look upd then .saw (look (upd s)) else .saw x

theorem Watch.noticed_writes {look : S → V} {upd : S → S} {s : S} {x : V}
    (writes : Writes look upd) :
    Watch.noticed look upd s (.saw x) = .saw (look (upd s)) := if_pos writes

theorem Watch.noticed_other {look : S → V} {upd : S → S} {s : S} {x : V}
    (other : ¬ Writes look upd) : Watch.noticed look upd s (.saw x) = .saw x := if_neg other

/-- A run in which no operation that watches writes over something it has not seen. `newcomer` says
whether the operations that come in watch. -/
inductive FreshRun (look : S → V) (newcomer : Watch V) (seats : ι → Prop)
    (prog : O → Prog S Q R α) (env : Env S W Q R) (c₀ : Sys ι S W Q R α) (watch₀ : ι → Watch V) :
    Sys ι S W Q R α → (ι → Watch V) → List (Entry ι S) → Prop
  | start : FreshRun look newcomer seats prog env c₀ watch₀ c₀ watch₀ []
  | enter {c : Sys ι S W Q R α} {watch : ι → Watch V} {log : List (Entry ι S)} {i : ι} (op : O) :
    FreshRun look newcomer seats prog env c₀ watch₀ c watch log → seats i → c.pool i = none →
    FreshRun look newcomer seats prog env c₀ watch₀ (c.put i (some (prog op)))
      (Function.update watch i newcomer) log
  | atomic {c : Sys ι S W Q R α} {watch : ι → Watch V} {log : List (Entry ι S)} {i : ι}
      {upd : S → S} {next : S → Prog S Q R α} :
    FreshRun look newcomer seats prog env c₀ watch₀ c watch log →
    c.pool i = some (.atomic upd next) → Fresh look upd (watch i) c.s →
    FreshRun look newcomer seats prog env c₀ watch₀
      { c.put i (some (next c.s)) with s := upd c.s }
      (Function.update watch i ((watch i).noticed look upd c.s)) (⟨i, upd, c.s⟩ :: log)
  | call {c : Sys ι S W Q R α} {watch : ι → Watch V} {log : List (Entry ι S)} {i : ι} {q : Q}
      {next : R q → Prog S Q R α} {r : R q} {w' : W} :
    FreshRun look newcomer seats prog env c₀ watch₀ c watch log →
    c.pool i = some (.call q next) → env c.s c.w q r w' →
    FreshRun look newcomer seats prog env c₀ watch₀ { c.put i (some (next r)) with w := w' } watch
      log
  | leave {c : Sys ι S W Q R α} {watch : ι → Watch V} {log : List (Entry ι S)} {i : ι} {a : α} :
    FreshRun look newcomer seats prog env c₀ watch₀ c watch log → c.pool i = some (.done a) →
    FreshRun look newcomer seats prog env c₀ watch₀ (c.put i none) watch log

/-- A fresh run is a run. -/
theorem FreshRun.run {look : S → V} {newcomer : Watch V} {seats : ι → Prop}
    {prog : O → Prog S Q R α} {env : Env S W Q R} {c₀ c : Sys ι S W Q R α}
    {watch₀ watch : ι → Watch V} {log : List (Entry ι S)}
    (run : FreshRun look newcomer seats prog env c₀ watch₀ c watch log) :
    PoolRun seats prog env c₀ c log := by
  induction run with
  | start => exact .start
  | enter op _ seat free ih => exact .enter op ih seat free
  | atomic _ here _ ih => exact .atomic ih here
  | call _ here answered ih => exact .call ih here answered
  | leave _ here ih => exact .leave ih here

end

/-! ## Protocols -/

/-- How one operation may move: what it may rely on in memory and keeps, and the phase it is in
after a section or an answer. -/
structure Protocol (S W Q : Type) (R : Q → Type) (V Φ : Type) : Type where
  look : S → V
  env : Env S W Q R
  inv : S → Prop
  sect : Φ → (S → S) → S → Φ → Prop
  answer : Φ → W → (q : Q) → R q → W → Φ → Prop

/-- `Follows P p φ watch post`: in phase `φ`, having seen `watch`, operation `p` keeps to the
protocol in any memory its sections find, and returns with `post`. -/
def Follows (P : Protocol S W Q R V Φ) :
    Prog S Q R α → Φ → Watch V → (α → Φ → Watch V → Prop) → Prop
  | .done a, φ, watch, post => post a φ watch
  | .atomic upd next, φ, watch, post => ∀ s, P.inv s → Fresh P.look upd watch s →
      P.inv (upd s) ∧ ∃ φ', P.sect φ upd s φ' ∧
        Follows P (next s) φ' (watch.noticed P.look upd s) post
  | .call q next, φ, watch, post => ∀ s w r w', P.inv s → P.env s w q r w' →
      ∃ φ', P.answer φ w q r w' φ' ∧ Follows P (next r) φ' watch post

section Rules

variable {P : Protocol S W Q R V Φ} {φ : Φ} {watch : Watch V} {post : α → Φ → Watch V → Prop}

@[simp] theorem follows_pure {a : α} : Follows P (pure a) φ watch post ↔ post a φ watch := Iff.rfl

@[simp] theorem follows_bind {p : Prog S Q R α} {f : α → Prog S Q R β}
    {post : β → Φ → Watch V → Prop} :
    Follows P (p >>= f) φ watch post ↔
      Follows P p φ watch fun a φ watch => Follows P (f a) φ watch post := by
  change Follows P (p.bind f) φ watch post ↔ _
  induction p generalizing φ watch with
  | done a => exact Iff.rfl
  | atomic upd next ih => simp only [Prog.bind, Follows, ih]
  | call q next ih => simp only [Prog.bind, Follows, ih]

theorem follows_mono {p : Prog S Q R α} {post' : α → Φ → Watch V → Prop}
    (imp : ∀ a φ watch, post a φ watch → post' a φ watch) (pre : Follows P p φ watch post) :
    Follows P p φ watch post' := by
  induction p generalizing φ watch with
  | done a => exact imp a φ watch pre
  | atomic upd next ih =>
      intro s held fresh
      obtain ⟨held', φ', moved, rest⟩ := pre s held fresh
      exact ⟨held', φ', moved, ih s rest⟩
  | call q next ih =>
      intro s w r w' held answered
      obtain ⟨φ', moved, rest⟩ := pre s w r w' held answered
      exact ⟨φ', moved, ih r rest⟩

/-- Sequencing through a lemma about the first part. -/
theorem follows_seq {p : Prog S Q R α} {f : α → Prog S Q R β} {mid : α → Φ → Watch V → Prop}
    {post : β → Φ → Watch V → Prop} (first : Follows P p φ watch mid)
    (rest : ∀ a φ watch, mid a φ watch → Follows P (f a) φ watch post) :
    Follows P (p >>= f) φ watch post :=
  follows_bind.mpr (follows_mono rest first)

end Rules

section

variable [DecidableEq ι]

/-- What the phases say of the operations in the pool: what is left of an operation follows the
protocol and ends in a phase with `ended`, and so is every free slot. -/
def Sys.Follows (P : Protocol S W Q R V Φ) (ended : Φ → Prop) (c : Sys ι S W Q R α) (φ : ι → Φ)
    (watch : ι → Watch V) : Prop :=
  ∀ i, (c.pool i = none → ended (φ i)) ∧
    ∀ p, c.pool i = some p → Interact.Follows P p (φ i) (watch i) fun _ φ _ => ended φ

theorem Sys.Follows.put {P : Protocol S W Q R V Φ} {ended : Φ → Prop} {c : Sys ι S W Q R α}
    {φ : ι → Φ} {watch : ι → Watch V} (all : c.Follows P ended φ watch) (c' : Sys ι S W Q R α)
    (i : ι) (φ' : Φ) (watch' : Watch V) {slot : Option (Prog S Q R α)}
    (pool : c'.pool = Function.update c.pool i slot) (free : slot = none → ended φ')
    (here : ∀ p, slot = some p → Interact.Follows P p φ' watch' fun _ φ _ => ended φ) :
    c'.Follows P ended (Function.update φ i φ') (Function.update watch i watch') := by
  intro j
  rw [pool]
  by_cases same : j = i
  · subst same
    simp only [Function.update_self]
    exact ⟨free, here⟩
  · simp only [Function.update_of_ne same]
    exact all j

/-- What every move of every operation keeps holds in every fresh run. `keeps` speaks of the
phases of all operations, of the shared memory and world and of the log. -/
theorem FreshRun.invariant {P : Protocol S W Q R V Φ} {ended : Φ → Prop} {first : Φ}
    {newcomer : Watch V} {seats : ι → Prop} {prog : O → Prog S Q R α} {c₀ c : Sys ι S W Q R α}
    {watch₀ watch : ι → Watch V} {log : List (Entry ι S)} {φ₀ : ι → Φ}
    (keeps : (ι → Φ) → S → W → List (Entry ι S) → Prop)
    (follows : ∀ op, Interact.Follows P (prog op) first newcomer fun _ φ _ => ended φ)
    (enter : ∀ {φ s w log i}, seats i → ended (φ i) → keeps φ s w log →
      keeps (Function.update φ i first) s w log)
    (sect : ∀ {φ upd s w log i φ'}, P.inv s → keeps φ s w log → P.sect (φ i) upd s φ' →
      keeps (Function.update φ i φ') (upd s) w (⟨i, upd, s⟩ :: log))
    (answer : ∀ {φ s w q r w' log i φ'}, P.inv s → keeps φ s w log → P.env s w q r w' →
      P.answer (φ i) w q r w' φ' → keeps (Function.update φ i φ') s w' log)
    (pool : c₀.Follows P ended φ₀ watch₀) (inv : P.inv c₀.s) (start : keeps φ₀ c₀.s c₀.w [])
    (run : FreshRun P.look newcomer seats prog P.env c₀ watch₀ c watch log) :
    ∃ φ, P.inv c.s ∧ keeps φ c.s c.w log ∧ c.Follows P ended φ watch := by
  induction run with
  | start => exact ⟨φ₀, inv, start, pool⟩
  | @enter c watch log i op _ seat free ih =>
      obtain ⟨φ, held, kept, all⟩ := ih
      refine ⟨Function.update φ i first, held, enter seat ((all i).1 free) kept, ?_⟩
      exact all.put (c.put i (some (prog op))) i first newcomer rfl (fun none => by cases none)
        fun p same => by
          cases same
          exact follows op
  | @atomic c watch log i upd next _ here fresh ih =>
      obtain ⟨φ, held, kept, all⟩ := ih
      obtain ⟨held', φ', moved, follow⟩ := (all i).2 _ here c.s held fresh
      refine ⟨Function.update φ i φ', held', sect held kept moved, ?_⟩
      exact all.put { c.put i (some (next c.s)) with s := upd c.s } i φ' _ rfl
        (fun none => by cases none) fun p same => by
          cases same
          exact follow
  | @call c watch log i q next r w' _ here answered ih =>
      obtain ⟨φ, held, kept, all⟩ := ih
      obtain ⟨φ', moved, follow⟩ := (all i).2 _ here c.s c.w r w' held answered
      refine ⟨Function.update φ i φ', held, answer held kept answered moved, ?_⟩
      have put := all.put { c.put i (some (next r)) with w := w' } i φ' (watch i) rfl
        (fun none => by cases none) fun p same => by
          cases same
          exact follow
      rwa [Function.update_eq_self] at put
  | @leave c watch log i a _ here ih =>
      obtain ⟨φ, held, kept, all⟩ := ih
      have done : ended (φ i) := (all i).2 _ here
      refine ⟨φ, held, kept, ?_⟩
      have put := all.put (c.put i none) i (φ i) (watch i) rfl (fun _ => done)
        fun p same => by cases same
      rwa [Function.update_eq_self, Function.update_eq_self] at put

/-- An operation that runs with nobody between its sections is fresh. -/
theorem FreshRun.exec {look : S → V} {newcomer : Watch V} {seats : ι → Prop}
    {prog : O → Prog S Q R α} {env : Env S W Q R} {handle : W → (q : Q) → R q × W}
    (obeys : ∀ s w q, env s w q (handle w q).1 (handle w q).2) {c₀ c : Sys ι S W Q R α}
    {watch₀ watch : ι → Watch V} {log : List (Entry ι S)} {i : ι} {p : Prog S Q R α}
    (run : FreshRun look newcomer seats prog env c₀ watch₀ c watch log)
    (here : c.pool i = some p) (current : ∀ x, watch i = .saw x → look c.s = x) :
    ∃ watch' log', FreshRun look newcomer seats prog env c₀ watch₀
      { c.put i none with s := (p.exec handle c.s c.w).2.1, w := (p.exec handle c.s c.w).2.2 }
      watch' log' := by
  induction p generalizing c watch log with
  | done a => exact ⟨watch, log, run.leave here⟩
  | atomic upd next ih =>
      have run' := run.atomic here fun x saw _ => current x saw
      have ended := ih c.s run' (Function.update_self _ _ _) ?_
      · simpa only [Sys.put, Function.update_idem, Prog.exec] using ended
      · -- What the section did not write is still what was seen before.
        intro x saw
        rw [Function.update_self] at saw
        change look (upd c.s) = x
        cases before : watch i with
        | careless =>
            rw [before] at saw
            cases saw
        | unseen =>
            rw [before] at saw
            cases saw
            rfl
        | saw y =>
            rw [before] at saw
            by_cases writes : Writes look upd
            · rw [Watch.noticed_writes writes] at saw
              cases saw
              rfl
            · rw [Watch.noticed_other writes] at saw
              cases saw
              exact (look_of_not_writes writes _).trans (current x before)
  | call q next ih =>
      have run' := run.call here (obeys c.s c.w q)
      have ended := ih (handle c.w q).1 run' (Function.update_self _ _ _) current
      simpa only [Sys.put, Function.update_idem, Prog.exec] using ended

end

end Interact
