import DiskManager.Interact.Tasks

/-!
# Operations made of operations

A large operation is made of sections, of requests of one kind, and of a few other operations, its
parts. What each part keeps, the whole keeps.
-/

namespace Interact

variable {S Q W : Type} {R : Q → Type} {α β γ : Type}

/-- `p` is made of sections, requests of `P` and the operations of `Part`. -/
inductive Built (P : Q → Prop) (Part : {β : Type} → Prog S Q R β → Prop) :
    {α : Type} → Prog S Q R α → Prop
  | done {α : Type} (a : α) : Built P Part (.done a)
  | atomic {α : Type} {upd : S → S} {next : S → Prog S Q R α} :
    (∀ s, Built P Part (next s)) → Built P Part (.atomic upd next)
  | call {α : Type} {q : Q} {next : R q → Prog S Q R α} :
    P q → (∀ r, Built P Part (next r)) → Built P Part (.call q next)
  | part {α β : Type} {p : Prog S Q R β} {f : β → Prog S Q R α} :
    Part p → (∀ a, Built P Part (f a)) → Built P Part (p.bind f)

section Rules

variable {P : Q → Prop} {Part : {β : Type} → Prog S Q R β → Prop}

theorem Prog.bind_bind (p : Prog S Q R α) (f : α → Prog S Q R β) (g : β → Prog S Q R γ) :
    (p.bind f).bind g = p.bind fun a => (f a).bind g := by
  induction p with
  | done a => rfl
  | atomic upd next ih =>
      simp only [Prog.bind, Prog.atomic.injEq, true_and]
      exact funext ih
  | call q next ih =>
      simp only [Prog.bind, Prog.call.injEq, heq_eq_eq, true_and]
      exact funext ih

theorem Prog.bind_done (p : Prog S Q R α) : p.bind .done = p := by
  induction p with
  | done a => rfl
  | atomic upd next ih =>
      simp only [Prog.bind, Prog.atomic.injEq, true_and]
      exact funext ih
  | call q next ih =>
      simp only [Prog.bind, Prog.call.injEq, heq_eq_eq, true_and]
      exact funext ih

theorem built_pure {a : α} : Built P Part (pure a : Prog S Q R α) := .done a

theorem built_bind {p : Prog S Q R α} {f : α → Prog S Q R β} (first : Built P Part p)
    (rest : ∀ a, Built P Part (f a)) : Built P Part (p >>= f) := by
  change Built P Part (p.bind f)
  induction first with
  | done a => exact rest a
  | atomic _ ih => exact .atomic fun s => ih s
  | call asked _ ih => exact .call asked fun r => ih r
  | part known _ ih =>
      rw [Prog.bind_bind]
      exact .part known fun a => ih a

theorem built_part_bind {p : Prog S Q R α} {f : α → Prog S Q R β} (known : Part p)
    (rest : ∀ a, Built P Part (f a)) : Built P Part (p >>= f) := .part known rest

theorem built_part {p : Prog S Q R α} (known : Part p) : Built P Part p := by
  rw [← Prog.bind_done p]
  exact .part known .done

theorem built_of_asks {p : Prog S Q R α} (asks : Asks P p) : Built P Part p := by
  induction p with
  | done a => exact .done a
  | atomic upd next ih => exact .atomic fun s => ih s (asks s)
  | call q next ih => exact .call asks.1 fun r => ih r (asks.2 r)

/-- A part that is inert, then the rest. -/
theorem built_asks_bind {p : Prog S Q R α} {f : α → Prog S Q R β} (asks : Asks P p)
    (rest : ∀ a, Built P Part (f a)) : Built P Part (p >>= f) :=
  built_bind (built_of_asks asks) rest

theorem built_read_bind {g : S → α} {f : α → Prog S Q R β}
    (rest : ∀ s, Built P Part (f (g s))) : Built P Part (Prog.read g >>= f) := .atomic rest

theorem built_forM {body : γ → Prog S Q R PUnit} (xs : List γ)
    (round : ∀ x, Built P Part (body x)) : Built P Part (xs.forM body) := by
  induction xs with
  | nil => exact .done _
  | cons x xs ih => exact built_bind (round x) fun _ => ih

/-- Where the parts only ask such requests, the whole does. -/
theorem Built.asks {P' : Q → Prop} {p : Prog S Q R α} (built : Built P Part p)
    (imp : ∀ q, P q → P' q) (parts : ∀ {β : Type} {p : Prog S Q R β}, Part p → Asks P' p) :
    Asks P' p := by
  induction built with
  | done a => trivial
  | atomic _ ih => exact ih
  | call asked _ ih => exact ⟨imp _ asked, ih⟩
  | part known _ ih => exact asks_bind (parts known) ih

/-- An invariant of what can happen that the parts keep. -/
theorem Built.along {allowed : History S Q R → Prop} {ok : History S Q R → Move S Q → Prop}
    {p : Prog S Q R α} {h : History S Q R} (inv : History S Q R → Prop) (built : Built P Part p)
    (runs : ∀ h upd, inv h → ok h (.run upd)) (fine : ∀ h q, inv h → P q → ok h (.ask q))
    (own : ∀ h s, inv h → allowed (.own h s) → inv (.own h s))
    (other : ∀ h s, inv h → allowed (.other h s) → inv (.other h s))
    (answer : ∀ h q r, inv h → P q → allowed (.answer h q r) → inv (.answer h q r))
    (parts : ∀ {β : Type} {p : Prog S Q R β} {h}, Part p → inv h →
      Along allowed ok p (fun _ h => inv h) h)
    (start : inv h) : Along allowed ok p (fun _ h => inv h) h := by
  induction built generalizing h with
  | done a => exact start
  | atomic _ ih =>
      intro h' since
      have held := since.invariant inv other start
      exact ⟨runs h' _ held, fun may => ih _ (own h' _ held may)⟩
  | call asked _ ih =>
      intro h' since
      have held := since.invariant inv other start
      exact ⟨fine h' _ held asked, fun r may => ih r (answer h' _ r held asked may)⟩
  | part known _ ih => exact along_seq (parts known start) fun a h' held => ih a held

end Rules

end Interact
