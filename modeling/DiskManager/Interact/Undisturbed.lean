import DiskManager.Interact.Frame
import DiskManager.Interact.Pool

/-!
# Undisturbed operations

One operation among others that write the same part of memory.

* `Undisturbed look i log`: whenever the operation in slot `i` ran a section that writes the watched
  part, no other operation had changed it since the first section of slot `i`.
* `Sole`: what an operation does as long as nobody else changes the watched part.
* `PoolRun.undisturbed`: what these moves keep, and what sections that do not write keep, holds in
  every undisturbed run.
-/

namespace Interact

variable {S Q W V O ι Φ : Type} {R : Q → Type} {α β : Type}

/-- Another slot changed the watched part after the first section of slot `i`. -/
def disturbed (look : S → V) (i : ι) : List (Entry ι S) → Prop
  | [] => False
  | e :: log => disturbed look i log ∨
      e.slot ≠ i ∧ look (e.upd e.found) ≠ look e.found ∧ ∃ own ∈ log, own.slot = i

def Undisturbed (look : S → V) (i : ι) : List (Entry ι S) → Prop
  | [] => True
  | e :: log => Undisturbed look i log ∧
      (e.slot = i → Writes look e.upd → ¬ disturbed look i log)

/-- Nobody disturbs an operation whose sections all come after those of the others. -/
theorem not_disturbed_of_last {look : S → V} {i : ι} {log : List (Entry ι S)} (n : ℕ)
    (own : ∀ e ∈ log.take n, e.slot = i) (others : ∀ e ∈ log.drop n, e.slot ≠ i) :
    ¬ disturbed look i log := by
  induction log generalizing n with
  | nil => exact id
  | cons e log ih =>
      cases n with
      | zero =>
          rintro (before | ⟨-, -, e', mem, mine⟩)
          · exact ih 0 (fun _ mem => (by cases mem))
              (fun e' mem => others e' (List.mem_cons_of_mem e mem)) before
          · exact others e' (List.mem_cons_of_mem e mem) mine
      | succ n =>
          rintro (before | ⟨ne, -⟩)
          · exact ih n (fun e' mem => own e' (List.mem_cons_of_mem e mem)) others before
          · exact ne (own e List.mem_cons_self)

theorem undisturbed_of_last {look : S → V} {i : ι} {log : List (Entry ι S)} (n : ℕ)
    (own : ∀ e ∈ log.take n, e.slot = i) (others : ∀ e ∈ log.drop n, e.slot ≠ i) :
    Undisturbed look i log := by
  induction log generalizing n with
  | nil => trivial
  | cons e log ih =>
      cases n with
      | zero =>
          refine ⟨ih 0 (fun _ mem => (by cases mem)) ?_, ?_⟩
          · exact fun e' mem => others e' (List.mem_cons_of_mem e mem)
          · exact fun mine => absurd mine (others e List.mem_cons_self)
      | succ n =>
          have own' := fun e' mem => own e' (List.mem_cons_of_mem e mem)
          exact ⟨ih n own' others, fun _ _ => not_disturbed_of_last n own' others⟩

/-! ## One operation -/

/-- `Sole look inv move p φ x post`: with `x` in the watched part, changed by nobody else, every
section of `p` makes a move of its phase, and `p` returns with `post`. -/
def Sole (look : S → V) (inv : S → Prop) (move : Φ → (S → S) → S → Φ → Prop) :
    Prog S Q R α → Φ → V → (α → Φ → V → Prop) → Prop
  | .done a, φ, x, post => post a φ x
  | .atomic upd next, φ, x, post => ∀ s, inv s → look s = x →
      ∃ φ', move φ upd s φ' ∧ Sole look inv move (next s) φ' (look (upd s)) post
  | .call _ next, φ, x, post => ∀ r, Sole look inv move (next r) φ x post

section Rules

variable {look : S → V} {inv : S → Prop} {move : Φ → (S → S) → S → Φ → Prop} {φ : Φ} {x : V}

@[simp] theorem sole_bind {p : Prog S Q R α} {f : α → Prog S Q R β} {post : β → Φ → V → Prop} :
    Sole look inv move (p >>= f) φ x post ↔
      Sole look inv move p φ x fun a φ x => Sole look inv move (f a) φ x post := by
  change Sole look inv move (p.bind f) φ x post ↔ _
  induction p generalizing φ x with
  | done a => exact Iff.rfl
  | atomic upd next ih => simp only [Prog.bind, Sole, ih]
  | call q next ih => simp only [Prog.bind, Sole, ih]

theorem sole_mono {p : Prog S Q R α} {post post' : α → Φ → V → Prop}
    (imp : ∀ a φ x, post a φ x → post' a φ x) (pre : Sole look inv move p φ x post) :
    Sole look inv move p φ x post' := by
  induction p generalizing φ x with
  | done a => exact imp a φ x pre
  | atomic upd next ih =>
      intro s held here
      obtain ⟨φ', moved, rest⟩ := pre s held here
      exact ⟨φ', moved, ih s rest⟩
  | call q next ih => exact fun r => ih r (pre r)

/-- Sequencing through a lemma about the first part. -/
theorem sole_seq {p : Prog S Q R α} {f : α → Prog S Q R β} {mid : α → Φ → V → Prop}
    {post : β → Φ → V → Prop} (first : Sole look inv move p φ x mid)
    (rest : ∀ a φ x, mid a φ x → Sole look inv move (f a) φ x post) :
    Sole look inv move (p >>= f) φ x post :=
  sole_bind.mpr (sole_mono rest first)

/-- An operation that never changes the watched part stays in its phase. -/
theorem sole_of_within {p : Prog S Q R α} {kept : α → Prop}
    (within : Within (fun s s' => look s' = look s) p kept)
    (stay : ∀ upd s, look (upd s) = look s → move φ upd s φ) :
    Sole look inv move p φ x fun a φ' x' => φ' = φ ∧ x' = x ∧ kept a := by
  induction p with
  | done a => exact ⟨rfl, rfl, within⟩
  | atomic upd next ih =>
      intro s _ here
      refine ⟨φ, stay upd s (within s).1, ?_⟩
      rw [(within s).1, here]
      exact ih s (within s).2
  | call q next ih => exact fun r => ih r (within r)

end Rules

/-! ## Runs -/

section

variable [DecidableEq ι] {look : S → V} {inv : S → Prop} {move : Φ → (S → S) → S → Φ → Prop}
  {i : ι} {prog : O → Prog S Q R α} {env : Env S W Q R}

/-- Where the operation of slot `i` stands: disturbed, before its first section, or under way with
the watched part as it left it. -/
def Standing (look : S → V) (inv : S → Prop) (move : Φ → (S → S) → S → Φ → Prop) (i : ι)
    (c : Sys ι S W Q R α) (log : List (Entry ι S)) (φ : Φ) : Prop :=
  disturbed look i log ∨
    (∀ e ∈ log, e.slot ≠ i) ∧
      (∀ p, c.pool i = some p → ∀ x, Sole look inv move p φ x fun _ _ _ => True) ∨
    (∃ e ∈ log, e.slot = i) ∧
      ∀ p, c.pool i = some p → Sole look inv move p φ (look c.s) fun _ _ _ => True

/-- Every operation in the pool keeps the invariant of memory. -/
def Sys.Keeps (inv : S → Prop) (c : Sys ι S W Q R α) : Prop :=
  ∀ j p, c.pool j = some p → Interact.Keeps inv p fun _ => True

omit [DecidableEq ι] in
theorem Standing.of_pool {c c' : Sys ι S W Q R α} {log : List (Entry ι S)} {φ : Φ}
    (stand : Standing look inv move i c log φ) (slot : c'.pool i = c.pool i) (memory : c'.s = c.s) :
    Standing look inv move i c' log φ := by
  unfold Standing at stand ⊢
  rw [slot, memory]
  exact stand

theorem Sys.Keeps.put {c : Sys ι S W Q R α} (all : c.Keeps inv) (c' : Sys ι S W Q R α) {j : ι}
    {slot : Option (Prog S Q R α)} (pool : c'.pool = Function.update c.pool j slot)
    (here : ∀ p, slot = some p → Interact.Keeps inv p fun _ => True) : c'.Keeps inv := by
  intro k p there
  rw [pool] at there
  by_cases same : k = j
  · subst same
    rw [Function.update_self] at there
    exact here p there
  · rw [Function.update_of_ne same] at there
    exact all k p there

/-- What every operation keeps holds in every state of a run. -/
theorem PoolRun.keeps {seats : ι → Prop} {c₀ c : Sys ι S W Q R α} {log : List (Entry ι S)}
    (run : PoolRun seats prog env c₀ c log)
    (newcomers : ∀ op, Interact.Keeps inv (prog op) fun _ => True) (pool : c₀.Keeps inv)
    (held : inv c₀.s) : inv c.s := by
  have all : inv c.s ∧ c.Keeps inv := by
    induction run with
    | start => exact ⟨held, pool⟩
    | @enter c log j op _ _ _ ih =>
        refine ⟨ih.1, ih.2.put (c.put j (some (prog op))) rfl fun p same => ?_⟩
        cases same
        exact newcomers op
    | @atomic c log j upd next _ here ih =>
        have step := ih.2 j _ here c.s ih.1
        refine ⟨step.1, ih.2.put { c.put j (some (next c.s)) with s := upd c.s } rfl fun p same => ?_⟩
        cases same
        exact step.2
    | @call c log j q next r w' _ here _ ih =>
        refine ⟨ih.1, ih.2.put { c.put j (some (next r)) with w := w' } rfl fun p same => ?_⟩
        cases same
        exact ih.2 j _ here r
    | @leave c log j a _ _ ih =>
        exact ⟨ih.1, ih.2.put (c.put j none) rfl fun p same => (by cases same)⟩
  exact all.1

/-- `keeps` speaks of the phase of the operation in slot `i`, of memory and of the log. A section
that does not write the watched part may be run at any time, one that writes it only when the
operation was not disturbed. -/
theorem PoolRun.undisturbed {seats : ι → Prop} {c₀ c : Sys ι S W Q R α} {log : List (Entry ι S)}
    {φ₀ : Φ} (keeps : Φ → S → List (Entry ι S) → Prop)
    (newcomers : ∀ op, Interact.Keeps inv (prog op) fun _ => True)
    (own : ∀ {φ upd s log φ'}, inv s → keeps φ s log → move φ upd s φ' →
      keeps φ' (upd s) (⟨i, upd, s⟩ :: log))
    (idle : ∀ {φ upd s log}, keeps φ s log → ¬ Writes look upd →
      keeps φ (upd s) (⟨i, upd, s⟩ :: log))
    (other : ∀ {φ upd s log j}, j ≠ i → keeps φ s log → keeps φ (upd s) (⟨j, upd, s⟩ :: log))
    (seat : ∀ j, seats j → j ≠ i) (pool : c₀.Keeps inv)
    (op : ∀ p, c₀.pool i = some p → ∀ x, Sole look inv move p φ₀ x fun _ _ _ => True)
    (held : inv c₀.s) (start : keeps φ₀ c₀.s []) (run : PoolRun seats prog env c₀ c log)
    (calm : Undisturbed look i log) :
    inv c.s ∧ c.Keeps inv ∧ ∃ φ, keeps φ c.s log ∧ Standing look inv move i c log φ := by
  induction run with
  | start => exact ⟨held, pool, φ₀, start, .inr (.inl ⟨fun e mem => (by cases mem), op⟩)⟩
  | @enter c log j op _ seated free ih =>
      obtain ⟨held, all, φ, kept, stand⟩ := ih calm
      refine ⟨held, all.put (c.put j (some (prog op))) rfl ?_, φ, kept, ?_⟩
      · intro p same
        cases same
        exact newcomers op
      · have ne : i ≠ j := fun same => seat j seated same.symm
        exact stand.of_pool (Sys.put_ne ne) rfl
  | @atomic c log j upd next _ here ih =>
      obtain ⟨held, all, φ, kept, stand⟩ := ih calm.1
      have step := all j _ here c.s held
      have all' := all.put { c.put j (some (next c.s)) with s := upd c.s } rfl fun p same => by
        cases same
        exact step.2
      refine ⟨step.1, all', ?_⟩
      by_cases mine : j = i
      · subst mine
        have slot : ∀ p, (c.put j (some (next c.s))).pool j = some p → next c.s = p := by
          intro p there
          rw [Sys.put_self] at there
          exact Option.some.inj there
        -- With the operation undisturbed its program makes a move.
        have moves : Sole look inv move (.atomic upd next) φ (look c.s) (fun _ _ _ => True) →
            ∃ φ, keeps φ (upd c.s) (⟨j, upd, c.s⟩ :: log) ∧ Standing look inv move j
              { c.put j (some (next c.s)) with s := upd c.s } (⟨j, upd, c.s⟩ :: log) φ := by
          intro sole
          obtain ⟨φ', moved, rest⟩ := sole c.s held rfl
          refine ⟨φ', own held kept moved, .inr (.inr ⟨⟨_, List.mem_cons_self, rfl⟩, ?_⟩)⟩
          intro p there
          rw [← slot p there]
          exact rest
        rcases stand with lost | ⟨-, first⟩ | ⟨-, under⟩
        · have quiet : ¬ Writes look upd := fun writes => calm.2 rfl writes lost
          exact ⟨φ, idle kept quiet, .inl (.inl lost)⟩
        · exact moves (first _ here _)
        · exact moves (under _ here)
      · refine ⟨φ, other mine kept, ?_⟩
        have slot : (c.put j (some (next c.s))).pool i = c.pool i := Sys.put_ne (Ne.symm mine)
        rcases stand with lost | ⟨none, first⟩ | ⟨started, under⟩
        · exact .inl (.inl lost)
        · refine .inr (.inl ⟨fun e mem => ?_, fun p there => ?_⟩)
          · rcases List.mem_cons.mp mem with same | old
            · subst same
              exact mine
            · exact none e old
          · exact first p (slot.symm.trans there)
        · by_cases same : look (upd c.s) = look c.s
          · obtain ⟨e, mem, mine⟩ := started
            refine .inr (.inr ⟨⟨e, List.mem_cons_of_mem _ mem, mine⟩, fun p there => ?_⟩)
            change Sole look inv move p φ (look (upd c.s)) _
            rw [same]
            exact under p (slot.symm.trans there)
          · exact .inl (.inr ⟨mine, same, started⟩)
  | @call c log j q next r w' _ here answered ih =>
      obtain ⟨held, all, φ, kept, stand⟩ := ih calm
      refine ⟨held, all.put { c.put j (some (next r)) with w := w' } rfl ?_, φ, kept, ?_⟩
      · intro p same
        cases same
        exact all j _ here r
      by_cases mine : j = i
      · subst mine
        have slot : ∀ p, (c.put j (some (next r))).pool j = some p → next r = p := by
          intro p there
          rw [Sys.put_self] at there
          exact Option.some.inj there
        rcases stand with lost | ⟨none, first⟩ | ⟨started, under⟩
        · exact .inl lost
        · refine .inr (.inl ⟨none, fun p there x => ?_⟩)
          rw [← slot p there]
          exact first _ here x r
        · refine .inr (.inr ⟨started, fun p there => ?_⟩)
          rw [← slot p there]
          exact under _ here r
      · exact stand.of_pool (Sys.put_ne (Ne.symm mine)) rfl
  | @leave c log j a _ here ih =>
      obtain ⟨held, all, φ, kept, stand⟩ := ih calm
      refine ⟨held, all.put (c.put j none) rfl fun p same => (by cases same), φ, kept, ?_⟩
      by_cases mine : j = i
      · subst mine
        have free : ∀ p, (c.put j none).pool j ≠ some p := by
          intro p there
          rw [Sys.put_self] at there
          cases there
        rcases stand with lost | ⟨none, first⟩ | ⟨started, under⟩
        · exact .inl lost
        · exact .inr (.inl ⟨none, fun p there => absurd there (free p)⟩)
        · exact .inr (.inr ⟨started, fun p there => absurd there (free p)⟩)
      · exact stand.of_pool (Sys.put_ne (Ne.symm mine)) rfl

end

end Interact
