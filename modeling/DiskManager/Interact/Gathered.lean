import DiskManager.Interact.Tasks

/-!
# What the operations of a service were told

The world is a record of what the outside has said to any of the operations, and it only grows: one
record is `later` than another.

* `Faithful`: what one operation owes. From any later record on its sections keep a condition on
  memory and record, and it returns with `post`.
* `TaskRun.faithful`: in every interleaving memory meets the condition, and who returns does so with
  its `post`.
-/

namespace Interact

variable {S Q W O ι : Type} {R : Q → Type} {α β : Type}

def Faithful (env : Env S W Q R) (later : W → W → Prop) (K : S → W → Prop) :
    Prog S Q R α → (α → W → Prop) → W → Prop
  | .done a, post, w => post a w
  | .atomic upd next, post, w => ∀ s w', later w w' → K s w' →
      K (upd s) w' ∧ Faithful env later K (next s) post w'
  | .call q next, post, w => ∀ s w' r w'', later w w' → K s w' → env s w' q r w'' →
      Faithful env later K (next r) post w''

section Rules

variable {env : Env S W Q R} {later : W → W → Prop} {K : S → W → Prop} {post post' : α → W → Prop}
  {w w' : W}

theorem faithful_bind {p : Prog S Q R α} {f : α → Prog S Q R β} {post : β → W → Prop} :
    Faithful env later K (p >>= f) post w ↔
      Faithful env later K p (fun a w => Faithful env later K (f a) post w) w := by
  change Faithful env later K (p.bind f) post w ↔ _
  induction p generalizing w with
  | done a => exact Iff.rfl
  | atomic upd next ih => simp only [Prog.bind, Faithful, ih]
  | call q next ih => simp only [Prog.bind, Faithful, ih]

theorem faithful_mono {p : Prog S Q R α} (imp : ∀ a w, post a w → post' a w)
    (pre : Faithful env later K p post w) : Faithful env later K p post' w := by
  induction p generalizing w with
  | done a => exact imp a w pre
  | atomic upd next ih =>
      intro s w' le held
      exact ⟨(pre s w' le held).1, ih s (pre s w' le held).2⟩
  | call q next ih =>
      intro s w' r w'' le held answered
      exact ih r (pre s w' r w'' le held answered)

/-- Sequencing through a lemma about the first part. -/
theorem faithful_seq {p : Prog S Q R α} {f : α → Prog S Q R β} {mid : α → W → Prop}
    {post : β → W → Prop} (first : Faithful env later K p mid w)
    (rest : ∀ a w, mid a w → Faithful env later K (f a) post w) :
    Faithful env later K (p >>= f) post w :=
  faithful_bind.mpr (faithful_mono rest first)

theorem faithful_request_bind {q : Q} {f : R q → Prog S Q R β} {post : β → W → Prop}
    (rest : ∀ s w' r w'', later w w' → env s w' q r w'' → Faithful env later K (f r) post w'') :
    Faithful env later K (Prog.request q >>= f) post w :=
  fun s w' r w'' le _ answered => rest s w' r w'' le answered

theorem faithful_read {f : S → α} (rest : ∀ s w', later w w' → K s w' → post (f s) w') :
    Faithful env later K (Prog.read f) post w :=
  fun s w' le held => ⟨held, rest s w' le held⟩

theorem faithful_modify_bind {f : S → S} {g : Unit → Prog S Q R β} {post : β → W → Prop}
    (kept : ∀ s w', later w w' → K s w' → K (f s) w')
    (rest : ∀ w', later w w' → Faithful env later K (g ()) post w') :
    Faithful env later K (Prog.modify f >>= g) post w :=
  fun s w' le held => ⟨kept s w' le held, rest w' le⟩

/-- What is owed is owed later. -/
theorem Faithful.grown {p : Prog S Q R α}
    (trans : ∀ w₁ w₂ w₃, later w₁ w₂ → later w₂ w₃ → later w₁ w₃)
    (stays : ∀ a w w', later w w' → post a w → post a w') (pre : Faithful env later K p post w)
    (le : later w w') : Faithful env later K p post w' := by
  cases p with
  | done a => exact stays a w w' le pre
  | atomic upd next => exact fun s w'' le' => pre s w'' (trans _ _ _ le le')
  | call q next => exact fun s w'' r w''' le' => pre s w'' r w''' (trans _ _ _ le le')

end Rules

section

variable [DecidableEq ι] {allowed : O → History S Q R → Prop} {prog : O → Prog S Q R α}
  {env : Env S W Q R} {later : W → W → Prop} {K : S → W → Prop} {post : O → α → W → Prop}
  {c₀ c : Tasks ι O S W Q R α}

theorem TaskRun.faithful (run : TaskRun allowed prog env c₀ c) (quiet : c₀.quiet)
    (refl : ∀ w, later w w) (trans : ∀ w₁ w₂ w₃, later w₁ w₂ → later w₂ w₃ → later w₁ w₃)
    (grows : ∀ s w q r w', env s w q r w' → later w w')
    (keeps : ∀ s w w', later w w' → K s w → K s w')
    (stays : ∀ op a w w', later w w' → post op a w → post op a w')
    (owes : ∀ op w, Faithful env later K (prog op) (post op) w) (held : K c₀.s c₀.w) :
    K c.s c.w ∧
      ∀ i task, c.pool i = some task → Faithful env later K task.rest (post task.op) c.w := by
  induction run with
  | start => exact ⟨held, fun i task there => absurd there (by simp [quiet i])⟩
  | @enter c i op _ free ih =>
      refine ⟨ih.1, fun j task there => ?_⟩
      by_cases same : j = i
      · subst same
        rw [Tasks.pool_put_self, Option.some.injEq] at there
        subst there
        exact owes op c.w
      · rw [Tasks.pool_put_ne same] at there
        exact ih.2 j task there
  | @atomic c i op past upd next _ here _ _ ih =>
      obtain ⟨held', mine⟩ := ih.2 i _ here c.s c.w (refl _) ih.1
      refine ⟨held', fun j task there => ?_⟩
      by_cases same : j = i
      · subst same
        rw [Tasks.pool_ran_self, Option.some.injEq] at there
        subst there
        exact mine
      · rw [Tasks.pool_ran_ne same, Option.map_eq_some_iff] at there
        obtain ⟨before, there, rfl⟩ := there
        exact ih.2 j before there
  | @call c i op past q next r w' _ here answered _ ih =>
      have le := grows c.s c.w q r w' answered
      refine ⟨keeps c.s c.w w' le ih.1, fun j task there => ?_⟩
      by_cases same : j = i
      · subst same
        rw [show _ = some _ from Tasks.pool_put_self, Option.some.injEq] at there
        subst there
        exact ih.2 j _ here c.s c.w r w' (refl _) ih.1 answered
      · have before := (Tasks.pool_put_ne same).symm.trans there
        exact (ih.2 j task before).grown trans (stays task.op) le
  | @leave c i op past a _ here ih =>
      refine ⟨ih.1, fun j task there => ?_⟩
      by_cases same : j = i
      · subst same
        rw [Tasks.pool_put_self] at there
        cases there
      · rw [Tasks.pool_put_ne same] at there
        exact ih.2 j task there

end

end Interact
