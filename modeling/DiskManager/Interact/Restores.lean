import DiskManager.Interact.Frame

/-!
# Invariants that hold between operations

* `Restores I p post`: `p`, run on its own from memory with `I`, ends in memory with `I` and
  returns with `post`, whatever the answers. On the way `I` may fail; what keeps `I` at every
  section (`Keeps`) restores it.
* `Runs.restored`: operations that restore `I` leave it after each operation of a run.
* `AbstractRuns step`: the runs of an abstract machine, one step for each operation, and
  `Runs.refines`, the refinement of such a machine under an invariant that is restored.
-/

namespace Interact

variable {S Q W : Type} {R : Q → Type} {α β : Type}

def Restores (I : S → Prop) (p : Prog S Q R α) (post : α → Prop) : Prop :=
  ∀ s, I s → wp Contract.free p (fun a s' _ => I s' ∧ post a) s ()

section Rules

variable {I : S → Prop} {post post' : α → Prop}

theorem restores_pure {a : α} (done : post a) : Restores I (pure a : Prog S Q R α) post :=
  fun _ held => ⟨held, done⟩

theorem restores_of_keeps {p : Prog S Q R α} (keeps : Keeps I p post) : Restores I p post :=
  fun _ held => wp_of_keeps keeps held

/-- Sequencing through a lemma about the first part. -/
theorem restores_seq {p : Prog S Q R α} {f : α → Prog S Q R β} {mid : α → Prop} {post : β → Prop}
    (first : Restores I p mid) (rest : ∀ a, mid a → Restores I (f a) post) :
    Restores I (p >>= f) post :=
  fun s held => wp_seq (first s held) fun a s' _ ended => rest a ended.2 s' ended.1

/-- The same for a part that keeps `I` throughout. -/
theorem restores_keeps_seq {p : Prog S Q R α} {f : α → Prog S Q R β} {mid : α → Prop}
    {post : β → Prop} (first : Keeps I p mid) (rest : ∀ a, mid a → Restores I (f a) post) :
    Restores I (p >>= f) post :=
  restores_seq (restores_of_keeps first) rest

theorem restores_mono {p : Prog S Q R α} (imp : ∀ a, post a → post' a)
    (pre : Restores I p post) : Restores I p post' :=
  fun s held => wp_mono (fun a _ _ ended => ⟨ended.1, imp a ended.2⟩) (pre s held)

theorem restores_bind {γ : Type} {p : Prog S Q R α} {f : α → Prog S Q R β}
    {g : β → Prog S Q R γ} {post : γ → Prop}
    (inner : Restores I (p >>= fun a => f a >>= g) post) : Restores I ((p >>= f) >>= g) post := by
  intro s held
  have pre := wp_bind.mp (inner s held)
  exact wp_bind.mpr (wp_bind.mpr (wp_mono (fun _ _ _ ended => wp_bind.mp ended) pre))

/-- A section that only reads, then what depends on what it read. -/
theorem restores_read_bind {f : S → α} {g : α → Prog S Q R β} {post : β → Prop}
    (rest : ∀ s, I s → Restores I (g (f s)) post) : Restores I (Prog.read f >>= g) post :=
  fun s held => wp_bind.mpr ⟨trivial, rest s held s held⟩

/-- The same where the rest is known to start in the memory that was read. -/
theorem restores_look_bind {f : S → α} {g : α → Prog S Q R β} {post : β → Prop}
    (rest : ∀ s, I s → wp Contract.free (g (f s)) (fun b s' _ => I s' ∧ post b) s ()) :
    Restores I (Prog.read f >>= g) post :=
  fun s held => wp_bind.mpr ⟨trivial, rest s held⟩

theorem restores_modify_bind {f : S → S} {g : Unit → Prog S Q R β} {post : β → Prop}
    (kept : ∀ s, I s → I (f s)) (rest : Restores I (g ()) post) :
    Restores I (Prog.modify f >>= g) post :=
  fun s held => wp_bind.mpr ⟨trivial, rest (f s) (kept s held)⟩

theorem restores_request_bind {q : Q} {g : R q → Prog S Q R β} {post : β → Prop}
    (rest : ∀ r, Restores I (g r) post) : Restores I (Prog.request q >>= g) post :=
  fun s held => wp_bind.mpr ⟨trivial, fun r _ _ => rest r s held⟩

/-- A loop restores what its rounds restore. -/
theorem restores_forM {γ : Type} {body : γ → Prog S Q R PUnit} (xs : List γ)
    (round : ∀ x, Restores I (body x) fun _ => True) :
    Restores I (xs.forM body) fun _ => True := by
  induction xs with
  | nil => exact restores_pure trivial
  | cons x xs ih =>
      change Restores I (body x >>= fun _ => xs.forM body) _
      exact restores_seq (round x) fun _ _ => ih

end Rules

/-- What every operation of a run restores holds at its end. -/
theorem Runs.restored {O : Type} {I : S → Prop} {prog : O → Prog S Q R α}
    {env : O → Env S W Q R} {s₀ s : S} {w₀ w : W} {ops : List O}
    (restores : ∀ op ∈ ops, Restores I (prog op) fun _ => True) (start : I s₀)
    (run : Runs prog env s₀ w₀ ops s w) : I s := by
  induction run with
  | start => exact start
  | @next s s' _ w w' ops op a _ returned ih =>
      have before : I s := ih fun op mem => restores op (List.mem_append_left _ mem)
      have ends := restores op (List.mem_append_right ops List.mem_cons_self) s before
      have here : wp (.ofEnv (env op)) (prog op) (fun _ s' _ => I s' ∧ True) s w :=
        wp_of_free ends trivial trivial
      exact (wp_returns here returned).1

/-! ## Refinement -/

/-- The runs of an abstract machine whose step under operation `op` is `step op`. -/
inductive AbstractRuns {O T : Type} (step : O → T → T → Prop) (t₀ : T) : List O → T → Prop
  | start : AbstractRuns step t₀ [] t₀
  | next {ops : List O} {op : O} {t t' : T} :
    AbstractRuns step t₀ ops t → step op t t' → AbstractRuns step t₀ (ops ++ [op]) t'

theorem AbstractRuns.invariant {O T : Type} {step : O → T → T → Prop} {t₀ t : T} {ops : List O}
    (inv : T → Prop) (run : AbstractRuns step t₀ ops t) (start : inv t₀)
    (kept : ∀ op ∈ ops, ∀ t t', inv t → step op t t' → inv t') : inv t := by
  induction run with
  | start => exact start
  | @next ops op t t' _ stepped ih =>
      have before : inv t := ih fun op mem => kept op (List.mem_append_left _ mem)
      exact kept op (List.mem_append_right ops List.mem_cons_self) t t' before stepped

/-- A run of operations whose steps are seen as those of the abstract machine, as long as what they
restore holds. -/
theorem Runs.refines {O T : Type} {I : S → Prop} {abs : S → T} {step : O → T → T → Prop}
    {prog : O → Prog S Q R α} {env : O → Env S W Q R} {s₀ s : S} {w₀ w : W} {ops : List O}
    (restores : ∀ op ∈ ops, Restores I (prog op) fun _ => True)
    (refines : ∀ op ∈ ops, ∀ s, I s →
      wp Contract.free (prog op) (fun _ s' _ => step op (abs s) (abs s')) s ())
    (start : I s₀) (run : Runs prog env s₀ w₀ ops s w) : AbstractRuns step (abs s₀) ops (abs s) := by
  induction run with
  | start => exact .start
  | @next s s' _ w w' ops op a before returned ih =>
      have sub : ∀ op' ∈ ops, op' ∈ ops ++ [op] := fun op' mem => List.mem_append_left _ mem
      have last : op ∈ ops ++ [op] := List.mem_append_right ops List.mem_cons_self
      have held : I s := before.restored (fun op' mem => restores op' (sub op' mem)) start
      have here : wp (.ofEnv (env op)) (prog op) (fun _ s' _ => step op (abs s) (abs s')) s w :=
        wp_of_free (refines op last s held) trivial trivial
      have stepped := wp_returns here returned
      refine .next (ih (fun op' mem => restores op' (sub op' mem)) ?_) stepped
      exact fun op' mem => refines op' (sub op' mem)

end Interact
