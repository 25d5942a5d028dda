import DiskManager.Interact.Prog

/-!
# Runs with their operations

`TracedRuns` keeps of each operation of a sequential run where it started and where it returned.

* `TracedRuns.always`: what every operation preserves.
* `TracedRuns.good_iff`: what holds after each operation exactly while each starts where it may.
-/

namespace Interact

variable {S Q W O : Type} {R : Q → Type} {α : Type}

/-- An operation of a run, with the memory and the world before and after it. -/
structure Ran (S W O : Type) : Type where
  op : O
  s : S
  w : W
  s' : S
  w' : W

/-- A finite sequential run and its operations, the latest first. -/
inductive TracedRuns (prog : O → Prog S Q R α) (env : O → Env S W Q R) (s₀ : S) (w₀ : W) :
    List (Ran S W O) → S → W → Prop
  | start : TracedRuns prog env s₀ w₀ [] s₀ w₀
  | next {s s' : S} {w w' : W} {ran : List (Ran S W O)} {op : O} {a : α} :
    TracedRuns prog env s₀ w₀ ran s w → Returns (env op) (prog op) s w a s' w' →
    TracedRuns prog env s₀ w₀ (⟨op, s, w, s', w'⟩ :: ran) s' w'

namespace TracedRuns

variable {prog : O → Prog S Q R α} {env : O → Env S W Q R} {C : O → Contract S W Q R} {s₀ s : S}
  {w₀ w : W} {ran : List (Ran S W O)}

/-- What every operation preserves holds after each. -/
theorem always (inv : S → W → Prop)
    (kept : ∀ op s w, inv s w → wp (C op) (prog op) (fun _ => inv) s w) (start : inv s₀ w₀)
    (run : TracedRuns prog (fun op => (C op).env) s₀ w₀ ran s w) :
    inv s w ∧ ∀ r ∈ ran, inv r.s' r.w' := by
  induction run with
  | start => exact ⟨start, nofun⟩
  | next before returned ih =>
      have ended := wp_returns (kept _ _ _ ih.1) returned
      exact ⟨ended, List.forall_mem_cons.mpr ⟨ended, ih.2⟩⟩

/-- While each operation starts where it may, `good` holds after each; it does not after the first
that starts elsewhere. -/
theorem good_iff (inv good : S → W → Prop) (may : O → S → W → Prop)
    (kept : ∀ op s w, inv s w → may op s w →
      wp (C op) (prog op) (fun _ s' w' => inv s' w' ∧ good s' w') s w)
    (broken : ∀ op s w, inv s w → ¬ may op s w →
      wp (C op) (prog op) (fun _ s' w' => ¬ good s' w') s w)
    (start : inv s₀ w₀) (run : TracedRuns prog (fun op => (C op).env) s₀ w₀ ran s w) :
    (∀ r ∈ ran, good r.s' r.w') ↔ ∀ r ∈ ran, may r.op r.s r.w := by
  suffices both : ((∀ r ∈ ran, good r.s' r.w') ↔ ∀ r ∈ ran, may r.op r.s r.w) ∧
      ((∀ r ∈ ran, may r.op r.s r.w) → inv s w) from both.1
  induction run with
  | start => exact ⟨iff_of_true nofun nofun, fun _ => start⟩
  | @next s s' w w' ran op a before returned ih =>
      obtain ⟨same, held⟩ := ih
      rw [List.forall_mem_cons, List.forall_mem_cons, same]
      by_cases allowed : ∀ r ∈ ran, may r.op r.s r.w
      · by_cases here : may op s w
        · have ended := wp_returns (kept op s w (held allowed) here) returned
          exact ⟨and_congr_left' (iff_of_true ended.2 here), fun _ => ended.1⟩
        · have ended := wp_returns (broken op s w (held allowed) here) returned
          exact ⟨and_congr_left' (iff_of_false ended here), fun may => absurd may.1 here⟩
      · exact ⟨iff_of_false (fun both => allowed both.2) fun both => allowed both.2,
          fun both => absurd both.2 allowed⟩

/-- A handler that the environment obeys runs any operations. -/
theorem exists_run {handle : W → (q : Q) → R q × W}
    (obeys : ∀ op s w q, env op s w q (handle w q).1 (handle w q).2) (s₀ : S) (w₀ : W)
    (ops : List O) :
    ∃ ran s w, TracedRuns prog env s₀ w₀ ran s w ∧ ran.map (·.op) = ops := by
  induction ops with
  | nil => exact ⟨[], s₀, w₀, .start, rfl⟩
  | cons op ops ih =>
      obtain ⟨ran, s, w, run, rfl⟩ := ih
      exact ⟨_, _, _, run.next (Prog.exec_returns (obeys op) (prog op) s w), rfl⟩

end TracedRuns

end Interact
