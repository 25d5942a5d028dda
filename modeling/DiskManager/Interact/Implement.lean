import DiskManager.Interact.Built

/-!
# Requests made by programs

Where the answer to a request is itself computed by code, `Prog.implement` puts the code in the
place of the request.

* `Built.along_implement`: what an operation keeps with the code in place.
* `PoolRun.implemented`: an interleaving of operations with the code in place is one of the
  operations themselves, when the code only reads memory and every answer is allowed.
-/

namespace Interact

variable {S Q Q' W W' O ι : Type} {R : Q → Type} {R' : Q' → Type} {α β : Type}

/-- Every request is made by a program over other requests. -/
def Prog.implement (impl : (q : Q) → Prog S Q' R' (R q)) : Prog S Q R α → Prog S Q' R' α
  | .done a => .done a
  | .atomic upd next => .atomic upd fun s => (next s).implement impl
  | .call q next => (impl q).bind fun r => (next r).implement impl

section

variable {impl : (q : Q) → Prog S Q' R' (R q)}

@[simp] theorem implement_pure (a : α) :
    (pure a : Prog S Q R α).implement impl = pure a := rfl

@[simp] theorem implement_read (f : S → α) :
    (Prog.read f : Prog S Q R α).implement impl = Prog.read f := rfl

theorem implement_bind (p : Prog S Q R α) (f : α → Prog S Q R β) :
    (p >>= f).implement impl = (p.implement impl >>= fun a => (f a).implement impl) := by
  change (p.bind f).implement impl = (p.implement impl).bind _
  induction p with
  | done a => rfl
  | atomic upd next ih => simp only [Prog.bind, Prog.implement, ih]
  | call q next ih => simp only [Prog.bind, Prog.implement, ih, Prog.bind_bind]

theorem implement_request_bind {q : Q} {f : R q → Prog S Q R β} :
    (Prog.request q >>= f).implement impl = (impl q >>= fun r => (f r).implement impl) := rfl

/-- What the parts keep with the code in place, the whole keeps. -/
theorem Built.along_implement {P : Q → Prop} {Part : {β : Type} → Prog S Q R β → Prop}
    {allowed : History S Q' R' → Prop} {ok : History S Q' R' → Move S Q' → Prop}
    {p : Prog S Q R α} {h : History S Q' R'} (inv : History S Q' R' → Prop)
    (built : Built P Part p) (runs : ∀ h upd, inv h → ok h (.run upd))
    (own : ∀ h s, inv h → allowed (.own h s) → inv (.own h s))
    (other : ∀ h s, inv h → allowed (.other h s) → inv (.other h s))
    (asked : ∀ {q h}, P q → inv h → Along allowed ok (impl q) (fun _ h => inv h) h)
    (parts : ∀ {β : Type} {p : Prog S Q R β} {h}, Part p → inv h →
      Along allowed ok (p.implement impl) (fun _ h => inv h) h)
    (start : inv h) : Along allowed ok (p.implement impl) (fun _ h => inv h) h := by
  induction built generalizing h with
  | done a => exact start
  | atomic _ ih =>
      intro h' since
      have held := since.invariant inv other start
      exact ⟨runs h' _ held, fun may => ih _ (own h' _ held may)⟩
  | call known _ ih => exact along_seq (asked known start) fun r h' held => ih r held
  | @part _ p f known _ ih =>
      have same : (p.bind f).implement impl =
          (p.implement impl >>= fun a => (f a).implement impl) := implement_bind p f
      rw [same]
      exact along_seq (parts known start) fun a h' held => ih a held

end

/-! ## Simulation -/

/-- The program is at its end. -/
def Prog.isDone : Prog S Q R α → Bool
  | .done _ => true
  | _ => false

/-- How an operation and the same one with the code in place stand to each other: both between two
requests, or the second within the code of a request of the first. -/
inductive Stage (impl : (q : Q) → Prog S Q' R' (R q)) :
    Option (Prog S Q R α) → Option (Prog S Q' R' α) → Prop
  | free : Stage impl none none
  | done (a : α) : Stage impl (some (.done a)) (some (.done a))
  | atomic (upd : S → S) (next : S → Prog S Q R α) :
    Stage impl (some (.atomic upd next)) (some (.atomic upd fun s => (next s).implement impl))
  | within (q : Q) (next : R q → Prog S Q R α) (mid : Prog S Q' R' (R q)) :
    mid.isDone = false → Within Eq mid (fun _ => True) →
    Stage impl (some (.call q next)) (some (mid.bind fun r => (next r).implement impl))

section

variable {impl : (q : Q) → Prog S Q' R' (R q)} {slot : Option (Prog S Q R α)}

theorem Stage.of_none (stage : Stage impl slot none) : slot = none := by
  cases stage
  rfl

theorem Stage.of_done {a : α} (stage : Stage impl slot (some (.done a))) : slot = some (.done a) := by
  generalize same : some (Prog.done a) = slot' at stage
  cases stage with
  | free => cases same
  | done a =>
      cases same
      rfl
  | atomic upd next => cases same
  | within q next mid unended within =>
      cases mid with
      | done r => cases unended
      | atomic upd mid => cases same
      | call q' mid => cases same

/-- A section is one of the operation, or one of the code, which only reads. -/
theorem Stage.of_atomic {upd : S → S} {next' : S → Prog S Q' R' α}
    (stage : Stage impl slot (some (.atomic upd next'))) :
    (∃ next, slot = some (.atomic upd next) ∧ next' = fun s => (next s).implement impl) ∨
    ∃ q next mid, slot = some (.call q next) ∧ Within Eq (.atomic upd mid) (fun _ => True) ∧
      next' = fun s => (mid s).bind fun r => (next r).implement impl := by
  generalize same : some (Prog.atomic upd next') = slot' at stage
  cases stage with
  | free => cases same
  | done a => cases same
  | atomic upd next =>
      cases same
      exact .inl ⟨next, rfl, rfl⟩
  | within q next mid unended within =>
      cases mid with
      | done r => cases unended
      | atomic upd mid =>
          cases same
          exact .inr ⟨q, next, mid, rfl, within, rfl⟩
      | call q' mid => cases same

/-- A request is one of the code. -/
theorem Stage.of_call {q' : Q'} {next' : R' q' → Prog S Q' R' α}
    (stage : Stage impl slot (some (.call q' next'))) :
    ∃ q next mid, slot = some (.call q next) ∧ Within Eq (.call q' mid) (fun _ => True) ∧
      next' = fun r' => (mid r').bind fun r => (next r).implement impl := by
  generalize same : some (Prog.call q' next') = slot' at stage
  cases stage with
  | free => cases same
  | done a => cases same
  | atomic upd next => cases same
  | within q next mid unended within =>
      cases mid with
      | done r => cases unended
      | atomic upd mid => cases same
      | call q' mid =>
          cases same
          exact ⟨q, next, mid, rfl, within, rfl⟩

end

section

variable [DecidableEq ι] {seats : ι → Prop} {prog : O → Prog S Q R α} {env : Env S W Q R}
  {impl : (q : Q) → Prog S Q' R' (R q)} {c₀ c : Sys ι S W Q R α} {log : List (Entry ι S)} {w : W}

/-- The operation of slot `i` goes on, with answers, until it stands to `p'` as it should. -/
structure CatchesUp (seats : ι → Prop) (prog : O → Prog S Q R α) (env : Env S W Q R)
    (impl : (q : Q) → Prog S Q' R' (R q)) (c₀ c : Sys ι S W Q R α) (i : ι)
    (p' : Prog S Q' R' α) (c₁ : Sys ι S W Q R α) : Prop where
  run : ∃ log, PoolRun seats prog env c₀ c₁ log
  memory : c₁.s = c.s
  world : c₁.w = c.w
  stage : Stage impl (c₁.pool i) (some p')
  others : ∀ j, j ≠ i → c₁.pool j = c.pool j

theorem PoolRun.catchesUp (reads : ∀ q, Within Eq (impl q) fun _ => True)
    (answers : ∀ s q r, env s w q r w) (run : PoolRun seats prog env c₀ c log) (world : c.w = w)
    {i : ι} {p : Prog S Q R α} (here : c.pool i = some p) :
    ∃ c₁, CatchesUp seats prog env impl c₀ c i (p.implement impl) c₁ := by
  induction p generalizing c log with
  | done a => exact ⟨c, ⟨log, run⟩, rfl, rfl, here ▸ .done a, fun _ _ => rfl⟩
  | atomic upd next ih => exact ⟨c, ⟨log, run⟩, rfl, rfl, here ▸ .atomic upd next, fun _ _ => rfl⟩
  | call q next ih =>
      by_cases ended : (impl q).isDone = true
      · cases made : impl q with
        | done r =>
            have answered : env c.s c.w q r w := world ▸ answers c.s q r
            obtain ⟨c₁, up⟩ := ih r (run.call here answered) rfl (Sys.put_self c i (some (next r)))
            refine ⟨c₁, up.run, up.memory, up.world.trans world.symm, ?_, fun j ne => ?_⟩
            · simpa only [Prog.implement, made, Prog.bind] using up.stage
            · exact (up.others j ne).trans (Sys.put_ne ne)
        | atomic upd mid =>
            rw [made] at ended
            cases ended
        | call q' mid =>
            rw [made] at ended
            cases ended
      · have unended : (impl q).isDone = false := by simpa using ended
        exact ⟨c, ⟨log, run⟩, rfl, rfl, here ▸ .within q next (impl q) unended (reads q),
          fun _ _ => rfl⟩

/-- The code of a request goes on: it is at its end, and the request is answered, or it is not. -/
theorem PoolRun.goesOn (reads : ∀ q, Within Eq (impl q) fun _ => True)
    (answers : ∀ s q r, env s w q r w) (run : PoolRun seats prog env c₀ c log) (world : c.w = w)
    {i : ι} {q : Q} {next : R q → Prog S Q R α} (here : c.pool i = some (.call q next))
    {mid : Prog S Q' R' (R q)} (within : Within Eq mid fun _ => True) :
    ∃ c₁, CatchesUp seats prog env impl c₀ c i (mid.bind fun r => (next r).implement impl) c₁ := by
  have unended : mid.isDone = false → ∃ c₁, CatchesUp seats prog env impl c₀ c i
      (mid.bind fun r => (next r).implement impl) c₁ := fun unended =>
    ⟨c, ⟨log, run⟩, rfl, rfl, here ▸ .within q next mid unended within, fun _ _ => rfl⟩
  cases mid with
  | done r =>
      have answered : env c.s c.w q r w := world ▸ answers c.s q r
      obtain ⟨c₁, up⟩ := (run.call here answered).catchesUp reads answers rfl
        (Sys.put_self c i (some (next r)))
      refine ⟨c₁, up.run, up.memory, up.world.trans world.symm, up.stage, fun j ne => ?_⟩
      exact (up.others j ne).trans (Sys.put_ne ne)
  | atomic upd mid => exact unended rfl
  | call q' mid => exact unended rfl

/-- The two pools stand to each other as they should. -/
structure Sys.Simulates (impl : (q : Q) → Prog S Q' R' (R q)) (c : Sys ι S W Q R α)
    (c' : Sys ι S W' Q' R' α) (w : W) : Prop where
  memory : c.s = c'.s
  world : c.w = w
  stages : ∀ i, Stage impl (c.pool i) (c'.pool i)

/-- After one operation has caught up, all stand as they should. -/
theorem CatchesUp.simulates {c c₁ : Sys ι S W Q R α} {c₁' : Sys ι S W' Q' R' α} {i : ι}
    {p' : Prog S Q' R' α} (up : CatchesUp seats prog env impl c₀ c i p' c₁) (memory : c.s = c₁'.s)
    (world : c.w = w) (here : c₁'.pool i = some p')
    (others : ∀ j, j ≠ i → Stage impl (c.pool j) (c₁'.pool j)) : c₁.Simulates impl c₁' w := by
  refine ⟨up.memory.trans memory, up.world.trans world, fun j => ?_⟩
  by_cases same : j = i
  · subst same
    rw [here]
    exact up.stage
  · rw [up.others j same]
    exact others j same

/-- An interleaving with the code in place is one of the operations themselves. -/
theorem PoolRun.implemented {env' : Env S W' Q' R'} {s₀ : S} {w₀' : W'} {c' : Sys ι S W' Q' R' α}
    {log' : List (Entry ι S)} (reads : ∀ q, Within Eq (impl q) fun _ => True)
    (answers : ∀ s q r, env s w q r w)
    (run : PoolRun seats (fun op => (prog op).implement impl) env' ⟨fun _ => none, s₀, w₀'⟩
      c' log') :
    ∃ c log, PoolRun seats prog env ⟨fun _ => none, s₀, w⟩ c log ∧ c.Simulates impl c' w := by
  induction run with
  | start => exact ⟨_, _, .start, rfl, rfl, fun _ => .free⟩
  | @enter c' log' i op _ seat free ih =>
      obtain ⟨c, log, run, memory, world, stages⟩ := ih
      have empty : c.pool i = none := (free ▸ stages i : Stage impl (c.pool i) none).of_none
      obtain ⟨c₁, up⟩ := (run.enter op seat empty).catchesUp reads answers world
        (Sys.put_self c i (some (prog op)))
      obtain ⟨log₁, run₁⟩ := up.run
      refine ⟨c₁, log₁, run₁, up.simulates memory world (Sys.put_self ..) fun j ne => ?_⟩
      rw [Sys.put_ne ne, Sys.put_ne ne]
      exact stages j
  | @atomic c' log' i upd next' _ here ih =>
      obtain ⟨c, log, run, memory, world, stages⟩ := ih
      have stage : Stage impl (c.pool i) (some (.atomic upd next')) := here ▸ stages i
      rcases stage.of_atomic with ⟨next, there, rfl⟩ | ⟨q, next, mid, there, within, rfl⟩
      · obtain ⟨c₁, up⟩ := (run.atomic there).catchesUp reads answers world (Sys.put_self c i _)
        obtain ⟨log₁, run₁⟩ := up.run
        refine ⟨c₁, log₁, run₁, ?_⟩
        rw [memory] at up
        refine up.simulates rfl world (Sys.put_self ..) fun j ne => ?_
        exact (Sys.put_ne ne).symm ▸ (Sys.put_ne ne).symm ▸ stages j
      · -- The code reads: the operation itself does nothing.
        have still : upd c'.s = c'.s := (within c'.s).1.symm
        obtain ⟨c₁, up⟩ := run.goesOn reads answers world there (within c'.s).2
        obtain ⟨log₁, run₁⟩ := up.run
        refine ⟨c₁, log₁, run₁, up.simulates (memory.trans still.symm) world (Sys.put_self ..) ?_⟩
        intro j ne
        exact (Sys.put_ne ne).symm ▸ stages j
  | @call c' log' i q' next' r' w' _ here answered ih =>
      obtain ⟨c, log, run, memory, world, stages⟩ := ih
      have stage : Stage impl (c.pool i) (some (.call q' next')) := here ▸ stages i
      obtain ⟨q, next, mid, there, within, rfl⟩ := stage.of_call
      obtain ⟨c₁, up⟩ := run.goesOn reads answers world there (within r')
      obtain ⟨log₁, run₁⟩ := up.run
      refine ⟨c₁, log₁, run₁, up.simulates memory world (Sys.put_self ..) fun j ne => ?_⟩
      exact (Sys.put_ne ne).symm ▸ stages j
  | @leave c' log' i a _ here ih =>
      obtain ⟨c, log, run, memory, world, stages⟩ := ih
      have stage : Stage impl (c.pool i) (some (.done a)) := here ▸ stages i
      refine ⟨_, _, run.leave stage.of_done, memory, world, fun j => ?_⟩
      by_cases same : j = i
      · subst same
        rw [Sys.put_self, Sys.put_self]
        exact .free
      · rw [Sys.put_ne same, Sys.put_ne same]
        exact stages j

end

end Interact
