import DiskManager.Interact.Frame
import DiskManager.Interact.Pool

/-!
# Operations with a history

Operations side by side, each with what it has lived through: the memory it came to, its own
sections, the sections of the others meanwhile and its answers.

* `TaskRun allowed`: the interleavings in which no operation lives through what `allowed` excludes.
* `Along`: what an operation owes at its moves, whatever the others do between them, and
  `TaskRun.along`: in a run every operation keeps to it.
* `Token`: the discipline of a flag that is taken and given back, and `TaskRun.tokens`: at most one
  operation has it, it is set just when one has, and who finds it set is refused.
-/

namespace Interact

variable {S Q W O ι : Type} {R : Q → Type} {α β : Type}

/-- What an operation has lived through, the newest last. -/
inductive History (S Q : Type) (R : Q → Type) : Type
  | came (s : S)
  | own (before : History S Q R) (s : S)
  | other (before : History S Q R) (s : S)
  | answer (before : History S Q R) (q : Q) (r : R q)

namespace History

/-- The memory after the last of it. -/
def now : History S Q R → S
  | .came s => s
  | .own _ s => s
  | .other _ s => s
  | .answer before _ _ => before.now

/-- The operation was given an answer `P` is about. -/
def Answered (P : (q : Q) → R q → Prop) : History S Q R → Prop
  | .came _ => False
  | .own before _ => before.Answered P
  | .other before _ => before.Answered P
  | .answer before q r => P q r ∨ before.Answered P

instance decidableAnswered {P : (q : Q) → R q → Prop} [∀ q r, Decidable (P q r)] :
    (h : History S Q R) → Decidable (h.Answered P)
  | .came _ => inferInstanceAs (Decidable False)
  | .own before _ => decidableAnswered before
  | .other before _ => decidableAnswered before
  | .answer before q r =>
      @instDecidableOr (P q r) (before.Answered P) inferInstance (decidableAnswered before)

/-- The memory was such at some time. -/
def Ever (P : S → Prop) : History S Q R → Prop
  | .came s => P s
  | .own before s => P s ∨ before.Ever P
  | .other before s => P s ∨ before.Ever P
  | .answer before _ _ => before.Ever P

instance decidableEver {P : S → Prop} [∀ s, Decidable (P s)] :
    (h : History S Q R) → Decidable (h.Ever P)
  | .came s => inferInstanceAs (Decidable (P s))
  | .own before s => @instDecidableOr (P s) (before.Ever P) inferInstance (decidableEver before)
  | .other before s => @instDecidableOr (P s) (before.Ever P) inferInstance (decidableEver before)
  | .answer before _ _ => decidableEver before

/-- The memory its own sections found, the first one first. -/
def found : History S Q R → List S
  | .came _ => []
  | .own before _ => before.found ++ [before.now]
  | .other before _ => before.found
  | .answer before _ _ => before.found

/-- The last of it is no answer that `env` never gives. -/
def Answerable (env : Env S W Q R) : History S Q R → Prop
  | .answer _ q r => ∃ s w w', env s w q r w'
  | _ => True

/-- The operation set the flag and has not reset it since. -/
def holding (flag : S → Bool) : History S Q R → Bool
  | .came _ => false
  | .own before s => if flag s = flag before.now then before.holding flag else flag s
  | .other before _ => before.holding flag
  | .answer before _ _ => before.holding flag

theorem ever_now {P : S → Prop} {h : History S Q R} (here : P h.now) : h.Ever P := by
  induction h with
  | came s => exact here
  | own before s => exact .inl here
  | other before s => exact .inl here
  | answer before q r ih => exact ih here

/-- The sections of the others since, none of them excluded. -/
inductive Since (allowed : History S Q R → Prop) (h : History S Q R) : History S Q R → Prop
  | refl : Since allowed h h
  | other {h' : History S Q R} {s : S} :
    Since allowed h h' → allowed (.other h' s) → Since allowed h (.other h' s)

variable {allowed : History S Q R → Prop} {h h' h'' : History S Q R}

theorem Since.trans (first : Since allowed h h') (second : Since allowed h' h'') :
    Since allowed h h'' := by
  induction second with
  | refl => exact first
  | other _ fine ih => exact .other ih fine

/-- What the sections of the others keep. -/
theorem Since.invariant (inv : History S Q R → Prop) (since : Since allowed h h')
    (kept : ∀ h s, inv h → allowed (.other h s) → inv (.other h s)) (start : inv h) : inv h' := by
  induction since with
  | refl => exact start
  | other _ fine ih => exact kept _ _ ih fine

theorem Since.found (since : Since allowed h h') : h'.found = h.found := by
  induction since with
  | refl => rfl
  | other _ _ ih => exact ih

theorem Since.holding (since : Since allowed h h') (flag : S → Bool) :
    h'.holding flag = h.holding flag := by
  induction since with
  | refl => rfl
  | other _ _ ih => exact ih

end History

/-! ## What an operation owes -/

/-- What an operation does next: a section or a request. -/
inductive Move (S Q : Type) : Type
  | run (upd : S → S)
  | ask (q : Q)

/-- `Along allowed ok p post h`: from the history `h` on, in which nothing happens that `allowed`
excludes, every move of `p` is made where `ok` says, and `p` returns with `post`. -/
def Along (allowed : History S Q R → Prop) (ok : History S Q R → Move S Q → Prop) :
    Prog S Q R α → (α → History S Q R → Prop) → History S Q R → Prop
  | .done a, post, h => post a h
  | .atomic upd next, post, h => ∀ h', h.Since allowed h' →
      ok h' (.run upd) ∧ (allowed (.own h' (upd h'.now)) →
        Along allowed ok (next h'.now) post (.own h' (upd h'.now)))
  | .call q next, post, h => ∀ h', h.Since allowed h' →
      ok h' (.ask q) ∧ ∀ r, allowed (.answer h' q r) →
        Along allowed ok (next r) post (.answer h' q r)

section Rules

variable {allowed : History S Q R → Prop} {ok : History S Q R → Move S Q → Prop}
  {post post' : α → History S Q R → Prop} {h h' : History S Q R}

@[simp] theorem along_pure {a : α} :
    Along allowed ok (pure a : Prog S Q R α) post h ↔ post a h := Iff.rfl

@[simp] theorem along_bind {p : Prog S Q R α} {f : α → Prog S Q R β}
    {post : β → History S Q R → Prop} :
    Along allowed ok (p >>= f) post h ↔
      Along allowed ok p (fun a h => Along allowed ok (f a) post h) h := by
  change Along allowed ok (p.bind f) post h ↔ _
  induction p generalizing h with
  | done a => exact Iff.rfl
  | atomic upd next ih => simp only [Prog.bind, Along, ih]
  | call q next ih => simp only [Prog.bind, Along, ih]

theorem along_mono {p : Prog S Q R α} (imp : ∀ a h, post a h → post' a h)
    (pre : Along allowed ok p post h) : Along allowed ok p post' h := by
  induction p generalizing h with
  | done a => exact imp a h pre
  | atomic upd next ih =>
      intro h' since
      exact ⟨(pre h' since).1, fun fine => ih _ ((pre h' since).2 fine)⟩
  | call q next ih =>
      intro h' since
      exact ⟨(pre h' since).1, fun r fine => ih r ((pre h' since).2 r fine)⟩

/-- Sequencing through a lemma about the first part. -/
theorem along_seq {p : Prog S Q R α} {f : α → Prog S Q R β} {mid : α → History S Q R → Prop}
    {post : β → History S Q R → Prop} (first : Along allowed ok p mid h)
    (rest : ∀ a h, mid a h → Along allowed ok (f a) post h) :
    Along allowed ok (p >>= f) post h :=
  along_bind.mpr (along_mono rest first)

/-- A section that only reads, then what depends on what it read. -/
theorem along_read_bind {f : S → α} {g : α → Prog S Q R β} {post : β → History S Q R → Prop}
    (rest : ∀ h', h.Since allowed h' →
      ok h' (.run id) ∧ Along allowed ok (g (f h'.now)) post (.own h' h'.now)) :
    Along allowed ok (Prog.read f >>= g) post h :=
  fun h' since => ⟨(rest h' since).1, fun _ => (rest h' since).2⟩

/-- An invariant of what can happen, with moves that are always fine. -/
theorem along_of_asks {P : Q → Prop} {p : Prog S Q R α} (inv : History S Q R → Prop)
    (asks : Asks P p) (runs : ∀ h upd, inv h → ok h (.run upd))
    (fine : ∀ h q, inv h → P q → ok h (.ask q))
    (own : ∀ h s, inv h → allowed (.own h s) → inv (.own h s))
    (other : ∀ h s, inv h → allowed (.other h s) → inv (.other h s))
    (answer : ∀ h q r, inv h → P q → allowed (.answer h q r) → inv (.answer h q r))
    (start : inv h) : Along allowed ok p (fun _ h => inv h) h := by
  induction p generalizing h with
  | done a => exact start
  | atomic upd next ih =>
      intro h' since
      have held := since.invariant inv other start
      exact ⟨runs h' upd held, fun may => ih _ (asks _) (own h' _ held may)⟩
  | call q next ih =>
      intro h' since
      have held := since.invariant inv other start
      exact ⟨fine h' q held asks.1, fun r may =>
        ih r (asks.2 r) (answer h' q r held asks.1 may)⟩

/-- An invariant of what the sections of `p` do, where its moves are fine. -/
theorem along_of_within {G : S → S → Prop} {kept : α → Prop} {p : Prog S Q R α}
    (inv : History S Q R → Prop) (within : Within G p kept)
    (runs : ∀ h upd, inv h → (∀ s, G s (upd s)) → ok h (.run upd))
    (fine : ∀ h q, inv h → ok h (.ask q))
    (own : ∀ h s, inv h → G h.now s → inv (.own h s))
    (other : ∀ h s, inv h → allowed (.other h s) → inv (.other h s))
    (answer : ∀ h q r, inv h → inv (.answer h q r)) (start : inv h) :
    Along allowed ok p (fun a h => inv h ∧ kept a) h := by
  induction p generalizing h with
  | done a => exact ⟨start, within⟩
  | atomic upd next ih =>
      intro h' since
      have held := since.invariant inv other start
      refine ⟨runs h' upd held fun s => (within s).1, fun _ => ?_⟩
      exact ih _ (within _).2 (own h' _ held (within _).1)
  | call q next ih =>
      intro h' since
      have held := since.invariant inv other start
      exact ⟨fine h' _ held, fun r _ => ih r (within r) (answer h' q r held)⟩

/-- What is owed from some time on is owed later, where the others leave the end as it is. -/
theorem Along.later {p : Prog S Q R α}
    (stays : ∀ a h s, post a h → allowed (.other h s) → post a (.other h s))
    (pre : Along allowed ok p post h) (since : h.Since allowed h') :
    Along allowed ok p post h' := by
  cases p with
  | done a => exact since.invariant (post a) (stays a) pre
  | atomic upd next => exact fun h'' later => pre h'' (since.trans later)
  | call q next => exact fun h'' later => pre h'' (since.trans later)

/-- An invariant of what `p` asks and of what its sections do. -/
theorem along_of_parts {P : Q → Prop} {G : S → S → Prop} {kept : α → Prop} {p : Prog S Q R α}
    (inv : History S Q R → Prop) (asks : Asks P p) (within : Within G p kept)
    (runs : ∀ h upd, inv h → (∀ s, G s (upd s)) → ok h (.run upd))
    (fine : ∀ h q, inv h → P q → ok h (.ask q))
    (own : ∀ h s, inv h → G h.now s → inv (.own h s))
    (other : ∀ h s, inv h → allowed (.other h s) → inv (.other h s))
    (answer : ∀ h q r, inv h → P q → inv (.answer h q r)) (start : inv h) :
    Along allowed ok p (fun a h => inv h ∧ kept a) h := by
  induction p generalizing h with
  | done a => exact ⟨start, within⟩
  | atomic upd next ih =>
      intro h' since
      have held := since.invariant inv other start
      refine ⟨runs h' upd held fun s => (within s).1, fun _ => ?_⟩
      exact ih _ (asks _) (within _).2 (own h' _ held (within _).1)
  | call q next ih =>
      intro h' since
      have held := since.invariant inv other start
      exact ⟨fine h' _ held asks.1, fun r _ =>
        ih r (asks.2 r) (within r) (answer h' q r held asks.1)⟩

/-- Two accounts of one operation. -/
theorem Along.and {ok' : History S Q R → Move S Q → Prop} {p : Prog S Q R α}
    (left : Along allowed ok p post h) (right : Along allowed ok' p post' h) :
    Along allowed (fun h m => ok h m ∧ ok' h m) p (fun a h => post a h ∧ post' a h) h := by
  induction p generalizing h with
  | done a => exact ⟨left, right⟩
  | atomic upd next ih =>
      intro h' since
      obtain ⟨fine, rest⟩ := left h' since
      obtain ⟨fine', rest'⟩ := right h' since
      exact ⟨⟨fine, fine'⟩, fun may => ih _ (rest may) (rest' may)⟩
  | call q next ih =>
      intro h' since
      obtain ⟨fine, rest⟩ := left h' since
      obtain ⟨fine', rest'⟩ := right h' since
      exact ⟨⟨fine, fine'⟩, fun r may => ih r (rest r may) (rest' r may)⟩

/-- Less is owed at each move. -/
theorem Along.weaken {ok' : History S Q R → Move S Q → Prop} {p : Prog S Q R α}
    (less : ∀ h m, ok h m → ok' h m) (pre : Along allowed ok p post h) :
    Along allowed ok' p post h := by
  induction p generalizing h with
  | done a => exact pre
  | atomic upd next ih =>
      intro h' since
      exact ⟨less _ _ (pre h' since).1, fun may => ih _ ((pre h' since).2 may)⟩
  | call q next ih =>
      intro h' since
      exact ⟨less _ _ (pre h' since).1, fun r may => ih r ((pre h' since).2 r may)⟩

/-- What is owed from some time on is owed later. -/
theorem Along.since {p : Prog S Q R α} (pre : Along allowed ok p (fun _ _ => True) h)
    (since : h.Since allowed h') : Along allowed ok p (fun _ _ => True) h' := by
  cases p with
  | done a => trivial
  | atomic upd next => exact fun h'' later => pre h'' (since.trans later)
  | call q next => exact fun h'' later => pre h'' (since.trans later)

end Rules

/-! ## Runs -/

/-- An operation in progress: its name, its history and what is left of it. -/
structure Task (O S Q : Type) (R : Q → Type) (α : Type) : Type where
  op : O
  past : History S Q R
  rest : Prog S Q R α

/-- Operations in progress, memory and world. -/
structure Tasks (ι O S W Q : Type) (R : Q → Type) (α : Type) : Type where
  pool : ι → Option (Task O S Q R α)
  s : S
  w : W

/-- Another operation ran a section. -/
def Task.witness (task : Task O S Q R α) (s : S) : Task O S Q R α :=
  { task with past := .other task.past s }

section

variable [DecidableEq ι]

/-- Slot `i` holds `task` from now on. -/
def Tasks.put (c : Tasks ι O S W Q R α) (i : ι) (task : Option (Task O S Q R α)) :
    Tasks ι O S W Q R α :=
  { c with pool := Function.update c.pool i task }

/-- The operation of slot `i` ran a section. -/
def Tasks.ran (c : Tasks ι O S W Q R α) (i : ι) (task : Task O S Q R α) (s : S) :
    Tasks ι O S W Q R α where
  pool := Function.update (fun j => (c.pool j).map fun other => other.witness s) i (some task)
  s := s
  w := c.w

/-- The interleavings from `c₀` in which no operation lives through what `allowed` excludes. -/
inductive TaskRun (allowed : O → History S Q R → Prop) (prog : O → Prog S Q R α)
    (env : Env S W Q R) (c₀ : Tasks ι O S W Q R α) : Tasks ι O S W Q R α → Prop
  | start : TaskRun allowed prog env c₀ c₀
  | enter {c : Tasks ι O S W Q R α} {i : ι} (op : O) :
    TaskRun allowed prog env c₀ c → c.pool i = none →
    TaskRun allowed prog env c₀ (c.put i (some ⟨op, .came c.s, prog op⟩))
  | atomic {c : Tasks ι O S W Q R α} {i : ι} {op : O} {past : History S Q R} {upd : S → S}
      {next : S → Prog S Q R α} :
    TaskRun allowed prog env c₀ c → c.pool i = some ⟨op, past, .atomic upd next⟩ →
    allowed op (.own past (upd c.s)) →
    (∀ j task, j ≠ i → c.pool j = some task → allowed task.op (.other task.past (upd c.s))) →
    TaskRun allowed prog env c₀
      (c.ran i ⟨op, .own past (upd c.s), next c.s⟩ (upd c.s))
  | call {c : Tasks ι O S W Q R α} {i : ι} {op : O} {past : History S Q R} {q : Q}
      {next : R q → Prog S Q R α} {r : R q} {w' : W} :
    TaskRun allowed prog env c₀ c → c.pool i = some ⟨op, past, .call q next⟩ →
    env c.s c.w q r w' → allowed op (.answer past q r) →
    TaskRun allowed prog env c₀
      { c.put i (some ⟨op, .answer past q r, next r⟩) with w := w' }
  | leave {c : Tasks ι O S W Q R α} {i : ι} {op : O} {past : History S Q R} {a : α} :
    TaskRun allowed prog env c₀ c → c.pool i = some ⟨op, past, .done a⟩ →
    TaskRun allowed prog env c₀ (c.put i none)

variable {allowed : O → History S Q R → Prop} {prog : O → Prog S Q R α} {env : Env S W Q R}
  {c₀ c : Tasks ι O S W Q R α}

omit [DecidableEq ι] in
/-- No operation is in progress. -/
def Tasks.quiet (c : Tasks ι O S W Q R α) : Prop := ∀ i, c.pool i = none

/-- The invariant rule for what holds of each operation in progress. -/
theorem TaskRun.each (run : TaskRun allowed prog env c₀ c) (inv : Task O S Q R α → S → Prop)
    (quiet : c₀.quiet) (enter : ∀ op s, inv ⟨op, .came s, prog op⟩ s)
    (own : ∀ op past upd next s, inv ⟨op, past, .atomic upd next⟩ s →
      allowed op (.own past (upd s)) → inv ⟨op, .own past (upd s), next s⟩ (upd s))
    (other : ∀ op past p s s', inv ⟨op, past, p⟩ s → allowed op (.other past s') →
      inv ⟨op, .other past s', p⟩ s')
    (answer : ∀ op past q next r s, inv ⟨op, past, .call q next⟩ s →
      allowed op (.answer past q r) → inv ⟨op, .answer past q r, next r⟩ s) :
    ∀ i task, c.pool i = some task → inv task c.s := by
  induction run with
  | start => exact fun i task there => absurd there (by simp [quiet i])
  | @enter c i op _ free ih =>
      intro j task there
      by_cases same : j = i
      · subst same
        simp only [Tasks.put, Function.update_self, Option.some.injEq] at there
        subst there
        exact enter op c.s
      · simp only [Tasks.put, Function.update_of_ne same] at there
        exact ih j task there
  | @atomic c i op past upd next _ here fine fair ih =>
      intro j task there
      by_cases same : j = i
      · subst same
        simp only [Tasks.ran, Function.update_self, Option.some.injEq] at there
        subst there
        exact own op past upd next c.s (ih j _ here) fine
      · simp only [Tasks.ran, Function.update_of_ne same, Option.map_eq_some_iff] at there
        obtain ⟨before, there, rfl⟩ := there
        exact other _ _ _ c.s _ (ih j before there) (fair j before same there)
  | @call c i op past q next r w' _ here _ fine ih =>
      intro j task there
      by_cases same : j = i
      · subst same
        simp only [Tasks.put, Function.update_self, Option.some.injEq] at there
        subst there
        exact answer op past q next r c.s (ih j _ here) fine
      · simp only [Tasks.put, Function.update_of_ne same] at there
        exact ih j task there
  | @leave c i op past a _ here ih =>
      intro j task there
      by_cases same : j = i
      · subst same
        simp [Tasks.put] at there
      · simp only [Tasks.put, Function.update_of_ne same] at there
        exact ih j task there

/-- The history of an operation ends with the memory of now. -/
theorem TaskRun.now (run : TaskRun allowed prog env c₀ c) (quiet : c₀.quiet) {i : ι}
    {task : Task O S Q R α} (there : c.pool i = some task) : task.past.now = c.s :=
  run.each (fun task s => task.past.now = s) quiet (fun _ _ => rfl) (fun _ _ _ _ _ _ _ => rfl)
    (fun _ _ _ _ _ _ _ => rfl) (fun _ _ _ _ _ _ same _ => same) i task there

/-- Every operation in progress keeps to what it owes. -/
theorem TaskRun.along {ok : O → History S Q R → Move S Q → Prop} (run : TaskRun allowed prog env c₀ c)
    (quiet : c₀.quiet)
    (owes : ∀ op s, Along (allowed op) (ok op) (prog op) (fun _ _ => True) (.came s)) {i : ι}
    {task : Task O S Q R α} (there : c.pool i = some task) :
    Along (allowed task.op) (ok task.op) task.rest (fun _ _ => True) task.past := by
  have all := run.each (fun task s => task.past.now = s ∧
    Along (allowed task.op) (ok task.op) task.rest (fun _ _ => True) task.past) quiet
    (fun op s => ⟨rfl, owes op s⟩) ?_ ?_ ?_ i task there
  · exact all.2
  · rintro op past upd next s ⟨rfl, owed⟩ fine
    exact ⟨rfl, (owed past .refl).2 fine⟩
  · rintro op past p s s' ⟨-, owed⟩ fine
    exact ⟨rfl, owed.since (.other .refl fine)⟩
  · rintro op past q next r s ⟨same, owed⟩ fine
    exact ⟨same, (owed past .refl).2 r fine⟩

/-- Every operation in progress keeps to what it owes, and ends as it owes. -/
theorem TaskRun.owed {ok : O → History S Q R → Move S Q → Prop}
    {post : O → α → History S Q R → Prop} (run : TaskRun allowed prog env c₀ c) (quiet : c₀.quiet)
    (stays : ∀ op a h s, post op a h → allowed op (.other h s) → post op a (.other h s))
    (owes : ∀ op s, Along (allowed op) (ok op) (prog op) (post op) (.came s)) {i : ι}
    {task : Task O S Q R α} (there : c.pool i = some task) :
    Along (allowed task.op) (ok task.op) task.rest (post task.op) task.past := by
  have all := run.each (fun task s => task.past.now = s ∧
    Along (allowed task.op) (ok task.op) task.rest (post task.op) task.past) quiet
    (fun op s => ⟨rfl, owes op s⟩) ?_ ?_ ?_ i task there
  · exact all.2
  · rintro op past upd next s ⟨rfl, owed⟩ fine
    exact ⟨rfl, (owed past .refl).2 fine⟩
  · rintro op past p s s' ⟨-, owed⟩ fine
    exact ⟨rfl, owed.later (stays op) (.other .refl fine)⟩
  · rintro op past q next r s ⟨same, owed⟩ fine
    exact ⟨same, (owed past .refl).2 r fine⟩

/-- No operation of a run is given an answer its environment never gives. -/
theorem TaskRun.answerable (run : TaskRun allowed prog env c₀ c) :
    TaskRun (fun op h => allowed op h ∧ h.Answerable env) prog env c₀ c := by
  induction run with
  | start => exact .start
  | enter op _ free ih => exact ih.enter op free
  | atomic _ here fine fair ih =>
      exact ih.atomic here ⟨fine, trivial⟩ fun j task ne there => ⟨fair j task ne there, trivial⟩
  | call _ here answered fine ih => exact ih.call here answered ⟨fine, _, _, _, answered⟩
  | leave _ here ih => exact ih.leave here

/-- What `Along` says about a request that is issued. -/
theorem TaskRun.issued {ok : O → History S Q R → Move S Q → Prop} (run : TaskRun allowed prog env c₀ c)
    (quiet : c₀.quiet)
    (owes : ∀ op s, Along (allowed op) (ok op) (prog op) (fun _ _ => True) (.came s)) {i : ι}
    {op : O} {past : History S Q R} {q : Q} {next : R q → Prog S Q R α}
    (there : c.pool i = some ⟨op, past, .call q next⟩) : ok op past (.ask q) :=
  (run.along quiet owes there past .refl).1

/-- What `Along` says about a section that is run. -/
theorem TaskRun.entered {ok : O → History S Q R → Move S Q → Prop}
    (run : TaskRun allowed prog env c₀ c) (quiet : c₀.quiet)
    (owes : ∀ op s, Along (allowed op) (ok op) (prog op) (fun _ _ => True) (.came s)) {i : ι}
    {op : O} {past : History S Q R} {upd : S → S} {next : S → Prog S Q R α}
    (there : c.pool i = some ⟨op, past, .atomic upd next⟩) : ok op past (.run upd) :=
  (run.along quiet owes there past .refl).1

end

/-! ## Schedules -/

section

variable [DecidableEq ι]

/-- One step of a schedule; an operation that is done leaves. -/
def Tasks.turn (prog : O → Prog S Q R α) (handle : W → (q : Q) → R q × W)
    (c : Tasks ι O S W Q R α) : Sched ι O → Tasks ι O S W Q R α
  | .enter i op =>
      match c.pool i with
      | none => c.put i (some ⟨op, .came c.s, prog op⟩)
      | some _ => c
  | .run i =>
      match c.pool i with
      | none => c
      | some ⟨_, _, .done _⟩ => c.put i none
      | some ⟨op, past, .atomic upd next⟩ =>
          c.ran i ⟨op, .own past (upd c.s), next c.s⟩ (upd c.s)
      | some ⟨op, past, .call q next⟩ =>
          { c.put i (some ⟨op, .answer past q (handle c.w q).1, next (handle c.w q).1⟩) with
            w := (handle c.w q).2 }

def Tasks.play (prog : O → Prog S Q R α) (handle : W → (q : Q) → R q × W)
    (c : Tasks ι O S W Q R α) (schedule : List (Sched ι O)) : Tasks ι O S W Q R α :=
  schedule.foldl (Tasks.turn prog handle) c

/-- A schedule is a run of every environment the handler obeys. -/
theorem TaskRun.play {prog : O → Prog S Q R α} {env : Env S W Q R}
    {handle : W → (q : Q) → R q × W} (obeys : ∀ s w q, env s w q (handle w q).1 (handle w q).2)
    {c₀ c : Tasks ι O S W Q R α} (run : TaskRun (fun _ _ => True) prog env c₀ c)
    (schedule : List (Sched ι O)) :
    TaskRun (fun _ _ => True) prog env c₀ (Tasks.play prog handle c schedule) := by
  induction schedule generalizing c with
  | nil => exact run
  | cons t schedule ih =>
      refine ih ?_
      cases t with
      | enter i op =>
          unfold Tasks.turn
          dsimp only
          split
          next free => exact run.enter op free
          · exact run
      | run i =>
          unfold Tasks.turn
          dsimp only
          split
          · exact run
          next here => exact run.leave here
          next here => exact run.atomic here trivial fun _ _ _ _ => trivial
          next here => exact run.call here (obeys _ _ _) trivial

end

/-! ## A flag that is taken and given back -/

/-- An operation that has the flag resets it before it is done. One that does not have it takes it
where it is not set, and otherwise leaves it as it is; where it tries to take it and finds it set,
it returns `refusal`. -/
def Token (flag : S → Bool) (refusal : α) : Prog S Q R α → Bool → Prop
  | .done _, has => has = false
  | .atomic upd next, has => ∀ s, (has = true → flag s = true) →
      flag (upd s) = flag s ∧ Token flag refusal (next s) has ∧
        (has = false → Writes flag upd → next s = .done refusal) ∨
      has = false ∧ flag s = false ∧ flag (upd s) = true ∧ Token flag refusal (next s) true ∨
      has = true ∧ flag (upd s) = false ∧ Token flag refusal (next s) false
  | .call _ next, has => ∀ r, Token flag refusal (next r) has

section

variable {flag : S → Bool} {has : Bool}

/-- Sequencing after a part that leaves the flag alone. -/
theorem token_bind {p : Prog S Q R α} {f : α → Prog S Q R β} {post : α → Prop} {refusal : β}
    (within : Within (fun s s' => flag s' = flag s) p post)
    (rest : ∀ a, post a → Token flag refusal (f a) has) : Token flag refusal (p >>= f) has := by
  change Token flag refusal (p.bind f) has
  induction p with
  | done a => exact rest a within
  | atomic upd next ih =>
      intro s _
      refine .inl ⟨(within s).1, ih s (within s).2, ?_⟩
      rintro - ⟨s', changed⟩
      exact absurd (within s').1 changed
  | call q next ih => exact fun r => ih r (within r)

/-- An operation that leaves the flag alone. -/
theorem token_of_within {p : Prog S Q R α} {post : α → Prop} {refusal : α}
    (within : Within (fun s s' => flag s' = flag s) p post) : Token flag refusal p false := by
  induction p with
  | done a => rfl
  | atomic upd next ih =>
      intro s _
      refine .inl ⟨(within s).1, ih s (within s).2, ?_⟩
      rintro - ⟨s', changed⟩
      exact absurd (within s').1 changed
  | call q next ih => exact fun r => ih r (within r)

variable [DecidableEq ι] {refusal : α}

/-- The operation of slot `i` has the flag. -/
def Tasks.Holder (flag : S → Bool) (c : Tasks ι O S W Q R α) (i : ι) : Prop :=
  ∃ task, c.pool i = some task ∧ task.past.holding flag = true

/-- Every operation keeps the discipline, at most one has the flag, and it is set just when one has
it. -/
structure Tasks.Tokens (flag : S → Bool) (refusal : α) (c : Tasks ι O S W Q R α) : Prop where
  each {i : ι} {task : Task O S Q R α} :
    c.pool i = some task → Token flag refusal task.rest (task.past.holding flag)
  one {i j : ι} : c.Holder flag i → c.Holder flag j → i = j
  set : flag c.s = true ↔ ∃ i, c.Holder flag i

omit [DecidableEq ι] in
theorem Tasks.holder_iff {c : Tasks ι O S W Q R α} {i : ι} {task : Task O S Q R α}
    (there : c.pool i = some task) :
    c.Holder flag i ↔ task.past.holding flag = true := by
  constructor
  · rintro ⟨other, there', held⟩
    rw [there, Option.some.injEq] at there'
    subst there'
    exact held
  · exact fun held => ⟨task, there, held⟩

omit [DecidableEq ι] in
/-- The operations in progress and the flag are as before. -/
theorem Tasks.Tokens.keep {c c' : Tasks ι O S W Q R α} (tokens : c.Tokens flag refusal)
    (each : ∀ i task, c'.pool i = some task → Token flag refusal task.rest (task.past.holding flag))
    (holders : ∀ j, c'.Holder flag j ↔ c.Holder flag j) (same : flag c'.s = flag c.s) :
    c'.Tokens flag refusal where
  each := fun there => each _ _ there
  one := fun left right => tokens.one ((holders _).mp left) ((holders _).mp right)
  set := by
    rw [same, tokens.set]
    exact exists_congr fun j => (holders j).symm

theorem Tasks.pool_put_ne {c : Tasks ι O S W Q R α} {i j : ι} {task : Option (Task O S Q R α)}
    (ne : j ≠ i) : (c.put i task).pool j = c.pool j := Function.update_of_ne ne _ _

theorem Tasks.pool_put_self {c : Tasks ι O S W Q R α} {i : ι} {task : Option (Task O S Q R α)} :
    (c.put i task).pool i = task := Function.update_self _ _ _

theorem Tasks.pool_ran_ne {c : Tasks ι O S W Q R α} {i j : ι} {task : Task O S Q R α} {s : S}
    (ne : j ≠ i) : (c.ran i task s).pool j = (c.pool j).map fun other => other.witness s := by
  simp only [Tasks.ran, Function.update_of_ne ne]

theorem Tasks.pool_ran_self {c : Tasks ι O S W Q R α} {i : ι} {task : Task O S Q R α} {s : S} :
    (c.ran i task s).pool i = some task := by
  simp only [Tasks.ran, Function.update_self]

theorem Tasks.holder_ran_ne {c : Tasks ι O S W Q R α} {i j : ι} {task : Task O S Q R α} {s : S}
    (ne : j ≠ i) : (c.ran i task s).Holder flag j ↔ c.Holder flag j := by
  constructor
  · rintro ⟨t, there, held⟩
    rw [pool_ran_ne ne, Option.map_eq_some_iff] at there
    obtain ⟨before, there, rfl⟩ := there
    exact ⟨before, there, held⟩
  · rintro ⟨t, there, held⟩
    refine ⟨t.witness s, ?_, held⟩
    rw [pool_ran_ne ne, there, Option.map_some]

theorem Tasks.holder_put_ne {c : Tasks ι O S W Q R α} {i j : ι}
    {task : Option (Task O S Q R α)} (ne : j ≠ i) :
    (c.put i task).Holder flag j ↔ c.Holder flag j := by
  rw [Tasks.Holder, Tasks.Holder, pool_put_ne ne]

variable {allowed : O → History S Q R → Prop} {prog : O → Prog S Q R α} {env : Env S W Q R}
  {c₀ c : Tasks ι O S W Q R α}

/-- The new operation has no flag. -/
theorem Tasks.Tokens.enter (tokens : c.Tokens flag refusal) {i : ι} (free : c.pool i = none) {op : O}
    {p : Prog S Q R α} (keeps : Token flag refusal p false) :
    (c.put i (some ⟨op, .came c.s, p⟩)).Tokens flag refusal := by
  refine tokens.keep ?_ ?_ rfl
  · intro j task there
    by_cases eq : j = i
    · subst eq
      rw [pool_put_self, Option.some.injEq] at there
      subst there
      exact keeps
    · rw [pool_put_ne eq] at there
      exact tokens.each there
  · intro j
    by_cases eq : j = i
    · subst eq
      rw [Tasks.holder_iff pool_put_self]
      refine ⟨fun held => (by cases held), ?_⟩
      rintro ⟨task, there, -⟩
      rw [free] at there
      cases there
    · exact holder_put_ne eq

/-- An answer leaves the flag where it is. -/
theorem Tasks.Tokens.answer (tokens : c.Tokens flag refusal) {i : ι} {op : O} {past : History S Q R}
    {q : Q} {next : R q → Prog S Q R α} {r : R q} {w' : W}
    (here : c.pool i = some ⟨op, past, .call q next⟩) :
    Tasks.Tokens flag refusal { c.put i (some ⟨op, .answer past q r, next r⟩) with w := w' } := by
  have keeps := tokens.each here
  refine tokens.keep ?_ ?_ rfl
  · intro j task there
    by_cases eq : j = i
    · subst eq
      rw [show _ = some _ from pool_put_self, Option.some.injEq] at there
      subst there
      exact keeps r
    · exact tokens.each ((pool_put_ne eq).symm.trans there)
  · intro j
    by_cases eq : j = i
    · subst eq
      rw [Tasks.holder_iff here]
      have own : (c.put j (some ⟨op, .answer past q r, next r⟩)).Holder flag j ↔
          History.holding flag (.answer past q r) = true := Tasks.holder_iff pool_put_self
      exact own
    · exact holder_put_ne eq

/-- Who is done has given the flag back. -/
theorem Tasks.Tokens.leave (tokens : c.Tokens flag refusal) {i : ι} {op : O} {past : History S Q R} {a : α}
    (here : c.pool i = some ⟨op, past, .done a⟩) : (c.put i none).Tokens flag refusal := by
  have keeps : past.holding flag = false := tokens.each here
  refine tokens.keep ?_ ?_ rfl
  · intro j task there
    by_cases eq : j = i
    · subst eq
      rw [pool_put_self] at there
      cases there
    · rw [pool_put_ne eq] at there
      exact tokens.each there
  · intro j
    by_cases eq : j = i
    · subst eq
      rw [Tasks.holder_iff here, keeps]
      refine ⟨?_, fun held => (by cases held)⟩
      rintro ⟨task, there, -⟩
      rw [pool_put_self] at there
      cases there
    · exact holder_put_ne eq

/-- A section leaves the flag alone, takes it or gives it back. -/
theorem Tasks.Tokens.ran (tokens : c.Tokens flag refusal) {i : ι} {op : O} {past : History S Q R}
    {upd : S → S} {next : S → Prog S Q R α} (now : past.now = c.s)
    (here : c.pool i = some ⟨op, past, .atomic upd next⟩) :
    (c.ran i ⟨op, .own past (upd c.s), next c.s⟩ (upd c.s)).Tokens flag refusal := by
  have others : ∀ j task, j ≠ i → (c.ran i ⟨op, .own past (upd c.s), next c.s⟩
      (upd c.s)).pool j = some task → Token flag refusal task.rest (task.past.holding flag) := by
    intro j task ne there
    rw [pool_ran_ne ne, Option.map_eq_some_iff] at there
    obtain ⟨before, there, rfl⟩ := there
    have keeps := tokens.each there
    exact keeps
  have each : Token flag refusal (next c.s) (History.holding flag (.own past (upd c.s))) → ∀ j task,
      (c.ran i ⟨op, .own past (upd c.s), next c.s⟩ (upd c.s)).pool j = some task →
      Token flag refusal task.rest (task.past.holding flag) := by
    intro mine j task there
    by_cases eq : j = i
    · subst eq
      rw [pool_ran_self, Option.some.injEq] at there
      subst there
      exact mine
    · exact others j task eq there
  have own : (c.ran i ⟨op, .own past (upd c.s), next c.s⟩ (upd c.s)).Holder flag i ↔
      History.holding flag (.own past (upd c.s)) = true := Tasks.holder_iff pool_ran_self
  have set : past.holding flag = true → flag c.s = true := fun held =>
    tokens.set.mpr ⟨i, (Tasks.holder_iff here).mpr held⟩
  rcases tokens.each here c.s set with ⟨same, keeps, -⟩ | ⟨without, unset, taken, keeps⟩ |
    ⟨with', given, keeps⟩
  · have kept : History.holding flag (.own past (upd c.s)) = past.holding flag := by
      rw [History.holding, now, if_pos same]
    refine tokens.keep (each (by rwa [kept])) (fun j => ?_) same
    by_cases eq : j = i
    · subst eq
      rw [own, kept, Tasks.holder_iff here]
    · exact holder_ran_ne eq
  · have held : History.holding flag (.own past (upd c.s)) = true := by
      rw [History.holding, now, unset, taken]
      rfl
    have nobody : ∀ j, ¬ c.Holder flag j := fun j holds => by
      rw [tokens.set.mpr ⟨j, holds⟩] at unset
      cases unset
    have only : ∀ j, (c.ran i ⟨op, .own past (upd c.s), next c.s⟩ (upd c.s)).Holder flag j →
        j = i := by
      intro j holds
      by_contra ne
      exact nobody j ((holder_ran_ne ne).mp holds)
    refine ⟨fun there => each (by rwa [held]) _ _ there, fun left right => ?_, ?_⟩
    · exact (only _ left).trans (only _ right).symm
    · exact ⟨fun _ => ⟨i, own.mpr held⟩, fun _ => taken⟩
  · have dropped : History.holding flag (.own past (upd c.s)) = false := by
      rw [History.holding, now, set with', given]
      rfl
    have nobody : ∀ j, ¬ (c.ran i ⟨op, .own past (upd c.s), next c.s⟩ (upd c.s)).Holder flag j := by
      intro j holds
      by_cases eq : j = i
      · subst eq
        rw [own, dropped] at holds
        cases holds
      · exact eq (tokens.one ((holder_ran_ne eq).mp holds) ((Tasks.holder_iff here).mpr with'))
    refine ⟨fun there => each (by rwa [dropped]) _ _ there, fun left => (nobody _ left).elim, ?_⟩
    constructor
    · exact fun wrong => by cases given.symm.trans wrong
    · rintro ⟨j, holds⟩
      exact (nobody j holds).elim

omit [DecidableEq ι] in
/-- Who tries to take the flag while another has it is refused. -/
theorem Tasks.Tokens.refused (tokens : c.Tokens flag refusal) {i j : ι} {op : O}
    {past : History S Q R} {upd : S → S} {next : S → Prog S Q R α} (holds : c.Holder flag i)
    (ne : j ≠ i) (here : c.pool j = some ⟨op, past, .atomic upd next⟩) (tries : Writes flag upd) :
    flag (upd c.s) = flag c.s ∧ next c.s = .done refusal := by
  have without : past.holding flag = false := by
    rw [← Bool.not_eq_true]
    exact fun held => ne (tokens.one ⟨_, here, held⟩ holds)
  have set : flag c.s = true := tokens.set.mpr ⟨i, holds⟩
  have keeps := tokens.each here
  rw [without] at keeps
  rcases keeps c.s (fun held => (by cases held)) with ⟨same, -, refuses⟩ | ⟨-, unset, -⟩ | ⟨held, -⟩
  · exact ⟨same, refuses rfl tries⟩
  · rw [set] at unset
    cases unset
  · cases held

/-- The rule for a flag. -/
theorem TaskRun.tokens (run : TaskRun allowed prog env c₀ c) (quiet : c₀.quiet)
    (unset : flag c₀.s = false) (keeps : ∀ op, Token flag refusal (prog op) false) : c.Tokens flag refusal := by
  induction run with
  | start =>
      have nobody : ∀ j, ¬ c₀.Holder flag j := by
        rintro j ⟨task, there, -⟩
        rw [quiet j] at there
        cases there
      refine ⟨fun {i task} there => ?_, fun left => (nobody _ left).elim, ?_⟩
      · rw [quiet i] at there
        cases there
      · rw [unset]
        exact ⟨fun wrong => (by cases wrong), fun ⟨j, holds⟩ => (nobody j holds).elim⟩
  | enter op _ free ih => exact ih.enter free (keeps op)
  | atomic before here _ _ ih => exact ih.ran (before.now quiet here) here
  | call _ here _ _ ih => exact ih.answer here
  | leave _ here ih => exact ih.leave here

end

end Interact
