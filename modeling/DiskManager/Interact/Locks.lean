import Mathlib.Data.Fintype.Basic
import Mathlib.Logic.Function.Basic
import Mathlib.Logic.Relation
import Mathlib.Order.WellFounded

/-!
# Locks taken in order

A program is seen through the locks it takes. `Code` is its control flow with scoped locks,
`Path` the sequences of events its executions show.

* `InOrder held p`: along `p`, whoever holds `held` acquires only locks above all it holds.
* `Code.keeps`, `Code.breaks`: a check of the control flow that decides which paths are in order
  (`Path.inOrder_iff`).
* `Step`, `Deadlocked`: threads that run such paths, and a set of threads that wait for each
  other; `no_deadlock`.
-/

namespace Locks

/-- A lock is held shared, for reading, or alone. -/
inductive Mode : Type
  | read
  | write
deriving DecidableEq

/-- Two holders of one lock exclude each other unless both read. -/
def Mode.conflicts : Mode → Mode → Bool
  | .read, .read => false
  | _, _ => true

/-- What an execution shows of a program: its locks, and what its marked lookups find. -/
inductive Event (M L : Type) : Type
  | acquire (m : M) (mode : Mode)
  | release (m : M) (mode : Mode)
  | finds (found : L)
deriving DecidableEq

/-- Control flow with scoped locks. `either` is a choice that the locks do not show, `finds`
one by a lookup that they do. -/
inductive Code (M L : Type) : Type
  | skip
  | seq (first second : Code M L)
  | either (left right : Code M L)
  | loop (body : Code M L)
  | hold (m : M) (mode : Mode) (body : Code M L)
  | finds (branch : L → Code M L)

variable {M L ι : Type}

instance Code.append : Append (Code M L) := ⟨Code.seq⟩

instance Code.orElse : OrElse (Code M L) := ⟨fun left right => .either left (right ())⟩

/-- The program may have returned before `code`, or go around it. -/
def Code.maybe (code : Code M L) : Code M L := .skip <|> code

/-- The events of a whole execution. -/
inductive Path : Code M L → List (Event M L) → Prop
  | skip : Path .skip []
  | seq {first second : Code M L} {p q : List (Event M L)} :
      Path first p → Path second q → Path (.seq first second) (p ++ q)
  | left {left right : Code M L} {p : List (Event M L)} :
      Path left p → Path (.either left right) p
  | right {left right : Code M L} {p : List (Event M L)} :
      Path right p → Path (.either left right) p
  | done {body : Code M L} : Path (.loop body) []
  | again {body : Code M L} {p q : List (Event M L)} :
      Path body p → Path (.loop body) q → Path (.loop body) (p ++ q)
  | hold {m : M} {mode : Mode} {body : Code M L} {p : List (Event M L)} :
      Path body p → Path (.hold m mode body) (.acquire m mode :: (p ++ [.release m mode]))
  | finds {branch : L → Code M L} {found : L} {p : List (Event M L)} :
      Path (branch found) p → Path (.finds branch) (.finds found :: p)

/-! ## The order along a path -/

section

variable [DecidableEq M]

/-- The locks held after the events, the last one taken first. -/
def heldAfter (held : List (M × Mode)) : List (Event M L) → List (M × Mode)
  | [] => held
  | .acquire m mode :: p => heldAfter ((m, mode) :: held) p
  | .release m mode :: p => heldAfter (held.erase (m, mode)) p
  | .finds _ :: p => heldAfter held p

variable [Preorder M]

/-- Every lock that is acquired along the path is above all that are held then. -/
def InOrder (held : List (M × Mode)) : List (Event M L) → Prop
  | [] => True
  | .acquire m mode :: p => (∀ h ∈ held, h.1 < m) ∧ InOrder ((m, mode) :: held) p
  | .release m mode :: p => InOrder (held.erase (m, mode)) p
  | .finds _ :: p => InOrder held p

theorem inOrder_append {held : List (M × Mode)} {p q : List (Event M L)} :
    InOrder held (p ++ q) ↔ InOrder held p ∧ InOrder (heldAfter held p) q := by
  induction p generalizing held with
  | nil => simp only [List.nil_append, InOrder, heldAfter, true_and]
  | cons e p ih =>
      cases e <;> simp only [List.cons_append, InOrder, heldAfter, ih, and_assoc]

/-- The order, with the acquisitions of a path looked at one by one. -/
theorem inOrder_iff_acquires {held : List (M × Mode)} {p : List (Event M L)} :
    InOrder held p ↔ ∀ before m mode after, p = before ++ .acquire m mode :: after →
      ∀ h ∈ heldAfter held before, h.1 < m := by
  constructor
  · rintro ordered before m mode after rfl
    exact (inOrder_append.mp ordered).2.1
  · intro acquires
    induction p generalizing held with
    | nil => trivial
    | cons e p ih =>
        have later : ∀ before m mode after, p = before ++ .acquire m mode :: after →
            ∀ h ∈ heldAfter held (e :: before), h.1 < m := by
          intro before m mode after split
          exact acquires (e :: before) m mode after (by rw [split, List.cons_append])
        cases e with
        | acquire m mode => exact ⟨acquires [] m mode p rfl, ih later⟩
        | release m mode => exact ih later
        | finds found => exact ih later

end

/-! ## Scoped locks are given back -/

section

variable [DecidableEq M]

theorem heldAfter_append {held : List (M × Mode)} {p q : List (Event M L)} :
    heldAfter held (p ++ q) = heldAfter (heldAfter held p) q := by
  induction p generalizing held with
  | nil => rfl
  | cons e p ih => cases e <;> simp only [List.cons_append, heldAfter, ih]

/-- A whole execution leaves the locks as it found them. -/
theorem Path.heldAfter {code : Code M L} {p : List (Event M L)} (path : Path code p) :
    ∀ held : List (M × Mode), heldAfter held p = held := by
  induction path with
  | skip => exact fun _ => rfl
  | seq _ _ first second => intro held; rw [heldAfter_append, first, second]
  | left _ ih => exact ih
  | right _ ih => exact ih
  | done => exact fun _ => rfl
  | again _ _ body rest => intro held; rw [heldAfter_append, body, rest]
  | @hold m mode _ _ _ ih =>
      intro held
      rw [Locks.heldAfter, heldAfter_append, ih, Locks.heldAfter, List.erase_cons_head,
        Locks.heldAfter]
  | finds _ ih => exact ih

/-! ## Checking the control flow -/

variable [Preorder M] [DecidableLT M] [Fintype L]

/-- Every execution under the locks `held` takes a lock out of order. -/
def Code.breaks (held : List (M × Mode)) : Code M L → Bool
  | .skip => false
  | .seq first second => first.breaks held || second.breaks held
  | .either left right => left.breaks held && right.breaks held
  | .loop _ => false
  | .hold m mode body =>
      !held.all (fun h => decide (h.1 < m)) || body.breaks ((m, mode) :: held)
  | .finds branch => decide (∀ found, (branch found).breaks held = true)

/-- Under the locks `held` the order is kept, unless a lookup has a bad result, and never after
one that has. -/
def Code.keeps (bad : L → Bool) (held : List (M × Mode)) : Code M L → Bool
  | .skip => true
  | .seq first second => first.keeps bad held && second.keeps bad held
  | .either left right => left.keeps bad held && right.keeps bad held
  | .loop body => body.keeps bad held
  | .hold m mode body =>
      held.all (fun h => decide (h.1 < m)) && body.keeps bad ((m, mode) :: held)
  | .finds branch => decide (∀ found,
      (bif bad found then (branch found).breaks held else (branch found).keeps bad held) = true)

omit [DecidableLT M] [Fintype L] in
theorem Path.inOrder_append {code : Code M L} {p : List (Event M L)} (path : Path code p)
    {held : List (M × Mode)} {q : List (Event M L)} :
    InOrder held (p ++ q) ↔ InOrder held p ∧ InOrder held q := by
  rw [Locks.inOrder_append, path.heldAfter]

omit [DecidableLT M] [Fintype L] in
/-- A scope is in order when its lock is, and what is inside. -/
theorem Path.inOrder_hold {body : Code M L} {p : List (Event M L)} (path : Path body p)
    {held : List (M × Mode)} {m : M} {mode : Mode} :
    InOrder held (.acquire m mode :: (p ++ [.release m mode])) ↔
      (∀ h ∈ held, h.1 < m) ∧ InOrder ((m, mode) :: held) p := by
  rw [InOrder, path.inOrder_append, InOrder, InOrder, and_true]

theorem Path.not_inOrder {code : Code M L} {p : List (Event M L)} (path : Path code p) :
    ∀ {held : List (M × Mode)}, code.breaks held = true → ¬ InOrder held p := by
  induction path with
  | skip => exact fun breaks => Bool.noConfusion breaks
  | seq path _ first second =>
      intro held breaks
      rw [path.inOrder_append]
      rw [Code.breaks, Bool.or_eq_true] at breaks
      rintro ⟨ordered, rest⟩
      rcases breaks with breaks | breaks
      · exact first breaks ordered
      · exact second breaks rest
  | left _ ih =>
      intro held breaks
      rw [Code.breaks, Bool.and_eq_true] at breaks
      exact ih breaks.1
  | right _ ih =>
      intro held breaks
      rw [Code.breaks, Bool.and_eq_true] at breaks
      exact ih breaks.2
  | done => exact fun breaks => Bool.noConfusion breaks
  | again => exact fun breaks => Bool.noConfusion breaks
  | hold path ih =>
      intro held breaks
      rw [path.inOrder_hold]
      rw [Code.breaks, Bool.or_eq_true, Bool.not_eq_true', List.all_eq_false] at breaks
      rintro ⟨above, ordered⟩
      rcases breaks with ⟨h, mem, below⟩ | breaks
      · exact below (decide_eq_true (above h mem))
      · exact ih breaks ordered
  | @finds _ found _ _ ih =>
      intro held breaks
      rw [Code.breaks, decide_eq_true_eq] at breaks
      exact ih (breaks found)

/-- A checked program keeps the order on exactly the paths without a bad lookup. -/
theorem Path.inOrder_iff {bad : L → Bool} {code : Code M L} {p : List (Event M L)}
    (path : Path code p) : ∀ {held : List (M × Mode)}, code.keeps bad held = true →
      (InOrder held p ↔ ∀ found, .finds found ∈ p → bad found = false) := by
  induction path with
  | skip => intro held _; simp only [InOrder, List.not_mem_nil, false_implies, implies_true]
  | seq path _ first second =>
      intro held keeps
      rw [Code.keeps, Bool.and_eq_true] at keeps
      rw [path.inOrder_append, first keeps.1, second keeps.2]
      simp only [List.mem_append, or_imp, forall_and]
  | left _ ih =>
      intro held keeps
      rw [Code.keeps, Bool.and_eq_true] at keeps
      exact ih keeps.1
  | right _ ih =>
      intro held keeps
      rw [Code.keeps, Bool.and_eq_true] at keeps
      exact ih keeps.2
  | done => intro held _; simp only [InOrder, List.not_mem_nil, false_implies, implies_true]
  | again path _ body rest =>
      intro held keeps
      rw [path.inOrder_append, body keeps, rest keeps]
      simp only [List.mem_append, or_imp, forall_and]
  | hold path ih =>
      intro held keeps
      rw [Code.keeps, Bool.and_eq_true, List.all_eq_true] at keeps
      have above : ∀ h ∈ held, h.1 < _ := fun h mem => of_decide_eq_true (keeps.1 h mem)
      rw [path.inOrder_hold, ih keeps.2, and_iff_right above]
      simp only [List.mem_cons, List.mem_append, List.not_mem_nil, or_false, reduceCtorEq, false_or]
  | @finds branch found p path ih =>
      intro held keeps
      rw [Code.keeps, decide_eq_true_eq] at keeps
      have keeps := keeps found
      cases isBad : bad found with
      | true =>
          rw [isBad, cond_true] at keeps
          refine iff_of_false (path.not_inOrder keeps) fun fine => ?_
          have := fine found List.mem_cons_self
          rw [isBad] at this
          exact Bool.noConfusion this
      | false =>
          rw [isBad, cond_false] at keeps
          rw [InOrder, ih keeps]
          constructor
          · intro fine other mem
            rcases List.mem_cons.mp mem with same | mem
            · cases same
              exact isBad
            · exact fine other mem
          · exact fun fine other mem => fine other (List.mem_cons_of_mem _ mem)

end

/-! ## Threads -/

/-- A thread: the locks it holds and what is left of its execution. -/
structure Thread (M L : Type) : Type where
  held : List (M × Mode)
  rest : List (Event M L)

/-- The thread is about to acquire the lock. -/
def Thread.wants (thread : Thread M L) (m : M) (mode : Mode) : Prop :=
  thread.rest.head? = some (.acquire m mode)

/-- Every thread before its first step. -/
def starting (paths : ι → List (Event M L)) (i : ι) : Thread M L := ⟨[], paths i⟩

section

variable [DecidableEq M] [DecidableEq ι]

/-- One step of one thread. A lock is given to whoever asks while no holder excludes it: this
step never waits for those who wait. -/
inductive Step : (ι → Thread M L) → (ι → Thread M L) → Prop
  | acquire {c : ι → Thread M L} (i : ι) {m : M} {mode : Mode} {rest : List (Event M L)} :
      (c i).rest = .acquire m mode :: rest →
      (∀ j, ∀ h ∈ (c j).held, h.1 = m → mode.conflicts h.2 = false) →
      Step c (Function.update c i ⟨(m, mode) :: (c i).held, rest⟩)
  | release {c : ι → Thread M L} (i : ι) {m : M} {mode : Mode} {rest : List (Event M L)} :
      (c i).rest = .release m mode :: rest →
      Step c (Function.update c i ⟨(c i).held.erase (m, mode), rest⟩)
  | finds {c : ι → Thread M L} (i : ι) {found : L} {rest : List (Event M L)} :
      (c i).rest = .finds found :: rest →
      Step c (Function.update c i ⟨(c i).held, rest⟩)

/-- Configurations that a run reaches. -/
abbrev Reaches : (ι → Thread M L) → (ι → Thread M L) → Prop := Relation.ReflTransGen Step

/-- Thread `i` waits for thread `j`: `j` holds the lock that `i` wants and excludes it, or `i`
wants to read and `j` waits to write. -/
def WaitsFor (c : ι → Thread M L) (i j : ι) : Prop :=
  ∃ m mode, (c i).wants m mode ∧
    ((∃ h ∈ (c j).held, h.1 = m ∧ mode.conflicts h.2 = true) ∨
      (mode = .read ∧ (c j).wants m .write))

/-- The threads of `D` wait for each other only. -/
def Deadlocked (c : ι → Thread M L) (D : Set ι) : Prop :=
  D.Nonempty ∧ ∀ i ∈ D, ∃ j ∈ D, WaitsFor c i j

/-! ## No deadlock -/

variable [Preorder M]

theorem Step.inOrder {c c' : ι → Thread M L} (step : Step c c')
    (ordered : ∀ i, InOrder (c i).held (c i).rest) : ∀ i, InOrder (c' i).held (c' i).rest := by
  obtain ⟨i, thread, rfl, moved⟩ : ∃ i thread, c' = Function.update c i thread ∧
      InOrder thread.held thread.rest := by
    cases step with
    | acquire i next _ =>
        have ordered := ordered i
        rw [next] at ordered
        exact ⟨i, _, rfl, ordered.2⟩
    | release i next =>
        have ordered := ordered i
        rw [next] at ordered
        exact ⟨i, _, rfl, ordered⟩
    | finds i next =>
        have ordered := ordered i
        rw [next] at ordered
        exact ⟨i, _, rfl, ordered⟩
  intro j
  by_cases same : j = i
  · subst same
    rw [Function.update_self]
    exact moved
  · rw [Function.update_of_ne same]
    exact ordered j

theorem Reaches.inOrder {c c' : ι → Thread M L} (run : Reaches c c')
    (ordered : ∀ i, InOrder (c i).held (c i).rest) : ∀ i, InOrder (c' i).held (c' i).rest := by
  induction run with
  | refl => exact ordered
  | tail _ step ih => exact step.inOrder ih

omit [DecidableEq ι] in
/-- A thread in order holds nothing as high as the lock it wants. -/
theorem lt_of_wants {thread : Thread M L} (ordered : InOrder thread.held thread.rest) {m : M}
    {mode : Mode} (wants : thread.wants m mode) : ∀ h ∈ thread.held, h.1 < m := by
  obtain ⟨held, rest⟩ := thread
  cases rest with
  | nil => cases wants
  | cons e rest =>
      have same : e = .acquire m mode := Option.some.inj wants
      subst same
      exact ordered.1

omit [DecidableEq ι] in
/-- Threads that acquire in order do not deadlock. -/
theorem no_deadlock [WellFoundedGT M] {c : ι → Thread M L}
    (ordered : ∀ i, InOrder (c i).held (c i).rest) {D : Set ι} : ¬ Deadlocked c D := by
  rintro ⟨⟨i, mem⟩, waits⟩
  -- The highest lock that a thread of `D` wants.
  obtain ⟨m, ⟨i, mem, mode, wants⟩, highest⟩ :
      ∃ m ∈ {m : M | ∃ i ∈ D, ∃ mode, (c i).wants m mode},
        ∀ other ∈ {m : M | ∃ i ∈ D, ∃ mode, (c i).wants m mode}, ¬ m < other := by
    obtain ⟨_, _, m, mode, wants, _⟩ := waits i mem
    exact wellFounded_gt.has_min _ ⟨m, i, mem, mode, wants⟩
  -- No thread of `D` holds it: it would want a higher one.
  have free : ∀ j ∈ D, ∀ h ∈ (c j).held, h.1 ≠ m := by
    rintro j memJ h held rfl
    obtain ⟨_, _, other, mode, wants, _⟩ := waits j memJ
    exact highest other ⟨j, memJ, mode, wants⟩ (lt_of_wants (ordered j) wants h held)
  have writing : ∀ j ∈ D, ¬ (c j).wants m .write := by
    intro j memJ wants
    obtain ⟨k, memK, other, mode, wants', why⟩ := waits j memJ
    have same : other = m ∧ mode = .write := by
      have := wants'.symm.trans wants
      simpa only [Option.some.injEq, Event.acquire.injEq] using this
    obtain ⟨rfl, rfl⟩ := same
    rcases why with ⟨h, held, same, _⟩ | ⟨reads, _⟩
    · exact free k memK h held same
    · cases reads
  obtain ⟨j, memJ, other, mode', wants', why⟩ := waits i mem
  have same : other = m := by
    have := wants'.symm.trans wants
    simp only [Option.some.injEq, Event.acquire.injEq] at this
    exact this.1
  subst same
  rcases why with ⟨h, held, same, _⟩ | ⟨_, write⟩
  · exact free j memJ h held same
  · exact writing j memJ write

end

end Locks
