import Mathlib.Algebra.Group.Nat.Defs

/-!
# Parcels

An object is written to a parcel field by field, each field appended to what is there, and read
from the front of what is left. Nothing in the parcel says where a field ends: a reader that takes
the fields in another order reads other objects.

* `Primitive`: a type of field, whose write is undone by its read.
* `ReadsIf m r c a`: when the writer `m` writes, then what it appended is read by `r` as `a`, with
  what follows left over, if `c` holds, and is refused otherwise. `ReadsIf.bind` composes
  it along the fields of an object, `ReadsIf.many` along a list.
-/

namespace Parcels

variable {B : Type} {α β γ : Type}

/-- Work on a parcel of `B`s: a writer appends to it or fails, a reader takes from the front of what
is left or refuses. -/
abbrev OnParcel (B : Type) : Type → Type := StateT (List B) Option

/-- A type of field: a write may fail, a read always gives something, and a read undoes a write. -/
structure Primitive (B : Type) (α : Type) : Type where
  write : α → OnParcel B Unit
  read : List B → α × List B
  undone {a : α} {p p' : List B} : (write a).run p = some ((), p') →
    ∃ bytes, p' = p ++ bytes ∧ ∀ rest, read (bytes ++ rest) = (a, rest)

/-- The read of a field as a reader. -/
def Primitive.take (field : Primitive B α) : OnParcel B α := fun p => some (field.read p)

/-- Writes of the field never fail. -/
def Primitive.Accepts (field : Primitive B α) : Prop :=
  ∀ a p, ((field.write a).run p).isSome = true

/-- What `m` appended is read by `r` as `a` if `c` holds, and refused otherwise. -/
def ReadsIf (m : OnParcel B Unit) (r : OnParcel B α) (c : Prop) (a : α) : Prop :=
  ∀ p p' : List B, m.run p = some ((), p') → ∃ bytes, p' = p ++ bytes ∧
    ∀ rest, (c → r.run (bytes ++ rest) = some (a, rest)) ∧ (¬ c → r.run (bytes ++ rest) = none)

theorem ReadsIf.nothing (a : α) : ReadsIf (pure () : OnParcel B Unit) (pure a) True a := by
  intro p p' wrote
  cases wrote
  refine ⟨[], (List.append_nil p).symm, fun rest => ⟨fun _ => rfl, fun no => absurd trivial no⟩⟩

theorem ReadsIf.field (field : Primitive B α) (a : α) :
    ReadsIf (field.write a) field.take True a := by
  intro p p' wrote
  obtain ⟨bytes, same, read⟩ := field.undone wrote
  refine ⟨bytes, same, fun rest => ⟨fun _ => ?_, fun no => absurd trivial no⟩⟩
  exact congrArg some (read rest)

/-- One field after another. -/
theorem ReadsIf.bind {m m' : OnParcel B Unit} {r : OnParcel B α} {f : α → OnParcel B β}
    {c c' : Prop} {a : α} {b : β} (first : ReadsIf m r c a) (second : ReadsIf m' (f a) c' b) :
    ReadsIf (do m; m') (r >>= f) (c ∧ c') b := by
  intro p p' wrote
  rw [StateT.run_bind, Option.bind_eq_bind, Option.bind_eq_some_iff] at wrote
  obtain ⟨⟨⟨⟩, p₁⟩, wrote₁, wrote₂⟩ := wrote
  obtain ⟨bytes₁, rfl, read₁⟩ := first _ _ wrote₁
  obtain ⟨bytes₂, rfl, read₂⟩ := second _ _ wrote₂
  refine ⟨bytes₁ ++ bytes₂, List.append_assoc _ _ _, fun rest => ?_⟩
  rw [StateT.run_bind, List.append_assoc]
  by_cases held : c
  · rw [(read₁ _).1 held]
    refine ⟨fun both => (read₂ rest).1 both.2, fun either => (read₂ rest).2 fun held' => ?_⟩
    exact either ⟨held, held'⟩
  · rw [(read₁ _).2 held]
    exact ⟨fun both => absurd both.1 held, fun _ => rfl⟩

theorem ReadsIf.congr {m : OnParcel B Unit} {r : OnParcel B α} {c c' : Prop} {a : α}
    (reads : ReadsIf m r c a) (same : c ↔ c') : ReadsIf m r c' a := by
  rwa [← propext same]

/-- The last field, from which the object is made. -/
theorem ReadsIf.last {m : OnParcel B Unit} {r : OnParcel B α} {c : Prop} {a : α} (f : α → β)
    (reads : ReadsIf m r c a) :
    ReadsIf m (do
      let x ← r
      pure (f x)) c (f a) := by
  intro p p' wrote
  obtain ⟨bytes, rfl, read⟩ := reads _ _ wrote
  refine ⟨bytes, rfl, fun rest => ⟨fun held => ?_, fun failed => ?_⟩⟩
  · rw [StateT.run_bind, (read rest).1 held]
    rfl
  · rw [StateT.run_bind, (read rest).2 failed]
    rfl

/-- A field that is refused when it fails a check. -/
def Primitive.takeIf (field : Primitive B α) (check : α → Bool) : OnParcel B α := do
  let a ← field.take
  if check a then pure a else failure

theorem Primitive.run_takeIf (field : Primitive B α) (check : α → Bool) (p : List B) :
    (field.takeIf check).run p = if check (field.read p).1 then some (field.read p) else none := by
  change (if check (field.read p).1 = true then pure (field.read p).1 else failure :
    OnParcel B α).run (field.read p).2 = _
  split
  · rfl
  · rfl

theorem ReadsIf.fieldIf (field : Primitive B α) (check : α → Bool) (a : α) :
    ReadsIf (field.write a) (field.takeIf check) (check a = true) a := by
  intro p p' wrote
  obtain ⟨bytes, same, read⟩ := field.undone wrote
  refine ⟨bytes, same, fun rest => ?_⟩
  rw [field.run_takeIf, read]
  exact ⟨fun held => if_pos held, fun failed => if_neg failed⟩

/-! ## Lists -/

/-- `n` elements, one after another. -/
def readMany (r : OnParcel B α) : Nat → OnParcel B (List α)
  | 0 => pure []
  | n + 1 => do
      let x ← r
      let xs ← readMany r n
      pure (x :: xs)

theorem ReadsIf.many {w : α → OnParcel B Unit} {r : OnParcel B α} {c : α → Prop}
    (element : ∀ x, ReadsIf (w x) r (c x) x) (xs : List α) :
    ReadsIf (xs.forM w) (readMany r xs.length) (∀ x ∈ xs, c x) xs := by
  induction xs with
  | nil => exact (ReadsIf.nothing []).congr (iff_of_true trivial fun _ mem => by cases mem)
  | cons x xs ih =>
      refine ((element x).bind (ih.last (x :: ·))).congr ?_
      simp only [List.forall_mem_cons]

/-- A list with its length in front. A length over `max` is refused. -/
def writeCounted (count : Primitive B UInt32) (w : α → OnParcel B Unit) (xs : List α) :
    OnParcel B Unit := do
  count.write (UInt32.ofNat xs.length)
  xs.forM w

def readCounted (count : Primitive B UInt32) (max : UInt32) (r : OnParcel B α) :
    OnParcel B (List α) := do
  let n ← count.takeIf (· ≤ max)
  readMany r n.toNat

theorem ReadsIf.counted {count : Primitive B UInt32} {max : UInt32} {w : α → OnParcel B Unit}
    {r : OnParcel B α} {c : α → Prop} (element : ∀ x, ReadsIf (w x) r (c x) x) {xs : List α}
    (small : xs.length < 2 ^ 32) :
    ReadsIf (writeCounted count w xs) (readCounted count max r)
      (xs.length ≤ max.toNat ∧ ∀ x ∈ xs, c x) xs := by
  have length : (UInt32.ofNat xs.length).toNat = xs.length := UInt32.toNat_ofNat_of_lt' small
  have elements := ReadsIf.many element xs
  rw [← length] at elements
  refine ((ReadsIf.fieldIf count (· ≤ max) _).bind elements).congr ?_
  rw [decide_eq_true_iff, UInt32.le_iff_toNat_le, length]

/-! ## Writes that never fail -/

/-- The writer always writes. -/
def Writes (m : OnParcel B Unit) : Prop := ∀ p, (m.run p).isSome = true

theorem Writes.nothing : Writes (pure () : OnParcel B Unit) := fun _ => rfl

theorem Writes.bind {m m' : OnParcel B Unit} (first : Writes m) (second : Writes m') :
    Writes (do m; m') := by
  intro p
  obtain ⟨⟨⟨⟩, p₁⟩, wrote⟩ := Option.isSome_iff_exists.mp (first p)
  rw [StateT.run_bind, wrote]
  exact second p₁

theorem Writes.forM {w : α → OnParcel B Unit} {xs : List α} (element : ∀ x ∈ xs, Writes (w x)) :
    Writes (xs.forM w) := by
  induction xs with
  | nil => exact .nothing
  | cons x xs ih =>
      refine .bind (element x List.mem_cons_self) (ih fun y mem => ?_)
      exact element y (List.mem_cons_of_mem x mem)

/-- An object that crosses: it is written, and what was written is read back, with what follows left
over. -/
theorem ReadsIf.crosses {m : OnParcel B Unit} {r : OnParcel B α} {c : Prop} {a : α}
    (reads : ReadsIf m r c a) (writes : Writes m) (held : c) (p : List B) :
    ∃ bytes, m.run p = some ((), p ++ bytes) ∧ ∀ rest, r.run (bytes ++ rest) = some (a, rest) := by
  obtain ⟨⟨⟨⟩, p'⟩, wrote⟩ := Option.isSome_iff_exists.mp (writes p)
  obtain ⟨bytes, rfl, read⟩ := reads _ _ wrote
  exact ⟨bytes, wrote, fun rest => (read rest).1 held⟩

end Parcels
