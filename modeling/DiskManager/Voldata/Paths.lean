import DiskManager.Voldata.Entries

/-!
# Paths of the mapping

Every mount path in memory is a voldata path: it was checked when it was loaded or built from a
slot.
-/

namespace DiskManager

open Interact

/-- Every mount path of the mapping is under the voldata prefix. -/
structure DataPaths (m : UuidMap) : Prop where
  path {k : CppString} {e : VoldataUuidEntry} : m[k]? = some e →
    CppString.startsWith e.mountPath VOLDATA_MOUNT_PREFIX = true

theorem DataPaths.empty : DataPaths ∅ where
  path hit := by
    rw [StdMap.get_empty] at hit
    cases hit

theorem startsWith_of_parse {mountPath : CppString} {slot : Nat}
    (parsed : parseVoldataSlotFromMountPath mountPath = some slot) :
    CppString.startsWith mountPath VOLDATA_MOUNT_PREFIX = true := by
  unfold parseVoldataSlotFromMountPath at parsed
  split at parsed
  · cases parsed
  · next inside =>
      cases under : CppString.startsWith mountPath VOLDATA_MOUNT_PREFIX with
      | true => rfl
      | false => exact absurd (.inr under) inside

theorem startsWith_buildMountPathForSlot (slot : Nat) :
    CppString.startsWith (buildMountPathForSlot slot) VOLDATA_MOUNT_PREFIX = true :=
  List.isPrefixOf_iff_prefix.mpr (List.prefix_append _ _)

theorem dataPaths_rule :
    EntryRule fun _ e => CppString.startsWith e.mountPath VOLDATA_MOUNT_PREFIX = true where
  loaded read := startsWith_of_parse (fromJson_eq_some read).2.2.1
  made slot _ := startsWith_buildMountPathForSlot slot
  renamed _ under := under

/-! ## The operations -/

/-- The store's mapping has voldata paths only. -/
abbrev StoreState.dataPaths (s : StoreState) : Prop := DataPaths s.uuidMap

theorem StoreState.dataPaths_eq : StoreState.dataPaths = StoreState.entries fun _ e =>
    CppString.startsWith e.mountPath VOLDATA_MOUNT_PREFIX = true :=
  funext fun _ => propext ⟨fun paths _ _ hit => paths.path hit, fun entries => ⟨entries _ _⟩⟩

section

variable [JsonLib]

theorem keepsPaths_init : Keeps StoreState.dataPaths init fun _ => True := by
  rw [StoreState.dataPaths_eq]
  exact keepsEntries_init dataPaths_rule

/-- `ResolveMountPath` keeps the paths, and gives out one of them. -/
theorem keepsPaths_resolveMountPath (fsUuid : CppString) :
    Keeps StoreState.dataPaths (resolveMountPath fsUuid) fun result =>
      result.1 = E_OK → CppString.startsWith result.2.1 VOLDATA_MOUNT_PREFIX = true := by
  rw [StoreState.dataPaths_eq]
  refine keeps_mono ?_ (keepsEntries_resolveMountPath dataPaths_rule fsUuid)
  intro result given ok
  obtain ⟨e, under, path⟩ := given ok
  rwa [path]

theorem keepsPaths_removeByFsUuid (fsUuid : CppString) :
    Keeps StoreState.dataPaths (removeByFsUuid fsUuid) fun _ => True := by
  rw [StoreState.dataPaths_eq]
  exact keepsEntries_removeByFsUuid dataPaths_rule fsUuid

theorem keepsPaths_replaceFsUuid (oldFsUuid newFsUuid : CppString) :
    Keeps StoreState.dataPaths (replaceFsUuid oldFsUuid newFsUuid) fun _ => True := by
  rw [StoreState.dataPaths_eq]
  exact keepsEntries_replaceFsUuid dataPaths_rule oldFsUuid newFsUuid

end

end DiskManager
