import DiskManager.Manager.Lookup
import DiskManager.Traversal

/-!
# Mount paths stay below their roots

`IsUuidValid` looks for `../` at the start of a segment and for `/..` at the end, and accepts `..`
itself.

* `eq_parent_of_mem_splitOn`: in what `IsFilePathInvalid` lets pass, no segment is `..`, unless the
  whole string is.
* `mount_path_confined_iff`: a valid uuid leads strictly below the three mount roots exactly when it
  is not `..` and one of its segments is a name.
-/

namespace DiskManager

open CppString LexicalPath

/-! ## The traversal filter -/

/-- What the filter lets pass has no segment `..`, unless it is `..` itself. -/
theorem eq_parent_of_mem_splitOn {s : CppString} (passes : isFilePathInvalid s = false)
    (mem : (".." : CppString) ∈ s.splitOn '/') : s = ("..": CppString) := by
  by_cases separated : '/' ∈ s
  · have refused : isFilePathInvalid s = true := by
      rcases parent_segment_iff.mp ⟨separated, mem⟩ with leading | trailing
      · exact isFilePathInvalid_iff.mpr (.inr (.inl leading))
      · exact isFilePathInvalid_iff.mpr (.inr (.inr (.inl trailing)))
    rw [refused] at passes
    cases passes
  · rw [List.splitOn_eq_singleton separated, List.mem_singleton] at mem
    exact mem.symm

/-! ## The mount roots -/

/-- Where `BuildMountDataPath` and the FUSE helpers put a file-system uuid. -/
def mountRoots : List CppString :=
  [EXTERNAL_MOUNT_ROOT, EXTERNAL_FUSE_DATA_ROOT, EXTERNAL_DVR_ROOT]

/-- Every mount root ends with a separator. -/
theorem exists_directory {root : CppString} (isRoot : root ∈ mountRoots) :
    ∃ directory : CppString, root = directory ++ ['/'] := by
  simp only [mountRoots, List.mem_cons, List.not_mem_nil, or_false] at isRoot
  rcases isRoot with rfl | rfl | rfl
  · exact ⟨"/mnt/data/external", rfl⟩
  · exact ⟨"/mnt/data/external_fuse", rfl⟩
  · exact ⟨"/mnt/data/dvr", rfl⟩

theorem not_invalid_of_isUuidValid {u : CppString} (valid : isUuidValid u = true) :
    isFilePathInvalid u = false := by
  unfold isUuidValid at valid
  split at valid
  next => cases valid
  next passes => exact Bool.eq_false_iff.mpr passes

/-- A valid uuid names something strictly below each mount root exactly when it is not `..` and has
a segment that is a name. -/
theorem mount_path_confined_iff {u : CppString} (valid : isUuidValid u = true) {root : CppString}
    (isRoot : root ∈ mountRoots) :
    StrictlyBelow '/' '.' root (root ++ u) ↔
      u ≠ (".." : CppString) ∧ ∃ segment ∈ u.splitOn '/', ¬ Idle '.' segment := by
  obtain ⟨directory, rfl⟩ := exists_directory isRoot
  by_cases parent : u = (".." : CppString)
  · subst parent
    have outside : ¬ StrictlyBelow '/' '.' (directory ++ ['/']) (directory ++ ['/'] ++ ['.', '.']) :=
      not_strictlyBelow_parent (by decide)
    exact ⟨fun below => absurd below outside, fun ⟨other, _⟩ => absurd rfl other⟩
  · have noParent : ['.', '.'] ∉ u.splitOn '/' := fun mem =>
      parent (eq_parent_of_mem_splitOn (not_invalid_of_isUuidValid valid) mem)
    rw [strictlyBelow_append_iff noParent, and_iff_right parent]

theorem mount_path_confined_iff_serial :
    isUuidValid "1234-ABCD" = true ∧
      (StrictlyBelow '/' '.' EXTERNAL_MOUNT_ROOT (EXTERNAL_MOUNT_ROOT ++ ("1234-ABCD" : CppString)) ↔
        ("1234-ABCD" : CppString) ≠ (".." : CppString) ∧
          ∃ segment ∈ ("1234-ABCD" : CppString).splitOn '/', ¬ Idle '.' segment) :=
  ⟨by decide, mount_path_confined_iff (by decide) (by decide)⟩

/-- `..` and `.` are valid uuids; they name the parent of a mount root and the root itself. -/
theorem mount_path_escapes :
    isUuidValid ".." = true ∧ isUuidValid "." = true ∧ ∀ root ∈ mountRoots,
      ¬ StrictlyBelow '/' '.' root (root ++ ("..": CppString)) ∧
        resolve '/' '.' (root ++ (".." : CppString)) = ["mnt".toList, "data".toList] ∧
        resolve '/' '.' (root ++ ("." : CppString)) = resolve '/' '.' root := by
  decide

end DiskManager
