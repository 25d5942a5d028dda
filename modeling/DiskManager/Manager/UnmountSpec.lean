import DiskManager.Manager.MountSpec

/-!
# What an unmount does

Unmounting only takes entries out of the mount table. When it succeeds the mount point of the
record is gone and the record is reset; when it fails on a plain path, table and state are as
before.
-/

namespace DiskManager

open Interact

/-- The outside lets go of what is mounted: an `Unmount` of a path with a mount succeeds, and a
path that is asked about is not in use. -/
structure ReliableAnswers (answers : Answers) : Prop where
  unmount {w : MountTable} {mountPath fsType : CppString} {force : Bool} {err : ErrCode} :
    answers w (.unmount mountPath fsType force) err → (∃ dev, (dev, mountPath) ∈ w) → err = E_OK
  query {w : MountTable} {mountPath : CppString} {r : ErrCode × Bool} :
    answers w (.queryUsbIsInUse mountPath) r → r = (E_OK, false)

section

variable {answers : Answers} {s : ManagerState} {w : MountTable}

/-! ## Before the unmount -/

theorem wp_getOddFreeSize [JsonLib] {extraInfo blockVolId : CppString} {diskInfo : StatVfs}
    {post : ErrCode × Int → ManagerState → MountTable → Prop} (rest : ∀ result, post result s w) :
    wp (daemonContract answers) (getOddFreeSize extraInfo blockVolId diskInfo) post s w := by
  rw [getOddFreeSize]
  dsimp only
  split
  · exact rest _
  refine wp_quiet_bind rfl fun capacity _ => ?_
  split
  · exact rest _
  split
  · exact rest _
  split
  · exact rest _
  · exact rest _

theorem wp_getFreeSizeOfVolume [JsonLib] {volumeUuid : CppString}
    {post : ErrCode × Int → ManagerState → MountTable → Prop} (rest : ∀ result, post result s w) :
    wp (daemonContract answers) (getFreeSizeOfVolume volumeUuid) post s w := by
  rw [getFreeSizeOfVolume]
  apply wp_read_bind
  split
  · exact rest _
  split
  · exact rest _
  refine wp_quiet_bind rfl fun stat _ => ?_
  split
  · exact rest _
  split
  · exact wp_getOddFreeSize rest
  · exact rest _

/-- Only the copy takes the free size. -/
theorem wp_saveVolumeFreeSize [JsonLib] {vol : VolumeExternal}
    {post : VolumeExternal → ManagerState → MountTable → Prop}
    (rest : ∀ freeSize, post { vol with freeSize } s w) :
    wp (daemonContract answers) (saveVolumeFreeSize vol) post s w := by
  rw [saveVolumeFreeSize]
  refine wp_bind.mpr (wp_getFreeSizeOfVolume fun result => ?_)
  dsimp only
  split
  · exact rest _
  · exact rest vol.freeSize

theorem wp_notifyVolumeEjecting {volumeId : CppString} {vol : VolumeExternal}
    {umountResult : CppString} {post : VolumeExternal → ManagerState → MountTable → Prop}
    (rest : post { vol with state := .ejecting, umountResult }
      (s.updateVolume volumeId fun r => { r with state := .ejecting, umountResult }) w) :
    wp (daemonContract answers) (notifyVolumeEjecting volumeId vol umountResult) post s w := by
  rw [notifyVolumeEjecting]
  apply wp_updateVolume_bind
  exact wp_quiet_bind rfl fun _ _ => rest

theorem wp_resolveQueryUsbIsInUseMountPath {vol : VolumeExternal} {isInternalDataDisk : Bool}
    {post : CppString → ManagerState → MountTable → Prop}
    (rest : ∀ path, (vol.path ≠ [] → path = vol.path) → post path s w) :
    wp (daemonContract answers) (resolveQueryUsbIsInUseMountPath vol isInternalDataDisk) post
      s w := by
  rw [resolveQueryUsbIsInUseMountPath]
  split
  · exact rest _ fun _ => rfl
  next empty =>
    have none : ∀ path, vol.path ≠ [] → path = vol.path := fun path some' =>
      absurd (by simpa using empty) some'
    dsimp only
    split
    · rw [tryGetMountPath]
      apply wp_read_bind
      split
      · exact rest _ (none _)
      split
      · exact rest _ (none _)
      · exact rest _ (none _)
    split
    · exact rest _ (none _)
    · exact rest _ (none _)

/-- The in-use query does not stand in the way when the outside lets go. -/
theorem wp_resolveUnmountForceFlag {vol : VolumeExternal} {force : Bool}
    {post : ErrCode × Bool → ManagerState → MountTable → Prop}
    (rest : ∀ result, (ReliableAnswers answers → vol.path ≠ [] → result.1 = E_OK) →
      post result s w) :
    wp (daemonContract answers) (resolveUnmountForceFlag vol force) post s w := by
  rw [resolveUnmountForceFlag]
  apply wp_read_bind
  split
  · exact rest _ fun _ _ => rfl
  refine wp_bind.mpr (wp_resolveQueryUsbIsInUseMountPath fun path resolved => ?_)
  split
  next empty =>
    refine rest _ fun _ some' => ?_
    rw [resolved some'] at empty
    exact absurd (by simpa using empty) some'
  refine wp_quiet_bind rfl fun answer ans => ?_
  have sure : ReliableAnswers answers → answer = (E_OK, false) := fun reliable =>
    reliable.query ans
  obtain ⟨queryErr, isInUse⟩ := answer
  dsimp only
  split
  next bad =>
    refine rest _ fun reliable _ => ?_
    have good := sure reliable
    cases good
    exact absurd rfl bad
  · refine rest _ fun reliable _ => ?_
    have good := sure reliable
    cases good
    rfl

/-! ## The mount points -/

/-- What unmounting the mount points of `vol` does to the table. -/
structure PointsUnmounted (answers : Answers) (vol : VolumeExternal) (w : MountTable)
    (err : ErrCode) (w' : MountTable) : Prop where
  fewer {m : CppString × CppString} : m ∈ w' → m ∈ w
  gone : err = E_OK ∨ ReliableAnswers answers → vol.path ≠ [] → ∀ dev, (dev, vol.path) ∉ w'
  failed : PlainPath vol.path → err ≠ E_OK → w' = w
  skipped : vol.path = [] → vol.fsType.block → err = E_OK ∧ w' = w

theorem mem_of_mem_after_unmount {path fsType : CppString} {force : Bool} {err : ErrCode}
    {m : CppString × CppString} (mem : m ∈ w.after (.unmount path fsType force) err) : m ∈ w := by
  by_cases ok : err = E_OK
  · subst ok
    exact (List.mem_filter.mp mem).1
  · rwa [MountTable.after_unmount_failed ok] at mem

theorem not_mem_after_unmount {path fsType : CppString} {force : Bool} {err : ErrCode}
    (ans : answers w (.unmount path fsType force) err) (gone : err = E_OK ∨ ReliableAnswers answers)
    (dev : CppString) : (dev, path) ∉ w.after (.unmount path fsType force) err := by
  intro mem
  have was := mem_of_mem_after_unmount mem
  have ok : err = E_OK := gone.elim id fun reliable => reliable.unmount ans ⟨dev, was⟩
  subst ok
  have kept := List.mem_filter.mp mem
  simp at kept

/-- The mount point of the record goes first. -/
theorem PointsUnmounted.of_unmount {vol : VolumeExternal} {fsType : CppString} {force : Bool}
    {err : ErrCode} (ans : answers w (.unmount vol.path fsType force) err)
    (some' : vol.path ≠ []) :
    PointsUnmounted answers vol w err (w.after (.unmount vol.path fsType force) err) where
  fewer := mem_of_mem_after_unmount
  gone gone _ dev := not_mem_after_unmount ans gone dev
  failed _ bad := MountTable.after_unmount_failed bad
  skipped empty := absurd empty some'

/-- What happens after the mount point of a FUSE volume is gone only takes more entries out. -/
theorem PointsUnmounted.then_fuse {vol : VolumeExternal} {w₁ w₂ : MountTable} {err : ErrCode}
    (first : PointsUnmounted answers vol w E_OK w₁) (some' : vol.path ≠ [])
    (fuse : CppString.startsWith vol.path EXTERNAL_FUSE_DATA_ROOT = true)
    (fewer : ∀ {m}, m ∈ w₂ → m ∈ w₁) : PointsUnmounted answers vol w err w₂ where
  fewer mem := first.fewer (fewer mem)
  gone _ _ dev mem := first.gone (.inl rfl) some' dev (fewer mem)
  failed plain := absurd fuse (by rw [plain.2]; decide)
  skipped empty := absurd empty some'

theorem wp_unmountVolumeMountPoints {vol : VolumeExternal} {force : Bool} :
    wp (daemonContract answers) (unmountVolumeMountPoints vol force)
      (fun err s' w' => s' = s ∧ PointsUnmounted answers vol w err w') s w := by
  rw [unmountVolumeMountPoints]
  dsimp only
  split
  next fuse =>
    simp only [Bool.and_eq_true, Bool.not_eq_true', List.isEmpty_eq_false_iff] at fuse
    rw [wp_bind, wp_call]
    refine ⟨Req.idle_unmount, fun err ans => ?_⟩
    have first := PointsUnmounted.of_unmount ans fuse.1
    split
    · exact ⟨rfl, first⟩
    next ok =>
      obtain rfl : err = E_OK := by simpa using ok
      split
      · rw [wp_bind, wp_call]
        refine ⟨Req.idle_unmount, fun err' _ => ?_⟩
        split
        · exact ⟨rfl, first.then_fuse fuse.1 fuse.2 mem_of_mem_after_unmount⟩
        · exact (wp_quiet rfl).mpr fun _ _ =>
            ⟨rfl, first.then_fuse fuse.1 fuse.2 mem_of_mem_after_unmount⟩
      · exact (wp_quiet rfl).mpr fun _ _ => ⟨rfl, first.then_fuse fuse.1 fuse.2 id⟩
  split
  next some' =>
    rw [wp_call]
    refine ⟨Req.idle_unmount, fun err ans => ⟨rfl, .of_unmount ans (by simpa using some')⟩⟩
  next empty =>
    have empty : vol.path = [] := by simpa using empty
    have same : ∀ {err : ErrCode}, err = E_OK → PointsUnmounted answers vol w err w :=
      fun {err} ok => {
        fewer := id
        gone := fun _ some' => absurd empty some'
        failed := fun plain => absurd empty plain.1
        skipped := fun _ _ => ⟨ok, rfl⟩ }
    split
    next mtp =>
      have noBlock : ¬ vol.fsType.block := by
        rintro ⟨noMtp, noPtp⟩
        revert mtp noMtp noPtp
        cases vol.fsType <;> decide
      split
      · exact ⟨rfl, same rfl⟩
      · rw [wp_call]
        exact ⟨Req.idle_unmount, fun err _ => ⟨rfl, {
          fewer := mem_of_mem_after_unmount
          gone := fun _ some' => absurd empty some'
          failed := fun plain => absurd empty plain.1
          skipped := fun _ block => absurd block noBlock }⟩⟩
    · exact ⟨rfl, same rfl⟩

/-! ## The whole unmount -/

/-- How `DoUnmountVolume` ends for volume `v`, whose record was `r` and whose copy `vol`. -/
inductive UnmountEnd (answers : Answers) (v : CppString) (vol r : VolumeExternal)
    (s : ManagerState) (w : MountTable) : ErrCode → ManagerState → MountTable → Prop
  | failed {err : ErrCode} {w' : MountTable} {s' : ManagerState} (bad : err ≠ E_OK)
      (memory : s' = s.updateVolume v fun r =>
        { r with state := vol.state, umountResult := "umountFail" })
      (fewer : ∀ {m}, m ∈ w' → m ∈ w) (same : PlainPath vol.path → w' = w)
      (gone : ReliableAnswers answers → vol.path ≠ [] → ∀ dev, (dev, vol.path) ∉ w') :
    UnmountEnd answers v vol r s w err s' w'
  | unmounted {w' : MountTable} {s' : ManagerState} (block : vol.fsType.block)
      (memory : s' = s.updateVolume v fun r =>
        { r with state := .unmounted, path := [], umountResult := [] })
      (points : PointsUnmounted answers vol w E_OK w') : UnmountEnd answers v vol r s w E_OK s' w'
  | removed {w' : MountTable} {s' : ManagerState} (mtp : ¬ vol.fsType.block)
      (memory : s' = s.eraseVolume v) (points : PointsUnmounted answers vol w E_OK w') :
    UnmountEnd answers v vol r s w E_OK s' w'

theorem eraseVolume_updateVolume (s : ManagerState) (v : CppString)
    (f : VolumeExternal → VolumeExternal) : (s.updateVolume v f).eraseVolume v = s.eraseVolume v := by
  have same : (s.volumeMap.update v f).erase v = s.volumeMap.erase v := by
    apply StdMap.ext
    intro k
    by_cases here : v = k
    · subst here
      simp only [StdMap.get_erase_self]
    · simp only [StdMap.get_erase_ne here, StdMap.get_update_ne here]
  simp only [ManagerState.eraseVolume, ManagerState.updateVolume, same]

theorem wp_unmountWriteBack {v : CppString} {fsType : FsType} {r : VolumeExternal}
    {post : ErrCode → ManagerState → MountTable → Prop} (found : s.volumeMap[v]? = some r)
    (reset : fsType.block →
      post E_OK (s.updateVolume v fun r => { r with path := [], state := .unmounted }) w)
    (removed : ¬ fsType.block → post E_OK (s.eraseVolume v) w) :
    wp (daemonContract answers) (unmountWriteBack v fsType) post s w := by
  rw [unmountWriteBack, wp_atomically]
  refine ⟨trivial, ?_⟩
  simp only [found]
  split
  next mtp => exact removed fun block => mtp.elim block.1 block.2
  next block => exact reset (not_or.mp block)

theorem wp_doUnmountVolume [JsonLib] {v : CppString} {vol r : VolumeExternal} {force : Bool}
    (found : s.volumeMap[v]? = some r) (id : vol.id = v) :
    wp (daemonContract answers) (doUnmountVolume vol force) (UnmountEnd answers v vol r s w)
      s w := by
  subst id
  -- The record after the volume was marked as ejecting.
  let ejecting : ManagerState := s.updateVolume vol.id fun r =>
    { r with state := .ejecting, umountResult := [] }
  have restore : ∀ {err : ErrCode} {copy : VolumeExternal} {w' : MountTable}, err ≠ E_OK →
      copy.id = vol.id → (∀ {m}, m ∈ w' → m ∈ w) → (PlainPath vol.path → w' = w) →
      (ReliableAnswers answers → vol.path ≠ [] → ∀ dev, (dev, vol.path) ∉ w') →
      wp (daemonContract answers) (do
        let copy ← notifyVolumeEjecting vol.id copy "umountFail"
        restoreVolumeState copy.id vol.state
        return err) (UnmountEnd answers vol.id vol r s w) ejecting w' := by
    intro err copy w' bad same fewer plain gone
    refine wp_bind.mpr (wp_notifyVolumeEjecting ?_)
    dsimp only
    rw [same]
    apply wp_updateVolume_bind
    exact .failed bad (by simp [ejecting]) fewer plain gone
  rw [doUnmountVolume]
  dsimp only
  refine wp_bind.mpr (wp_saveVolumeFreeSize fun freeSize => ?_)
  refine wp_bind.mpr (wp_notifyVolumeEjecting ?_)
  refine wp_bind.mpr (wp_resolveUnmountForceFlag fun prepared ready => ?_)
  obtain ⟨prepErr, force'⟩ := prepared
  dsimp only at ready ⊢
  split
  next bad =>
    refine restore bad rfl (fun mem => mem) (fun _ => rfl) ?_
    exact fun reliable some' => absurd (ready reliable some') bad
  apply wp_seq wp_unmountVolumeMountPoints
  rintro err _ w' ⟨rfl, points⟩
  split
  next bad =>
    exact restore bad rfl points.fewer (fun plain => points.failed plain bad)
      fun reliable some' => points.gone (.inr reliable) some'
  next ok =>
    obtain rfl : err = E_OK := by simpa using ok
    have points : PointsUnmounted answers vol w E_OK w' :=
      ⟨points.fewer, points.gone, points.failed, points.skipped⟩
    refine wp_quiet_bind rfl fun _ _ => ?_
    have found' : ejecting.volumeMap[vol.id]? =
        some { r with state := .ejecting, umountResult := [] } := by
      rw [ManagerState.get_updateVolume_self, found]
      rfl
    refine wp_unmountWriteBack found' (fun block => ?_) fun mtp => ?_
    · exact .unmounted block (by simp) points
    · exact .removed mtp (eraseVolume_updateVolume _ _ _) points

end

end DiskManager
