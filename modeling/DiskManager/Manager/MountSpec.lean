import DiskManager.Manager.Daemon

/-!
# What a mount does

One lemma for each function on the way from `Mount` to the daemon: what it leaves in the record,
in the copy it works on and in the mount table. The mount table only grows by the one mount of the
volume's own device, and a mount that fails leaves that device without a mount.
-/

namespace DiskManager

open Interact

/-- The node of a volume's block device. -/
def volumeDev (volumeId : CppString) : CppString := DEV_BLOCK_PREFIX ++ volumeId

section

variable {answers : Answers} {s : ManagerState} {w : MountTable}

/-! ## Lookups -/

theorem wp_computeVolumeMountPolicy {diskId fsType : CppString}
    {post : VolumeMountPolicy → ManagerState → MountTable → Prop}
    (rest : ∀ policy, (PlainAnswers answers → policy.useFuseData = false) → post policy s w) :
    wp (daemonContract answers) (computeVolumeMountPolicy diskId fsType) post s w := by
  rw [computeVolumeMountPolicy]
  apply wp_read_bind
  dsimp only
  split
  · apply wp_quiet_bind rfl
    intro useFuseData ans
    exact rest _ fun plain => plain.fuse ans
  · exact rest _ fun _ => rfl

theorem wp_readPersistUsbReadonlyMountFlagBits {useFuseData : Bool}
    {post : Nat → ManagerState → MountTable → Prop} (rest : ∀ flag, post flag s w) :
    wp (daemonContract answers) (readPersistUsbReadonlyMountFlagBits useFuseData) post s w := by
  rw [readPersistUsbReadonlyMountFlagBits]
  split
  · exact rest 0
  · apply wp_quiet_bind rfl
    intro readonly _
    exact rest _

/-- The three ways `EnsureFsUuidReady` ends: the copy already has its uuid or gets none, or it
takes the uuid of the file system, made different from those of the other volumes. -/
inductive UuidReady (answers : Answers) (w : MountTable) (s : ManagerState)
    (vol : VolumeExternal) : ErrCode × VolumeExternal × CppString → ManagerState → Prop
  | kept {err : ErrCode} : UuidReady answers w s vol (err, vol, vol.fsUuid) s
  | read {m : Metadata} (ans : answers w (.readMetadata (volumeDev vol.id)) m)
      (none : vol.fsUuid = []) (valid : isUuidValid m.uuid = true) {uuid : CppString}
      (dedup : uuid = dedupFsUuidUnlocked s.volumeMap vol.id m.uuid) :
    UuidReady answers w s vol
      (E_OK, { vol with
        fsUuid := uuid, description := m.label, fsType := getFsTypeByStr m.type }, uuid)
      (s.updateVolume vol.id fun r => { r with fsUuid := uuid })

theorem wp_ensureFsUuidReady {vol : VolumeExternal} :
    wp (daemonContract answers) (ensureFsUuidReady vol)
      (fun result s' w' => UuidReady answers w s vol result s' ∧ w' = w) s w := by
  rw [ensureFsUuidReady]
  dsimp only
  split
  · exact ⟨.kept, rfl⟩
  next empty =>
    have none : vol.fsUuid = [] := by simpa using empty
    apply wp_quiet_bind rfl
    intro m ans
    split
    · exact ⟨.kept, rfl⟩
    split
    · exact ⟨.kept, rfl⟩
    next valid =>
      rw [wp_bind, wp_atomically]
      exact ⟨trivial, .read ans none (by simpa using valid) rfl, rfl⟩

/-! ## FUSE -/

/-- Rolling a FUSE mount back only removes entries of the table. -/
theorem wp_rollbackFuseMount {volumeId fsUuid : CppString} :
    wp (daemonContract answers) (rollbackFuseMount volumeId fsUuid)
      (fun _ s' w' => s' = s ∧ ∀ dev, w'.mounted dev → w.mounted dev) s w := by
  rw [rollbackFuseMount]
  split
  · exact ⟨rfl, fun _ held => held⟩
  dsimp only
  apply wp_quiet_bind rfl
  intro mounted _
  split
  · rw [wp_bind, wp_call]
    refine ⟨Req.idle_unmount, fun err _ => ?_⟩
    split
    · exact ⟨rfl, fun _ => MountTable.mounted_of_after_unmount⟩
    · exact (wp_quiet rfl).mpr fun _ _ => ⟨rfl, fun _ => MountTable.mounted_of_after_unmount⟩
  · exact (wp_quiet rfl).mpr fun _ _ => ⟨rfl, fun _ held => held⟩

theorem wp_mountUsbFuseIfNeeded {volumeId fsType fsUuid : CppString} {useFuseData : Bool} :
    wp (daemonContract answers) (mountUsbFuseIfNeeded volumeId fsType fsUuid useFuseData)
      (fun _ s' w' => s' = s ∧ ∀ dev, w'.mounted dev → w.mounted dev) s w := by
  rw [mountUsbFuseIfNeeded]
  split
  · exact ⟨rfl, fun _ held => held⟩
  apply wp_quiet_bind rfl
  intro enabled _
  split
  · exact ⟨rfl, fun _ held => held⟩
  split
  · exact ⟨rfl, fun _ held => held⟩
  dsimp only
  apply wp_quiet_bind rfl
  intro made _
  split
  · exact ⟨rfl, fun _ held => held⟩
  apply wp_quiet_bind rfl
  intro err _
  split
  · rw [wp_bind, wp_call]
    exact ⟨Req.idle_unmount,
      fun _ _ => ⟨rfl, fun _ => MountTable.mounted_of_after_unmount⟩⟩
  · exact ⟨rfl, fun _ held => held⟩

/-! ## The data mount -/

/-- `s` with another store, all of whose paths are voldata paths. -/
def StoreMoved (s s' : ManagerState) : Prop :=
  ∃ t, DataPaths t.uuidMap ∧ s' = { s with voldata := t }

theorem StoreMoved.refl {s : ManagerState} (paths : DataPaths s.voldata.uuidMap) :
    StoreMoved s s := ⟨s.voldata, paths, rfl⟩

theorem StoreMoved.trans {s₁ s₂ s₃ : ManagerState} (first : StoreMoved s₁ s₂)
    (second : StoreMoved s₂ s₃) : StoreMoved s₁ s₃ := by
  obtain ⟨t₁, -, rfl⟩ := first
  obtain ⟨t₂, paths, rfl⟩ := second
  exact ⟨t₂, paths, rfl⟩

theorem StoreMoved.paths {s s' : ManagerState} (moved : StoreMoved s s') :
    DataPaths s'.voldata.uuidMap := by
  obtain ⟨t, paths, rfl⟩ := moved
  exact paths

theorem StoreMoved.volumeMap {s s' : ManagerState} (moved : StoreMoved s s') :
    s'.volumeMap = s.volumeMap := by
  obtain ⟨t, -, rfl⟩ := moved
  rfl

theorem wp_onStore_keeps {α : Type} {p : StoreProg α} {kept : α → Prop}
    (keeps : Keeps StoreState.dataPaths p kept) (paths : DataPaths s.voldata.uuidMap) :
    wp (daemonContract answers) (onStore p)
      (fun a s' w' => StoreMoved s s' ∧ w' = w ∧ kept a) s w :=
  wp_onStore (wp_of_keeps keeps paths) fun _ t ended => ⟨⟨t, ended.1, rfl⟩, rfl, ended.2⟩

theorem applyDefaultVolumeDescriptionIfUnset_eq (vol : VolumeExternal) (flag : DiskType) :
    ∃ description, applyDefaultVolumeDescriptionIfUnset vol flag = { vol with description } := by
  unfold applyDefaultVolumeDescriptionIfUnset
  split
  · exact ⟨vol.description, rfl⟩
  split
  · exact ⟨vol.description, rfl⟩
  · exact ⟨_, rfl⟩

section

variable [JsonLib]

theorem wp_undoVolumeDataMount {vol : VolumeExternal} {params : MountDataPathParams}
    (paths : DataPaths s.voldata.uuidMap) :
    wp (daemonContract answers) (undoVolumeDataMount vol params)
      (fun _ s' w' => StoreMoved s s' ∧ ∀ dev, w'.mounted dev → w.mounted dev) s w := by
  have rollback : ∀ {s' : ManagerState}, StoreMoved s s' →
      wp (daemonContract answers) (if params.fuseMounted = true then do
          let _ ← rollbackFuseMount vol.id params.fsUuid
          pure ()
        else pure ())
        (fun _ s' w' => StoreMoved s s' ∧ ∀ dev, w'.mounted dev → w.mounted dev) s' w := by
    intro s' moved
    split
    · apply wp_seq wp_rollbackFuseMount
      rintro _ _ w' ⟨rfl, fewer⟩
      exact ⟨moved, fewer⟩
    · exact ⟨moved, fun _ held => held⟩
  rw [undoVolumeDataMount]
  split
  · apply wp_seq (wp_onStore_keeps (keepsPaths_removeByFsUuid params.fsUuid) paths)
    rintro _ s' _ ⟨moved, rfl, -⟩
    exact rollback moved
  · exact rollback (.refl paths)

theorem wp_resolveVoldataMountPath {fsUuid : CppString} (paths : DataPaths s.voldata.uuidMap) :
    wp (daemonContract answers) (resolveVoldataMountPath fsUuid)
      (fun result s' w' => StoreMoved s s' ∧ w' = w ∧
        (result.1 ≠ [] → PlainPath result.1)) s w := by
  rw [resolveVoldataMountPath]
  apply wp_seq (wp_onStore_keeps keepsPaths_init paths)
  rintro initRet s₁ _ ⟨moved, rfl, -⟩
  split
  · exact ⟨moved, rfl, fun some' => absurd rfl some'⟩
  rw [tryGetMountPath]
  apply wp_read_bind
  cases found : s₁.voldata.uuidMap[fsUuid]? with
  | some entry => exact ⟨moved, rfl, fun _ => plainPath_voldata (moved.paths.path found)⟩
  | none =>
      apply wp_seq (wp_onStore_keeps (keepsPaths_resolveMountPath fsUuid) moved.paths)
      rintro ⟨err, path, created⟩ s₂ _ ⟨moved₂, rfl, under⟩
      have moved' : StoreMoved s s₂ := moved.trans moved₂
      dsimp only
      split
      · exact ⟨moved', rfl, fun some' => absurd rfl some'⟩
      next ok => exact ⟨moved', rfl, fun _ => plainPath_voldata (under (by simpa using ok))⟩

theorem wp_buildMountDataPath {params : MountDataPathParams}
    (paths : DataPaths s.voldata.uuidMap) :
    wp (daemonContract answers) (buildMountDataPath params)
      (fun result s' w' => StoreMoved s s' ∧ w' = w ∧
        (params.policy.useFuseData = false → result.1 ≠ [] → PlainPath result.1)) s w := by
  rw [buildMountDataPath]
  split
  · refine wp_mono ?_ (wp_resolveVoldataMountPath paths)
    rintro result s' w' ⟨moved, same, plain⟩
    exact ⟨moved, same, fun _ => plain⟩
  split
  · exact ⟨.refl paths, rfl, fun _ _ => plainPath_dvr _⟩
  split
  next fuse => exact ⟨.refl paths, rfl, fun off => by simp [off] at fuse⟩
  · exact ⟨.refl paths, rfl, fun _ _ => plainPath_external _⟩

/-- How the mount of a file system ends. The record only takes the mount path, and only when the
mount succeeds; the copy keeps its id, uuid and type. -/
inductive DataMounted (s : ManagerState) (vol : VolumeExternal) (path : CppString) :
    ErrCode × VolumeExternal → ManagerState → MountTable → Prop
  | mounted {vol' : VolumeExternal} {s' : ManagerState} {w' : MountTable}
      (id : vol'.id = vol.id) (uuid : vol'.fsUuid = vol.fsUuid) (type : vol'.fsType = vol.fsType)
      (state : vol'.state = .mounted) (pathSet : vol'.path = path)
      (memory : StoreMoved (s.updateVolume vol.id fun r => { r with path }) s')
      (at' : w'.mountedAt (volumeDev vol.id) path) : DataMounted s vol path (E_OK, vol') s' w'
  | failed {err : ErrCode} {state : VolumeState} {s' : ManagerState} {w' : MountTable}
      (bad : err ≠ E_OK) (memory : StoreMoved s s') (free : ¬ w'.mounted (volumeDev vol.id)) :
    DataMounted s vol path (err, { vol with state }) s' w'

theorem wp_executeVolumeDataMount {vol : VolumeExternal} {fsType : CppString}
    {params : MountDataPathParams} (found : s.volumeMap[vol.id]?.isSome = true)
    (free : ¬ w.mounted (volumeDev vol.id)) (paths : DataPaths s.voldata.uuidMap) :
    wp (daemonContract answers) (executeVolumeDataMount vol fsType params)
      (DataMounted s vol params.dataMountPath) s w := by
  rw [executeVolumeDataMount]
  refine wp_bind.mpr (wp_readPersistUsbReadonlyMountFlagBits fun flag => ?_)
  dsimp only
  rw [wp_bind, wp_call]
  refine ⟨fun dev mem => ?_, fun err _ => ?_⟩
  · cases mem
    exact free
  split
  next failed =>
    -- The table is as it was, and the rollback only takes entries out of it.
    rw [MountTable.after_mount_failed failed]
    apply wp_seq (wp_undoVolumeDataMount paths)
    rintro _ s' w' ⟨moved, fewer⟩
    exact .failed failed moved fun held => free (fewer _ held)
  next ok =>
    obtain rfl : err = E_OK := by simpa using ok
    rw [MountTable.after_mount]
    -- The record is still there, so the path is written to it.
    rw [wp_bind, mountVolumeSetPath, wp_bind, updateVolumeIfFound, wp_atomically]
    refine ⟨trivial, ?_⟩
    rw [found]
    simp only [if_true, wp_pure, ne_eq, not_true_eq_false, if_false]
    have ended : ∀ base : VolumeExternal, base = { vol with
          path := params.dataMountPath, state := .mounted, flags := params.diskFlag } →
        DataMounted s vol params.dataMountPath
          (E_OK, applyDefaultVolumeDescriptionIfUnset base params.diskFlag)
          (s.updateVolume vol.id fun r => { r with path := params.dataMountPath })
          ((DEV_BLOCK_PREFIX ++ vol.id, params.dataMountPath) :: w) := by
      rintro base rfl
      obtain ⟨description, same⟩ := applyDefaultVolumeDescriptionIfUnset_eq { vol with
        path := params.dataMountPath, state := .mounted, flags := params.diskFlag } params.diskFlag
      rw [same]
      exact .mounted rfl rfl rfl rfl rfl (.refl paths) (MountTable.mountedAt_cons free)
    split
    · refine wp_quiet_bind rfl fun _ _ => wp_quiet_bind rfl fun _ _ => ?_
      exact ended _ rfl
    · refine wp_quiet_bind rfl fun _ _ => ?_
      exact ended _ rfl

/-- The path a file system is mounted at is not a FUSE path when FUSE is off. -/
theorem wp_mountVolumeFilesystem {vol : VolumeExternal} {fsType fsUuid : CppString}
    {readOnly : Bool} (found : s.volumeMap[vol.id]?.isSome = true)
    (free : ¬ w.mounted (volumeDev vol.id)) (paths : DataPaths s.voldata.uuidMap) :
    wp (daemonContract answers) (mountVolumeFilesystem vol fsType fsUuid readOnly)
      (fun result s' w' => ∃ path, DataMounted s vol path result s' w' ∧
        (PlainAnswers answers → result.1 = E_OK → PlainPath path)) s w := by
  rw [mountVolumeFilesystem]
  refine wp_bind.mpr (wp_computeVolumeMountPolicy fun policy noFuse => ?_)
  apply wp_seq wp_mountUsbFuseIfNeeded
  rintro ⟨fuseErr, fuseMounted⟩ _ w₁ ⟨rfl, fewer₁⟩
  have free₁ : ¬ w₁.mounted (volumeDev vol.id) := fun held => free (fewer₁ _ held)
  dsimp only
  split
  next failed => exact ⟨[], .failed failed (.refl paths) free₁, fun _ ok => absurd ok failed⟩
  apply wp_seq (wp_buildMountDataPath paths)
  rintro ⟨dataMountPath, created⟩ s₂ _ ⟨moved, rfl, plain⟩
  dsimp only at plain ⊢
  split
  next empty =>
    have failed : DISK_MGR_ERR ≠ E_OK := by decide
    split
    · apply wp_seq wp_rollbackFuseMount
      rintro _ _ w₃ ⟨rfl, fewer₃⟩
      exact ⟨[], .failed failed moved fun held => free₁ (fewer₃ _ held),
        fun _ ok => absurd ok failed⟩
    · exact ⟨[], .failed failed moved free₁, fun _ ok => absurd ok failed⟩
  next some' =>
  apply wp_read_bind
  have found₂ : s₂.volumeMap[vol.id]?.isSome = true := by rw [moved.volumeMap, found]
  refine wp_mono ?_ (wp_executeVolumeDataMount found₂ free₁ moved.paths)
  intro result s' w' ended
  refine ⟨dataMountPath, ?_, fun answered _ => plain (noFuse answered) (by simpa using some')⟩
  cases ended with
  | mounted id uuid type state pathSet memory at' =>
      refine .mounted id uuid type state pathSet ?_ at'
      obtain ⟨t, -, rfl⟩ := moved
      obtain ⟨t', paths', rfl⟩ := memory
      exact ⟨t', paths', rfl⟩
  | failed bad memory gone => exact .failed bad (moved.trans memory) gone

/-! ## The entry points -/

omit [JsonLib] in
/-- The check before a mount ends in one of two states, of the copy and of the record alike. -/
theorem wp_checkBeforeMount {vol : VolumeExternal} {volumeId fsType : CppString}
    (free : ¬ w.mounted (volumeDev vol.id)) :
    wp (daemonContract answers) (checkBeforeMount vol volumeId fsType)
      (fun result s' w' => ∃ state : VolumeState, result.2 = { vol with state } ∧
        s' = s.updateVolume volumeId (fun r => { r with state }) ∧ w' = w ∧
        (result.1 = E_OK ∧ state = .unmounted ∨ result.1 ≠ E_OK ∧ state = .repairFinishFail))
      s w := by
  rw [checkBeforeMount]
  dsimp only
  apply wp_updateVolume_bind
  refine wp_quiet_bind rfl fun _ _ => ?_
  refine wp_device_bind rfl (fun _ => rfl) free fun checkErr _ => ?_
  split
  next needFix =>
    apply wp_updateVolume_bind
    refine wp_quiet_bind rfl fun _ _ => ?_
    apply wp_updateVolume_bind
    refine wp_device_bind rfl (fun _ => rfl) free fun repairErr _ => ?_
    split
    next failed =>
      apply wp_updateVolume_bind
      refine wp_quiet_bind rfl fun _ _ => ?_
      exact ⟨_, rfl, by simp, rfl, .inr ⟨failed, rfl⟩⟩
    · refine wp_quiet_bind rfl fun _ _ => ?_
      apply wp_updateVolume_bind
      exact ⟨_, rfl, by simp, rfl, .inl ⟨rfl, rfl⟩⟩
  next noFix =>
    split
    next failed =>
      apply wp_updateVolume_bind
      refine wp_quiet_bind rfl fun _ _ => ?_
      exact ⟨_, rfl, by simp, rfl, .inr ⟨failed, rfl⟩⟩
    · refine wp_quiet_bind rfl fun _ _ => ?_
      apply wp_updateVolume_bind
      exact ⟨_, rfl, by simp, rfl, .inl ⟨rfl, rfl⟩⟩

/-- How `MountVolumeEntry` ends for volume `v`, whose record was `r` and whose copy `vol`: the copy
is mounted and so is the device, at the path of the copy, or neither is. -/
structure MountEnd (answers : Answers) (v : CppString) (vol r : VolumeExternal)
    (result : ErrCode × VolumeExternal) (s' : ManagerState) (w' : MountTable) : Prop where
  id : result.2.id = v
  record : ∃ r', s'.volumeMap[v]? = some r' ∧ r'.fsUuid = result.2.fsUuid ∧
    (result.1 = E_OK → r'.state = r.state ∨ r'.state = .unmounted)
  paths : DataPaths s'.voldata.uuidMap
  block : PlainAnswers answers → vol.fsType.block → result.2.fsType.block
  outcome :
    result.1 = E_OK ∧ result.2.state = .mounted ∧ w'.mountedAt (volumeDev v) result.2.path ∧
        (PlainAnswers answers → PlainPath result.2.path) ∨
      result.1 ≠ E_OK ∧ (result.2.state = .unmounted ∨ result.2.state = .repairFinishFail) ∧
        result.2.path = vol.path ∧ ¬ w'.mounted (volumeDev v)

omit [JsonLib] in
/-- The end of a failed mount that has not touched the table or the path. -/
theorem MountEnd.of_failed {v : CppString} {vol vol' r r' : VolumeExternal} {err : ErrCode}
    {s' : ManagerState} {w' : MountTable} (found : s'.volumeMap[v]? = some r') (id : vol'.id = v)
    (uuid : r'.fsUuid = vol'.fsUuid) (paths : DataPaths s'.voldata.uuidMap)
    (block : PlainAnswers answers → vol.fsType.block → vol'.fsType.block) (bad : err ≠ E_OK)
    (state : vol'.state = .unmounted ∨ vol'.state = .repairFinishFail)
    (path : vol'.path = vol.path) (free : ¬ w'.mounted (volumeDev v)) :
    MountEnd answers v vol r (err, vol') s' w' where
  id := id
  record := ⟨r', found, uuid, fun ok => absurd ok bad⟩
  paths := paths
  block := block
  outcome := .inr ⟨bad, state, path, free⟩

theorem wp_mountCheckedVolume {v : CppString} {vol vol₀ r r₀ : VolumeExternal}
    {fsType fsUuid : CppString} {readOnly : Bool} (found : s.volumeMap[v]? = some r)
    (id : vol.id = v) (uuid : vol.fsUuid = r.fsUuid) (free : ¬ w.mounted (volumeDev v))
    (paths : DataPaths s.voldata.uuidMap) (path : vol.path = vol₀.path)
    (block : PlainAnswers answers → vol₀.fsType.block → vol.fsType.block)
    (state : r.state = r₀.state ∨ r.state = .unmounted) :
    wp (daemonContract answers) (mountCheckedVolume vol fsType fsUuid readOnly)
      (MountEnd answers v vol₀ r₀) s w := by
  subst id
  rw [mountCheckedVolume]
  apply wp_seq (wp_mountVolumeFilesystem (by rw [found]; rfl) free paths)
  rintro _ s' w' ⟨mountPath, ended, plain⟩
  cases ended with
  | mounted id' uuid' type state' pathSet memory at' =>
      have found' : s'.volumeMap[vol.id]? = some { r with path := mountPath } := by
        rw [memory.volumeMap, ManagerState.get_updateVolume_self, found]
        rfl
      simp only [ne_eq, not_true_eq_false, if_false, wp_pure]
      exact {
        id := id'
        record := ⟨_, found', by rw [uuid', uuid], fun _ => state⟩
        paths := memory.paths
        block := fun answered before => by rw [type]; exact block answered before
        outcome := .inl ⟨rfl, state', by rw [pathSet]; exact at',
          fun answered => by rw [pathSet]; exact plain answered rfl⟩ }
  | failed bad memory gone =>
      dsimp only
      rw [if_pos bad]
      have found' : s'.volumeMap[vol.id]? = some r := by rw [memory.volumeMap, found]
      exact .of_failed found' rfl uuid.symm memory.paths block bad (.inl rfl) path gone

theorem wp_mountVolumeEntry {v : CppString} {vol r : VolumeExternal} {readOnly : Bool}
    (found : s.volumeMap[v]? = some r) (id : vol.id = v) (uuid : vol.fsUuid = r.fsUuid)
    (free : ¬ w.mounted (volumeDev v)) (paths : DataPaths s.voldata.uuidMap) :
    wp (daemonContract answers) (mountVolumeEntry vol v readOnly) (MountEnd answers v vol r)
      s w := by
  -- What follows `EnsureFsUuidReady`, in the memory it leaves.
  have rest : ∀ {s₁ : ManagerState} {vol₁ r₁ : VolumeExternal} {fsUuid : CppString},
      s₁.volumeMap[v]? = some r₁ → vol₁.id = v → vol₁.fsUuid = r₁.fsUuid →
      DataPaths s₁.voldata.uuidMap → vol₁.path = vol.path → r₁.state = r.state →
      (PlainAnswers answers → vol.fsType.block → vol₁.fsType.block) →
      wp (daemonContract answers) (do
        let policy ← computeVolumeMountPolicy vol₁.diskId vol₁.fsType.getFsTypeString
        if policy.useVoldataPath then
          let checked ← checkBeforeMount vol₁ v vol₁.fsType.getFsTypeString
          if checked.1 ≠ E_OK then
            return (checked.1, checked.2)
          mountCheckedVolume checked.2 vol₁.fsType.getFsTypeString fsUuid readOnly
        else
          mountCheckedVolume vol₁ vol₁.fsType.getFsTypeString fsUuid readOnly)
        (MountEnd answers v vol r) s₁ w := by
    intro s₁ vol₁ r₁ fsUuid found₁ id₁ uuid₁ paths₁ path₁ state₁ block₁
    have free₁ : ¬ w.mounted (volumeDev vol₁.id) := by rw [id₁]; exact free
    refine wp_bind.mpr (wp_computeVolumeMountPolicy fun policy _ => ?_)
    split
    · apply wp_seq (wp_checkBeforeMount free₁)
      rintro ⟨checkErr, _⟩ _ _ ⟨state, rfl, rfl, rfl, ended⟩
      have found₂ : (s₁.updateVolume v fun r => { r with state }).volumeMap[v]? =
          some { r₁ with state } := by
        rw [ManagerState.get_updateVolume_self, found₁]
        rfl
      dsimp only at ended ⊢
      rcases ended with ⟨rfl, rfl⟩ | ⟨bad, rfl⟩
      · rw [if_neg (by decide)]
        exact wp_mountCheckedVolume found₂ id₁ uuid₁ free paths₁ path₁ block₁ (.inr rfl)
      · rw [if_pos bad]
        exact .of_failed found₂ id₁ uuid₁.symm paths₁ block₁ bad (.inr rfl) path₁ free
    · exact wp_mountCheckedVolume found₁ id₁ uuid₁ free paths₁ path₁ block₁ (.inl state₁)
  rw [mountVolumeEntry]
  apply wp_seq wp_ensureFsUuidReady
  rintro _ s₁ _ ⟨ready, rfl⟩
  cases ready with
  | @kept err =>
      dsimp only
      by_cases bad : err = E_OK
      · rw [if_neg (by simpa using bad)]
        exact rest found id uuid paths rfl rfl fun _ before => before
      · rw [if_pos bad]
        exact .of_failed found id uuid.symm paths (fun _ before => before) bad (.inl rfl) rfl free
  | @read m ans none valid fresh dedup =>
      subst id
      have found₁ : (s.updateVolume vol.id fun r => { r with fsUuid := fresh }).volumeMap[vol.id]? =
          some { r with fsUuid := fresh } := by
        rw [ManagerState.get_updateVolume_self, found]
        rfl
      exact rest found₁ rfl rfl paths rfl rfl fun answered _ => answered.metadata ans

end

end

end DiskManager
