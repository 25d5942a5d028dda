import DiskManager.Interact.Frame
import DiskManager.Manager.Repair

/-!
# What an operation leaves alone

Most critical sections of the manager only touch the state, the path and the unmount result of a
volume, or the voldata store. `CoreKept` says so, whatever memory the section finds; the lemmas
walk the operations section by section and say what becomes of the copy they work on.
-/

namespace DiskManager

open Interact

/-- A record without state, path and unmount result. -/
def VolumeExternal.core (r : VolumeExternal) : VolumeExternal :=
  { r with state := .unmounted, path := [], umountResult := [] }

/-- No disk and no volume came, went or changed but for state, path and unmount result. -/
structure CoreKept (s s' : ManagerState) : Prop where
  volumes (k : CppString) : s'.volumeMap[k]?.map (·.core) = s.volumeMap[k]?.map (·.core)
  diskMap : s'.diskMap = s.diskMap
  partitioningDiskIds : s'.partitioningDiskIds = s.partitioningDiskIds
  partitionTableMap : s'.partitionTableMap = s.partitionTableMap
  diskPartsSnapshot : s'.diskPartsSnapshot = s.diskPartsSnapshot

theorem CoreKept.refl (s : ManagerState) : CoreKept s s := ⟨fun _ => rfl, rfl, rfl, rfl, rfl⟩

theorem CoreKept.trans {s₁ s₂ s₃ : ManagerState} (first : CoreKept s₁ s₂)
    (second : CoreKept s₂ s₃) : CoreKept s₁ s₃ where
  volumes k := (second.volumes k).trans (first.volumes k)
  diskMap := second.diskMap.trans first.diskMap
  partitioningDiskIds := second.partitioningDiskIds.trans first.partitioningDiskIds
  partitionTableMap := second.partitionTableMap.trans first.partitionTableMap
  diskPartsSnapshot := second.diskPartsSnapshot.trans first.diskPartsSnapshot

theorem CoreKept.symm {s s' : ManagerState} (kept : CoreKept s s') : CoreKept s' s where
  volumes k := (kept.volumes k).symm
  diskMap := kept.diskMap.symm
  partitioningDiskIds := kept.partitioningDiskIds.symm
  partitionTableMap := kept.partitionTableMap.symm
  diskPartsSnapshot := kept.diskPartsSnapshot.symm

/-- A field that is part of the core is the same before and after. -/
theorem CoreKept.field {s s' : ManagerState} (kept : CoreKept s s') {α : Type}
    (f : VolumeExternal → α) (part : ∀ r, f r.core = f r) (k : CppString) :
    s'.volumeMap[k]?.map f = s.volumeMap[k]?.map f := by
  have same := congrArg (Option.map f) (kept.volumes k)
  simpa only [Option.map_map, Function.comp_def, part] using same

/-- The record before, for a record that is there after. -/
theorem CoreKept.found {s s' : ManagerState} (kept : CoreKept s s') {k : CppString}
    {r' : VolumeExternal} (found : s'.volumeMap[k]? = some r') :
    ∃ r, s.volumeMap[k]? = some r ∧ r.core = r'.core := by
  have same := kept.volumes k
  rw [found, Option.map_some, eq_comm, Option.map_eq_some_iff] at same
  exact same

theorem CoreKept.updateVolume {s : ManagerState} {v : CppString}
    {f : VolumeExternal → VolumeExternal} (part : ∀ r, (f r).core = r.core) :
    CoreKept s (s.updateVolume v f) where
  volumes k := by
    by_cases same : v = k
    · subst same
      rw [ManagerState.get_updateVolume_self, Option.map_map]
      exact congrArg (fun g => s.volumeMap[v]?.map g) (funext part)
    · rw [ManagerState.get_updateVolume_ne same]
  diskMap := rfl
  partitioningDiskIds := rfl
  partitionTableMap := rfl
  diskPartsSnapshot := rfl

theorem CoreKept.voldata {s : ManagerState} {t : StoreState} :
    CoreKept s { s with voldata := t } := ⟨fun _ => rfl, rfl, rfl, rfl, rfl⟩

/-- Only the voldata store changes. -/
def StoreOnly (s s' : ManagerState) : Prop := ∃ t : StoreState, s' = { s with voldata := t }

theorem StoreOnly.refl (s : ManagerState) : StoreOnly s s := ⟨s.voldata, rfl⟩

theorem StoreOnly.core {s s' : ManagerState} (stores : StoreOnly s s') : CoreKept s s' := by
  obtain ⟨t, rfl⟩ := stores
  exact .voldata

/-! ## Rules -/

section Rules

variable {G : ManagerState → ManagerState → Prop} {α β : Type} {post : α → Prop}

@[simp] theorem within_call {q : Req} {post : q.Resp → Prop} :
    Within G (call q) post ↔ ∀ r, post r := Iff.rfl

theorem within_call_bind {q : Req} {f : q.Resp → ManagerProg α}
    (rest : ∀ r, Within G (f r) post) : Within G (call q >>= f) post :=
  within_bind.mpr rest

theorem within_read_bind {g : ManagerState → β} {f : β → ManagerProg α}
    (rest : ∀ s, Within CoreKept (f (g s)) post) :
    Within CoreKept (Prog.read g >>= f) post :=
  within_bind.mpr fun s => ⟨.refl s, rest s⟩

theorem within_updateVolume_bind {v : CppString} {g : VolumeExternal → VolumeExternal}
    {f : Unit → ManagerProg α} (part : ∀ r, (g r).core = r.core)
    (rest : Within CoreKept (f ()) post) :
    Within CoreKept (updateVolume v g >>= f) post :=
  within_bind.mpr fun _ => ⟨.updateVolume part, rest⟩

theorem within_setState_bind {v : CppString} {state : VolumeState} {f : Unit → ManagerProg α}
    (rest : Within CoreKept (f ()) post) :
    Within CoreKept (setVolumeStateLocked v state >>= f) post :=
  within_updateVolume_bind (fun _ => rfl) rest

theorem within_onStore {p : StoreProg α} : Within CoreKept (onStore p) fun _ => True :=
  within_lift p fun _ _ => .voldata

theorem within_onStore_bind {p : StoreProg α} {f : α → ManagerProg β} {post : β → Prop}
    (rest : ∀ a, Within CoreKept (f a) post) : Within CoreKept (onStore p >>= f) post :=
  within_seq within_onStore fun a _ => rest a

theorem stores_read_bind {g : ManagerState → β} {f : β → ManagerProg α}
    (rest : ∀ s, Within StoreOnly (f (g s)) post) :
    Within StoreOnly (Prog.read g >>= f) post :=
  within_bind.mpr fun s => ⟨.refl s, rest s⟩

theorem stores_onStore_bind {p : StoreProg α} {f : α → ManagerProg β} {post : β → Prop}
    (rest : ∀ a, Within StoreOnly (f a) post) : Within StoreOnly (onStore p >>= f) post :=
  within_seq (within_lift p fun _ t => ⟨t, rfl⟩) fun a _ => rest a

theorem stores_of_reads {p : ManagerProg α} (reads : Within Eq p post) : Within StoreOnly p post :=
  within_weaken reads fun same => same ▸ .refl _

theorem within_of_stores {p : ManagerProg α} (stores : Within StoreOnly p post) :
    Within CoreKept p post :=
  within_weaken stores StoreOnly.core

end Rules

section Wp

variable {W : Type} {env : Env ManagerState W Req Req.Resp} {s : ManagerState} {w : W}
  {α β : Type} {post : β → ManagerState → W → Prop}

theorem wp_core {p : ManagerProg α} {kept : α → Prop} (within : Within CoreKept p kept) :
    wp (.ofEnv env) p (fun a s' _ => CoreKept s s' ∧ kept a) s w :=
  wp_of_within within .refl .trans trivial fun _ => trivial

theorem wp_core_bind {p : ManagerProg α} {f : α → ManagerProg β} {kept : α → Prop}
    (within : Within CoreKept p kept)
    (rest : ∀ a s' w', CoreKept s s' → kept a → wp (.ofEnv env) (f a) post s' w') :
    wp (.ofEnv env) (p >>= f) post s w :=
  wp_seq (wp_core within) fun a s' w' ended => rest a s' w' ended.1 ended.2

theorem wp_reads_bind {p : ManagerProg α} {f : α → ManagerProg β} {kept : α → Prop}
    (reads : Within Eq p kept) (rest : ∀ a w', wp (.ofEnv env) (f a) post s w') :
    wp (.ofEnv env) (p >>= f) post s w := by
  have first : wp (.ofEnv env) p (fun a s' _ => s = s' ∧ kept a) s w :=
    wp_of_within reads (fun _ => rfl) .trans trivial fun _ => trivial
  refine wp_seq first fun a s' w' ended => ?_
  obtain ⟨rfl, -⟩ := ended
  exact rest a w'

theorem wp_called_bind {q : Req} {f : q.Resp → ManagerProg β}
    (rest : ∀ r w', env s w q r w' → wp (.ofEnv env) (f r) post s w') :
    wp (.ofEnv env) (call q >>= f) post s w :=
  wp_bind.mpr ⟨trivial, rest⟩

theorem wp_look_bind {g : ManagerState → α} {f : α → ManagerProg β}
    (rest : wp (.ofEnv env) (f (g s)) post s w) :
    wp (.ofEnv env) (Prog.read g >>= f) post s w :=
  wp_bind.mpr ⟨trivial, rest⟩

theorem wp_section {g : ManagerState → α × ManagerState} {post : α → ManagerState → W → Prop}
    (ended : post (g s).1 (g s).2 w) : wp (.ofEnv env) (Prog.atomically g) post s w :=
  ⟨trivial, ended⟩

end Wp

/-! ## Lookups -/

/-- What leaves memory as it is keeps the core. -/
theorem within_of_reads {α : Type} {p : ManagerProg α} {post : α → Prop}
    (reads : Within Eq p post) : Within CoreKept p post :=
  within_weaken reads fun same => same ▸ .refl _

theorem reads_getDiskById (diskId : CppString) :
    Within Eq (getDiskById diskId) fun _ => True := by
  rw [getDiskById, within_bind]
  refine fun s => ⟨rfl, ?_⟩
  dsimp only [Within]
  split
  · trivial
  split
  · rw [queryAndAppendEncryptionStatusUnlocked, within_bind]
    split
    · trivial
    · apply within_call_bind
      intro extraInfo
      split
      · trivial
      · trivial
  · trivial

theorem within_getDiskById (diskId : CppString) :
    Within CoreKept (getDiskById diskId) fun _ => True :=
  within_of_reads (reads_getDiskById diskId)

theorem reads_isDiskSupported (diskId : CppString) :
    Within Eq (isDiskSupported diskId) fun _ => True := by
  rw [isDiskSupported]
  refine within_seq (reads_getDiskById diskId) fun disk _ => ?_
  split
  · trivial
  · trivial

theorem within_isDiskSupported (diskId : CppString) :
    Within CoreKept (isDiskSupported diskId) fun _ => True :=
  within_of_reads (reads_isDiskSupported diskId)

theorem reads_checkVolId (volId : CppString) : Within Eq (checkVolId volId) fun _ => True := by
  rw [checkVolId]
  split
  · trivial
  rw [getVolumeById, findVolume, within_bind]
  refine fun s => ⟨rfl, ?_⟩
  dsimp only [Within]
  split
  · trivial
  split
  · split
    · trivial
    · trivial
  · trivial

theorem within_checkVolId (volId : CppString) :
    Within CoreKept (checkVolId volId) fun _ => True :=
  within_of_reads (reads_checkVolId volId)

theorem reads_computeVolumeMountPolicy (diskId fsType : CppString) :
    Within Eq (computeVolumeMountPolicy diskId fsType) fun _ => True := by
  rw [computeVolumeMountPolicy, within_bind]
  refine fun s => ⟨rfl, ?_⟩
  rw [Within]
  dsimp only
  split
  · exact within_call_bind fun _ => trivial
  · trivial

theorem within_computeVolumeMountPolicy (diskId fsType : CppString) :
    Within CoreKept (computeVolumeMountPolicy diskId fsType) fun _ => True :=
  within_of_reads (reads_computeVolumeMountPolicy diskId fsType)

theorem reads_readPersistUsbReadonlyMountFlagBits (useFuseData : Bool) :
    Within Eq (readPersistUsbReadonlyMountFlagBits useFuseData) fun _ => True := by
  rw [readPersistUsbReadonlyMountFlagBits]
  split
  · trivial
  · exact within_call_bind fun _ => trivial

theorem within_readPersistUsbReadonlyMountFlagBits (useFuseData : Bool) :
    Within CoreKept (readPersistUsbReadonlyMountFlagBits useFuseData) fun _ => True :=
  within_of_reads (reads_readPersistUsbReadonlyMountFlagBits useFuseData)

/-! ## Mounting -/

/-- The copy after work on it: only state, path, flags and an unset description are new. -/
def Worked (vol vol' : VolumeExternal) : Prop :=
  ∃ state path flags description, vol' = { vol with state, path, flags, description } ∧
    (vol.description ≠ [] → description = vol.description)

theorem Worked.refl (vol : VolumeExternal) : Worked vol vol :=
  ⟨vol.state, vol.path, vol.flags, vol.description, rfl, fun _ => rfl⟩

theorem Worked.setState {vol vol' : VolumeExternal} (worked : Worked vol vol')
    (state : VolumeState) : Worked vol { vol' with state } := by
  obtain ⟨-, path, flags, description, rfl, kept⟩ := worked
  exact ⟨state, path, flags, description, rfl, kept⟩

theorem Worked.id {vol vol' : VolumeExternal} (worked : Worked vol vol') : vol'.id = vol.id := by
  obtain ⟨_, _, _, _, rfl, -⟩ := worked
  rfl

theorem worked_applyDefault (vol : VolumeExternal) (flag : DiskType) :
    Worked vol (applyDefaultVolumeDescriptionIfUnset vol flag) := by
  unfold applyDefaultVolumeDescriptionIfUnset
  split
  · exact .refl vol
  next empty =>
    have empty : vol.description = [] := by simpa using empty
    split
    · exact .refl vol
    · exact ⟨_, _, _, _, rfl, fun some' => absurd empty some'⟩

theorem reads_rollbackFuseMount (volumeId fsUuid : CppString) :
    Within Eq (rollbackFuseMount volumeId fsUuid) fun _ => True := by
  rw [rollbackFuseMount]
  split
  · trivial
  apply within_call_bind
  intro mounted
  split
  · apply within_call_bind
    intro err
    split
    · trivial
    · exact fun _ => trivial
  · exact fun _ => trivial

theorem within_rollbackFuseMount (volumeId fsUuid : CppString) :
    Within CoreKept (rollbackFuseMount volumeId fsUuid) fun _ => True :=
  within_of_reads (reads_rollbackFuseMount volumeId fsUuid)

theorem reads_mountUsbFuseIfNeeded (volumeId fsType fsUuid : CppString) (useFuseData : Bool) :
    Within Eq (mountUsbFuseIfNeeded volumeId fsType fsUuid useFuseData) fun _ => True := by
  rw [mountUsbFuseIfNeeded]
  split
  · trivial
  apply within_call_bind
  intro enabled
  split
  · trivial
  split
  · trivial
  apply within_call_bind
  rintro ⟨err, fuseFd⟩
  dsimp only
  split
  · trivial
  apply within_call_bind
  intro err
  split
  · exact within_call_bind fun _ => trivial
  · trivial

theorem within_mountUsbFuseIfNeeded (volumeId fsType fsUuid : CppString) (useFuseData : Bool) :
    Within CoreKept (mountUsbFuseIfNeeded volumeId fsType fsUuid useFuseData) fun _ => True :=
  within_of_reads (reads_mountUsbFuseIfNeeded volumeId fsType fsUuid useFuseData)

theorem within_mountVolumeSetPath (vol : VolumeExternal) (path : CppString) :
    Within CoreKept (mountVolumeSetPath vol path) fun _ => True := by
  rw [mountVolumeSetPath, updateVolumeIfFound, within_bind]
  intro s
  refine ⟨.updateVolume fun _ => rfl, ?_⟩
  change Within CoreKept (if _ then _ else _) _
  split
  · trivial
  · trivial

theorem within_checkBeforeMount (vol : VolumeExternal) (v fsType : CppString) :
    Within CoreKept (checkBeforeMount vol v fsType) fun result =>
      ∃ state : VolumeState, result.2 = { vol with state } := by
  rw [checkBeforeMount]
  dsimp only
  apply within_setState_bind
  apply within_call_bind
  intro _
  apply within_call_bind
  intro checkErr
  split
  · apply within_setState_bind
    apply within_call_bind
    intro _
    apply within_setState_bind
    apply within_call_bind
    intro repairErr
    split
    · apply within_setState_bind
      exact within_call_bind fun _ => ⟨_, rfl⟩
    · apply within_call_bind
      intro _
      exact within_setState_bind ⟨_, rfl⟩
  split
  · apply within_setState_bind
    exact within_call_bind fun _ => ⟨_, rfl⟩
  · apply within_call_bind
    intro _
    exact within_setState_bind ⟨_, rfl⟩

section

variable [JsonLib]

theorem stores_buildMountDataPath (params : MountDataPathParams) :
    Within StoreOnly (buildMountDataPath params) fun _ => True := by
  rw [buildMountDataPath]
  split
  · rw [resolveVoldataMountPath]
    apply stores_onStore_bind
    intro initRet
    split
    · trivial
    rw [tryGetMountPath]
    apply stores_read_bind
    intro s
    split
    · trivial
    · apply stores_onStore_bind
      rintro ⟨err, path, created⟩
      dsimp only
      split
      · trivial
      · trivial
  split
  · trivial
  split
  · trivial
  · trivial

theorem within_buildMountDataPath (params : MountDataPathParams) :
    Within CoreKept (buildMountDataPath params) fun _ => True :=
  within_of_stores (stores_buildMountDataPath params)

theorem stores_undoVolumeDataMount (vol : VolumeExternal) (params : MountDataPathParams) :
    Within StoreOnly (undoVolumeDataMount vol params) fun _ => True := by
  have rollback : Within StoreOnly (if params.fuseMounted = true then do
      let _ ← rollbackFuseMount vol.id params.fsUuid
      pure ()
    else pure ()) fun _ => True := by
    split
    · exact within_seq (stores_of_reads (reads_rollbackFuseMount _ _)) fun _ _ => trivial
    · trivial
  rw [undoVolumeDataMount]
  split
  · exact stores_onStore_bind fun _ => rollback
  · exact rollback

theorem within_undoVolumeDataMount (vol : VolumeExternal) (params : MountDataPathParams) :
    Within CoreKept (undoVolumeDataMount vol params) fun _ => True :=
  within_of_stores (stores_undoVolumeDataMount vol params)

theorem within_executeVolumeDataMount (vol : VolumeExternal) (fsType : CppString)
    (params : MountDataPathParams) :
    Within CoreKept (executeVolumeDataMount vol fsType params) fun result =>
      Worked vol result.2 := by
  rw [executeVolumeDataMount]
  refine within_seq (within_readPersistUsbReadonlyMountFlagBits _) fun flag _ => ?_
  dsimp only
  apply within_call_bind
  intro err
  split
  · refine within_seq (within_undoVolumeDataMount _ _) fun _ _ => ?_
    exact (Worked.refl vol).setState .unmounted
  refine within_seq (within_mountVolumeSetPath _ _) fun err _ => ?_
  split
  · apply within_call_bind
    intro _
    refine within_seq (within_undoVolumeDataMount _ _) fun _ _ => ?_
    exact ⟨_, _, _, _, rfl, fun _ => rfl⟩
  have ended : Worked vol (applyDefaultVolumeDescriptionIfUnset { vol with
      path := params.dataMountPath, state := .mounted, flags := params.diskFlag }
      params.diskFlag) := by
    obtain ⟨state, path, flags, description, same, kept⟩ := worked_applyDefault { vol with
      path := params.dataMountPath, state := .mounted, flags := params.diskFlag } params.diskFlag
    rw [same]
    exact ⟨_, _, _, _, rfl, kept⟩
  split
  · apply within_call_bind
    intro _
    exact within_call_bind fun _ => ended
  · exact within_call_bind fun _ => ended

theorem within_mountVolumeFilesystem (vol : VolumeExternal) (fsType fsUuid : CppString)
    (readOnly : Bool) :
    Within CoreKept (mountVolumeFilesystem vol fsType fsUuid readOnly) fun result =>
      Worked vol result.2 := by
  rw [mountVolumeFilesystem]
  refine within_seq (within_computeVolumeMountPolicy _ _) fun policy _ => ?_
  refine within_seq (within_mountUsbFuseIfNeeded _ _ _ _) fun fuse _ => ?_
  obtain ⟨fuseErr, fuseMounted⟩ := fuse
  dsimp only
  split
  · exact .refl vol
  refine within_seq (within_buildMountDataPath _) fun built _ => ?_
  obtain ⟨dataMountPath, created⟩ := built
  dsimp only
  split
  · split
    · refine within_seq (within_rollbackFuseMount _ _) fun _ _ => ?_
      exact (Worked.refl vol).setState .unmounted
    · exact (Worked.refl vol).setState .unmounted
  apply within_read_bind
  intro s
  exact within_executeVolumeDataMount vol fsType _

theorem within_mountCheckedVolume (vol : VolumeExternal) (fsType fsUuid : CppString)
    (readOnly : Bool) :
    Within CoreKept (mountCheckedVolume vol fsType fsUuid readOnly) fun result =>
      Worked vol result.2 := by
  rw [mountCheckedVolume]
  refine within_seq (within_mountVolumeFilesystem _ _ _ _) fun result worked => ?_
  dsimp only
  split
  · exact worked.setState .unmounted
  · exact worked

end

/-! ## Unmounting and repairing -/

theorem within_notifyVolumeEjecting (v : CppString) (vol : VolumeExternal)
    (umountResult : CppString) :
    Within CoreKept (notifyVolumeEjecting v vol umountResult) fun copy =>
      copy = { vol with state := .ejecting, umountResult } := by
  rw [notifyVolumeEjecting]
  refine within_updateVolume_bind (fun _ => rfl) ?_
  exact within_call_bind fun _ => rfl

section

variable [JsonLib]

theorem reads_getOddFreeSize (extraInfo blockVolId : CppString) (diskInfo : StatVfs) :
    Within Eq (getOddFreeSize extraInfo blockVolId diskInfo) fun _ => True := by
  rw [getOddFreeSize]
  dsimp only
  split
  · trivial
  apply within_call_bind
  rintro ⟨oddRet, totalSize, freeSize⟩
  dsimp only
  split
  · trivial
  split
  · trivial
  split
  · trivial
  · trivial

theorem reads_saveVolumeFreeSize (vol : VolumeExternal) :
    Within Eq (saveVolumeFreeSize vol) fun copy =>
      ∃ freeSize : Int, copy = { vol with freeSize } := by
  have size : Within Eq (getFreeSizeOfVolume vol.fsUuid) fun _ => True := by
    rw [getFreeSizeOfVolume, within_bind]
    refine fun s => ⟨rfl, ?_⟩
    dsimp only [Within]
    split
    · trivial
    split
    · trivial
    apply within_call_bind
    intro diskInfo
    split
    · trivial
    split
    · exact reads_getOddFreeSize _ _ _
    · trivial
  rw [saveVolumeFreeSize]
  refine within_seq size fun result _ => ?_
  obtain ⟨ret, freeSize⟩ := result
  dsimp only
  split
  · exact ⟨_, rfl⟩
  · exact ⟨_, rfl⟩

end

theorem reads_resolveQueryUsbIsInUseMountPath (vol : VolumeExternal) (internal : Bool) :
    Within Eq (resolveQueryUsbIsInUseMountPath vol internal) fun _ => True := by
  have other : Within Eq (if isUuidValid vol.fsUuid then
      pure (EXTERNAL_MOUNT_ROOT ++ vol.fsUuid) else pure [] : ManagerProg CppString)
      fun _ => True := by
    split
    · trivial
    · trivial
  rw [resolveQueryUsbIsInUseMountPath]
  dsimp only
  split
  · trivial
  split
  · rw [tryGetMountPath, within_bind]
    refine fun s => ⟨rfl, ?_⟩
    dsimp only [Within]
    split
    · trivial
    · exact other
  · exact other

theorem reads_resolveUnmountForceFlag (vol : VolumeExternal) (force : Bool) :
    Within Eq (resolveUnmountForceFlag vol force) fun _ => True := by
  rw [resolveUnmountForceFlag, within_bind]
  refine fun s => ⟨rfl, ?_⟩
  change Within Eq (if _ then _ else _) _
  split
  · trivial
  refine within_seq (reads_resolveQueryUsbIsInUseMountPath _ _) fun queryPath _ => ?_
  split
  · trivial
  apply within_call_bind
  rintro ⟨queryErr, isInUse⟩
  dsimp only
  split
  · trivial
  · trivial

theorem reads_unmountVolumeMountPoints (vol : VolumeExternal) (force : Bool) :
    Within Eq (unmountVolumeMountPoints vol force) fun _ => True := by
  rw [unmountVolumeMountPoints]
  dsimp only
  split
  · apply within_call_bind
    intro err
    split
    · trivial
    split
    · apply within_call_bind
      intro err'
      split
      · trivial
      · exact fun _ => trivial
    · exact fun _ => trivial
  split
  · exact fun _ => trivial
  split
  · split
    · trivial
    · exact fun _ => trivial
  · trivial

theorem within_unmountVolumeMountPoints (vol : VolumeExternal) (force : Bool) :
    Within CoreKept (unmountVolumeMountPoints vol force) fun _ => True :=
  within_of_reads (reads_unmountVolumeMountPoints vol force)

theorem within_repairAndCheckVolume (vol : VolumeExternal) (v : CppString) :
    Within CoreKept (repairAndCheckVolume vol v) fun result =>
      ∃ state : VolumeState, result.2 = { vol with state } := by
  have failed : ∀ err, Within CoreKept (repairFailed { vol with state := .checking } v err)
      fun result => ∃ state : VolumeState, result.2 = { vol with state } := by
    intro err
    rw [repairFailed]
    apply within_setState_bind
    exact within_call_bind fun _ => ⟨_, rfl⟩
  have succeeded : Within CoreKept (repairSucceeded { vol with state := .checking } v)
      fun result => ∃ state : VolumeState, result.2 = { vol with state } := by
    rw [repairSucceeded]
    apply within_call_bind
    intro _
    exact within_setState_bind ⟨_, rfl⟩
  rw [repairAndCheckVolume]
  dsimp only
  apply within_setState_bind
  apply within_call_bind
  intro _
  apply within_call_bind
  intro fixErr
  split
  · exact failed fixErr
  refine within_seq (within_computeVolumeMountPolicy _ _) fun policy _ => ?_
  split
  · apply within_call_bind
    intro checkErr
    split
    · exact failed checkErr
    · exact succeeded
  · exact succeeded

/-! ## Formatting -/

theorem within_getVolumeById (v : CppString) :
    Within CoreKept (getVolumeById v) fun _ => True := fun s => ⟨.refl s, trivial⟩

theorem within_publishFormatFailEvent (v : CppString) :
    Within CoreKept (publishFormatFailEvent v) fun _ => True := by
  rw [publishFormatFailEvent]
  apply within_setState_bind
  rw [findVolume]
  apply within_read_bind
  intro s
  split
  · exact fun _ => trivial
  · trivial

theorem stores_updateVoldataMappingAfterFormat [JsonLib]
    (diskId oldFsUuid newFsUuid fsType : CppString) :
    Within StoreOnly (updateVoldataMappingAfterFormat diskId oldFsUuid newFsUuid fsType)
      fun _ => True := by
  rw [updateVoldataMappingAfterFormat]
  apply stores_read_bind
  intro s
  split
  · split
    · exact stores_onStore_bind fun _ => trivial
    · trivial
  split
  · trivial
  rw [tryGetMountPath]
  apply stores_read_bind
  intro s'
  split
  · trivial
  · exact stores_onStore_bind fun _ => trivial

theorem within_updateVoldataMappingAfterFormat [JsonLib]
    (diskId oldFsUuid newFsUuid fsType : CppString) :
    Within CoreKept (updateVoldataMappingAfterFormat diskId oldFsUuid newFsUuid fsType)
      fun _ => True :=
  within_of_stores (stores_updateVoldataMappingAfterFormat diskId oldFsUuid newFsUuid fsType)

theorem within_findVolumeByPartNum (partNum : Int) (volumeIds : List CppString) :
    Within CoreKept (findVolumeByPartNum partNum volumeIds) fun _ => True := by
  induction volumeIds with
  | nil => trivial
  | cons item volumeIds ih =>
      rw [findVolumeByPartNum]
      refine within_seq (within_getVolumeById item) fun found _ => ?_
      split
      · exact ih
      split
      · trivial
      · exact ih

theorem within_anyVolumeMounted (partNum : Int) (volIds : List CppString) :
    Within CoreKept (anyVolumeMounted partNum volIds) fun _ => True := by
  induction volIds with
  | nil => trivial
  | cons item volIds ih =>
      rw [anyVolumeMounted]
      refine within_seq (within_getVolumeById item) fun found _ => ?_
      split
      · exact ih
      split
      · trivial
      · exact ih

theorem within_isVolumeMounted (diskId : CppString) (partNum : Int) :
    Within CoreKept (isVolumeMounted diskId partNum) fun _ => True := by
  rw [isVolumeMounted]
  refine within_seq (within_getDiskById diskId) fun disk _ => ?_
  split
  · trivial
  split
  · trivial
  · exact within_anyVolumeMounted _ _

/-! ## Keys -/

/-- Every record is found under its own id. -/
def KeyIds (s : ManagerState) : Prop :=
  ∀ (k : CppString) (r : VolumeExternal), s.volumeMap[k]? = some r → r.id = k

theorem KeyIds.coreKept {s s' : ManagerState} (ids : KeyIds s) (kept : CoreKept s s') :
    KeyIds s' := by
  intro k r' found
  obtain ⟨r, before, same⟩ := kept.found found
  exact (congrArg VolumeExternal.id same).symm.trans (ids k r before)

theorem KeyIds.updateVolume {s : ManagerState} (ids : KeyIds s) {v : CppString}
    {f : VolumeExternal → VolumeExternal} (part : ∀ r, r.id = v → (f r).id = v) :
    KeyIds (s.updateVolume v f) := by
  intro k r found
  by_cases same : v = k
  · subst same
    rw [ManagerState.get_updateVolume_self, Option.map_eq_some_iff] at found
    obtain ⟨r₀, before, rfl⟩ := found
    exact part r₀ (ids v r₀ before)
  · rw [ManagerState.get_updateVolume_ne same] at found
    exact ids k r found

theorem KeyIds.lookup {s : ManagerState} (ids : KeyIds s) {keep : CppString × VolumeExternal → Bool}
    {vol : VolumeExternal} (found : (s.volumeMap.toList.find? keep).map (·.2) = some vol) :
    s.volumeMap[vol.id]? = some vol := by
  rw [Option.map_eq_some_iff] at found
  obtain ⟨⟨k, r⟩, there, rfl⟩ := found
  have here := StdMap.mem_toList.mp (List.mem_of_find?_eq_some there)
  rw [ids k r here]
  exact here

theorem within_initAndMountVolume (vol : VolumeExternal) (volPath : CppString) (mountFlag : Nat) :
    Within CoreKept (initAndMountVolume vol volPath mountFlag) fun result =>
      ∃ fsUuid description fsType path,
        result.2 = { vol with fsUuid, description, fsType, path } := by
  have init : Within CoreKept (initVolume vol volPath) fun result =>
      ∃ fsUuid description fsType path,
        result.2 = { vol with fsUuid, description, fsType, path } := by
    rw [initVolume]
    apply within_call_bind
    intro metadata
    split
    · exact ⟨_, _, _, _, rfl⟩
    split
    · exact ⟨_, _, _, _, rfl⟩
    · exact ⟨_, _, _, _, rfl⟩
  rw [initAndMountVolume]
  refine within_seq init fun result made => ?_
  obtain ⟨res, vol'⟩ := result
  dsimp only
  split
  · exact made
  · exact within_call_bind fun _ => made

end DiskManager
