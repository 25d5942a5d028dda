import DiskManager.Interact.Restores
import DiskManager.Manager.Filed
import DiskManager.Manager.Lifecycle

/-!
# Volumes at rest

Between operations every volume of the map is at rest (`ManagerState.Rested`): its state is one of
five, and it is MOUNTED exactly when its record has a path. On the way a mount, an unmount and a
repair break this for their own volume, and end with it.
-/

namespace DiskManager

open Interact

/-! ## Rest -/

/-- The record under `k` is at rest. -/
structure VolumeExternal.Rested (k : CppString) (r : VolumeExternal) : Prop where
  id : r.id = k
  resting : r.state.resting = true
  path : r.state = .mounted ↔ r.path ≠ []

structure ManagerState.Rested (s : ManagerState) : Prop where
  volume {k : CppString} {r : VolumeExternal} : s.volumeMap[k]? = some r → r.Rested k
  paths : DataPaths s.voldata.uuidMap

theorem VolumeExternal.Rested.path_nil {k : CppString} {r : VolumeExternal} (rested : r.Rested k)
    (ne : r.state ≠ .mounted) : r.path = [] := by
  by_contra some'
  exact ne (rested.path.mpr some')

/-- A record without a path is at rest in every resting state but MOUNTED. -/
theorem VolumeExternal.Rested.of_free {k : CppString} {r : VolumeExternal} (id : r.id = k)
    (resting : r.state.resting = true) (ne : r.state ≠ .mounted) (path : r.path = []) :
    r.Rested k :=
  ⟨id, resting, fun mounted => absurd mounted ne, fun some' => absurd path some'⟩

theorem VolumeExternal.Rested.of_mounted {k : CppString} {r : VolumeExternal} (id : r.id = k)
    (state : r.state = .mounted) (path : r.path ≠ []) : r.Rested k := by
  refine ⟨id, ?_, fun _ => path, fun _ => state⟩
  rw [state]
  rfl

/-- Only fields that rest does not depend on have changed. -/
theorem VolumeExternal.Rested.copy {k : CppString} {r r' : VolumeExternal} (rested : r.Rested k)
    (id : r'.id = r.id) (state : r'.state = r.state) (path : r'.path = r.path) : r'.Rested k := by
  refine ⟨id.trans rested.id, ?_, ?_⟩
  · rw [state]
    exact rested.resting
  · rw [state, path]
    exact rested.path

namespace ManagerState.Rested

variable {s s' : ManagerState}

theorem of_maps (rested : s.Rested) (volumes : s'.volumeMap = s.volumeMap)
    (voldata : s'.voldata = s.voldata) : s'.Rested := by
  refine ⟨fun {k r} found => ?_, ?_⟩
  · rw [volumes] at found
    exact rested.volume found
  · rw [voldata]
    exact rested.paths

theorem of_updateVolume (rested : s.Rested) {v : CppString} {f : VolumeExternal → VolumeExternal}
    (new : ∀ r, s.volumeMap[v]? = some r → (f r).Rested v) : (s.updateVolume v f).Rested := by
  refine ⟨fun {k r} found => ?_, rested.paths⟩
  by_cases same : v = k
  · subst same
    rw [get_updateVolume_self, Option.map_eq_some_iff] at found
    obtain ⟨r₀, before, rfl⟩ := found
    exact new r₀ before
  · rw [get_updateVolume_ne same] at found
    exact rested.volume found

/-- A write that leaves id, state and path alone. -/
theorem setFields (rested : s.Rested) {v : CppString} {f : VolumeExternal → VolumeExternal}
    (id : ∀ r, (f r).id = r.id) (state : ∀ r, (f r).state = r.state)
    (path : ∀ r, (f r).path = r.path) : (s.updateVolume v f).Rested :=
  rested.of_updateVolume fun r found => (rested.volume found).copy (id r) (state r) (path r)

theorem insertVolume (rested : s.Rested) {vol : VolumeExternal} (new : vol.Rested vol.id) :
    (s.insertVolume vol).Rested := by
  unfold ManagerState.insertVolume
  split
  · exact rested
  · refine ⟨fun {k r} found => ?_, rested.paths⟩
    change (s.volumeMap.insert vol.id vol)[k]? = some r at found
    by_cases same : vol.id = k
    · subst same
      rw [StdMap.get_insert_self] at found
      cases found
      exact new
    · rw [StdMap.get_insert_ne same] at found
      exact rested.volume found

theorem eraseVolume (rested : s.Rested) (v : CppString) : (s.eraseVolume v).Rested := by
  refine ⟨fun {k r} found => ?_, rested.paths⟩
  change (s.volumeMap.erase v)[k]? = some r at found
  rw [StdMap.get_erase] at found
  split at found
  · cases found
  · exact rested.volume found

/-- Only volume `v` has changed, and it is at rest again or gone. -/
theorem of_others (rested : s.Rested) {v : CppString}
    (others : ∀ k, k ≠ v → s'.volumeMap[k]? = s.volumeMap[k]?)
    (here : ∀ r, s'.volumeMap[v]? = some r → r.Rested v) (paths : DataPaths s'.voldata.uuidMap) :
    s'.Rested := by
  refine ⟨fun {k r} found => ?_, paths⟩
  by_cases same : k = v
  · subst same
    exact here r found
  · rw [others k same] at found
    exact rested.volume found

end ManagerState.Rested

theorem rested_boot : ManagerState.boot.Rested := by
  refine ⟨fun {k r} found => ?_, DataPaths.empty⟩
  exact absurd found (by simp [ManagerState.boot])

/-! ## Operations that keep rest at every section -/

variable {α : Type}

theorem rested_onVolumeDestroyed (v : CppString) :
    Keeps ManagerState.Rested (onVolumeDestroyed v) fun _ => True := by
  intro s rested
  refine ⟨?_, trivial⟩
  dsimp only
  split
  · exact rested
  · exact rested.eraseVolume v

theorem rested_onVolumeCreated {vol : VolumeExternal} (new : vol.Rested vol.id) :
    Keeps ManagerState.Rested (onVolumeCreated vol) fun _ => True := by
  rw [onVolumeCreated]
  refine keeps_read_bind fun s _ => ?_
  refine keeps_modify_bind (fun s rested => rested.insertVolume ?_) trivial
  exact new.copy rfl rfl rfl

theorem rested_updateIfFound {v : CppString} {f : VolumeExternal → VolumeExternal}
    (id : ∀ r, (f r).id = r.id) (state : ∀ r, (f r).state = r.state)
    (path : ∀ r, (f r).path = r.path) :
    Keeps ManagerState.Rested (updateVolumeIfFound v f) fun _ => True :=
  fun _ rested => ⟨rested.setFields id state path, trivial⟩

theorem rested_updateVolumeMetadata (v fsUuid fsType description : CppString) :
    Keeps ManagerState.Rested (updateVolumeMetadata v fsUuid fsType description)
      fun _ => True := by
  intro s rested
  refine ⟨?_, trivial⟩
  dsimp only
  split
  · exact rested
  · exact rested.setFields (fun _ => rfl) (fun _ => rfl) fun _ => rfl

/-- A copy at rest is written back. -/
theorem rested_updateVolumeExternal {copy : VolumeExternal} (good : copy.Rested copy.id) :
    Keeps ManagerState.Rested (updateVolumeExternal copy) fun _ => True := by
  have written : Keeps ManagerState.Rested (updateVolumeIfFound copy.id fun _ => copy)
      fun _ => True :=
    fun s rested => ⟨rested.of_updateVolume fun _ _ => good, trivial⟩
  rw [updateVolumeExternal]
  refine keeps_seq written fun found _ => ?_
  split
  · trivial
  · trivial

/-- An UNMOUNTED volume becomes DAMAGED. -/
theorem rested_markVolumeAbnormal (v : CppString) (reason : AbnormalReason) :
    Keeps ManagerState.Rested (markVolumeAbnormal v reason) fun _ => True := by
  have marked : ∀ r : VolumeExternal, r.Rested v → r.state = .unmounted →
      VolumeExternal.Rested v { r with state := .damaged } := by
    intro r rested unmounted
    refine .of_free rested.id rfl (by simp) (rested.path_nil ?_)
    rw [unmounted]
    decide
  rw [markVolumeAbnormal]
  refine keeps_bind.mpr fun s rested => ⟨?_, ?_⟩
  · dsimp only
    split
    · exact rested
    next vol found =>
      split
      next unmounted =>
        refine rested.of_updateVolume fun r there => marked r (rested.volume there) ?_
        rw [found] at there
        cases there
        exact unmounted
      · exact rested
  · dsimp only [Keeps]
    split
    · trivial
    split
    · trivial
    split
    · trivial
    · exact fun _ => trivial

theorem rested_setVolumeDescription (fsUuid description : CppString) :
    Keeps ManagerState.Rested (setVolumeDescription fsUuid description) fun _ => True := by
  rw [setVolumeDescription]
  refine keeps_read_bind fun s _ => ?_
  split
  · trivial
  split
  · trivial
  dsimp only
  split
  · trivial
  refine keeps_seq (reads_isDiskSupported _).keeps fun supported _ => ?_
  split
  · trivial
  split
  · trivial
  refine keeps_seq (reads_checkVolId _).keeps fun devPath _ => ?_
  split
  · trivial
  refine keeps_request_bind fun err => ?_
  split
  · trivial
  refine keeps_seq (rested_updateIfFound (fun _ => rfl) (fun _ => rfl) fun _ => rfl)
    fun found _ => ?_
  split
  · trivial
  · trivial

theorem rested_notifyMtpMounted {path : CppString} (some' : path ≠ [])
    (id desc uuid fsType : CppString) :
    Keeps ManagerState.Rested (notifyMtpMounted id path desc uuid fsType) fun _ => True := by
  rw [notifyMtpMounted]
  refine keeps_request_bind fun name => ?_
  refine keeps_modify_bind (fun s rested => rested.insertVolume ?_) ?_
  · exact .of_mounted rfl rfl some'
  · exact keeps_request_bind fun _ => trivial

theorem rested_notifyMtpUnmounted (id : CppString) (isBadRemove : Bool) :
    Keeps ManagerState.Rested (notifyMtpUnmounted id isBadRemove) fun _ => True := by
  rw [notifyMtpUnmounted]
  refine keeps_bind.mpr fun s rested => ⟨rested.eraseVolume id, ?_⟩
  dsimp only [Keeps]
  split
  · trivial
  · exact fun _ => trivial

/-! ## Encrypted containers -/

theorem rested_bindBlockLoopDev (diskId : CppString) (offset sizeLimit : Nat) :
    Keeps ManagerState.Rested (bindBlockLoopDev diskId offset sizeLimit) fun _ => True := by
  rw [bindBlockLoopDev]
  refine keeps_seq (reads_getDiskById diskId).keeps fun shown _ => ?_
  split
  · trivial
  split
  · trivial
  refine keeps_seq (reads_isVolumeBind _ _ _).keeps fun bound _ => ?_
  split
  · trivial
  refine keeps_request_bind fun result => ?_
  obtain ⟨ret, output⟩ := result
  dsimp only
  split
  · trivial
  · refine keeps_seq (rested_onVolumeCreated ?_) fun _ _ => trivial
    exact .of_free rfl rfl (by simp) rfl

theorem rested_unbindBlockLoopDev (loopPath : CppString) :
    Keeps ManagerState.Rested (unbindBlockLoopDev loopPath) fun _ => True := by
  rw [unbindBlockLoopDev]
  refine keeps_request_bind fun result => ?_
  obtain ⟨ret, output⟩ := result
  dsimp only
  split
  · trivial
  · exact keeps_seq (rested_onVolumeDestroyed _) fun _ _ => trivial

theorem rested_createDmCryptVolume (param : CryptParam) (loopPath mapperName : CppString) :
    Keeps ManagerState.Rested (createDmCryptVolume param loopPath mapperName) fun _ => True := by
  rw [createDmCryptVolume, getVolumeById, findVolume]
  refine keeps_read_bind fun s rested => ?_
  split
  · trivial
  next vol found =>
    split
    · trivial
    refine keeps_request_bind fun result => ?_
    obtain ⟨ret, output⟩ := result
    dsimp only
    split
    · trivial
    have calm : vol.Rested vol.id := by
      have calm := rested.volume found
      rwa [← calm.id] at calm
    refine keeps_seq (rested_updateVolumeExternal ?_) fun err _ => ?_
    · exact calm.copy rfl rfl rfl
    · split
      · trivial
      · trivial

theorem rested_destroyDmCryptVolume (mapperName : CppString) :
    Keeps ManagerState.Rested (destroyDmCryptVolume mapperName) fun _ => True := by
  rw [destroyDmCryptVolume]
  refine keeps_request_bind fun result => ?_
  obtain ⟨ret, output⟩ := result
  dsimp only
  split
  · trivial
  refine keeps_modify_bind (fun s rested => ?_) trivial
  unfold ManagerState.clearMapperPath
  split
  · exact rested
  · exact rested.setFields (fun _ => rfl) (fun _ => rfl) fun _ => rfl

/-! ## What a mount does to the other volumes -/

/-- No volume but `v` has changed. -/
def Others (v : CppString) (s s' : ManagerState) : Prop :=
  ∀ k, k ≠ v → s'.volumeMap[k]? = s.volumeMap[k]?

theorem Others.refl (v : CppString) (s : ManagerState) : Others v s s := fun _ _ => rfl

theorem Others.trans {v : CppString} {s₁ s₂ s₃ : ManagerState} (first : Others v s₁ s₂)
    (second : Others v s₂ s₃) : Others v s₁ s₃ :=
  fun k ne => (second k ne).trans (first k ne)

theorem Others.updateVolume (v : CppString) (s : ManagerState)
    (f : VolumeExternal → VolumeExternal) : Others v s (s.updateVolume v f) :=
  fun _ ne => ManagerState.get_updateVolume_ne ne.symm

theorem others_of_stores {p : ManagerProg α} {kept : α → Prop} (v : CppString)
    (stores : Within StoreOnly p kept) : Within (Others v) p kept := by
  refine within_weaken stores fun {s s'} only => ?_
  obtain ⟨t, rfl⟩ := only
  exact .refl v s

theorem others_of_reads {p : ManagerProg α} {kept : α → Prop} (v : CppString)
    (reads : Within Eq p kept) : Within (Others v) p kept :=
  others_of_stores v (stores_of_reads reads)

theorem others_updateVolume_bind {v : CppString} {f : VolumeExternal → VolumeExternal}
    {g : Unit → ManagerProg α} {kept : α → Prop} (rest : Within (Others v) (g ()) kept) :
    Within (Others v) (updateVolume v f >>= g) kept :=
  within_bind.mpr fun s => ⟨.updateVolume v s f, rest⟩

/-- The copy has the id of the one worked on, and a path when the mount succeeds. -/
def MountedCopy (v : CppString) (result : ErrCode × VolumeExternal) : Prop :=
  result.2.id = v ∧ (result.1 = E_OK → result.2.path ≠ [])

theorem MountedCopy.of_failed {v : CppString} {err : ErrCode} {vol : VolumeExternal}
    (bad : err ≠ E_OK) (id : vol.id = v) : MountedCopy v (err, vol) :=
  ⟨id, fun ok => absurd ok bad⟩

variable {v : CppString}

theorem others_ensureFsUuidReady {vol : VolumeExternal} (id : vol.id = v) :
    Within (Others v) (ensureFsUuidReady vol) fun result => result.2.1.id = v := by
  subst id
  rw [ensureFsUuidReady]
  dsimp only
  split
  · rfl
  refine within_call_bind fun metadata => ?_
  split
  · rfl
  split
  · rfl
  · exact within_bind.mpr fun s => ⟨.updateVolume vol.id s _, rfl⟩

theorem others_mountVolumeSetPath {vol : VolumeExternal} (id : vol.id = v) (path : CppString) :
    Within (Others v) (mountVolumeSetPath vol path) fun _ => True := by
  subst id
  rw [mountVolumeSetPath]
  refine within_bind.mpr fun s => ⟨.updateVolume vol.id s _, ?_⟩
  dsimp only [Within]
  split
  · trivial
  · trivial

variable [JsonLib]

theorem others_executeVolumeDataMount {vol : VolumeExternal} (id : vol.id = v)
    (fsType : CppString) {params : MountDataPathParams} (path : params.dataMountPath ≠ []) :
    Within (Others v) (executeVolumeDataMount vol fsType params) (MountedCopy v) := by
  have undone := others_of_stores v (stores_undoVolumeDataMount vol params)
  rw [executeVolumeDataMount]
  refine within_seq (others_of_reads v (reads_readPersistUsbReadonlyMountFlagBits _))
    fun flag _ => ?_
  dsimp only
  refine within_call_bind fun err => ?_
  split
  next bad => exact within_seq undone fun _ _ => .of_failed bad id
  have set : Within (Others v) (mountVolumeSetPath { vol with
      path := params.dataMountPath, state := .mounted } params.dataMountPath) fun _ => True :=
    others_mountVolumeSetPath id _
  refine within_seq set fun err _ => ?_
  split
  next bad =>
    refine within_call_bind fun _ => ?_
    exact within_seq (others_of_stores v (stores_undoVolumeDataMount _ params)) fun _ _ =>
      .of_failed bad id
  have ended : MountedCopy v (E_OK, applyDefaultVolumeDescriptionIfUnset { vol with
      path := params.dataMountPath, state := .mounted, flags := params.diskFlag }
      params.diskFlag) := by
    obtain ⟨description, same⟩ := applyDefaultVolumeDescriptionIfUnset_eq { vol with
      path := params.dataMountPath, state := .mounted, flags := params.diskFlag } params.diskFlag
    rw [same]
    exact ⟨id, fun _ => path⟩
  split
  · exact within_call_bind fun _ => within_call_bind fun _ => ended
  · exact within_call_bind fun _ => ended

theorem others_mountVolumeFilesystem {vol : VolumeExternal} (id : vol.id = v)
    (fsType fsUuid : CppString) (readOnly : Bool) :
    Within (Others v) (mountVolumeFilesystem vol fsType fsUuid readOnly) (MountedCopy v) := by
  have failed : DISK_MGR_ERR ≠ E_OK := by decide
  rw [mountVolumeFilesystem]
  refine within_seq (others_of_reads v (reads_computeVolumeMountPolicy _ _)) fun policy _ => ?_
  refine within_seq (others_of_reads v (reads_mountUsbFuseIfNeeded _ _ _ _)) fun fuse _ => ?_
  obtain ⟨fuseErr, fuseMounted⟩ := fuse
  dsimp only
  split
  next bad => exact .of_failed bad id
  refine within_seq (others_of_stores v (stores_buildMountDataPath _)) fun built _ => ?_
  obtain ⟨dataMountPath, created⟩ := built
  dsimp only
  split
  · split
    · exact within_seq (others_of_reads v (reads_rollbackFuseMount _ _)) fun _ _ =>
        .of_failed failed id
    · exact .of_failed failed id
  next some' =>
    refine within_bind.mpr fun s => ⟨.refl v s, ?_⟩
    exact others_executeVolumeDataMount id _ (by simpa using some')

theorem others_mountCheckedVolume {vol : VolumeExternal} (id : vol.id = v)
    (fsType fsUuid : CppString) (readOnly : Bool) :
    Within (Others v) (mountCheckedVolume vol fsType fsUuid readOnly) (MountedCopy v) := by
  rw [mountCheckedVolume]
  refine within_seq (others_mountVolumeFilesystem id _ _ _) fun result copied => ?_
  obtain ⟨mountErr, vol'⟩ := result
  dsimp only
  split
  next bad => exact .of_failed bad copied.1
  · exact copied

omit [JsonLib] in
theorem others_checkBeforeMount {vol : VolumeExternal} (id : vol.id = v) (fsType : CppString) :
    Within (Others v) (checkBeforeMount vol v fsType) fun result => result.2.id = v := by
  rw [checkBeforeMount, setVolumeStateLocked]
  dsimp only
  refine others_updateVolume_bind (within_call_bind fun _ => within_call_bind fun checkErr => ?_)
  split
  · refine others_updateVolume_bind (within_call_bind fun _ => ?_)
    refine others_updateVolume_bind (within_call_bind fun repairErr => ?_)
    split
    · exact others_updateVolume_bind (within_call_bind fun _ => id)
    · exact within_call_bind fun _ => others_updateVolume_bind id
  split
  · exact others_updateVolume_bind (within_call_bind fun _ => id)
  · exact within_call_bind fun _ => others_updateVolume_bind id

theorem others_mountVolumeEntry {vol : VolumeExternal} (id : vol.id = v) (readOnly : Bool) :
    Within (Others v) (mountVolumeEntry vol v readOnly) (MountedCopy v) := by
  rw [mountVolumeEntry]
  refine within_seq (others_ensureFsUuidReady id) fun result same => ?_
  obtain ⟨uuidErr, vol', fsUuid⟩ := result
  dsimp only at same ⊢
  split
  next bad => exact .of_failed bad same
  refine within_seq (others_of_reads v (reads_computeVolumeMountPolicy _ _)) fun policy _ => ?_
  split
  · refine within_seq (others_checkBeforeMount same _) fun result same => ?_
    obtain ⟨checkErr, vol''⟩ := result
    dsimp only at same ⊢
    split
    next bad => exact .of_failed bad same
    · exact others_mountCheckedVolume same _ _ _
  · exact others_mountCheckedVolume same _ _ _

/-! ## Operations that end at rest -/

section

variable {s : ManagerState}

omit [JsonLib] in
/-- What holds against a daemon that may answer anything holds without one. -/
theorem wp_free_of_daemon {p : ManagerProg α} {post : α → ManagerState → Prop}
    (pre : wp (daemonContract fun _ _ _ => True) p (fun a s' _ => post a s') s []) :
    wp Contract.free p (fun a s' _ => post a s') s () :=
  wp_world (C := daemonContract fun _ _ _ => True) (fun _ _ => ⟨_, trivial, rfl⟩) trivial
    (fun _ => trivial) pre

omit [JsonLib] in
theorem not_mounted_nil (dev : CppString) : ¬ MountTable.mounted [] dev := by
  rintro ⟨path, mem⟩
  cases mem

omit [JsonLib] in
theorem wp_update_bind {β : Type} {v : CppString} {f : VolumeExternal → VolumeExternal}
    {g : Unit → ManagerProg β} {post : β → ManagerState → Unit → Prop}
    (rest : wp Contract.free (g ()) post (s.updateVolume v f) ()) :
    wp Contract.free (updateVolume v f >>= g) post s () :=
  wp_bind.mpr ⟨trivial, rest⟩

omit [JsonLib] in
/-- Reading, with what is known of the result. -/
theorem wp_told_bind {β : Type} {p : ManagerProg α} {f : α → ManagerProg β} {kept : α → Prop}
    {post : β → ManagerState → Unit → Prop} (reads : Within Eq p kept)
    (rest : ∀ a, kept a → wp Contract.free (f a) post s ()) :
    wp Contract.free (p >>= f) post s () := by
  have first : wp Contract.free p (fun a s' _ => s = s' ∧ kept a) s () :=
    wp_of_within reads (fun _ => rfl) .trans trivial fun _ => trivial
  refine wp_seq first fun a s' _ ended => ?_
  obtain ⟨rfl, held⟩ := ended
  exact rest a held

/-- No volume but `v` has changed; `v` is at rest, and its state is the one before or one that
`may` allows after it, where nothing stands for a volume that is gone. -/
structure MovedTo (v : CppString) (may : VolumeState → Option VolumeState → Prop)
    (s s' : ManagerState) : Prop where
  others : Others v s s'
  paths : DataPaths s'.voldata.uuidMap
  rest {r : VolumeExternal} : s'.volumeMap[v]? = some r → r.Rested v
  state : s'.volumeMap[v]?.map (·.state) = s.volumeMap[v]?.map (·.state) ∨
    ∃ r, s.volumeMap[v]? = some r ∧ may r.state (s'.volumeMap[v]?.map (·.state))

/-- `p` on its own moves volume `v`. -/
abbrev MovesTo (v : CppString) (may : VolumeState → Option VolumeState → Prop)
    (p : ManagerProg α) (s : ManagerState) : Prop :=
  wp Contract.free p (fun _ s' _ => MovedTo v may s s') s ()

/-- `p` on its own ends with every volume at rest. -/
abbrev EndsRested (p : ManagerProg α) (s : ManagerState) : Prop :=
  wp Contract.free p (fun _ s' _ => s'.Rested ∧ True) s ()

section

variable {v : CppString} {may : VolumeState → Option VolumeState → Prop}

omit [JsonLib] in
theorem MovedTo.refl (rested : s.Rested) : MovedTo v may s s :=
  ⟨.refl v s, rested.paths, rested.volume, .inl rfl⟩

omit [JsonLib] in
theorem MovedTo.rested {s' : ManagerState} (rested : s.Rested) (moved : MovedTo v may s s') :
    s'.Rested :=
  rested.of_others moved.others (fun _ found => moved.rest found) moved.paths

omit [JsonLib] in
theorem MovesTo.ends {p : ManagerProg α} (rested : s.Rested) (moves : MovesTo v may p s) :
    EndsRested p s :=
  wp_mono (fun _ _ _ moved => ⟨moved.rested rested, trivial⟩) moves

omit [JsonLib] in
theorem MovedTo.mono {may' : VolumeState → Option VolumeState → Prop} {s' : ManagerState}
    (imp : ∀ r, s.volumeMap[v]? = some r → ∀ b, may r.state b → may' r.state b)
    (moved : MovedTo v may s s') : MovedTo v may' s s' := by
  refine ⟨moved.others, moved.paths, moved.rest, ?_⟩
  rcases moved.state with same | ⟨r, found, may⟩
  · exact .inl same
  · exact .inr ⟨r, found, imp r found _ may⟩

omit [JsonLib] in
/-- There is no volume `v`. -/
theorem MovedTo.of_none {s' : ManagerState} (others : Others v s s')
    (paths : DataPaths s'.voldata.uuidMap) (gone : s.volumeMap[v]? = none)
    (gone' : s'.volumeMap[v]? = none) : MovedTo v may s s' := by
  refine ⟨others, paths, fun {r} found => ?_, .inl ?_⟩
  · rw [gone'] at found
    cases found
  · rw [gone, gone']

omit [JsonLib] in
/-- The record is changed, or replaced by a copy, once the others have been left alone. -/
theorem MovedTo.update {s' : ManagerState} {r r' : VolumeExternal}
    {f : VolumeExternal → VolumeExternal} (others : Others v s s')
    (paths : DataPaths s'.voldata.uuidMap) (found : s.volumeMap[v]? = some r)
    (found' : s'.volumeMap[v]? = some r') (rested : (f r').Rested v)
    (state : (f r').state = r.state ∨ may r.state (some (f r').state)) :
    MovedTo v may s (s'.updateVolume v f) := by
  have written : (s'.updateVolume v f).volumeMap[v]? = some (f r') := by
    rw [ManagerState.get_updateVolume_self, found']
    rfl
  refine ⟨others.trans (.updateVolume v s' f), paths, fun {r''} there => ?_, ?_⟩
  · rw [written] at there
    cases there
    exact rested
  · rw [written, found]
    rcases state with same | allowed
    · exact .inl (congrArg some same)
    · exact .inr ⟨r, rfl, allowed⟩

omit [JsonLib] in
/-- The record before is changed. -/
theorem MovedTo.updateVolume {r : VolumeExternal} {f : VolumeExternal → VolumeExternal}
    (before : s.Rested) (found : s.volumeMap[v]? = some r) (rested : (f r).Rested v)
    (state : (f r).state = r.state ∨ may r.state (some (f r).state)) :
    MovedTo v may s (s.updateVolume v f) :=
  .update (.refl v s) before.paths found found rested state

omit [JsonLib] in
theorem MovedTo.eraseVolume {r : VolumeExternal} (before : s.Rested)
    (found : s.volumeMap[v]? = some r) (gone : may r.state none) :
    MovedTo v may s (s.eraseVolume v) := by
  have erased : (s.eraseVolume v).volumeMap[v]? = none := StdMap.get_erase_self _ _
  refine ⟨fun k ne => StdMap.get_erase_ne ne.symm, before.paths, fun {r'} there => ?_, ?_⟩
  · rw [erased] at there
    cases there
  · rw [erased]
    exact .inr ⟨r, found, gone⟩

end

/-! ### Unmounting -/

/-- UNMOUNTED, or gone as an MTP volume is. -/
def Down (b : Option VolumeState) : Prop := b = some .unmounted ∨ b = none

theorem moves_doUnmountVolume {vol : VolumeExternal} {force : Bool} (rested : s.Rested)
    (found : s.volumeMap[vol.id]? = some vol) :
    MovesTo vol.id (fun _ b => Down b) (doUnmountVolume vol force) s := by
  have calm := rested.volume found
  refine wp_free_of_daemon (wp_mono ?_ (wp_doUnmountVolume found rfl))
  intro err s' w' ended
  cases ended with
  | failed bad memory =>
      subst memory
      exact .updateVolume rested found (calm.copy rfl rfl rfl) (.inl rfl)
  | unmounted block memory =>
      subst memory
      exact .updateVolume rested found (.of_free calm.id rfl (by simp) rfl) (.inr (.inl rfl))
  | removed mtp memory =>
      subst memory
      exact .eraseVolume rested found (.inr rfl)

theorem moves_unmount (rested : s.Rested) (v : CppString) :
    MovesTo v (fun a b => a.unmountable = true ∧ Down b) (unmount v) s := by
  rw [unmount, findVolume]
  refine wp_look_bind ?_
  cases found : s.volumeMap[v]? with
  | none => exact .refl rested
  | some vol =>
      have id := (rested.volume found).id
      dsimp only
      split
      · exact .refl rested
      next unmountable =>
        subst id
        refine wp_mono (fun _ _ _ moved => moved.mono fun r there b down => ?_)
          (moves_doUnmountVolume rested found)
        rw [found] at there
        cases there
        exact ⟨by simpa using unmountable, down⟩

theorem moves_forceUnmount (rested : s.Rested) (v : CppString) :
    MovesTo v (fun _ b => Down b) (forceUnmount v) s := by
  rw [forceUnmount, findVolume]
  refine wp_look_bind ?_
  cases found : s.volumeMap[v]? with
  | none => exact .refl rested
  | some vol =>
      have id := (rested.volume found).id
      subst id
      exact moves_doUnmountVolume rested found

theorem restores_unmount (v : CppString) :
    Restores ManagerState.Rested (unmount v) fun _ => True :=
  fun _ rested => (moves_unmount rested v).ends rested

theorem restores_forceUnmount (v : CppString) :
    Restores ManagerState.Rested (forceUnmount v) fun _ => True :=
  fun _ rested => (moves_forceUnmount rested v).ends rested

/-! ### Encrypted containers -/

omit [JsonLib] in
theorem ManagerState.Rested.keyIds (rested : s.Rested) : KeyIds s :=
  fun _ _ found => (rested.volume found).id

/-- `p` on its own moves one volume, whichever it is. -/
abbrev MovesOne (may : VolumeState → Option VolumeState → Prop) (p : ManagerProg α)
    (s : ManagerState) : Prop :=
  wp Contract.free p (fun _ s' _ => ∃ v, MovedTo v may s s') s ()

omit [JsonLib] in
theorem MovesOne.ends {may : VolumeState → Option VolumeState → Prop} {p : ManagerProg α}
    (rested : s.Rested) (moves : MovesOne may p s) : EndsRested p s := by
  refine wp_mono ?_ moves
  rintro _ _ _ ⟨v, moved⟩
  exact ⟨moved.rested rested, trivial⟩

omit [JsonLib] in
theorem reads_initAndMountVolume (vol : VolumeExternal) (volPath : CppString) (mountFlag : Nat) :
    Within Eq (initAndMountVolume vol volPath mountFlag) (MountedCopy vol.id) := by
  have init : Within Eq (initVolume vol volPath) (MountedCopy vol.id) := by
    rw [initVolume]
    refine within_call_bind fun metadata => ?_
    split
    next failed => exact .of_failed failed rfl
    split
    · exact .of_failed (by decide) rfl
    · exact ⟨rfl, fun _ => List.append_ne_nil_of_left_ne_nil (by decide) _⟩
  rw [initAndMountVolume]
  refine within_seq init fun result made => ?_
  obtain ⟨res, vol'⟩ := result
  dsimp only at made ⊢
  split
  · exact made
  next ok => exact within_call_bind fun res => ⟨made.1, fun _ => made.2 (by simpa using ok)⟩

/-- The states `MountVolumeByPath` starts from and ends in. -/
def ByPath (a : VolumeState) (b : Option VolumeState) : Prop := a ≠ .mounted ∧ b = some .mounted

omit [JsonLib] in
theorem moves_mountVolumeByPath (rested : s.Rested) (diskId volPath : CppString)
    (mountParam : MountParam) :
    MovesOne ByPath (mountVolumeByPath diskId volPath mountParam) s := by
  have same : ∃ v, MovedTo v ByPath s s := ⟨[], .refl rested⟩
  rw [mountVolumeByPath]
  refine wp_reads_bind (reads_getDiskById diskId) fun shown _ => ?_
  split
  · exact same
  split
  · exact same
  rw [lookupVolumeByCryptPath]
  refine wp_look_bind ?_
  split
  · exact same
  next vol lookup =>
    have found : s.volumeMap[vol.id]? = some vol := rested.keyIds.lookup lookup
    split
    · exact same
    next free =>
      refine wp_reads_bind (reads_readPersistUsbReadonlyMountFlagBits _) fun flag _ => ?_
      refine wp_told_bind (reads_initAndMountVolume _ _ _) fun result made => ?_
      obtain ⟨res, vol'⟩ := result
      obtain ⟨id, path⟩ := made
      dsimp only at id path ⊢
      split
      · exact same
      next ok =>
        have path : vol'.path ≠ [] := path (by simpa using ok)
        have moved : ∀ copy : VolumeExternal, copy.id = vol.id → copy.state = .mounted →
            copy.path ≠ [] → MovedTo vol.id ByPath s (s.updateVolume vol.id fun _ => copy) := by
          intro copy id state path
          refine .updateVolume rested found (.of_mounted id state path) (.inr ⟨free, ?_⟩)
          rw [state]
        have written : ∀ copy : VolumeExternal, copy.id = vol.id → copy.state = .mounted →
            copy.path ≠ [] → MovesTo vol.id ByPath (updateVolumeExternal copy) s := by
          intro copy id state path
          rw [updateVolumeExternal, updateVolumeIfFound]
          refine wp_bind.mpr (wp_section ?_)
          dsimp only
          rw [id]
          split
          · exact moved copy id state path
          · exact moved copy id state path
        refine wp_seq (written _ id rfl path) fun err s' _ moved => ?_
        split
        · exact ⟨vol.id, moved⟩
        · exact wp_called_bind fun _ _ _ => ⟨vol.id, moved⟩

/-- The states `UmountVolumeByPath` starts from and ends in. -/
def OffByPath (a : VolumeState) (b : Option VolumeState) : Prop := a ≠ .unmounted ∧ Down b

theorem moves_umountVolumeByPath (rested : s.Rested) (diskId volPath : CppString) :
    MovesOne OffByPath (umountVolumeByPath diskId volPath) s := by
  have same : ∃ v, MovedTo v OffByPath s s := ⟨[], .refl rested⟩
  rw [umountVolumeByPath]
  refine wp_reads_bind (reads_getDiskById diskId) fun shown _ => ?_
  split
  · exact same
  split
  · exact same
  rw [lookupVolumeByCryptPath]
  refine wp_look_bind ?_
  split
  · exact same
  next vol lookup =>
    split
    · exact same
    next up =>
      have found := rested.keyIds.lookup lookup
      refine wp_mono ?_ (moves_doUnmountVolume rested found)
      intro _ _ _ moved
      refine ⟨vol.id, moved.mono fun r there b down => ?_⟩
      rw [found] at there
      cases there
      exact ⟨up, down⟩

omit [JsonLib] in
theorem restores_mountVolumeByPath (diskId volPath : CppString) (mountParam : MountParam) :
    Restores ManagerState.Rested (mountVolumeByPath diskId volPath mountParam) fun _ => True :=
  fun _ rested => (moves_mountVolumeByPath rested diskId volPath mountParam).ends rested

theorem restores_umountVolumeByPath (diskId volPath : CppString) :
    Restores ManagerState.Rested (umountVolumeByPath diskId volPath) fun _ => True :=
  fun _ rested => (moves_umountVolumeByPath rested diskId volPath).ends rested

/-! ### Mounting -/

/-- How a mount that checks or repairs may end. -/
def MountOrNot (b : Option VolumeState) : Prop :=
  b = some .mounted ∨ b = some .unmounted ∨ b = some .repairFinishFail

/-- How `MountVolumeEntry` ends for a volume at rest: the other volumes are as before, and the copy
is at rest. -/
structure EntryEnd (v : CppString) (r : VolumeExternal) (s : ManagerState)
    (result : ErrCode × VolumeExternal) (s' : ManagerState) : Prop where
  others : Others v s s'
  paths : DataPaths s'.voldata.uuidMap
  copy : result.2.Rested v
  state : MountOrNot (some result.2.state)
  record : ∃ r', s'.volumeMap[v]? = some r' ∧
    (result.1 = E_OK → r'.state = r.state ∨ r'.state = .unmounted)

theorem ends_mountVolumeEntry {v : CppString} {vol r : VolumeExternal} {readOnly : Bool}
    (found : s.volumeMap[v]? = some r) (id : vol.id = v) (uuid : vol.fsUuid = r.fsUuid)
    (path : vol.path = []) (paths : DataPaths s.voldata.uuidMap) :
    wp Contract.free (mountVolumeEntry vol v readOnly)
      (fun result s' _ => EntryEnd v r s result s') s () := by
  have entered : wp (daemonContract fun _ _ _ => True) (mountVolumeEntry vol v readOnly)
      (MountEnd (fun _ _ _ => True) v vol r) s [] :=
    wp_mountVolumeEntry found id uuid (not_mounted_nil _) paths
  have both := wp_within entered (others_mountVolumeEntry id readOnly) (.refl v) .trans
  refine wp_free_of_daemon (wp_mono ?_ both)
  intro result s' w' kept
  obtain ⟨ended, others, copy⟩ := kept
  obtain ⟨r', found', -, state⟩ := ended.record
  rcases ended.outcome with ⟨ok, mounted, -⟩ | ⟨-, free, path', -⟩
  · have rested := VolumeExternal.Rested.of_mounted copy.1 mounted (copy.2 ok)
    exact ⟨others, ended.paths, rested, .inl (congrArg some mounted), r', found', state⟩
  · refine ⟨others, ended.paths, ?_, .inr ?_, r', found', state⟩
    · refine .of_free copy.1 ?_ ?_ (path'.trans path)
      · rcases free with state | state <;> rw [state] <;> rfl
      · rcases free with state | state <;> rw [state] <;> decide
    · rcases free with state | state
      · exact .inl (congrArg some state)
      · exact .inr (congrArg some state)

/-- The states a mount starts from and ends in. -/
def Mounts (a : VolumeState) (b : Option VolumeState) : Prop := a.mountable = true ∧ MountOrNot b

/-- A mount moves its volume, or, when it is a container, the volume of its device. -/
theorem moves_mount (rested : s.Rested) (v : CppString) (mountParam : MountParam) :
    wp Contract.free (mount v mountParam) (fun _ s' _ => MovedTo v Mounts s s' ∨
      CppString.startsWith v CRYPT_VOLUME_PREFIX = true ∧ ∃ k, MovedTo k ByPath s s') s () := by
  have same : MovedTo v Mounts s s := .refl rested
  rw [mount]
  refine wp_called_bind fun disabled _ _ => ?_
  split
  · exact .inl same
  rw [findVolume]
  refine wp_look_bind ?_
  cases found : s.volumeMap[v]? with
  | none => exact .inl same
  | some vol =>
      dsimp only
      split
      · exact .inl same
      next mountable =>
        have mountable : vol.state.mountable = true := by simpa using mountable
        have ne : vol.state ≠ .mounted := by
          intro mounted
          rw [mounted] at mountable
          cases mountable
        refine wp_reads_bind (reads_checkVolId v) fun devPath _ => ?_
        refine wp_called_bind fun controlled _ _ => ?_
        split
        · exact .inl same
        split
        next crypt =>
          refine wp_mono ?_ (moves_mountVolumeByPath rested _ _ _)
          intro _ _ _ moved
          exact .inr ⟨(Bool.and_eq_true_iff.mp crypt).2, moved⟩
        have calm := rested.volume found
        refine wp_seq (ends_mountVolumeEntry found calm.id rfl (calm.path_nil ne) rested.paths) ?_
        intro result s' _ ended
        obtain ⟨r', found', state⟩ := ended.record
        refine wp_section ?_
        rw [found']
        dsimp only
        split
        next refused =>
          -- The record was mountable and only ever became UNMOUNTED.
          rcases state refused.1 with same | unmounted
          · rw [same, mountable] at refused
            cases refused.2
          · rw [unmounted] at refused
            cases refused.2
        · refine .inl (.update ended.others ended.paths found found' ended.copy (.inr ?_))
          exact ⟨mountable, ended.state⟩

theorem restores_mount (v : CppString) (mountParam : MountParam) :
    Restores ManagerState.Rested (mount v mountParam) fun _ => True := by
  intro s rested
  refine wp_mono ?_ (moves_mount rested v mountParam)
  rintro _ s' _ (moved | ⟨-, k, moved⟩)
  · exact ⟨moved.rested rested, trivial⟩
  · exact ⟨moved.rested rested, trivial⟩

/-! ### Repair -/

/-- The record has no path, and the copy worked on is one of it. -/
theorem moves_fixUnmounted {v : CppString} {vol r : VolumeExternal} (rested : s.Rested)
    (found : s.volumeMap[v]? = some r) (free : r.path = []) (id : vol.id = v)
    (path : vol.path = []) (uuid : vol.fsUuid = r.fsUuid) :
    MovesTo v (fun _ b => MountOrNot b) (fixUnmounted vol v) s := by
  have repaired : wp Contract.free (repairAndCheckVolume vol v) (fun result s' _ =>
      ∃ state : VolumeState, result.2 = { vol with state } ∧
        s' = s.updateVolume v (fun r => { r with state }) ∧
        (result.1 = E_OK ∧ state = .unmounted ∨ result.1 ≠ E_OK ∧ state = .repairFinishFail))
      s () := by
    refine wp_free_of_daemon (wp_mono ?_ (wp_repairAndCheckVolume (not_mounted_nil _)))
    rintro result s' w' ⟨state, copy, memory, -, ended⟩
    exact ⟨state, copy, memory, ended⟩
  rw [fixUnmounted]
  refine wp_seq repaired ?_
  rintro ⟨rcErr, _⟩ _ _ ⟨state, rfl, rfl, ended⟩
  dsimp only at ended ⊢
  rcases ended with ⟨rfl, rfl⟩ | ⟨bad, rfl⟩
  · rw [if_neg (by decide)]
    have found₁ : (s.updateVolume v fun r => { r with state := .unmounted }).volumeMap[v]? =
        some { r with state := .unmounted } := by
      rw [ManagerState.get_updateVolume_self, found]
      rfl
    refine wp_seq (ends_mountVolumeEntry found₁ ?_ ?_ ?_ rested.paths) ?_
    · exact id
    · exact uuid
    · exact path
    intro result s' _ ended
    obtain ⟨r', found', -⟩ := ended.record
    have others := (Others.updateVolume v s _).trans ended.others
    refine wp_bind.mpr (wp_section ?_)
    rw [found']
    exact .update others ended.paths found found' ended.copy (.inr ended.state)
  · rw [if_pos bad]
    refine .updateVolume rested found ?_ (.inr (.inr (.inr rfl)))
    exact .of_free (rested.volume found).id rfl (by simp) free

theorem moves_tryToFix (rested : s.Rested) (v : CppString) :
    MovesTo v (fun _ b => MountOrNot b) (tryToFix v) s := by
  rw [tryToFix, findVolume]
  refine wp_look_bind ?_
  cases found : s.volumeMap[v]? with
  | none => exact .refl rested
  | some vol =>
      have calm := rested.volume found
      dsimp only
      split
      · -- The volume is ejected first; when that fails it is put back where it was.
        rw [notifyVolumeEjecting]
        refine wp_bind.mpr (wp_update_bind (wp_called_bind fun _ _ _ => ?_))
        refine wp_reads_bind (reads_unmountVolumeMountPoints _ _) fun umErr _ => ?_
        split
        · refine wp_update_bind ?_
          rw [ManagerState.updateVolume_updateVolume]
          exact .updateVolume rested found (calm.copy rfl rfl rfl) (.inl rfl)
        · refine wp_update_bind ?_
          rw [ManagerState.updateVolume_updateVolume]
          have written : ∀ f : VolumeExternal → VolumeExternal,
              (s.updateVolume v f).volumeMap[v]? = some (f vol) := by
            intro f
            rw [ManagerState.get_updateVolume_self, found]
            rfl
          refine wp_mono ?_ (moves_fixUnmounted (rested.of_updateVolume fun r there => ?_)
            (written _) rfl calm.id rfl rfl)
          · intro _ s' _ moved
            refine ⟨(Others.updateVolume v s _).trans moved.others, moved.paths, moved.rest, ?_⟩
            refine .inr ⟨vol, found, ?_⟩
            rcases moved.state with same | ⟨-, -, tried⟩
            · rw [same, written]
              exact .inr (.inl rfl)
            · exact tried
          · exact .of_free (rested.volume there).id rfl (by simp) rfl
      next notMounted =>
        have ne : vol.state ≠ .mounted := fun mounted => notMounted (.inr mounted)
        exact moves_fixUnmounted rested found (calm.path_nil ne) calm.id (calm.path_nil ne) rfl

theorem restores_tryToFix (v : CppString) :
    Restores ManagerState.Rested (tryToFix v) fun _ => True :=
  fun _ rested => (moves_tryToFix rested v).ends rested

/-! ### Format -/

theorem moves_updateVolumeAfterFormat {v fsType diskId oldFsUuid devPath : CppString}
    (rested : s.Rested) (free : ∀ r, s.volumeMap[v]? = some r → r.path = []) :
    MovesTo v (fun _ b => b = some .unmounted)
      (updateVolumeAfterFormat v fsType diskId oldFsUuid devPath) s := by
  refine wp_free_of_daemon (wp_mono ?_ (wp_updateVolumeAfterFormat rested.paths))
  rintro _ s' _ ⟨-, rfl | ⟨m, t, -, paths, rfl⟩⟩
  · exact .refl rested
  · cases found : s.volumeMap[v]? with
    | none =>
        refine .of_none (.updateVolume v { s with voldata := t } _) paths found ?_
        exact (StdMap.get_update_self _ _ _).trans (by rw [found, Option.map_none])
    | some r =>
        have moved : Others v s { s with voldata := t } := .refl v s
        refine .update moved paths found found ?_ (.inr rfl)
        exact .of_free (rested.volume found).id rfl (by simp) (free r found)

/-- The states a format starts from and ends in. -/
def Formats (a : VolumeState) (b : Option VolumeState) : Prop :=
  a.formattable = true ∧ (b = some .unmounted ∨ b = some .formatFinishFail)

theorem moves_format (rested : s.Rested) (v fsType : CppString) :
    MovesTo v Formats (format v fsType) s := by
  rw [format, findVolume]
  refine wp_look_bind ?_
  cases found : s.volumeMap[v]? with
  | none => exact .refl rested
  | some vol =>
      have calm := rested.volume found
      dsimp only
      split
      · exact .refl rested
      refine wp_reads_bind (reads_isDiskSupported _) fun supported _ => ?_
      split
      · exact .refl rested
      split
      · exact .refl rested
      next formattable =>
        have formattable : vol.state.formattable = true := by simpa using formattable
        have path : vol.path = [] := by
          refine calm.path_nil fun mounted => ?_
          rw [mounted] at formattable
          cases formattable
        refine wp_look_bind (wp_reads_bind (reads_checkVolId v) fun devPath _ => ?_)
        split
        · exact .refl rested
        refine wp_called_bind fun err _ _ => ?_
        split
        · rw [publishFormatFailEvent, findVolume]
          refine wp_bind.mpr (wp_update_bind (wp_look_bind ?_))
          have failed : MovedTo v Formats s
              (s.updateVolume v fun r => { r with state := .formatFinishFail }) :=
            .updateVolume rested found (.of_free calm.id rfl (by simp) path)
              (.inr ⟨formattable, .inr rfl⟩)
          split
          · exact wp_request.mpr ⟨trivial, fun _ _ _ => failed⟩
          · exact failed
        · refine wp_mono (fun _ _ _ moved => moved.mono fun r there b unmounted => ?_)
            (moves_updateVolumeAfterFormat rested fun r there => ?_)
          · rw [found] at there
            cases there
            exact path
          · rw [found] at there
            cases there
            exact ⟨formattable, .inl unmounted⟩

theorem restores_format (v fsType : CppString) :
    Restores ManagerState.Rested (format v fsType) fun _ => True :=
  fun _ rested => (moves_format rested v fsType).ends rested

end

end DiskManager
