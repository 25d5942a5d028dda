import DiskManager.Manager.Core
import DiskManager.Manager.Dedup
import DiskManager.Manager.Lifecycle

/-!
# Uuids are told apart

A uuid that is read from a file system goes through `DedupFsUuidUnlocked` before it is recorded, but
not in `InitVolume` and `NotifyMtpMounted`. `uuids_unique`: when these two bring no uuid that another
volume has, no two volumes ever have the same uuid; `uuids_shared_clones` is a run in which they do.
-/

namespace DiskManager

open Interact

/-! ## The invariant -/

/-- No uuid is that of two volumes. Volumes without a uuid do not count. -/
def UuidUnique (s : ManagerState) : Prop :=
  ∀ (k k' : CppString) (r r' : VolumeExternal), s.volumeMap[k]? = some r →
    s.volumeMap[k']? = some r' → r.fsUuid = r'.fsUuid → r.fsUuid ≠ [] → k = k'

/-- No volume but `v` has the uuid. -/
def FreeFor (s : ManagerState) (v uuid : CppString) : Prop :=
  ∀ (k : CppString) (r : VolumeExternal), s.volumeMap[k]? = some r → k ≠ v → r.fsUuid ≠ uuid

theorem freeFor_dedup (s : ManagerState) (v uuid : CppString) :
    FreeFor s v (dedupFsUuidUnlocked s.volumeMap v uuid) := by
  intro k r found ne same
  obtain ⟨n, -, -, result, free, -⟩ := exists_dedup_name s.volumeMap v uuid
  rw [result] at same
  exact free ⟨k, r, found, ne, same⟩

theorem fsUuid_of_core {r r' : VolumeExternal} (same : r.core = r'.core) : r.fsUuid = r'.fsUuid := by
  have uuid := congrArg VolumeExternal.fsUuid same
  exact uuid

theorem FreeFor.coreKept {s s' : ManagerState} {v uuid : CppString} (free : FreeFor s v uuid)
    (kept : CoreKept s s') : FreeFor s' v uuid := by
  intro k r' found ne
  obtain ⟨r, before, same⟩ := kept.found found
  rw [← fsUuid_of_core same]
  exact free k r before ne

/-- A volume has its uuid to itself. -/
theorem UuidUnique.freeFor {s : ManagerState} (unique : UuidUnique s) {v : CppString}
    {r : VolumeExternal} (found : s.volumeMap[v]? = some r) :
    r.fsUuid = [] ∨ FreeFor s v r.fsUuid := by
  by_cases empty : r.fsUuid = []
  · exact .inl empty
  · refine .inr fun k r' found' ne same => ne ?_
    exact (unique v k r r' found found' same.symm empty).symm

/-- What holds of the volume map before and after every operation. -/
structure UuidsTold (s : ManagerState) : Prop where
  ids : KeyIds s
  unique : UuidUnique s

theorem UuidsTold.coreKept {s s' : ManagerState} (told : UuidsTold s) (kept : CoreKept s s') :
    UuidsTold s' where
  ids := told.ids.coreKept kept
  unique := by
    intro k k' r r' found found' same some'
    obtain ⟨q, before, core⟩ := kept.found found
    obtain ⟨q', before', core'⟩ := kept.found found'
    rw [← fsUuid_of_core core, ← fsUuid_of_core core'] at same
    rw [← fsUuid_of_core core] at some'
    exact told.unique k k' q q' before before' same some'

theorem UuidsTold.updateVolume {s : ManagerState} (told : UuidsTold s) {v : CppString}
    {f : VolumeExternal → VolumeExternal}
    (ok : ∀ r, s.volumeMap[v]? = some r →
      (f r).id = r.id ∧ ((f r).fsUuid = [] ∨ FreeFor s v (f r).fsUuid)) :
    UuidsTold (s.updateVolume v f) where
  ids := by
    intro k r found
    by_cases same : v = k
    · subst same
      rw [ManagerState.get_updateVolume_self, Option.map_eq_some_iff] at found
      obtain ⟨r₀, before, rfl⟩ := found
      exact (ok r₀ before).1.trans (told.ids v r₀ before)
    · rw [ManagerState.get_updateVolume_ne same] at found
      exact told.ids k r found
  unique := by
    intro k k' r r' found found' same some'
    by_contra ne
    by_cases mine : v = k
    · subst mine
      rw [ManagerState.get_updateVolume_self, Option.map_eq_some_iff] at found
      rw [ManagerState.get_updateVolume_ne ne] at found'
      obtain ⟨r₀, before, rfl⟩ := found
      exact (ok r₀ before).2.resolve_left some' k' r' found' (Ne.symm ne) same.symm
    by_cases mine' : v = k'
    · subst mine'
      rw [ManagerState.get_updateVolume_self, Option.map_eq_some_iff] at found'
      rw [ManagerState.get_updateVolume_ne mine] at found
      obtain ⟨r₀, before, rfl⟩ := found'
      rw [same] at some'
      exact (ok r₀ before).2.resolve_left some' k r found ne same
    · rw [ManagerState.get_updateVolume_ne mine] at found
      rw [ManagerState.get_updateVolume_ne mine'] at found'
      exact ne (told.unique k k' r r' found found' same some')

theorem UuidsTold.insertVolume {s : ManagerState} (told : UuidsTold s) {vol : VolumeExternal}
    (ok : s.volumeMap[vol.id]? = none → vol.fsUuid = [] ∨ FreeFor s vol.id vol.fsUuid) :
    UuidsTold (s.insertVolume vol) := by
  unfold ManagerState.insertVolume
  split
  · exact told
  next absent =>
    have ok := ok (by simpa using absent)
    have get : ∀ k : CppString, ({ s with volumeMap := s.volumeMap.insert vol.id vol } :
        ManagerState).volumeMap[k]? = if vol.id = k then some vol else s.volumeMap[k]? :=
      fun k => StdMap.get_insert s.volumeMap vol.id k vol
    refine ⟨fun k r found => ?_, fun k k' r r' found found' same some' => ?_⟩
    · rw [get] at found
      split at found
      next mine =>
        cases found
        exact mine
      · exact told.ids k r found
    · rw [get] at found found'
      by_contra ne
      split at found
      next mine =>
        cases found
        subst mine
        rw [if_neg ne] at found'
        exact ok.resolve_left some' k' r' found' (Ne.symm ne) same.symm
      split at found'
      next mine' =>
        cases found'
        subst mine'
        rw [same] at some'
        exact ok.resolve_left some' k r found ne same
      · exact ne (told.unique k k' r r' found found' same some')

theorem UuidsTold.eraseVolume {s : ManagerState} (told : UuidsTold s) (v : CppString) :
    UuidsTold (s.eraseVolume v) := by
  have get : ∀ (k : CppString) r, (s.eraseVolume v).volumeMap[k]? = some r →
      s.volumeMap[k]? = some r := by
    intro k r found
    change (s.volumeMap.erase v)[k]? = some r at found
    rw [StdMap.get_erase] at found
    split at found
    · cases found
    · exact found
  refine ⟨fun k r found => told.ids k r (get k r found), ?_⟩
  intro k k' r r' found found' same some'
  exact told.unique k k' r r' (get k r found) (get k' r' found') same some'

/-- The copy has the uuid of the record it is a copy of. -/
def Synced (s : ManagerState) (copy : VolumeExternal) : Prop :=
  ∃ r, s.volumeMap[copy.id]? = some r ∧ r.fsUuid = copy.fsUuid

theorem Synced.coreKept {s s' : ManagerState} {copy copy' : VolumeExternal} (synced : Synced s copy)
    (kept : CoreKept s s') (id : copy'.id = copy.id) (uuid : copy'.fsUuid = copy.fsUuid) :
    Synced s' copy' := by
  obtain ⟨r, found, same⟩ := synced
  have before := kept.symm.found found
  obtain ⟨r', found', core⟩ := before
  refine ⟨r', by rw [id]; exact found', ?_⟩
  rw [uuid, fsUuid_of_core core, same]

theorem UuidsTold.writeBack {s : ManagerState} {copy : VolumeExternal} (told : UuidsTold s)
    (synced : Synced s copy) : UuidsTold (s.updateVolume copy.id fun _ => copy) := by
  obtain ⟨r, found, same⟩ := synced
  refine told.updateVolume fun r' found' => ?_
  obtain rfl : r = r' := Option.some.inj (found.symm.trans found')
  refine ⟨(told.ids _ _ found).symm, ?_⟩
  rw [← same]
  exact told.unique.freeFor found

/-! ## The operations -/

section

variable {W : Type} {env : Env ManagerState W Req Req.Resp} {s : ManagerState} {w : W}

/-! ### Records -/

theorem told_onVolumeCreated {vol : VolumeExternal} (told : UuidsTold s) (empty : vol.fsUuid = []) :
    wp (.ofEnv env) (onVolumeCreated vol) (fun _ s _ => UuidsTold s) s w := by
  rw [onVolumeCreated]
  apply wp_look_bind
  refine wp_bind.mpr ⟨trivial, ?_⟩
  exact told.insertVolume fun _ => .inl empty

theorem told_onVolumeDestroyed {v : CppString} (told : UuidsTold s) :
    wp (.ofEnv env) (onVolumeDestroyed v) (fun _ s _ => UuidsTold s) s w := by
  apply wp_section
  split
  · exact told
  · exact told.eraseVolume v

theorem told_updateVolumeMetadata {v fsUuid fsType description : CppString} (told : UuidsTold s) :
    wp (.ofEnv env) (updateVolumeMetadata v fsUuid fsType description)
      (fun _ s _ => UuidsTold s) s w := by
  apply wp_section
  dsimp only
  split
  · exact told
  · exact told.updateVolume fun r _ => ⟨rfl, .inr (freeFor_dedup s v fsUuid)⟩

theorem told_updateVolumeExternal {copy : VolumeExternal} (told : UuidsTold s)
    (ok : copy.fsUuid = [] ∨ FreeFor s copy.id copy.fsUuid) :
    wp (.ofEnv env) (updateVolumeExternal copy) (fun _ s _ => UuidsTold s) s w := by
  have written := told.updateVolume (v := copy.id) (f := fun _ => copy) fun r found =>
    ⟨(told.ids copy.id r found).symm, ok⟩
  rw [updateVolumeExternal]
  refine wp_bind.mpr (wp_section ?_)
  split
  · exact written
  · exact written

theorem told_notifyMtpMounted {id path desc uuid fsType : CppString} (told : UuidsTold s)
    (ok : s.volumeMap[id]? = none → uuid = [] ∨ FreeFor s id uuid) :
    wp (.ofEnv env) (notifyMtpMounted id path desc uuid fsType) (fun _ s _ => UuidsTold s) s w := by
  rw [notifyMtpMounted]
  apply wp_called_bind
  intro name w' _
  dsimp only
  refine wp_bind.mpr ⟨trivial, ?_⟩
  apply wp_called_bind
  intro _ w'' _
  exact told.insertVolume ok

theorem told_notifyMtpUnmounted {id : CppString} {isBadRemove : Bool} (told : UuidsTold s) :
    wp (.ofEnv env) (notifyMtpUnmounted id isBadRemove) (fun _ s _ => UuidsTold s) s w := by
  rw [notifyMtpUnmounted]
  refine wp_bind.mpr (wp_section ?_)
  dsimp only
  split
  · exact told.eraseVolume id
  · exact wp_called_bind fun _ _ _ => told.eraseVolume id

/-! ### Mounting -/

theorem told_ensureFsUuidReady {vol : VolumeExternal} (told : UuidsTold s) (synced : Synced s vol) :
    wp (.ofEnv env) (ensureFsUuidReady vol) (fun result s' _ =>
      UuidsTold s' ∧ result.2.1.id = vol.id ∧ Synced s' result.2.1) s w := by
  rw [ensureFsUuidReady]
  dsimp only
  split
  · exact ⟨told, rfl, synced⟩
  refine wp_called_bind fun metadata w' _ => ?_
  split
  · exact ⟨told, rfl, synced⟩
  split
  · exact ⟨told, rfl, synced⟩
  refine wp_bind.mpr (wp_section ⟨?_, rfl, ?_⟩)
  · exact told.updateVolume fun r _ => ⟨rfl, .inr (freeFor_dedup s vol.id metadata.uuid)⟩
  · obtain ⟨r, found, -⟩ := synced
    refine ⟨{ r with fsUuid := dedupFsUuidUnlocked s.volumeMap vol.id metadata.uuid }, ?_, rfl⟩
    dsimp only
    rw [ManagerState.get_updateVolume_self, found]
    rfl

variable [JsonLib]

theorem told_mountVolumeEntry {vol : VolumeExternal} {v : CppString} {readOnly : Bool}
    (told : UuidsTold s) (synced : Synced s vol) :
    wp (.ofEnv env) (mountVolumeEntry vol v readOnly) (fun result s' _ =>
      UuidsTold s' ∧ result.2.id = vol.id ∧ Synced s' result.2) s w := by
  rw [mountVolumeEntry]
  refine wp_seq (told_ensureFsUuidReady told synced) fun result s₁ w₁ ready => ?_
  obtain ⟨uuidErr, vol₁, fsUuid⟩ := result
  obtain ⟨told, id, synced⟩ : UuidsTold s₁ ∧ vol₁.id = vol.id ∧ Synced s₁ vol₁ := ready
  dsimp only
  split
  · exact ⟨told, id, synced⟩
  refine wp_core_bind (within_computeVolumeMountPolicy _ _) fun policy s₂ w₂ kept _ => ?_
  have mounted : ∀ (vol₂ : VolumeExternal) s₃ w₃, CoreKept s₁ s₃ → vol₂.id = vol₁.id →
      vol₂.fsUuid = vol₁.fsUuid →
      wp (.ofEnv env) (mountCheckedVolume vol₂ vol₁.fsType.getFsTypeString fsUuid readOnly)
        (fun result s' _ => UuidsTold s' ∧ result.2.id = vol.id ∧ Synced s' result.2) s₃ w₃ := by
    intro vol₂ s₃ w₃ kept id₂ uuid₂
    refine wp_mono ?_ (wp_core (within_mountCheckedVolume _ _ _ _))
    rintro ⟨mountErr, vol₃⟩ s₄ w₄ ⟨kept', worked⟩
    have id₃ := worked.id
    have uuid₃ : vol₃.fsUuid = vol₂.fsUuid := by
      obtain ⟨_, _, _, _, rfl, -⟩ := worked
      rfl
    have all := kept.trans kept'
    exact ⟨told.coreKept all, (id₃.trans id₂).trans id,
      synced.coreKept all (id₃.trans id₂) (uuid₃.trans uuid₂)⟩
  split
  · refine wp_core_bind (within_checkBeforeMount _ _ _) fun result s₃ w₃ kept' checked => ?_
    obtain ⟨checkErr, vol₂⟩ := result
    obtain ⟨state, checked⟩ := checked
    have checked : vol₂ = { vol₁ with state } := checked
    subst checked
    have all := kept.trans kept'
    dsimp only
    split
    · exact ⟨told.coreKept all, id, synced.coreKept all rfl rfl⟩
    · exact mounted _ s₃ w₃ all rfl rfl
  · exact mounted _ s₂ w₂ kept rfl rfl

/-- The uuid is not that of another volume than the one found under the path. -/
def NewUuid (s : ManagerState) (diskId volPath uuid : CppString) : Prop :=
  ∀ vol, s.volumeByCryptPath diskId volPath = some vol → FreeFor s vol.id uuid

omit [JsonLib] in
theorem told_initAndMountVolume {vol : VolumeExternal} {volPath : CppString} {flag : Nat}
    (free : ∀ {w w'} {metadata : Metadata}, env s w (.readMetadata volPath) metadata w' →
      metadata.err = E_OK → isUuidValid metadata.uuid = true → FreeFor s vol.id metadata.uuid) :
    wp (.ofEnv env) (initAndMountVolume vol volPath flag) (fun result s' _ =>
      s' = s ∧ result.2.id = vol.id ∧
        (result.1 = E_OK → FreeFor s vol.id result.2.fsUuid)) s w := by
  have init : wp (.ofEnv env) (initVolume vol volPath) (fun result s' _ =>
      s' = s ∧ result.2.id = vol.id ∧
        (result.1 = E_OK → FreeFor s vol.id result.2.fsUuid)) s w := by
    rw [initVolume]
    refine wp_called_bind fun metadata w' answered => ?_
    split
    next failed => exact ⟨rfl, rfl, fun ok => absurd ok failed⟩
    next read =>
      split
      · have bad : E_PARAMS_INVALID ≠ E_OK := by decide
        exact ⟨rfl, rfl, fun ok => absurd ok bad⟩
      next valid =>
        exact ⟨rfl, rfl, fun _ => free answered (by simpa using read) (by simpa using valid)⟩
  rw [initAndMountVolume]
  refine wp_seq init fun result s' w' ended => ?_
  obtain ⟨res, vol'⟩ := result
  obtain ⟨rfl, id, free⟩ := ended
  dsimp only
  split
  · exact ⟨rfl, id, free⟩
  next ok => exact wp_called_bind fun res' w'' _ => ⟨rfl, id, fun _ => free (by simpa using ok)⟩

omit [JsonLib] in
theorem told_mountVolumeByPath {diskId volPath : CppString} {mountParam : MountParam}
    (told : UuidsTold s)
    (fresh : ∀ {w w'} {metadata : Metadata}, env s w (.readMetadata volPath) metadata w' →
      metadata.err = E_OK → isUuidValid metadata.uuid = true →
        NewUuid s diskId volPath metadata.uuid) :
    wp (.ofEnv env) (mountVolumeByPath diskId volPath mountParam)
      (fun _ s _ => UuidsTold s) s w := by
  rw [mountVolumeByPath]
  refine wp_reads_bind (reads_getDiskById diskId) fun disk w₁ => ?_
  split
  · exact told
  split
  · exact told
  rw [lookupVolumeByCryptPath]
  apply wp_look_bind
  split
  · exact told
  next vol found =>
    split
    · exact told
    refine wp_reads_bind (reads_readPersistUsbReadonlyMountFlagBits _) fun flag w₂ => ?_
    dsimp only
    have new : ∀ {w w'} {metadata : Metadata}, env s w (.readMetadata volPath) metadata w' →
        metadata.err = E_OK → isUuidValid metadata.uuid = true → FreeFor s vol.id metadata.uuid :=
      fun answered read valid => fresh answered read valid vol found
    refine wp_seq (told_initAndMountVolume new) fun result s' w₃ ended => ?_
    obtain ⟨res, vol'⟩ := result
    obtain ⟨rfl, id, free⟩ := ended
    dsimp only
    split
    · exact told
    next ok =>
      have free := free (by simpa using ok)
      refine wp_seq (told_updateVolumeExternal told (.inr ?_)) fun updateErr s₁ w₄ told => ?_
      · intro k r there ne
        exact free k r there (id ▸ ne)
      · split
        · exact told
        · exact wp_called_bind fun _ _ _ => told

theorem told_mount {v : CppString} {mountParam : MountParam} (told : UuidsTold s)
    (fresh : CppString.startsWith v CRYPT_VOLUME_PREFIX = true → ∀ r, s.volumeMap[v]? = some r →
      ∀ {w w' volPath} {metadata : Metadata}, env s w (.readMetadata volPath) metadata w' →
        metadata.err = E_OK → isUuidValid metadata.uuid = true →
          NewUuid s r.diskId volPath metadata.uuid) :
    wp (.ofEnv env) (mount v mountParam) (fun _ s _ => UuidsTold s) s w := by
  rw [mount]
  refine wp_called_bind fun disabled w₁ _ => ?_
  split
  · exact told
  rw [findVolume]
  apply wp_look_bind
  split
  · exact told
  next vol found =>
    split
    · exact told
    refine wp_reads_bind (reads_checkVolId v) fun devPath w₂ => ?_
    refine wp_called_bind fun enabled w₃ _ => ?_
    split
    · exact told
    split
    next byPath =>
      have both := Bool.and_eq_true_iff.mp byPath
      exact told_mountVolumeByPath told (fresh both.2 vol found)
    have id := told.ids v vol found
    subst id
    refine wp_seq (told_mountVolumeEntry told ⟨vol, found, rfl⟩) fun result s' w' ended => ?_
    obtain ⟨mountErr, copy⟩ := result
    obtain ⟨told, id, synced⟩ : UuidsTold s' ∧ copy.id = vol.id ∧ Synced s' copy := ended
    rw [← id]
    apply wp_section
    split
    · exact told
    split
    · exact told
    · exact told.writeBack synced

/-! ### Formatting -/

theorem told_updateVolumeAfterFormat {v fsType diskId oldFsUuid devPath : CppString}
    (told : UuidsTold s) :
    wp (.ofEnv env) (updateVolumeAfterFormat v fsType diskId oldFsUuid devPath)
      (fun _ s _ => UuidsTold s) s w := by
  rw [updateVolumeAfterFormat]
  refine wp_called_bind fun metadata w₁ _ => ?_
  split
  · exact told
  apply wp_look_bind
  refine wp_core_bind (within_updateVoldataMappingAfterFormat _ _ _ _) fun _ s₂ w₂ kept _ => ?_
  refine wp_bind.mpr (wp_section ?_)
  refine (told.coreKept kept).updateVolume fun r _ => ⟨rfl, .inr ?_⟩
  exact (freeFor_dedup s v metadata.uuid).coreKept kept

theorem told_format {v fsType : CppString} (told : UuidsTold s) :
    wp (.ofEnv env) (format v fsType) (fun _ s _ => UuidsTold s) s w := by
  rw [format, findVolume]
  apply wp_look_bind
  split
  · exact told
  next vol found =>
    split
    · exact told
    refine wp_core_bind (within_isDiskSupported _) fun supported s₁ w₁ kept _ => ?_
    have told := told.coreKept kept
    split
    · exact told
    split
    · exact told
    apply wp_look_bind
    refine wp_reads_bind (reads_checkVolId v) fun devPath w₂ => ?_
    split
    · exact told
    refine wp_called_bind fun err w₃ _ => ?_
    split
    · refine wp_core_bind (within_publishFormatFailEvent v) fun _ s₂ w₄ kept' _ => ?_
      exact told.coreKept kept'
    · exact told_updateVolumeAfterFormat told

theorem told_formatPartition {diskId : CppString} {partitionNum : Int} {params : FormatParams}
    (told : UuidsTold s) :
    wp (.ofEnv env) (formatPartition diskId partitionNum params)
      (fun _ s _ => UuidsTold s) s w := by
  rw [formatPartition]
  refine wp_core_bind (within_getDiskById diskId) fun disk s₁ w₁ kept _ => ?_
  have told := told.coreKept kept
  split
  · exact told
  split
  · exact told
  refine wp_core_bind (within_isVolumeMounted _ _) fun mounted s₂ w₂ kept _ => ?_
  have told := told.coreKept kept
  split
  · exact told
  refine wp_core_bind (within_findVolumeByPartNum _ _) fun found s₃ w₃ kept _ => ?_
  have told := told.coreKept kept
  apply wp_look_bind
  dsimp only
  split
  · exact told
  split
  · exact told
  split
  · exact told
  refine wp_called_bind fun ret w₄ _ => ?_
  split
  · split
    · exact wp_called_bind fun _ _ _ => told
    · exact told
  rw [refreshVolumeAfterFormatPartition]
  split
  · exact told
  refine wp_bind.mpr (wp_reads_bind (reads_checkVolId _) fun devPath w₅ => ?_)
  split
  · exact told
  · exact wp_seq (told_updateVolumeAfterFormat told) fun _ _ _ told => told

end

/-! ## Runs -/

/-- The operations that make volumes, remove them or give them a uuid. Discovery and
`BindBlockLoopDev` make volumes without one. -/
inductive UuidOp : Type
  | onVolumeCreated (vol : VolumeExternal) (empty : vol.fsUuid = [])
  | updateVolumeMetadata (volumeId fsUuid fsType description : CppString)
  | mount (volumeId : CppString) (mountParam : MountParam)
  | format (volumeId fsType : CppString)
  | formatPartition (diskId : CppString) (partitionNum : Int) (params : FormatParams)
  | mountVolumeByPath (diskId volPath : CppString) (mountParam : MountParam)
  | notifyMtpMounted (id path desc uuid fsType : CppString)
  | notifyMtpUnmounted (id : CppString) (isBadRemove : Bool)
  | onVolumeDestroyed (volumeId : CppString)

def UuidOp.prog [JsonLib] : UuidOp → ManagerProg ErrCode
  | .onVolumeCreated vol _ => DiskManager.onVolumeCreated vol
  | .updateVolumeMetadata volumeId fsUuid fsType description =>
      DiskManager.updateVolumeMetadata volumeId fsUuid fsType description
  | .mount volumeId mountParam => DiskManager.mount volumeId mountParam
  | .format volumeId fsType => DiskManager.format volumeId fsType
  | .formatPartition diskId partitionNum params =>
      DiskManager.formatPartition diskId partitionNum params
  | .mountVolumeByPath diskId volPath mountParam =>
      DiskManager.mountVolumeByPath diskId volPath mountParam
  | .notifyMtpMounted id path desc uuid fsType =>
      DiskManager.notifyMtpMounted id path desc uuid fsType
  | .notifyMtpUnmounted id isBadRemove => DiskManager.notifyMtpUnmounted id isBadRemove
  | .onVolumeDestroyed volumeId => DiskManager.onVolumeDestroyed volumeId

/-- A new MTP volume brings no uuid that another volume has. -/
def UuidOp.may : UuidOp → ManagerState → Prop
  | .notifyMtpMounted id _ _ uuid _, s =>
      s.volumeMap[id]? = none → uuid = [] ∨ FreeFor s id uuid
  | _, _ => True

/-- A volume that is mounted by its path, also by `Mount`, has no uuid that another volume has. -/
def UuidOp.newUuids (op : UuidOp) (s : ManagerState) : (q : Req) → q.Resp → Prop
  | .readMetadata volPath, metadata => metadata.err = E_OK → isUuidValid metadata.uuid = true →
      match op with
      | .mountVolumeByPath diskId _ _ => NewUuid s diskId volPath metadata.uuid
      | .mount volumeId _ => CppString.startsWith volumeId CRYPT_VOLUME_PREFIX = true →
          ∀ r, s.volumeMap[volumeId]? = some r → NewUuid s r.diskId volPath metadata.uuid
      | _ => True
  | _, _ => True

section

variable [JsonLib] {W : Type}

/-- The answers of `env` that bring no such uuid. -/
def UuidOp.env (env : Env ManagerState W Req Req.Resp) (op : UuidOp) :
    Env ManagerState W Req Req.Resp :=
  fun s w q r w' => env s w q r w' ∧ op.newUuids s q r

theorem UuidOp.told (env : Env ManagerState W Req Req.Resp) (op : UuidOp) {s : ManagerState} {w : W}
    (told : UuidsTold s) (may : op.may s) :
    wp (.ofEnv (op.env env)) op.prog (fun _ s _ => UuidsTold s) s w := by
  cases op with
  | onVolumeCreated vol empty => exact told_onVolumeCreated told empty
  | updateVolumeMetadata volumeId fsUuid fsType description => exact told_updateVolumeMetadata told
  | mount volumeId mountParam =>
      refine told_mount told fun crypt r found => ?_
      intro w w' volPath metadata answered read valid
      exact answered.2 read valid crypt r found
  | format volumeId fsType => exact told_format told
  | formatPartition diskId partitionNum params => exact told_formatPartition told
  | mountVolumeByPath diskId volPath mountParam =>
      refine told_mountVolumeByPath told ?_
      intro w w' metadata answered read valid
      exact answered.2 read valid
  | notifyMtpMounted id path desc uuid fsType => exact told_notifyMtpMounted told may
  | notifyMtpUnmounted id isBadRemove => exact told_notifyMtpUnmounted told
  | onVolumeDestroyed volumeId => exact told_onVolumeDestroyed told

/-- When no MTP volume and no volume mounted by its path brings the uuid of another volume, no two
volumes ever have the same uuid. -/
theorem uuids_unique {env : Env ManagerState W Req Req.Resp} {s₀ s : ManagerState} {w₀ w : W}
    {ops : List UuidOp} (ids : KeyIds s₀) (unique : UuidUnique s₀)
    (run : GuardedRuns UuidOp.prog (UuidOp.env env) (fun op s _ => op.may s) s₀ w₀ ops s w) :
    UuidUnique s := by
  have told := GuardedRuns.invariant (C := fun op => .ofEnv (UuidOp.env env op))
    (fun s _ => UuidsTold s) (fun op s w told may => op.told env told may) ⟨ids, unique⟩ run
  exact told.unique

end

/-- A USB stick without volumes. -/
def emptyStick : ManagerState :=
  { ManagerState.boot with
    diskMap := (∅ : StdMap Disk).insert "disk-8-0" (.create "disk-8-0" 0 "sda" USB_FLAG) }

theorem emptyStick_keyIds : KeyIds emptyStick := by
  intro k r found
  change (∅ : VolumeMap)[k]? = some r at found
  rw [StdMap.get_empty] at found
  cases found

theorem emptyStick_unique : UuidUnique emptyStick := by
  intro k k' r r' found
  change (∅ : VolumeMap)[k]? = some r at found
  rw [StdMap.get_empty] at found
  cases found

/-- Two partitions with the same file system. -/
def twinPartitions : List UuidOp :=
  [.onVolumeCreated { id := "vol-8-1", diskId := "disk-8-0" } rfl,
    .onVolumeCreated { id := "vol-8-2", diskId := "disk-8-0" } rfl,
    .updateVolumeMetadata "vol-8-1" "1234-ABCD" "vfat" "",
    .updateVolumeMetadata "vol-8-2" "1234-ABCD" "vfat" ""]

def twinsFound : ManagerState × MountTable :=
  letI := tableJson
  execAll UuidOp.prog (daemon okAnswer) twinPartitions (emptyStick, [])

/-- They are told apart. -/
theorem uuids_unique_twins :
    letI := tableJson
    ∃ s w, GuardedRuns UuidOp.prog (UuidOp.env (daemonEnv (.of okAnswer))) (fun op s _ => op.may s)
        emptyStick [] twinPartitions s w ∧
      s.volumeMap["vol-8-1".toList]?.map (·.fsUuid) = some "1234-ABCD".toList ∧
      s.volumeMap["vol-8-2".toList]?.map (·.fsUuid) = some "1234-ABCD_1".toList ∧
      UuidUnique s := by
  let _ := tableJson
  have plain : ∀ op ∈ twinPartitions, (∀ s, op.may s) ∧ ∀ s q r, op.newUuids s q r := by
    intro op mem
    simp only [twinPartitions, List.mem_cons, List.not_mem_nil, or_false] at mem
    rcases mem with rfl | rfl | rfl | rfl <;> refine ⟨fun _ => trivial, fun s q r => ?_⟩ <;>
      cases q <;> first | trivial | exact fun _ _ => trivial
  have run : GuardedRuns UuidOp.prog (UuidOp.env (daemonEnv (.of okAnswer)))
      (fun op s _ => op.may s) emptyStick [] twinPartitions twinsFound.1 twinsFound.2 :=
    .execAll (fun op mem s w q => ⟨daemon_obeys okAnswer s w q, (plain op mem).2 s q _⟩)
      (fun op mem s _ => (plain op mem).1 s) emptyStick []
  have first : twinsFound.1.volumeMap["vol-8-1".toList]?.map (·.fsUuid) =
      some "1234-ABCD".toList := by decide +kernel
  have second : twinsFound.1.volumeMap["vol-8-2".toList]?.map (·.fsUuid) =
      some "1234-ABCD_1".toList := by decide +kernel
  exact ⟨_, _, run, first, second, uuids_unique emptyStick_keyIds emptyStick_unique run⟩

/-- A daemon that finds the same file system everywhere. -/
def clonesAnswer (w : MountTable) : (q : Req) → q.Resp
  | .readMetadata _ => ⟨E_OK, "1234-ABCD", "vfat", "CLONE"⟩
  | q => okAnswer w q

/-- Two containers, mounted by their paths. -/
def mountedContainers : List UuidOp :=
  [.onVolumeCreated
      { id := "vol-crypt-loop0", diskId := "disk-8-0", loopPath := "/dev/block/loop0" } rfl,
    .onVolumeCreated
      { id := "vol-crypt-loop1", diskId := "disk-8-0", loopPath := "/dev/block/loop1" } rfl,
    .mountVolumeByPath "disk-8-0" "/dev/block/loop0" {},
    .mountVolumeByPath "disk-8-0" "/dev/block/loop1" {}]

def containersMounted : ManagerState × MountTable :=
  letI := tableJson
  execAll UuidOp.prog (daemon clonesAnswer) mountedContainers (emptyStick, [])

theorem containersMounted_shared : ¬ UuidUnique containersMounted.1 := by
  have uuids : ∀ k ∈ ["vol-crypt-loop0".toList, "vol-crypt-loop1".toList],
      containersMounted.1.volumeMap[k]?.map (·.fsUuid) = some "1234-ABCD".toList := by
    decide +kernel
  obtain ⟨r, found, uuid⟩ := Option.map_eq_some_iff.mp (uuids _ List.mem_cons_self)
  obtain ⟨r', found', uuid'⟩ := Option.map_eq_some_iff.mp
    (uuids _ (List.mem_cons_of_mem _ List.mem_cons_self))
  have some' : r.fsUuid ≠ [] := by
    rw [uuid]
    decide
  intro unique
  exact absurd (unique _ _ r r' found found' (uuid.trans uuid'.symm) some') (by decide)

/-- When they hold clones of one file system, they get one uuid. -/
theorem uuids_shared_clones :
    letI := tableJson
    KeyIds emptyStick ∧ UuidUnique emptyStick ∧
      ∃ s w, Runs UuidOp.prog (fun _ => daemonEnv (.of clonesAnswer)) emptyStick []
          mountedContainers s w ∧ ¬ UuidUnique s := by
  let _ := tableJson
  have run : Runs UuidOp.prog (fun _ => daemonEnv (.of clonesAnswer)) emptyStick []
      mountedContainers containersMounted.1 containersMounted.2 :=
    Runs.execAll (fun _ => daemon_obeys clonesAnswer) mountedContainers emptyStick []
  exact ⟨emptyStick_keyIds, emptyStick_unique, _, _, run, containersMounted_shared⟩

end DiskManager
