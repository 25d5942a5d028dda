import DiskManager.Manager.Core

/-!
# The index of disks and volumes

Which volumes there are, of which disk and partition, and which disks: what hot-plug events decide
about. `ManagerState.index` forgets the rest of memory. A volume is made and taken down as a whole;
everything else an operation does to a record leaves its place in the index. The lemmas say so for
the operations of the manager, so that a property of the index is a property of the few sections
that make or take down a volume.
-/

namespace DiskManager

open Interact

/-- The fields of a record that never change. -/
structure Place : Type where
  id : CppString
  diskId : CppString
  partitionNum : Int
  loopPath : CppString
deriving DecidableEq

def VolumeExternal.place (r : VolumeExternal) : Place :=
  ⟨r.id, r.diskId, r.partitionNum, r.loopPath⟩

@[ext] structure Index : Type where
  places : CppString → Option Place
  diskMap : StdMap Disk
  partitioningDiskIds : List CppString
  diskPartsSnapshot : StdMap (List PartitionRecord)
  partitionTableMap : StdMap PartitionTableInfo

def ManagerState.index (s : ManagerState) : Index :=
  ⟨fun k => s.volumeMap[k]?.map (·.place), s.diskMap, s.partitioningDiskIds, s.diskPartsSnapshot,
    s.partitionTableMap⟩

namespace Index

/-- A volume comes, unless its key is taken. -/
def insert (i : Index) (place : Place) : Index :=
  { i with places := Function.update i.places place.id (some ((i.places place.id).getD place)) }

/-- A volume goes. -/
def erase (i : Index) (k : CppString) : Index :=
  { i with places := Function.update i.places k none }

/-- Every volume is found under its own id. -/
def KeyIds (i : Index) : Prop :=
  ∀ (k : CppString) (place : Place), i.places k = some place → place.id = k

/-- Volume `k` is one of the disk. -/
def Of (i : Index) (diskId k : CppString) : Prop :=
  ∃ place, i.places k = some place ∧ place.diskId = diskId

@[simp] theorem insert_diskMap (i : Index) (place : Place) : (i.insert place).diskMap = i.diskMap :=
  rfl

@[simp] theorem insert_snapshot (i : Index) (place : Place) :
    (i.insert place).diskPartsSnapshot = i.diskPartsSnapshot := rfl

@[simp] theorem insert_partitioning (i : Index) (place : Place) :
    (i.insert place).partitioningDiskIds = i.partitioningDiskIds := rfl

@[simp] theorem erase_diskMap (i : Index) (k : CppString) : (i.erase k).diskMap = i.diskMap := rfl

@[simp] theorem erase_snapshot (i : Index) (k : CppString) :
    (i.erase k).diskPartsSnapshot = i.diskPartsSnapshot := rfl

@[simp] theorem erase_partitioning (i : Index) (k : CppString) :
    (i.erase k).partitioningDiskIds = i.partitioningDiskIds := rfl

theorem insert_places_self (i : Index) (place : Place) :
    (i.insert place).places place.id = some ((i.places place.id).getD place) :=
  Function.update_self ..

theorem insert_places_ne {i : Index} {place : Place} {k : CppString} (ne : k ≠ place.id) :
    (i.insert place).places k = i.places k :=
  Function.update_of_ne ne ..

@[simp] theorem erase_places_self (i : Index) (k : CppString) : (i.erase k).places k = none :=
  Function.update_self ..

theorem erase_places_ne {i : Index} {k a : CppString} (ne : a ≠ k) :
    (i.erase k).places a = i.places a :=
  Function.update_of_ne ne ..

/-- Where the key is taken nothing comes. -/
theorem insert_of_taken {i : Index} {place taken : Place} (there : i.places place.id = some taken) :
    i.insert place = i := by
  rw [insert, there, Option.getD_some, ← there, Function.update_eq_self]

theorem erase_of_none {i : Index} {k : CppString} (gone : i.places k = none) : i.erase k = i := by
  rw [erase, ← gone, Function.update_eq_self]

@[simp] theorem erase_erase (i : Index) (k : CppString) : (i.erase k).erase k = i.erase k := by
  simp only [erase, Function.update_idem]

/-- A volume that is there was there or came. -/
theorem insert_cases {i : Index} {place found : Place} {k : CppString}
    (there : (i.insert place).places k = some found) :
    i.places k = some found ∨ k = place.id ∧ found = place := by
  by_cases same : k = place.id
  · subst same
    rw [insert_places_self] at there
    cases taken : i.places place.id with
    | none =>
        rw [taken] at there
        cases there
        exact .inr ⟨rfl, rfl⟩
    | some other =>
        rw [taken] at there
        exact .inl there
  · rw [insert_places_ne same] at there
    exact .inl there

theorem KeyIds.insert {i : Index} (ids : i.KeyIds) (place : Place) : (i.insert place).KeyIds := by
  intro k found there
  rcases insert_cases there with old | ⟨rfl, rfl⟩
  · exact ids k found old
  · rfl

theorem KeyIds.erase {i : Index} (ids : i.KeyIds) (k : CppString) : (i.erase k).KeyIds := by
  intro a place found
  by_cases same : a = k
  · subst same
    rw [erase_places_self] at found
    cases found
  · rw [erase_places_ne same] at found
    exact ids a place found

end Index

/-! ## Sections -/

theorem keyIds_index {s : ManagerState} : KeyIds s ↔ s.index.KeyIds := by
  refine ⟨fun ids k place found => ?_, fun ids k r found => ?_⟩
  · obtain ⟨r, there, rfl⟩ := Option.map_eq_some_iff.mp found
    exact ids k r there
  · exact ids k r.place (Option.map_eq_some_iff.mpr ⟨r, found, rfl⟩)

theorem CoreKept.index {s s' : ManagerState} (kept : CoreKept s s') : s'.index = s.index := by
  have places : (fun k : CppString => s'.volumeMap[k]?.map (·.place)) =
      fun k => s.volumeMap[k]?.map (·.place) :=
    funext fun k => kept.field (·.place) (fun _ => rfl) k
  simp only [ManagerState.index, places, kept.diskMap, kept.partitioningDiskIds,
    kept.diskPartsSnapshot, kept.partitionTableMap]

theorem index_updateVolume {s : ManagerState} {v : CppString} {f : VolumeExternal → VolumeExternal}
    (part : ∀ r, s.volumeMap[v]? = some r → (f r).place = r.place) :
    (s.updateVolume v f).index = s.index := by
  have places : (fun k : CppString => (s.updateVolume v f).volumeMap[k]?.map (·.place)) =
      fun k => s.volumeMap[k]?.map (·.place) := by
    funext k
    by_cases same : v = k
    · subst same
      rw [ManagerState.get_updateVolume_self]
      cases found : s.volumeMap[v]? with
      | none => rfl
      | some r => exact congrArg some (part r found)
    · rw [ManagerState.get_updateVolume_ne same]
  exact congrArg (fun places => { s.index with places }) places

theorem index_eraseVolume (s : ManagerState) (v : CppString) :
    (s.eraseVolume v).index = s.index.erase v := by
  have places : (fun k : CppString => (s.volumeMap.erase v)[k]?.map (·.place)) =
      Function.update (fun k => s.volumeMap[k]?.map (·.place)) v none := by
    funext k
    by_cases same : k = v
    · subst same
      rw [Function.update_self, StdMap.get_erase_self]
      rfl
    · rw [Function.update_of_ne same, StdMap.get_erase_ne (Ne.symm same)]
  exact congrArg (fun places => { s.index with places }) places

theorem index_insertVolume (s : ManagerState) (vol : VolumeExternal) :
    (s.insertVolume vol).index = s.index.insert vol.place := by
  unfold ManagerState.insertVolume
  cases found : s.volumeMap[vol.id]? with
  | some r =>
      have there : s.index.places vol.place.id = some r.place :=
        Option.map_eq_some_iff.mpr ⟨r, found, rfl⟩
      rw [Index.insert_of_taken there]
      rfl
  | none =>
      have free : s.index.places vol.place.id = none := Option.map_eq_none_iff.mpr found
      have places : (fun k : CppString => (s.volumeMap.insert vol.id vol)[k]?.map (·.place)) =
          Function.update s.index.places vol.id (some vol.place) := by
        funext k
        by_cases same : k = vol.id
        · subst same
          rw [Function.update_self, StdMap.get_insert_self]
          rfl
        · rw [Function.update_of_ne same, StdMap.get_insert_ne (Ne.symm same)]
          rfl
      rw [Index.insert, free]
      exact congrArg (fun places => { s.index with places }) places

/-! ## Operations that leave the index -/

/-- The index is the same before and after. -/
def SameIndex (s s' : ManagerState) : Prop := s'.index = s.index

theorem sameIndex_of_within {α : Type} {p : ManagerProg α} {post : α → Prop}
    (within : Within CoreKept p post) : Within SameIndex p post :=
  within_weaken within CoreKept.index

theorem sameIndex_read_bind {α β : Type} {g : ManagerState → β} {f : β → ManagerProg α}
    {post : α → Prop} (rest : ∀ s, Within SameIndex (f (g s)) post) :
    Within SameIndex (Prog.read g >>= f) post :=
  within_bind.mpr fun s => ⟨rfl, rest s⟩

theorem sameIndex_updateVolumeIfFound {v : CppString} {f : VolumeExternal → VolumeExternal}
    (part : ∀ r, (f r).place = r.place) :
    Within SameIndex (updateVolumeIfFound v f) fun _ => True :=
  fun _ => ⟨index_updateVolume fun r _ => part r, trivial⟩

theorem sameIndex_updateVolumeMetadata (v fsUuid fsType description : CppString) :
    Within SameIndex (updateVolumeMetadata v fsUuid fsType description) fun _ => True := by
  intro s
  refine ⟨?_, trivial⟩
  dsimp only
  split
  · rfl
  · exact index_updateVolume fun _ _ => rfl

theorem sameIndex_markVolumeAbnormal (v : CppString) (reason : AbnormalReason) :
    Within SameIndex (markVolumeAbnormal v reason) fun _ => True := by
  rw [markVolumeAbnormal]
  refine within_bind.mpr fun s => ⟨?_, ?_⟩
  · dsimp only
    split
    · rfl
    split
    · exact index_updateVolume fun _ _ => rfl
    · rfl
  dsimp only [Within]
  split
  · trivial
  split
  · trivial
  split
  · trivial
  · exact within_call_bind fun _ => trivial

theorem sameIndex_setVolumeDiscState [JsonLib] (v : CppString) (discState : CdromState) :
    Within SameIndex (setVolumeDiscState v discState) fun _ => True :=
  within_seq (sameIndex_updateVolumeIfFound fun _ => rfl) fun _ _ => trivial

theorem index_clearMapperPath (s : ManagerState) (mapperPath : CppString) :
    (s.clearMapperPath mapperPath).index = s.index := by
  unfold ManagerState.clearMapperPath
  split
  · rfl
  · exact index_updateVolume fun _ _ => rfl

theorem sameIndex_destroyDmCryptVolume (mapperName : CppString) :
    Within SameIndex (destroyDmCryptVolume mapperName) fun _ => True := by
  rw [destroyDmCryptVolume]
  dsimp only
  apply within_call_bind
  intro result
  obtain ⟨ret, output⟩ := result
  dsimp only
  split
  · trivial
  exact within_bind.mpr fun s => ⟨index_clearMapperPath s _, trivial⟩

theorem Worked.place {vol vol' : VolumeExternal} (worked : Worked vol vol') :
    vol'.place = vol.place := by
  obtain ⟨_, _, _, _, rfl, -⟩ := worked
  rfl

theorem sameIndex_ensureFsUuidReady (vol : VolumeExternal) :
    Within SameIndex (ensureFsUuidReady vol) fun result => result.2.1.place = vol.place := by
  rw [ensureFsUuidReady]
  dsimp only
  split
  · exact rfl
  apply within_call_bind
  intro metadata
  split
  · exact rfl
  split
  · exact rfl
  exact within_bind.mpr fun s => ⟨index_updateVolume fun _ _ => rfl, rfl⟩

section

variable [JsonLib]

theorem sameIndex_mountVolumeEntry (vol : VolumeExternal) (v : CppString) (readOnly : Bool) :
    Within SameIndex (mountVolumeEntry vol v readOnly) fun result =>
      result.2.place = vol.place := by
  rw [mountVolumeEntry]
  refine within_seq (sameIndex_ensureFsUuidReady vol) fun result same => ?_
  obtain ⟨uuidErr, vol', fsUuid⟩ := result
  have same : vol'.place = vol.place := same
  dsimp only
  split
  · exact same
  refine within_seq (sameIndex_of_within (within_computeVolumeMountPolicy _ _)) fun policy _ => ?_
  have mounted : ∀ vol'' : VolumeExternal, vol''.place = vol.place → Within SameIndex
      (mountCheckedVolume vol'' vol'.fsType.getFsTypeString fsUuid readOnly)
      fun result => result.2.place = vol.place := by
    intro vol'' same
    refine within_mono ?_ (sameIndex_of_within (within_mountCheckedVolume _ _ _ _))
    exact fun result worked => worked.place.trans same
  split
  · refine within_seq (sameIndex_of_within (within_checkBeforeMount _ _ _)) fun result checked => ?_
    obtain ⟨checkErr, vol''⟩ := result
    obtain ⟨state, checked⟩ := checked
    have checked : vol'' = { vol' with state } := checked
    have same : vol''.place = vol.place := by
      rw [checked]
      exact same
    dsimp only
    split
    · exact same
    · exact mounted vol'' same
  · exact mounted vol' same

theorem sameIndex_updateVolumeAfterFormat (v fsType diskId oldFsUuid devPath : CppString) :
    Within SameIndex (updateVolumeAfterFormat v fsType diskId oldFsUuid devPath)
      fun _ => True := by
  rw [updateVolumeAfterFormat]
  apply within_call_bind
  intro metadata
  split
  · trivial
  apply sameIndex_read_bind
  intro s
  refine within_seq (sameIndex_of_within (within_updateVoldataMappingAfterFormat _ _ _ _))
    fun _ _ => ?_
  exact within_seq (sameIndex_updateVolumeIfFound fun _ => rfl) fun _ _ => trivial

theorem sameIndex_format (v fsType : CppString) :
    Within SameIndex (format v fsType) fun _ => True := by
  rw [format, findVolume]
  apply sameIndex_read_bind
  intro s
  split
  · trivial
  split
  · trivial
  refine within_seq (sameIndex_of_within (within_isDiskSupported _)) fun err _ => ?_
  split
  · trivial
  split
  · trivial
  apply sameIndex_read_bind
  intro s'
  refine within_seq (sameIndex_of_within (within_checkVolId _)) fun devPath _ => ?_
  split
  · trivial
  apply within_call_bind
  intro err
  split
  · exact within_seq (sameIndex_of_within (within_publishFormatFailEvent _)) fun _ _ => trivial
  · exact sameIndex_updateVolumeAfterFormat _ _ _ _ _

end

/-! ## Operations on a copy -/

section Wp

variable {W : Type} {env : Env ManagerState W Req Req.Resp} {s : ManagerState} {w : W}
  {α β : Type} {post : β → ManagerState → W → Prop}

theorem index_of_within {p : ManagerProg α} {kept : α → Prop} (within : Within SameIndex p kept) :
    wp (.ofEnv env) p (fun a s' _ => s'.index = s.index ∧ kept a) s w :=
  wp_of_within within (fun _ => rfl) (fun first second => Eq.trans second first) trivial
    fun _ => trivial

theorem index_bind {p : ManagerProg α} {f : α → ManagerProg β} {kept : α → Prop}
    (within : Within SameIndex p kept)
    (rest : ∀ a s' w', s'.index = s.index → kept a → wp (.ofEnv env) (f a) post s' w') :
    wp (.ofEnv env) (p >>= f) post s w :=
  wp_seq (index_of_within within) fun a s' w' ended => rest a s' w' ended.1 ended.2

/-- A copy of the record is written back over it. -/
theorem index_writeBack {s' : ManagerState} {v : CppString} {vol copy : VolumeExternal}
    (same : s'.index = s.index) (found : s.volumeMap[v]? = some vol)
    (place : copy.place = vol.place) : (s'.updateVolume v fun _ => copy).index = s.index := by
  rw [← same]
  apply index_updateVolume
  intro r there
  have before : s.index.places v = some vol.place := Option.map_eq_some_iff.mpr ⟨vol, found, rfl⟩
  rw [← same] at before
  have after : s'.index.places v = some r.place := Option.map_eq_some_iff.mpr ⟨r, there, rfl⟩
  rw [place]
  exact Option.some.inj (before.symm.trans after)

theorem index_updateVolumeExternal {copy vol : VolumeExternal} {s₀ : ManagerState}
    (same : s.index = s₀.index) (found : s₀.volumeMap[copy.id]? = some vol)
    (place : copy.place = vol.place) :
    wp (.ofEnv env) (updateVolumeExternal copy) (fun _ s' _ => s'.index = s₀.index) s w := by
  rw [updateVolumeExternal, updateVolumeIfFound, wp_bind]
  refine wp_section ?_
  have kept := index_writeBack same found place
  cases s.volumeMap[copy.id]?.isSome with
  | true => exact kept
  | false => exact kept

theorem index_mountVolumeByPath (ids : KeyIds s) (diskId volPath : CppString)
    (mountParam : MountParam) :
    wp (.ofEnv env) (mountVolumeByPath diskId volPath mountParam)
      (fun _ s' _ => s'.index = s.index) s w := by
  rw [mountVolumeByPath]
  refine wp_reads_bind (reads_getDiskById diskId) fun disk w' => ?_
  split
  · exact rfl
  split
  · exact rfl
  rw [lookupVolumeByCryptPath]
  refine wp_look_bind ?_
  split
  · exact rfl
  next vol lookup =>
    have found : s.volumeMap[vol.id]? = some vol := ids.lookup lookup
    split
    · exact rfl
    refine wp_reads_bind (reads_readPersistUsbReadonlyMountFlagBits _) fun flag w' => ?_
    dsimp only
    refine wp_core_bind (within_initAndMountVolume _ _ _) fun result s' w' kept made => ?_
    obtain ⟨res, vol'⟩ := result
    obtain ⟨fsUuid, description, fsType, path, made⟩ := made
    have made : vol' = { vol with fsUuid, description, fsType, path } := made
    subst made
    dsimp only
    split
    · exact kept.index
    refine wp_seq (index_updateVolumeExternal kept.index found rfl) ?_
    intro err s'' w'' same
    split
    · exact same
    · exact wp_called_bind fun _ _ _ => same

theorem index_unmountWriteBack (v : CppString) (fsType : FsType) :
    wp (.ofEnv env) (unmountWriteBack v fsType)
      (fun _ s' _ => s'.index = s.index ∨ s'.index = s.index.erase v) s w := by
  refine wp_section ?_
  split
  · exact .inl rfl
  split
  · exact .inr (index_eraseVolume s v)
  · exact .inl (index_updateVolume fun _ _ => rfl)

end Wp

section

variable [JsonLib] {W : Type} {env : Env ManagerState W Req Req.Resp} {s : ManagerState} {w : W}

theorem index_mount (ids : KeyIds s) (v : CppString) (mountParam : MountParam) :
    wp (.ofEnv env) (mount v mountParam) (fun _ s' _ => s'.index = s.index) s w := by
  rw [mount]
  refine wp_called_bind fun disabled w' _ => ?_
  split
  · exact rfl
  rw [findVolume]
  refine wp_look_bind ?_
  split
  · exact rfl
  next vol found =>
    split
    · exact rfl
    refine wp_reads_bind (reads_checkVolId v) fun devPath w' => ?_
    refine wp_called_bind fun enabled w' _ => ?_
    split
    · exact rfl
    split
    · exact index_mountVolumeByPath ids _ _ _
    refine index_bind (sameIndex_mountVolumeEntry vol v _) fun result s' w' same place => ?_
    obtain ⟨err, copy⟩ := result
    refine wp_section ?_
    split
    · exact same
    split
    · exact same
    · exact index_writeBack same found place

/-- An unmount leaves the index, but that it takes an MTP or PTP volume out. -/
theorem index_doUnmountVolume (vol : VolumeExternal) (force : Bool) :
    wp (.ofEnv env) (doUnmountVolume vol force)
      (fun _ s' _ => s'.index = s.index ∨ s'.index = s.index.erase vol.id) s w := by
  have failed : ∀ (v : CppString) (copy : VolumeExternal) (err : ErrCode) (s' : ManagerState)
      (w' : W), CoreKept s s' → wp (.ofEnv env) (do
        let copy ← notifyVolumeEjecting v copy "umountFail"
        restoreVolumeState copy.id vol.state
        return err) (fun _ s' _ => s'.index = s.index ∨ s'.index = s.index.erase vol.id) s' w' := by
    intro v copy err s' w' kept
    refine wp_core_bind (within_notifyVolumeEjecting _ _ _) fun copy' s'' w'' kept' _ => ?_
    refine ⟨trivial, .inl ((kept.trans kept').trans ?_).index⟩
    exact .updateVolume fun _ => rfl
  rw [doUnmountVolume]
  dsimp only
  refine wp_core_bind (within_of_reads (reads_saveVolumeFreeSize vol))
    fun copy s₁ w₁ kept₁ sized => ?_
  obtain ⟨freeSize, rfl⟩ := sized
  refine wp_core_bind (within_notifyVolumeEjecting _ _ _) fun copy s₂ w₂ kept₂ copied => ?_
  subst copied
  refine wp_core_bind (within_of_reads (reads_resolveUnmountForceFlag _ _))
    fun prep s₃ w₃ kept₃ _ => ?_
  have kept := (kept₁.trans kept₂).trans kept₃
  obtain ⟨prepErr, force⟩ := prep
  dsimp only
  split
  · exact failed _ _ prepErr s₃ w₃ kept
  refine wp_core_bind (within_unmountVolumeMountPoints _ _) fun err s₄ w₄ kept₄ _ => ?_
  split
  · exact failed _ _ err s₄ w₄ (kept.trans kept₄)
  refine wp_called_bind fun _ w₅ _ => ?_
  rw [← (kept.trans kept₄).index]
  exact index_unmountWriteBack _ _

theorem index_forceUnmount (ids : KeyIds s) (v : CppString) :
    wp (.ofEnv env) (forceUnmount v)
      (fun _ s' _ => s'.index = s.index ∨ s'.index = s.index.erase v) s w := by
  rw [forceUnmount, findVolume]
  refine wp_look_bind ?_
  split
  · exact .inl rfl
  next vol found =>
    have id := ids v vol found
    subst id
    exact index_doUnmountVolume vol true

end

end DiskManager
