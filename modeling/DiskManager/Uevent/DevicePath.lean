import DiskManager.JsonCodec
import DiskManager.Manager.Requests
import DiskManager.Uevent.InStep
import DiskManager.Uevent.Service

/-!
# One path for a device

`CheckVolId` resolves the device of a volume: its node under `/dev/block/`, or for the volume of a
container its mapper or loop device. `Format` and `SetVolumeDescription` use it throughout, `Mount`
for containers; `TryToFix` builds the path of the node by hand.
-/

namespace DiskManager

open Interact

/-- What `CheckVolId` returns. -/
def ManagerState.devPathOf (s : ManagerState) (volId : CppString) : CppString :=
  if volId.isEmpty then []
  else
    match s.volumeMap[volId]? with
    | none => []
    | some external =>
        if CppString.startsWith volId CRYPT_VOLUME_PREFIX then
          if !external.mapperPath.isEmpty then external.mapperPath else external.loopPath
        else DEV_BLOCK_PREFIX ++ volId

/-- The device of the volume that a request of the claim's kind works on. -/
def Req.worksOn : Req → Option CppString
  | .mount devPath _ _ _ _ => some devPath
  | .formatVolume devPath _ _ _ _ => some devPath
  | .check devPath _ => some devPath
  | .repair devPath _ => some devPath
  | .setLabel devPath _ _ => some devPath
  | .readMetadata devPath => some devPath
  | _ => none

/-- The requests that work on the device of a volume. -/
inductive DeviceRequest : Type
  | mount (volumeId : CppString) (mountParam : MountParam)
  | tryToFix (volumeId : CppString)
  | format (volumeId fsType : CppString)
  | setVolumeDescription (fsUuid description : CppString)

namespace DeviceRequest

def prog [JsonLib] : DeviceRequest → ManagerProg ErrCode
  | .mount volumeId mountParam => DiskManager.mount volumeId mountParam
  | .tryToFix volumeId => DiskManager.tryToFix volumeId
  | .format volumeId fsType => DiskManager.format volumeId fsType
  | .setVolumeDescription fsUuid description =>
      DiskManager.setVolumeDescription fsUuid description

/-- The record the request is about. -/
def volume (s : ManagerState) : DeviceRequest → Option VolumeExternal
  | .mount volumeId _ => s.volumeMap[volumeId]?
  | .tryToFix volumeId => s.volumeMap[volumeId]?
  | .format volumeId _ => s.volumeMap[volumeId]?
  | .setVolumeDescription fsUuid _ => lookupVolumeByUuidUnlocked s.volumeMap fsUuid

/-- A repair is of a volume with a node of its own, and a mount of a volume without a device is
refused before it reads or mounts anything. -/
def Resolves (op : DeviceRequest) (s : ManagerState) (vol : VolumeExternal) : Prop :=
  match op with
  | .mount .. => s.devPathOf vol.id = [] →
      vol.state.mountable = false ∨ vol.fsUuid ≠ [] ∧ isUuidValid vol.fsUuid = false
  | .tryToFix _ => s.devPathOf vol.id = DEV_BLOCK_PREFIX ++ vol.id
  | _ => True

end DeviceRequest

/-- Requests on the device of volume `v`, as `CheckVolId` has it when they are made. -/
def deviceContract (v : CppString) : Contract ManagerState Unit Req Req.Resp :=
  ⟨anyAnswer, fun s _ q => ∀ d ∈ q.worksOn, d = s.devPathOf v, fun _ _ _ => True⟩

/-! ## What keeps the path -/

/-- The path of `v` is the same. -/
def SamePath (v : CppString) (s s' : ManagerState) : Prop := s'.devPathOf v = s.devPathOf v

theorem CoreKept.samePath {s s' : ManagerState} (kept : CoreKept s s') (v : CppString) :
    SamePath v s s' := by
  have same := kept.field (fun r => (r.mapperPath, r.loopPath)) (fun _ => rfl) v
  unfold SamePath ManagerState.devPathOf
  cases before : s.volumeMap[v]? with
  | none =>
      rw [before, Option.map_none, Option.map_eq_none_iff] at same
      rw [same]
  | some r =>
      rw [before, Option.map_some, Option.map_eq_some_iff] at same
      obtain ⟨r', after, same⟩ := same
      obtain ⟨mapper, loop⟩ := Prod.mk.inj same
      rw [after]
      dsimp only
      rw [mapper, loop]

theorem samePath_updateVolume {v k : CppString} {s : ManagerState}
    {f : VolumeExternal → VolumeExternal} (mapper : ∀ r, (f r).mapperPath = r.mapperPath)
    (loop : ∀ r, (f r).loopPath = r.loopPath) : SamePath v s (s.updateVolume k f) := by
  unfold SamePath ManagerState.devPathOf
  by_cases same : k = v
  · subst same
    rw [ManagerState.get_updateVolume_self]
    cases s.volumeMap[k]? with
    | none => rfl
    | some r => simp only [Option.map_some, mapper, loop]
  · rw [ManagerState.get_updateVolume_ne same]

theorem samePath_of_core {α : Type} {p : ManagerProg α} {post : α → Prop} {v : CppString}
    (within : Within CoreKept p post) : Within (SamePath v) p post :=
  within_weaken within fun kept => kept.samePath v

theorem samePath_ensureFsUuidReady {v : CppString} (vol : VolumeExternal) :
    Within (SamePath v) (ensureFsUuidReady vol) fun _ => True := by
  rw [ensureFsUuidReady]
  dsimp only
  split
  · trivial
  apply within_call_bind
  intro metadata
  split
  · trivial
  split
  · trivial
  exact within_bind.mpr fun s => ⟨samePath_updateVolume (fun _ => rfl) fun _ => rfl, trivial⟩

section

variable [JsonLib]

theorem samePath_mountVolumeEntry {v : CppString} (vol : VolumeExternal) (volumeId : CppString)
    (readOnly : Bool) : Within (SamePath v) (mountVolumeEntry vol volumeId readOnly)
      fun _ => True := by
  have mounted : ∀ copy fsType fsUuid,
      Within (SamePath v) (mountCheckedVolume copy fsType fsUuid readOnly) fun _ => True :=
    fun _ _ _ => within_mono (fun _ _ => trivial) (samePath_of_core (within_mountCheckedVolume _ _ _ _))
  rw [mountVolumeEntry]
  refine within_seq (samePath_ensureFsUuidReady vol) fun result _ => ?_
  dsimp only
  split
  · trivial
  refine within_seq (samePath_of_core (within_computeVolumeMountPolicy _ _)) fun policy _ => ?_
  split
  · refine within_seq (samePath_of_core (within_checkBeforeMount _ _ _)) fun checked _ => ?_
    split
    · trivial
    · exact mounted _ _ _
  · exact mounted _ _ _

end

/-! ## Requests on one device -/

/-- The request works on `d`, or on no device. -/
def Req.worksOnlyOn (d : CppString) (q : Req) : Prop := ∀ d' ∈ q.worksOn, d' = d

theorem worksOn_mild {q : Req} (mild : q.mild = true) : q.worksOn = none := by
  cases q with
  | mount => cases mild
  | formatVolume => cases mild
  | check => cases mild
  | repair => cases mild
  | setLabel => cases mild
  | readMetadata => cases mild
  | _ => rfl

theorem worksOnlyOn_mild {d : CppString} (q : Req) (mild : q.mild = true) : q.worksOnlyOn d := by
  intro d' mem
  rw [worksOn_mild mild] at mem
  cases mem

theorem works_worksOnlyOn (d : CppString) : Works (Req.worksOnlyOn d) d where
  readMetadata := by rintro _ ⟨⟩; rfl
  check _ := by rintro _ ⟨⟩; rfl
  repair _ := by rintro _ ⟨⟩; rfl
  mount _ _ _ _ := by rintro _ ⟨⟩; rfl

section Wp

variable {v : CppString} {s : ManagerState} {α β : Type}

/-- Requests on the device of the volume, while the path of it stays. -/
theorem device_wp {p : ManagerProg α} {post : α → Prop} {d : CppString}
    (within : Within (SamePath v) p post) (asks : Asks (Req.worksOnlyOn d) p)
    (path : s.devPathOf v = d) :
    wp (deviceContract v) p (fun a s' _ => s'.devPathOf v = d ∧ post a) s () :=
  wp_asks_where (fun s => s.devPathOf v = d) within asks (fun held same => same.trans held)
    (fun held works d' mem => (works d' mem).trans held.symm) trivial path

/-- The last part of an operation, which works on no device. -/
theorem device_mild {p : ManagerProg α} (asks : Asks (fun q => q.mild = true) p) :
    wp (deviceContract v) p (fun _ _ _ => True) s () := by
  induction p generalizing s with
  | done a => trivial
  | atomic upd next ih => exact ⟨trivial, ih s (asks s)⟩
  | call q next ih =>
      refine ⟨fun d mem => ?_, fun r _ _ => ih r (asks.2 r)⟩
      rw [worksOn_mild asks.1] at mem
      cases mem

theorem device_mild_bind {p : ManagerProg α} {f : α → ManagerProg β} {post : α → Prop}
    (reads : Within Eq p post) (asks : Asks (fun q => q.mild = true) p)
    (rest : ∀ a, post a → wp (deviceContract v) (f a) (fun _ _ _ => True) s ()) :
    wp (deviceContract v) (p >>= f) (fun _ _ _ => True) s () := by
  have first : wp (deviceContract v) p (fun a s' _ => s = s' ∧ post a) s () :=
    wp_asks_where (fun s' => s = s') reads asks (fun held same => held.trans same)
      (fun _ mild d mem => worksOnlyOn_mild _ mild d mem) trivial rfl
  refine wp_seq first fun a s' _ ended => ?_
  obtain ⟨rfl, known⟩ := ended
  exact rest a known

theorem device_call_bind {q : Req} {f : q.Resp → ManagerProg β}
    (works : q.worksOnlyOn (s.devPathOf v))
    (rest : ∀ r, wp (deviceContract v) (f r) (fun _ _ _ => True) s ()) :
    wp (deviceContract v) (call q >>= f) (fun _ _ _ => True) s () :=
  wp_bind.mpr ⟨works, fun r _ _ => rest r⟩

/-- `CheckVolId` returns what it resolves. -/
theorem wp_checkVolId_bind {W : Type} {C : Contract ManagerState W Req Req.Resp} {w : W}
    (guar : ∀ {w s s'}, C.guar w s s') {volId : CppString} {f : CppString → ManagerProg β}
    {post : β → ManagerState → W → Prop} :
    wp C (checkVolId volId >>= f) post s w ↔ wp C (f (s.devPathOf volId)) post s w := by
  rw [wp_bind, checkVolId]
  unfold ManagerState.devPathOf
  split
  · exact Iff.rfl
  have found : ∀ (g : Option VolumeExternal → ManagerProg CppString)
      {post : CppString → ManagerState → W → Prop},
      wp C (getVolumeById volId >>= g) post s w ↔ wp C (g s.volumeMap[volId]?) post s w :=
    fun g _ => and_iff_right guar
  rw [found]
  cases s.volumeMap[volId]? with
  | none => exact Iff.rfl
  | some external =>
      dsimp only
      split
      · split
        · exact Iff.rfl
        · exact Iff.rfl
      · exact Iff.rfl

end Wp

/-! ## The requests -/

section

variable [JsonLib] {s : ManagerState} {v : CppString} {vol : VolumeExternal}

omit [JsonLib] in
/-- The node of a volume that is no container. -/
theorem devPathOf_of_block (record : s.volumeMap[v]? = some vol)
    (block : CppString.startsWith v CRYPT_VOLUME_PREFIX = false) (path : s.devPathOf v ≠ []) :
    s.devPathOf v = DEV_BLOCK_PREFIX ++ v := by
  unfold ManagerState.devPathOf at path ⊢
  split
  next empty => exact absurd (if_pos empty) path
  · rw [record]
    simp only [block, Bool.false_eq_true, if_false]

omit [JsonLib] in
theorem device_mountVolumeByPath (diskId : CppString) (mountParam : MountParam) :
    wp (deviceContract v) (mountVolumeByPath diskId (s.devPathOf v) mountParam)
      (fun _ _ _ => True) s () := by
  rw [mountVolumeByPath]
  refine device_mild_bind (reads_getDiskById _) (asks_getDiskById (fun _ _ => rfl) _)
    fun disk _ => ?_
  split
  · trivial
  split
  · trivial
  rw [lookupVolumeByCryptPath]
  refine wp_bind.mpr ⟨trivial, ?_⟩
  dsimp only [wp]
  split
  · trivial
  split
  · trivial
  refine device_mild_bind (reads_readPersistUsbReadonlyMountFlagBits _)
    (asks_readPersistUsbReadonlyMountFlagBits (fun q => q.mild_of_calm) _) fun flag _ => ?_
  -- The requests on the device come before the record is written.
  refine wp_seq (device_wp (samePath_of_core (within_initAndMountVolume _ _ _))
    (asks_initAndMountVolume (works_worksOnlyOn _)) rfl) fun result s' _ _ => ?_
  refine device_mild ?_
  split
  · trivial
  rw [updateVolumeExternal, updateVolumeIfFound]
  refine asks_bind (asks_bind (fun _ => trivial) fun found => ?_) fun updateErr => ?_
  · split
    · trivial
    · trivial
  · split
    · trivial
    · exact asks_call_bind rfl fun _ => trivial

theorem device_mountVolumeEntry {volumeId : CppString} {readOnly : Bool}
    (path : s.devPathOf v = DEV_BLOCK_PREFIX ++ vol.id) :
    wp (deviceContract v) (mountVolumeEntry vol volumeId readOnly) (fun _ _ _ => True) s () :=
  wp_mono (fun _ _ _ _ => trivial) (device_wp (samePath_mountVolumeEntry _ _ _)
    (asks_mountVolumeEntry (calm_of_mild worksOnlyOn_mild) (works_worksOnlyOn _) _ _) path)

/-- A volume without a device whose uuid is not valid. -/
theorem device_mountVolumeEntry_refused {volumeId : CppString} {readOnly : Bool}
    (set : vol.fsUuid ≠ []) (invalid : isUuidValid vol.fsUuid = false) :
    wp (deviceContract v) (mountVolumeEntry vol volumeId readOnly) (fun _ _ _ => True) s () := by
  have given : vol.fsUuid.isEmpty = false := List.isEmpty_eq_false_iff.mpr set
  rw [mountVolumeEntry, ensureFsUuidReady, given, invalid]
  trivial

theorem device_mount {mountParam : MountParam} (ids : KeyIds s)
    (record : s.volumeMap[v]? = some vol)
    (resolves : (DeviceRequest.mount v mountParam).Resolves s vol) :
    wp (deviceContract v) (mount v mountParam) (fun _ _ _ => True) s () := by
  have id : vol.id = v := ids v vol record
  rw [mount]
  refine device_call_bind (worksOnlyOn_mild _ rfl) fun disabled => ?_
  split
  · trivial
  rw [findVolume]
  refine wp_bind.mpr ⟨trivial, ?_⟩
  dsimp only [wp]
  rw [record]
  dsimp only
  split
  · trivial
  next startable =>
  refine (wp_checkVolId_bind trivial).mpr ?_
  refine device_call_bind (worksOnlyOn_mild _ rfl) fun controlled => ?_
  split
  · trivial
  split
  · exact device_mountVolumeByPath _ _
  next node =>
  have entry : wp (deviceContract v) (mountVolumeEntry vol v mountParam.readOnly)
      (fun _ _ _ => True) s () := by
    by_cases none : s.devPathOf v = []
    · rw [← id] at none
      rcases resolves none with refused | ⟨set, invalid⟩
      · rw [refused] at startable
        exact absurd rfl startable
      · exact device_mountVolumeEntry_refused set invalid
    · refine device_mountVolumeEntry ?_
      rw [id]
      refine devPathOf_of_block record ?_ none
      rw [← Bool.not_eq_true]
      intro crypt
      refine node ?_
      change (!(s.devPathOf v).isEmpty && CppString.startsWith v CRYPT_VOLUME_PREFIX) = true
      rw [crypt, List.isEmpty_eq_false_iff.mpr none]
      rfl
  exact wp_seq entry fun result s' _ _ => device_mild fun _ => trivial

theorem device_tryToFix (ids : KeyIds s) (record : s.volumeMap[v]? = some vol)
    (resolves : (DeviceRequest.tryToFix v).Resolves s vol) :
    wp (deviceContract v) (tryToFix v) (fun _ _ _ => True) s () := by
  have id : vol.id = v := ids v vol record
  have path : s.devPathOf v = DEV_BLOCK_PREFIX ++ v := id ▸ resolves
  have fixed : ∀ copy s', copy.id = v → s'.devPathOf v = DEV_BLOCK_PREFIX ++ v →
      wp (deviceContract v) (fixUnmounted copy v) (fun _ _ _ => True) s' () := by
    rintro copy s' named path
    have path : s'.devPathOf v = DEV_BLOCK_PREFIX ++ copy.id := named ▸ path
    rw [fixUnmounted]
    refine wp_seq (device_wp (samePath_of_core (within_repairAndCheckVolume _ _))
      (asks_repairAndCheckVolume (calm_of_mild worksOnlyOn_mild) (works_worksOnlyOn _).toChecks _) path)
      fun result s'' _ ended => ?_
    obtain ⟨err, copy'⟩ := result
    obtain ⟨path', state, rfl⟩ := ended
    dsimp only
    split
    · trivial
    refine wp_seq (device_mountVolumeEntry path') fun result s₃ _ _ => device_mild ?_
    rw [updateVolumeIfFound]
    refine asks_bind (fun _ => trivial) fun found => ?_
    split
    · trivial
    · trivial
  rw [tryToFix, findVolume]
  refine wp_bind.mpr ⟨trivial, ?_⟩
  dsimp only [wp]
  rw [record]
  dsimp only
  split
  · refine wp_seq (device_wp (samePath_of_core (within_notifyVolumeEjecting _ _ _))
      (asks_notifyVolumeEjecting worksOnlyOn_mild _ _ _) path) fun copy s' _ ended => ?_
    obtain ⟨path', rfl⟩ := ended
    refine wp_seq (device_wp (samePath_of_core (within_unmountVolumeMountPoints _ _))
      (asks_unmountVolumeMountPoints worksOnlyOn_mild _ _) path') fun err s'' _ ended => ?_
    split
    · exact device_mild (asks_bind (fun _ => trivial) fun _ => trivial)
    · refine wp_bind.mpr ⟨trivial, fixed _ _ id ?_⟩
      have kept : SamePath v s'' (s''.updateVolume v fun vol =>
        { vol with path := [], state := .unmounted }) := samePath_updateVolume (fun _ => rfl) fun _ => rfl
      exact kept.trans ended.1
  · exact fixed _ _ id path

theorem device_format (fsType : CppString) :
    wp (deviceContract v) (format v fsType) (fun _ _ _ => True) s () := by
  rw [format, findVolume]
  refine wp_bind.mpr ⟨trivial, ?_⟩
  dsimp only [wp]
  split
  · trivial
  split
  · trivial
  refine device_mild_bind (reads_isDiskSupported _) (asks_isDiskSupported (fun _ _ => rfl) _)
    fun supported _ => ?_
  split
  · trivial
  split
  · trivial
  refine wp_bind.mpr ⟨trivial, (wp_checkVolId_bind trivial).mpr ?_⟩
  split
  · trivial
  refine device_call_bind ?_ fun err => ?_
  · rintro _ ⟨⟩
    rfl
  split
  · refine device_mild ?_
    rw [publishFormatFailEvent, findVolume]
    refine asks_bind (asks_bind (fun _ => trivial) fun _ => ?_) fun _ => trivial
    refine asks_read_bind fun s'' => ?_
    split
    · exact asks_call rfl
    · trivial
  · rw [updateVolumeAfterFormat]
    refine device_call_bind ?_ fun metadata => ?_
    · rintro _ ⟨⟩
      rfl
    split
    · trivial
    refine device_mild (asks_read_bind fun s' => ?_)
    refine asks_bind (asks_updateVoldataMappingAfterFormat (fun _ mild => mild) _ _ _ _) fun _ => ?_
    exact asks_bind (fun _ => trivial) fun found => trivial

omit [JsonLib] in
theorem device_setVolumeDescription {fsUuid : CppString} (description : CppString)
    (record : lookupVolumeByUuidUnlocked s.volumeMap fsUuid = some vol) :
    wp (deviceContract vol.id) (setVolumeDescription fsUuid description) (fun _ _ _ => True) s () := by
  rw [setVolumeDescription]
  refine wp_bind.mpr ⟨trivial, ?_⟩
  dsimp only [wp]
  rw [record]
  dsimp only
  split
  · trivial
  split
  · trivial
  refine device_mild_bind (reads_isDiskSupported _) (asks_isDiskSupported (fun _ _ => rfl) _)
    fun supported _ => ?_
  split
  · trivial
  split
  · trivial
  refine (wp_checkVolId_bind trivial).mpr ?_
  split
  · trivial
  refine device_call_bind ?_ fun err => device_mild ?_
  · rintro _ ⟨⟩
    rfl
  split
  · trivial
  · refine asks_bind (fun _ => trivial) fun found => ?_
    split
    · trivial
    · trivial

end

/-! ## Where the paths differ -/

section

variable {s : ManagerState} {v : CppString} {vol : VolumeExternal} {α β : Type}
  {post : β → ManagerState → Unit → Prop}

theorem device_answered {q : Req} {f : q.Resp → ManagerProg β}
    (pre : wp (deviceContract v) (call q >>= f) post s ()) (r : q.Resp) :
    wp (deviceContract v) (f r) post s () := (wp_bind.mp pre).2 r () trivial

theorem device_read {g : ManagerState → α} {f : α → ManagerProg β}
    (pre : wp (deviceContract v) (Prog.read g >>= f) post s ()) :
    wp (deviceContract v) (f (g s)) post s () := (wp_bind.mp pre).2

theorem device_updated {k : CppString} {g : VolumeExternal → VolumeExternal}
    {f : Unit → ManagerProg β} (pre : wp (deviceContract v) (updateVolume k g >>= f) post s ()) :
    wp (deviceContract v) (f ()) post (s.updateVolume k g) () := (wp_bind.mp pre).2

/-- The mount policy where the FUSE library supports nothing. -/
def ManagerState.plainPolicy (s : ManagerState) (diskId fsType : CppString) : VolumeMountPolicy where
  useVoldataPath :=
    shouldUseVoldataMountPathForDiskUnlocked s.diskMap diskId (CppString.toLower fsType)
  useDvrPath := s.diskMap[diskId]?.any fun disk => disk.diskType = DVR_USB

theorem device_plainPolicy {diskId fsType : CppString} {f : VolumeMountPolicy → ManagerProg β}
    (pre : wp (deviceContract v) (computeVolumeMountPolicy diskId fsType >>= f) post s ()) :
    wp (deviceContract v) (f (s.plainPolicy diskId fsType)) post s () := by
  rw [computeVolumeMountPolicy] at pre
  have pre := device_read (wp_bind.mp pre)
  dsimp only at pre
  split at pre
  · exact device_answered pre false
  · exact pre

/-- Every mount point can be unmounted. -/
theorem device_unmounted {force : Bool} {f : ErrCode → ManagerProg β}
    (pre : wp (deviceContract v) (unmountVolumeMountPoints vol force >>= f) post s ()) :
    wp (deviceContract v) (f E_OK) post s () := by
  have asked : ∀ {q : Req} {r : q.Resp} {post : q.Resp → ManagerState → Unit → Prop},
      wp (deviceContract v) (call q) post s () → post r s () :=
    fun pre => pre.2 _ () trivial
  rw [unmountVolumeMountPoints] at pre
  dsimp only at pre
  have pre := wp_bind.mp pre
  split at pre
  · have pre := device_answered pre E_OK
    rw [if_neg fun failed => failed rfl] at pre
    split at pre
    · have pre := device_answered pre E_OK
      rw [if_neg fun failed => failed rfl] at pre
      exact asked pre
    · exact asked pre
  split at pre
  · exact asked pre
  split at pre
  · split at pre
    · exact pre
    · exact asked pre
  · exact pre

variable [JsonLib] {volumeId : CppString}

/-- A data mount is on the node of the volume, when it comes to one. -/
theorem mountCheckedVolume_works {fsType fsUuid : CppString} {readOnly : Bool}
    {post : ErrCode × VolumeExternal → ManagerState → Unit → Prop}
    (pre : wp (deviceContract v) (mountCheckedVolume vol fsType fsUuid readOnly) post s ())
    (plain : (s.plainPolicy vol.diskId fsType).useVoldataPath = false) :
    DEV_BLOCK_PREFIX ++ vol.id = s.devPathOf v := by
  rw [mountCheckedVolume, mountVolumeFilesystem] at pre
  have pre := device_plainPolicy (wp_bind.mp pre)
  have built : ∃ path : CppString, path.isEmpty = false ∧
      buildMountDataPath { fsUuid, policy := s.plainPolicy vol.diskId fsType, readOnly } =
        pure (path, false) := by
    cases dvr : (s.plainPolicy vol.diskId fsType).useDvrPath with
    | true =>
        refine ⟨EXTERNAL_DVR_ROOT ++ fsUuid, rfl, ?_⟩
        simp only [buildMountDataPath, plain, dvr]
        rfl
    | false =>
        refine ⟨EXTERNAL_MOUNT_ROOT ++ fsUuid, rfl, ?_⟩
        simp only [buildMountDataPath, plain, dvr]
        rfl
  obtain ⟨path, given, built⟩ := built
  have noFuse : mountUsbFuseIfNeeded vol.id fsType fsUuid
      (s.plainPolicy vol.diskId fsType).useFuseData = pure (E_OK, false) := rfl
  rw [noFuse] at pre
  have pre := wp_pure.mp (wp_bind.mp pre)
  dsimp only at pre
  rw [if_neg fun failed => failed rfl, built] at pre
  have pre := wp_pure.mp (wp_bind.mp pre)
  dsimp only at pre
  rw [given, if_neg (by decide)] at pre
  have pre := device_read pre
  rw [executeVolumeDataMount, readPersistUsbReadonlyMountFlagBits] at pre
  have pre := device_answered (wp_bind.mp pre) false
  exact (wp_bind.mp pre).1 _ rfl

/-- A mount that gets past the uuid works on the node of the volume. -/
theorem mountVolumeEntry_works {readOnly : Bool}
    {post : ErrCode × VolumeExternal → ManagerState → Unit → Prop}
    (pre : wp (deviceContract v) (mountVolumeEntry vol volumeId readOnly) post s ())
    (uuid : vol.fsUuid = [] ∨ isUuidValid vol.fsUuid = true) :
    DEV_BLOCK_PREFIX ++ vol.id = s.devPathOf v := by
  cases given : vol.fsUuid with
  | nil =>
      rw [mountVolumeEntry, ensureFsUuidReady, given] at pre
      have asked := (wp_bind.mp (wp_bind.mp pre)).1
      exact asked _ rfl
  | cons c cs =>
      have valid : isUuidValid vol.fsUuid = true := uuid.resolve_left (by simp [given])
      have ready : ensureFsUuidReady vol = pure (E_OK, vol, vol.fsUuid) := by
        rw [ensureFsUuidReady, valid, given]
        rfl
      rw [mountVolumeEntry, ready] at pre
      have pre := wp_pure.mp (wp_bind.mp pre)
      dsimp only at pre
      rw [if_neg fun failed => failed rfl] at pre
      have pre := device_plainPolicy pre
      split at pre
      · rw [checkBeforeMount] at pre
        have published := device_answered (device_updated (wp_bind.mp pre)) ()
        refine ((wp_bind.mp published).1 _ rfl).trans ?_
        exact samePath_updateVolume (fun _ => rfl) fun _ => rfl
      next plain => exact mountCheckedVolume_works pre (by simpa using plain)

/-- A repair works on the node of the volume. -/
theorem fixUnmounted_works {post : ErrCode → ManagerState → Unit → Prop}
    (pre : wp (deviceContract v) (fixUnmounted vol volumeId) post s ()) :
    DEV_BLOCK_PREFIX ++ vol.id = s.devPathOf v := by
  rw [fixUnmounted, repairAndCheckVolume] at pre
  have published := device_answered (device_updated (wp_bind.mp pre)) ()
  refine ((wp_bind.mp published).1 _ rfl).trans ?_
  exact samePath_updateVolume (fun _ => rfl) fun _ => rfl

theorem resolves_mount {mountParam : MountParam} (ids : KeyIds s)
    (record : s.volumeMap[v]? = some vol)
    (pre : wp (deviceContract v) (mount v mountParam) (fun _ _ _ => True) s ()) :
    (DeviceRequest.mount v mountParam).Resolves s vol := by
  have id : vol.id = v := ids v vol record
  intro none
  rw [id] at none
  by_contra refused
  obtain ⟨startable, uuid⟩ := not_or.mp refused
  rw [mount] at pre
  have pre := device_answered pre []
  rw [if_neg (by decide), findVolume] at pre
  have pre := device_read pre
  rw [record] at pre
  dsimp only at pre
  rw [if_neg (by simpa using startable)] at pre
  have pre := device_answered ((wp_checkVolId_bind trivial).mp pre) false
  rw [if_neg (by decide), none, if_neg (by simp)] at pre
  have works := mountVolumeEntry_works (wp_bind.mp pre) ?_
  · rw [none] at works
    exact List.append_ne_nil_of_left_ne_nil (by decide) _ works
  · rw [not_and_or, not_not] at uuid
    simpa using uuid

theorem resolves_tryToFix (ids : KeyIds s) (record : s.volumeMap[v]? = some vol)
    (pre : wp (deviceContract v) (tryToFix v) (fun _ _ _ => True) s ()) :
    (DeviceRequest.tryToFix v).Resolves s vol := by
  have id : vol.id = v := ids v vol record
  change s.devPathOf vol.id = DEV_BLOCK_PREFIX ++ vol.id
  rw [tryToFix, findVolume] at pre
  have pre := device_read pre
  rw [record] at pre
  dsimp only at pre
  split at pre
  · rw [notifyVolumeEjecting] at pre
    have pre := device_answered (device_updated (wp_bind.mp pre)) ()
    have pre := device_unmounted pre
    rw [if_neg fun failed => failed rfl] at pre
    have works := fixUnmounted_works (device_updated pre)
    refine Eq.symm (works.trans ?_)
    rw [id]
    refine Eq.trans (samePath_updateVolume (fun _ => rfl) fun _ => rfl) ?_
    exact samePath_updateVolume (fun _ => rfl) fun _ => rfl
  · rw [id]
    have works := fixUnmounted_works pre
    rw [id] at works
    exact works.symm

/-- Every device a request works on is the one `CheckVolId` has for the volume at that time, just
when a repair is of a volume with a node of its own and a mount of a volume without a device is
refused. -/
theorem device_paths_agree_iff (reachable : Reachable s) (op : DeviceRequest)
    (record : op.volume s = some vol) :
    (∀ s' w q next, Reach anyAnswer ⟨op.prog, s, ()⟩ ⟨.call q next, s', w⟩ →
      ∀ d ∈ q.worksOn, d = s'.devPathOf vol.id) ↔ op.Resolves s vol := by
  have ids : KeyIds s := keyIds_index.mpr reachable.sound.keys
  have issued : wp (deviceContract vol.id) op.prog (fun _ _ _ => True) s () ↔
      ∀ s' w q next, Reach anyAnswer ⟨op.prog, s, ()⟩ ⟨.call q next, s', w⟩ →
        ∀ d ∈ q.worksOn, d = s'.devPathOf vol.id := wp_iff_issued
  refine issued.symm.trans ?_
  cases op with
  | mount volumeId mountParam =>
      have record : s.volumeMap[volumeId]? = some vol := record
      rw [ids volumeId vol record]
      exact ⟨resolves_mount ids record, device_mount ids record⟩
  | tryToFix volumeId =>
      have record : s.volumeMap[volumeId]? = some vol := record
      rw [ids volumeId vol record]
      exact ⟨resolves_tryToFix ids record, device_tryToFix ids record⟩
  | format volumeId fsType =>
      have record : s.volumeMap[volumeId]? = some vol := record
      rw [ids volumeId vol record]
      exact ⟨fun _ => trivial, fun _ => device_format fsType⟩
  | setVolumeDescription fsUuid description =>
      exact ⟨fun _ => trivial, fun _ => device_setVolumeDescription description record⟩

end

/-! ## A container -/

/-- The stick, with a loop device for a container on it. -/
def containerAnswer : (q : Req) → q.Resp
  | .executeCommand _ => (E_OK, ["/dev/block/loop0"])
  | q => stickAnswer q

/-- A range of the stick is bound. -/
def containerBound [JsonLib] : ManagerState :=
  let plugged := (ServiceOp.uevent (stickEvent .add) (stickEvent_fits .add)).prog.exec
    (fun _ q => (containerAnswer q, ())) .boot ()
  ((ServiceOp.bindBlockLoopDev stick.diskId 512 1024).prog.exec
    (fun _ q => (containerAnswer q, ())) plugged.2.1 ()).2.1

theorem containerBound_settled [JsonLib] : Settled containerBound :=
  (settled_boot.exec _ containerAnswer).exec _ containerAnswer

theorem containerBound_path :
    letI := tableJson
    containerBound.volumeMap["vol-crypt-loop0".toList]?.isSome = true ∧
      containerBound.devPathOf "vol-crypt-loop0" = "/dev/block/loop0" := by
  decide +kernel

/-- The container is mounted from its loop device. -/
theorem device_paths_agree_container :
    letI := tableJson
    ∃ vol, containerBound.volumeMap["vol-crypt-loop0".toList]? = some vol ∧
      ∀ s' w q next, Reach anyAnswer ⟨mount "vol-crypt-loop0" {}, containerBound, ()⟩
        ⟨.call q next, s', w⟩ → ∀ d ∈ q.worksOn, d = s'.devPathOf vol.id := by
  let _ := tableJson
  obtain ⟨vol, record⟩ := Option.isSome_iff_exists.mp containerBound_path.1
  have reachable := containerBound_settled.reachable
  have id : vol.id = "vol-crypt-loop0" := keyIds_index.mpr reachable.sound.keys _ vol record
  refine ⟨vol, record, (device_paths_agree_iff reachable (.mount "vol-crypt-loop0" {})
    record).mpr fun none => ?_⟩
  rw [id, containerBound_path.2] at none
  cases none

/-- The next request works on another device than that of the container. -/
def misses (c : Conf ManagerState Unit Req Req.Resp ErrCode) : Bool :=
  match c.prog with
  | .call q _ => q.worksOn.any (· ≠ c.s.devPathOf "vol-crypt-loop0")
  | _ => false

/-- The repair of the container is on a node that does not exist. -/
theorem repair_misses_container :
    letI := tableJson
    Settled containerBound ∧ containerBound.volumeMap["vol-crypt-loop0".toList]?.isSome = true ∧
      ∃ s' w q next, Reach anyAnswer ⟨tryToFix "vol-crypt-loop0", containerBound, ()⟩
        ⟨.call q next, s', w⟩ ∧ ∃ d ∈ q.worksOn, d ≠ s'.devPathOf "vol-crypt-loop0" := by
  let _ := tableJson
  refine ⟨containerBound_settled, containerBound_path.1, ?_⟩
  have missed : misses ((tryToFix "vol-crypt-loop0").runTo
      (fun _ q => (containerAnswer q, ())) (fun q => q.worksOn.isSome) containerBound ()) = true := by
    decide +kernel
  have reach : Reach anyAnswer ⟨tryToFix "vol-crypt-loop0", containerBound, ()⟩
      ((tryToFix "vol-crypt-loop0").runTo (fun _ q => (containerAnswer q, ()))
        (fun q => q.worksOn.isSome) containerBound ()) :=
    Prog.runTo_reach (fun _ _ _ => trivial) _ _ _ _
  generalize (tryToFix "vol-crypt-loop0").runTo (fun _ q => (containerAnswer q, ()))
    (fun q => q.worksOn.isSome) containerBound () = c at missed reach
  obtain ⟨rest, s', w⟩ := c
  cases rest with
  | done a => cases missed
  | atomic upd next => cases missed
  | call q next =>
      obtain ⟨d, mem, ne⟩ := (Option.any_eq_true _ _).mp missed
      exact ⟨s', w, q, next, reach, d, mem, of_decide_eq_true ne⟩

end DiskManager
