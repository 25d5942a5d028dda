import DiskManager.Uevent.DevicePath
import DiskManager.Uevent.Repartition

/-!
# Read-only mounts

The flags of a mount are put together in three places: the data mount takes the bit from the
request or the system parameter and then may replace the flags by those of the file system, the
mount of a container takes the bit from the record or the parameter, and the mount after a repair
is never asked to be read-only.
-/

namespace DiskManager

open Interact

/-- What the surroundings answer to the questions the flags depend on. -/
structure MountSettings : Type where
  usbReadonly : Bool
  fuse : CppString → Bool
  metadata : CppString → Metadata

namespace MountSettings

/-- Every other answer is arbitrary. -/
def answers (settings : MountSettings) : Env ManagerState Unit Req Req.Resp
  | _, _, .usbReadonly, r, _ => r = settings.usbReadonly
  | _, _, .isUsbFuseEnabledForFsType fsType, r, _ => r = settings.fuse fsType
  | _, _, .readMetadata devPath, r, _ => r = settings.metadata devPath
  | _, _, _, _, _ => True

/-- What `ComputeVolumeMountPolicy` returns. -/
def policy (settings : MountSettings) (s : ManagerState) (diskId fsType : CppString) :
    VolumeMountPolicy :=
  let fsNormLower := CppString.toLower fsType
  let useVoldataPath := shouldUseVoldataMountPathForDiskUnlocked s.diskMap diskId fsNormLower
  let isInternalDisk := s.diskMap[diskId]?.any (·.isInternalDataDisk)
  let useDvrPath := s.diskMap[diskId]?.any fun disk => disk.diskType = DVR_USB
  if !useVoldataPath && !useDvrPath && !(isInternalDisk && !decide (fsNormLower = "f2fs")) then
    { useVoldataPath, useDvrPath, useFuseData := settings.fuse fsType }
  else { useVoldataPath, useDvrPath }

/-- The file system a volume is mounted with: the recorded one, or the one found on a volume whose
uuid is not known. -/
def fsTypeOf (settings : MountSettings) (vol : VolumeExternal) : CppString :=
  if vol.fsUuid.isEmpty then
    (getFsTypeByStr (settings.metadata (DEV_BLOCK_PREFIX ++ vol.id)).type).getFsTypeString
  else vol.fsType.getFsTypeString

end MountSettings

/-- The flags of a data mount are those of the file system. -/
def VolumeExternal.ReplacesFlags (vol : VolumeExternal) (fsType : CppString)
    (policy : VolumeMountPolicy) : Prop :=
  (fsType = "hmfs" ∨ fsType = "f2fs") ∧ (vol.isUserData ∨ policy.useVoldataPath = false)

def isReadOnly (mountFlag : Nat) : Prop := mountFlag &&& MS_RDONLY ≠ 0

instance : DecidablePred isReadOnly := fun _ => inferInstanceAs (Decidable (_ ≠ _))

/-- A mount that is asked to be read-only, and a repair, which mounts again. -/
inductive ReadOnlyRequest : Type
  | mount (volumeId : CppString) (mountParam : MountParam) (readOnly : mountParam.readOnly = true)
  | tryToFix (volumeId : CppString)

namespace ReadOnlyRequest

def prog [JsonLib] : ReadOnlyRequest → ManagerProg ErrCode
  | .mount volumeId mountParam _ => DiskManager.mount volumeId mountParam
  | .tryToFix volumeId => DiskManager.tryToFix volumeId

def volumeId : ReadOnlyRequest → CppString
  | .mount volumeId _ _ => volumeId
  | .tryToFix volumeId => volumeId

/-- A container is mounted by its path: the record or the parameter asks for read-only. Otherwise
the flags are not replaced, and for the mount after a repair the parameter asks for read-only and
applies. -/
def StaysReadOnly (settings : MountSettings) (s : ManagerState) (vol : VolumeExternal) :
    ReadOnlyRequest → Prop
  | .mount volumeId _ _ =>
      if CppString.startsWith volumeId CRYPT_VOLUME_PREFIX ∧ s.devPathOf volumeId ≠ [] then
        settings.usbReadonly = true ∨ vol.mountFlag = true
      else
        ¬ vol.ReplacesFlags (settings.fsTypeOf vol)
          (settings.policy s vol.diskId (settings.fsTypeOf vol))
  | .tryToFix _ =>
      ¬ vol.ReplacesFlags (settings.fsTypeOf vol)
          (settings.policy s vol.diskId (settings.fsTypeOf vol)) ∧
        settings.usbReadonly = true ∧
        (settings.policy s vol.diskId (settings.fsTypeOf vol)).useFuseData = false

end ReadOnlyRequest

/-! ## The flags -/

def Req.mountFlag : Req → Option Nat
  | .mount _ _ _ mountFlag _ => some mountFlag
  | _ => none

theorem mountFlag_mild {q : Req} (mild : q.mild = true) : q.mountFlag = none := by
  cases q with
  | mount => cases mild
  | _ => rfl

theorem checks_mountFlag (devPath : CppString) :
    Checks (fun q => q.mountFlag = none) devPath where
  check _ := rfl
  repair _ := rfl

/-- The flags of every mount are read-only just when `cond` holds. -/
def flagContract (settings : MountSettings) (cond : Prop) :
    Contract ManagerState Unit Req Req.Resp :=
  ⟨settings.answers, fun _ _ q => ∀ flag ∈ q.mountFlag, isReadOnly flag ↔ cond,
    fun _ _ _ => True⟩

theorem isReadOnly_container {usbReadonly readOnly : Bool} :
    isReadOnly (if readOnly then (if usbReadonly then MS_RDONLY else 0) ||| MS_RDONLY
      else if usbReadonly then MS_RDONLY else 0) ↔ usbReadonly = true ∨ readOnly = true := by
  cases usbReadonly with
  | false => cases readOnly <;> decide
  | true => cases readOnly <;> decide

/-- The bit of a data mount. -/
theorem isReadOnly_data {vol : VolumeExternal} {fsType : CppString} {policy : VolumeMountPolicy}
    {usbReadonly readOnly : Bool} {base : Nat}
    (read : base = if policy.useFuseData then 0 else if usbReadonly then MS_RDONLY else 0) :
    isReadOnly (if (fsType = "hmfs" ∨ fsType = "f2fs") ∧
        (vol.isUserData ∨ policy.useVoldataPath = false) then HMFS_FLAG
      else if readOnly then base ||| MS_RDONLY else base) ↔
    ¬ vol.ReplacesFlags fsType policy ∧
      (readOnly = true ∨ usbReadonly = true ∧ policy.useFuseData = false) := by
  subst read
  unfold VolumeExternal.ReplacesFlags
  split
  next replaced =>
    have constant : ¬ isReadOnly HMFS_FLAG := by decide
    exact ⟨fun set => absurd set constant, fun kept => absurd replaced kept.1⟩
  next kept =>
    have word : isReadOnly (if readOnly then
        (if policy.useFuseData then 0 else if usbReadonly then MS_RDONLY else 0) ||| MS_RDONLY
        else if policy.useFuseData then 0 else if usbReadonly then MS_RDONLY else 0) ↔
        (readOnly = true ∨ usbReadonly = true ∧ policy.useFuseData = false) := by
      cases readOnly <;> cases usbReadonly <;> cases policy.useFuseData <;> decide
    exact word.trans (and_iff_right kept).symm

section

variable {settings : MountSettings} {cond : Prop} {s : ManagerState} {α β : Type}

/-! ## Walking an operation -/

/-- The disks are the same. -/
def DisksKept (s s' : ManagerState) : Prop := s'.diskMap = s.diskMap

theorem flags_wp {p : ManagerProg α} {post : α → Prop} {s₀ : ManagerState}
    (within : Within DisksKept p post) (asks : Asks (fun q => q.mountFlag = none) p)
    (disks : s.diskMap = s₀.diskMap) :
    wp (flagContract settings cond) p (fun a s' _ => s'.diskMap = s₀.diskMap ∧ post a) s () :=
  wp_asks_where (fun s' => s'.diskMap = s₀.diskMap) within asks (fun held same => same.trans held)
    (fun _ asked _ mem => by cases asked.symm.trans mem) trivial disks

theorem flags_core_bind {p : ManagerProg α} {f : α → ManagerProg β} {kept : α → Prop}
    {s₀ : ManagerState} (within : Within CoreKept p kept)
    (asks : Asks (fun q => q.mountFlag = none) p) (disks : s.diskMap = s₀.diskMap)
    (rest : ∀ a s', s'.diskMap = s₀.diskMap → kept a →
      wp (flagContract settings cond) (f a) (fun _ _ _ => True) s' ()) :
    wp (flagContract settings cond) (p >>= f) (fun _ _ _ => True) s () := by
  have within : Within DisksKept p kept := within_weaken within fun kept => kept.diskMap
  exact wp_seq (flags_wp within asks disks) fun a s' _ ended => rest a s' ended.1 ended.2

/-- The last part of an operation, which does not mount. -/
theorem flags_rest {p : ManagerProg α} (asks : Asks (fun q => q.mountFlag = none) p) :
    wp (flagContract settings cond) p (fun _ _ _ => True) s () := by
  induction p generalizing s with
  | done a => trivial
  | atomic upd next ih => exact ⟨trivial, ih s (asks s)⟩
  | call q next ih =>
      exact ⟨fun flag mem => (by cases asks.1.symm.trans mem), fun r _ _ => ih r (asks.2 r)⟩

theorem flags_call_bind {q : Req} {f : q.Resp → ManagerProg β} (quiet : q.mountFlag = none)
    (rest : ∀ r, wp (flagContract settings cond) (f r) (fun _ _ _ => True) s ()) :
    wp (flagContract settings cond) (call q >>= f) (fun _ _ _ => True) s () :=
  wp_bind.mpr ⟨fun _ mem => (by cases quiet.symm.trans mem), fun r _ _ => rest r⟩

theorem flags_computeVolumeMountPolicy {diskId fsType : CppString}
    {f : VolumeMountPolicy → ManagerProg β}
    (rest : wp (flagContract settings cond) (f (settings.policy s diskId fsType))
      (fun _ _ _ => True) s ()) :
    wp (flagContract settings cond) (computeVolumeMountPolicy diskId fsType >>= f)
      (fun _ _ _ => True) s () := by
  rw [computeVolumeMountPolicy]
  refine wp_bind.mpr (wp_bind.mpr ⟨trivial, ?_⟩)
  change wp _ (if _ then _ else _) _ _ _
  rw [MountSettings.policy] at rest
  dsimp only at rest ⊢
  split
  next asked =>
    rw [if_pos asked] at rest
    refine wp_bind.mpr ⟨fun _ mem => (by cases mem), fun r _ answered => ?_⟩
    have answered : r = settings.fuse fsType := answered
    subst answered
    exact rest
  next decided =>
    rw [if_neg decided] at rest
    exact rest

theorem flags_readPersistUsbReadonlyMountFlagBits {useFuseData : Bool} {f : Nat → ManagerProg β}
    (rest : wp (flagContract settings cond)
      (f (if useFuseData then 0 else if settings.usbReadonly then MS_RDONLY else 0))
      (fun _ _ _ => True) s ()) :
    wp (flagContract settings cond) (readPersistUsbReadonlyMountFlagBits useFuseData >>= f)
      (fun _ _ _ => True) s () := by
  rw [readPersistUsbReadonlyMountFlagBits]
  split
  next fuse =>
    rw [if_pos fuse] at rest
    exact rest
  next plain =>
    rw [if_neg plain] at rest
    refine wp_bind.mpr (wp_bind.mpr ⟨fun _ mem => (by cases mem), fun r _ answered => ?_⟩)
    have answered : r = settings.usbReadonly := answered
    subst answered
    exact rest

/-- The uuid is read for a volume that has none, and with it the file system. -/
theorem flags_ensureFsUuidReady (vol : VolumeExternal) :
    wp (flagContract settings cond) (ensureFsUuidReady vol) (fun result s' _ =>
      s'.diskMap = s.diskMap ∧ (result.1 = E_OK →
        result.2.1.fsType.getFsTypeString = settings.fsTypeOf vol ∧
        result.2.1.diskId = vol.diskId ∧ result.2.1.isUserData = vol.isUserData)) s () := by
  unfold ensureFsUuidReady MountSettings.fsTypeOf
  dsimp only
  cases unknown : vol.fsUuid.isEmpty with
  | false => exact ⟨rfl, fun _ => ⟨rfl, rfl, rfl⟩⟩
  | true =>
      rw [if_neg (show ¬ (!true) = true by decide), if_pos rfl]
      refine wp_bind.mpr ⟨fun _ mem => (by cases mem), fun metadata _ answered => ?_⟩
      have answered : metadata = settings.metadata (DEV_BLOCK_PREFIX ++ vol.id) := answered
      subst answered
      change wp _ (if _ then _ else _) _ _ _
      split
      next failed => exact ⟨rfl, fun done => absurd done failed⟩
      split
      · exact ⟨rfl, fun done => (by cases done)⟩
      · exact ⟨trivial, rfl, fun _ => ⟨rfl, rfl, rfl⟩⟩

/-! ## Data mounts -/

/-- The data mount of the copy is read-only. -/
def MountSettings.ReadOnlyData (settings : MountSettings) (s : ManagerState)
    (vol : VolumeExternal) (fsType : CppString) (readOnly : Bool) : Prop :=
  ¬ vol.ReplacesFlags fsType (settings.policy s vol.diskId fsType) ∧
    (readOnly = true ∨
      settings.usbReadonly = true ∧ (settings.policy s vol.diskId fsType).useFuseData = false)

theorem readOnlyData_congr {s' : ManagerState} {vol vol' : VolumeExternal} {fsType : CppString}
    {readOnly : Bool} (disks : s'.diskMap = s.diskMap) (disk : vol'.diskId = vol.diskId)
    (user : vol'.isUserData = vol.isUserData) :
    settings.ReadOnlyData s' vol' fsType readOnly ↔
      settings.ReadOnlyData s vol fsType readOnly := by
  unfold MountSettings.ReadOnlyData MountSettings.policy VolumeExternal.ReplacesFlags
  rw [disks, disk, user]

variable [JsonLib] {vol : VolumeExternal} {fsType fsUuid volumeId : CppString} {readOnly : Bool}

theorem flags_executeVolumeDataMount {params : MountDataPathParams}
    (agrees : ¬ vol.ReplacesFlags fsType params.policy ∧ (params.readOnly = true ∨
      settings.usbReadonly = true ∧ params.policy.useFuseData = false) ↔ cond) :
    wp (flagContract settings cond) (executeVolumeDataMount vol fsType params)
      (fun _ _ _ => True) s () := by
  have quiet : ∀ q : Req, q.calm = true → q.mountFlag = none :=
    fun q calm => mountFlag_mild (q.mild_of_calm calm)
  rw [executeVolumeDataMount]
  refine flags_readPersistUsbReadonlyMountFlagBits ?_
  dsimp only
  refine wp_bind.mpr ⟨?_, fun err _ _ => flags_rest ?_⟩
  · rintro flag ⟨⟩
    exact (isReadOnly_data rfl).trans agrees
  split
  · exact asks_bind (asks_undoVolumeDataMount quiet _ _) fun _ => trivial
  refine asks_bind ?_ fun err => ?_
  · rw [mountVolumeSetPath, updateVolumeIfFound]
    refine asks_bind (fun _ => trivial) fun found => ?_
    split
    · trivial
    · trivial
  split
  · refine asks_call_bind rfl fun _ => ?_
    exact asks_bind (asks_undoVolumeDataMount quiet _ _) fun _ => trivial
  split
  · exact asks_call_bind rfl fun _ => asks_bind (asks_notify quiet) fun _ => trivial
  · exact asks_bind (asks_notify quiet) fun _ => trivial

theorem flags_mountCheckedVolume
    (agrees : settings.ReadOnlyData s vol fsType readOnly ↔ cond) :
    wp (flagContract settings cond) (mountCheckedVolume vol fsType fsUuid readOnly)
      (fun _ _ _ => True) s () := by
  have quiet : ∀ q : Req, q.calm = true → q.mountFlag = none :=
    fun q calm => mountFlag_mild (q.mild_of_calm calm)
  have mounted : wp (flagContract settings cond)
      (mountVolumeFilesystem vol fsType fsUuid readOnly) (fun _ _ _ => True) s () := by
    rw [mountVolumeFilesystem]
    refine flags_computeVolumeMountPolicy ?_
    refine flags_core_bind (within_mountUsbFuseIfNeeded _ _ _ _)
      (asks_mountUsbFuseIfNeeded quiet _ _ _ _) rfl fun fuse s' disks _ => ?_
    obtain ⟨fuseErr, fuseMounted⟩ := fuse
    dsimp only
    split
    · trivial
    refine flags_core_bind (within_buildMountDataPath _) (asks_buildMountDataPath quiet _) disks
      fun built s'' disks _ => ?_
    obtain ⟨dataMountPath, voldataMappingCreated⟩ := built
    dsimp only
    split
    · refine flags_rest ?_
      split
      · exact asks_bind (asks_rollbackFuseMount quiet _ _) fun _ => trivial
      · trivial
    · exact wp_bind.mpr ⟨trivial, flags_executeVolumeDataMount agrees⟩
  rw [mountCheckedVolume]
  refine wp_seq mounted fun result s' _ _ => ?_
  obtain ⟨mountErr, copy⟩ := result
  dsimp only
  split
  · trivial
  · trivial

theorem flags_mountVolumeEntry
    (agrees : settings.ReadOnlyData s vol (settings.fsTypeOf vol) readOnly ↔ cond) :
    wp (flagContract settings cond) (mountVolumeEntry vol volumeId readOnly)
      (fun _ _ _ => True) s () := by
  have quiet : ∀ q : Req, q.calm = true → q.mountFlag = none :=
    fun q calm => mountFlag_mild (q.mild_of_calm calm)
  rw [mountVolumeEntry]
  refine wp_seq (flags_ensureFsUuidReady vol) fun result s₁ _ ready => ?_
  obtain ⟨uuidErr, copy, fsUuid⟩ := result
  obtain ⟨disks, ready⟩ := ready
  dsimp only at ready ⊢
  split
  · trivial
  next done =>
  obtain ⟨fsType, disk, user⟩ := ready (not_not.mp done)
  rw [← fsType] at agrees
  refine flags_computeVolumeMountPolicy ?_
  split
  · refine flags_core_bind (within_checkBeforeMount _ _ _)
      (asks_checkBeforeMount quiet (checks_mountFlag _) _ _) disks fun result s₂ disks checked => ?_
    obtain ⟨checkErr, copy'⟩ := result
    obtain ⟨state, rfl⟩ := checked
    dsimp only
    split
    · trivial
    · exact flags_mountCheckedVolume ((readOnlyData_congr disks disk user).trans agrees)
  · exact flags_mountCheckedVolume ((readOnlyData_congr disks disk user).trans agrees)

/-! ## Containers -/

omit [JsonLib] in
theorem flags_mountVolumeByPath {diskId volPath : CppString} {mountParam : MountParam}
    (agrees : settings.usbReadonly = true ∨ mountParam.readOnly = true ↔ cond) :
    wp (flagContract settings cond) (mountVolumeByPath diskId volPath mountParam)
      (fun _ _ _ => True) s () := by
  have quiet : ∀ q : Req, q.mild = true → q.mountFlag = none := fun q => mountFlag_mild
  have mounted : ∀ copy flag s', (isReadOnly flag ↔ cond) →
      wp (flagContract settings cond) (initAndMountVolume copy volPath flag)
        (fun _ _ _ => True) s' () := by
    intro copy flag s' agrees
    rw [initAndMountVolume]
    refine wp_seq (flags_rest ?_) fun result s'' _ _ => ?_
    · rw [initVolume]
      refine asks_call_bind rfl fun metadata => ?_
      split
      · trivial
      split
      · trivial
      · trivial
    obtain ⟨res, copy'⟩ := result
    dsimp only
    split
    · trivial
    · refine wp_bind.mpr ⟨?_, fun _ _ _ => trivial⟩
      rintro _ ⟨⟩
      exact agrees
  rw [mountVolumeByPath]
  refine flags_core_bind (within_getDiskById _) (asks_getDiskById (fun _ _ => rfl) _) rfl
    fun disk s₁ _ _ => ?_
  split
  · trivial
  split
  · trivial
  rw [lookupVolumeByCryptPath]
  refine wp_bind.mpr ⟨trivial, ?_⟩
  dsimp only [wp]
  split
  · trivial
  split
  · trivial
  refine flags_readPersistUsbReadonlyMountFlagBits ?_
  refine wp_seq (mounted _ _ _ (isReadOnly_container.trans agrees)) fun result s₂ _ _ => ?_
  refine flags_rest ?_
  split
  · trivial
  rw [updateVolumeExternal, updateVolumeIfFound]
  refine asks_bind (asks_bind (fun _ => trivial) fun found => ?_) fun updateErr => ?_
  · split
    · trivial
    · trivial
  · split
    · trivial
    · exact asks_call_bind rfl fun _ => trivial

/-! ## The requests -/

theorem flags_mount {v : CppString} {mountParam : MountParam}
    (readOnly : mountParam.readOnly = true) (record : s.volumeMap[v]? = some vol)
    (agrees : (ReadOnlyRequest.mount v mountParam readOnly).StaysReadOnly settings s vol ↔ cond) :
    wp (flagContract settings cond) (mount v mountParam) (fun _ _ _ => True) s () := by
  rw [ReadOnlyRequest.StaysReadOnly] at agrees
  rw [mount]
  refine flags_call_bind rfl fun disabled => ?_
  split
  · trivial
  rw [findVolume]
  refine wp_bind.mpr ⟨trivial, ?_⟩
  dsimp only [wp]
  rw [record]
  dsimp only
  split
  · trivial
  refine (wp_checkVolId_bind trivial).mpr ?_
  refine flags_call_bind rfl fun controlled => ?_
  split
  · trivial
  split
  next container =>
    obtain ⟨given, crypt⟩ := (Bool.and_eq_true _ _).mp container
    rw [if_pos ⟨crypt, by simpa using given⟩] at agrees
    exact flags_mountVolumeByPath agrees
  next node =>
    have plain : ¬ (CppString.startsWith v CRYPT_VOLUME_PREFIX = true ∧ s.devPathOf v ≠ []) := by
      rintro ⟨crypt, given⟩
      exact node ((Bool.and_eq_true _ _).mpr ⟨by simpa using given, crypt⟩)
    rw [if_neg plain] at agrees
    have data : settings.ReadOnlyData s vol (settings.fsTypeOf vol) mountParam.readOnly ↔ cond :=
      (and_iff_left (Or.inl readOnly)).trans agrees
    exact wp_seq (flags_mountVolumeEntry data) fun result s' _ _ => flags_rest fun _ => trivial

theorem flags_tryToFix {v : CppString} (record : s.volumeMap[v]? = some vol)
    (agrees : (ReadOnlyRequest.tryToFix v).StaysReadOnly settings s vol ↔ cond) :
    wp (flagContract settings cond) (tryToFix v) (fun _ _ _ => True) s () := by
  have quiet : ∀ q : Req, q.calm = true → q.mountFlag = none :=
    fun q calm => mountFlag_mild (q.mild_of_calm calm)
  have data : settings.ReadOnlyData s vol (settings.fsTypeOf vol) false ↔ cond := by
    refine Iff.trans ?_ agrees
    exact and_congr_right' (or_iff_right Bool.false_ne_true)
  -- The copy differs from the record in its state, its path and the result of the unmount.
  have fixed : ∀ s' (copy : VolumeExternal), s'.diskMap = s.diskMap →
      settings.fsTypeOf copy = settings.fsTypeOf vol → copy.diskId = vol.diskId →
      copy.isUserData = vol.isUserData →
      wp (flagContract settings cond) (fixUnmounted copy v) (fun _ _ _ => True) s' () := by
    intro s' copy disks fsType disk user
    rw [fixUnmounted]
    refine flags_core_bind (within_repairAndCheckVolume _ _)
      (asks_repairAndCheckVolume quiet (checks_mountFlag _) _) disks fun result s'' disks repaired => ?_
    obtain ⟨err, copy'⟩ := result
    obtain ⟨state, rfl⟩ := repaired
    dsimp only
    split
    · trivial
    have again : settings.ReadOnlyData s'' { copy with state } (settings.fsTypeOf copy) false ↔
        cond := by
      rw [fsType]
      exact (readOnlyData_congr disks disk user).trans data
    refine wp_seq (flags_mountVolumeEntry again) fun result s₃ _ _ => flags_rest ?_
    rw [updateVolumeIfFound]
    refine asks_bind (fun _ => trivial) fun found => ?_
    split
    · trivial
    · trivial
  rw [tryToFix, findVolume]
  refine wp_bind.mpr ⟨trivial, ?_⟩
  dsimp only [wp]
  rw [record]
  dsimp only
  split
  · refine flags_core_bind (within_notifyVolumeEjecting _ _ _)
      (asks_notifyVolumeEjecting (fun q => mountFlag_mild) _ _ _) rfl fun copy s' disks copied => ?_
    obtain rfl := copied
    refine flags_core_bind (within_unmountVolumeMountPoints _ _)
      (asks_unmountVolumeMountPoints (fun q => mountFlag_mild) _ _) disks fun err s'' disks _ => ?_
    split
    · exact flags_rest (asks_bind (fun _ => trivial) fun _ => trivial)
    · exact wp_bind.mpr ⟨trivial, fixed _ _ disks rfl rfl rfl⟩
  · exact fixed _ _ rfl rfl rfl rfl

/-- A mount for a read-only request or after a repair is read-only just when the container asks for
it, or the flags are not replaced and, after a repair, the parameter asks for it. -/
theorem mount_isReadOnly_iff (settings : MountSettings) (op : ReadOnlyRequest)
    (record : s.volumeMap[op.volumeId]? = some vol) {s' : ManagerState} {w : Unit}
    {devPath mountPath mountData : CppString} {mountFlag : Nat} {next : ErrCode → ManagerProg ErrCode}
    (issued : Reach settings.answers ⟨op.prog, s, ()⟩
      ⟨.call (.mount devPath mountPath fsType mountFlag mountData) next, s', w⟩) :
    isReadOnly mountFlag ↔ op.StaysReadOnly settings s vol := by
  have flags : wp (flagContract settings (op.StaysReadOnly settings s vol)) op.prog
      (fun _ _ _ => True) s () := by
    cases op with
    | mount volumeId mountParam readOnly => exact flags_mount readOnly record Iff.rfl
    | tryToFix volumeId => exact flags_tryToFix record Iff.rfl
  exact wp_issued flags issued _ rfl

end

/-! ## A stick -/

/-- Settings with one file system. -/
def stickSettings (fsType : CppString) : MountSettings where
  usbReadonly := false
  fuse _ := false
  metadata _ := ⟨E_OK, "1234-ABCD", fsType, []⟩

/-- The stick with a file system of that type. -/
def stickWith (fsType : CppString) : (q : Req) → q.Resp
  | .readMetadata _ => ⟨E_OK, "1234-ABCD", fsType, []⟩
  | q => stickFs q

theorem stickWith_obeys (fsType : CppString) (s : ManagerState) (w : Unit) (q : Req) :
    (stickSettings fsType).answers s w q (stickWith fsType q) () := by
  cases q with
  | readMetadata => rfl
  | usbReadonly => rfl
  | isUsbFuseEnabledForFsType => rfl
  | _ => trivial

/-- The stick is plugged in, and its volume unmounted. -/
def unmountedWith (fsType : CppString) : ManagerState :=
  after (.unmount "vol-8-1") (stickWith fsType) (after (stickOp .add) (stickWith fsType) .boot)

/-- The volume is mounted read-only. -/
def mountedReadOnly : ManagerState :=
  after (.mount "vol-8-1" { readOnly := true }) (stickWith "vfat") (unmountedWith "vfat")

theorem unmountedWith_settled (fsType : CppString) :
    letI := tableJson; Settled (unmountedWith fsType) := by
  let _ := tableJson
  unfold unmountedWith
  exact settled_after _ _ _ (settled_after _ _ _ settled_boot)

theorem mountedReadOnly_settled : letI := tableJson; Settled mountedReadOnly := by
  let _ := tableJson
  unfold mountedReadOnly
  exact settled_after _ _ _ (unmountedWith_settled _)

/-- The next thing is a mount with those flags. -/
def mountsWith {α : Type} (p : Nat → Bool) (c : Conf ManagerState Unit Req Req.Resp α) : Bool :=
  match c.prog with
  | .call q _ => q.mountFlag.any p
  | _ => false

/-- The first mount of the request. -/
def firstMount (fsType : CppString) (op : ReadOnlyRequest) (s : ManagerState) :
    Conf ManagerState Unit Req Req.Resp ErrCode :=
  letI := tableJson
  op.prog.runTo (fun _ q => (stickWith fsType q, ())) (fun q => q.mountFlag.isSome) s ()

/-- The request mounts with flags of that kind. -/
theorem firstMount_issued {fsType : CppString} {op : ReadOnlyRequest} {s : ManagerState}
    {p : Nat → Bool} (mounts : mountsWith p (firstMount fsType op s) = true) :
    letI := tableJson
    ∃ devPath mountPath fs flag data next s' w, Reach (stickSettings fsType).answers
      ⟨op.prog, s, ()⟩ ⟨.call (.mount devPath mountPath fs flag data) next, s', w⟩ ∧
      p flag = true := by
  let _ := tableJson
  have reach : Reach (stickSettings fsType).answers ⟨op.prog, s, ()⟩ (firstMount fsType op s) :=
    Prog.runTo_reach (stickWith_obeys fsType) _ _ _ _
  generalize firstMount fsType op s = c at mounts reach
  obtain ⟨rest, s', w⟩ := c
  cases rest with
  | done a => cases mounts
  | atomic upd next => cases mounts
  | call q next =>
      cases q with
      | mount devPath mountPath fs flag data =>
          exact ⟨devPath, mountPath, fs, flag, data, next, s', w, reach, mounts⟩
      | _ => cases mounts

theorem mountedReadOnly_there : mountedReadOnly.volumeMap["vol-8-1".toList]?.isSome = true ∧
    (unmountedWith "vfat").volumeMap["vol-8-1".toList]?.isSome = true := by
  decide +kernel

theorem mountReadOnly_mounts :
    mountsWith (fun flag => decide (isReadOnly flag)) (firstMount "vfat"
      (.mount "vol-8-1" { readOnly := true } rfl) (unmountedWith "vfat")) = true := by
  decide +kernel

theorem f2fs_writable :
    mountsWith (fun flag => decide (¬ isReadOnly flag)) (firstMount "f2fs"
      (.mount "vol-8-1" { readOnly := true } rfl) (unmountedWith "f2fs")) = true := by
  decide +kernel

theorem repaired_writable :
    mountsWith (fun flag => decide (¬ isReadOnly flag)) (firstMount "vfat"
      (.tryToFix "vol-8-1") mountedReadOnly) = true := by
  decide +kernel

/-- The stick with an ordinary file system is mounted read-only. -/
theorem mount_isReadOnly_stick :
    letI := tableJson
    ∃ vol devPath mountPath fs flag data next s' w,
      (unmountedWith "vfat").volumeMap["vol-8-1".toList]? = some vol ∧
      Reach (stickSettings "vfat").answers
        ⟨mount "vol-8-1" { readOnly := true }, unmountedWith "vfat", ()⟩
        ⟨.call (.mount devPath mountPath fs flag data) next, s', w⟩ ∧
      (ReadOnlyRequest.mount "vol-8-1" { readOnly := true } rfl).StaysReadOnly
        (stickSettings "vfat") (unmountedWith "vfat") vol := by
  let _ := tableJson
  obtain ⟨vol, record⟩ := Option.isSome_iff_exists.mp mountedReadOnly_there.2
  obtain ⟨devPath, mountPath, fs, flag, data, next, s', w, issued, set⟩ :=
    firstMount_issued mountReadOnly_mounts
  exact ⟨vol, devPath, mountPath, fs, flag, data, next, s', w, record, issued,
    (mount_isReadOnly_iff (stickSettings "vfat")
      (.mount "vol-8-1" { readOnly := true } rfl) record issued).mp (of_decide_eq_true set)⟩

/-- An F2FS stick is mounted writable for a read-only request, and a volume that was mounted
read-only is writable after a repair. -/
theorem mounts_writable :
    letI := tableJson
    (Settled (unmountedWith "f2fs") ∧ ∃ devPath mountPath fs flag data next s' w,
      Reach (stickSettings "f2fs").answers
        ⟨mount "vol-8-1" { readOnly := true }, unmountedWith "f2fs", ()⟩
        ⟨.call (.mount devPath mountPath fs flag data) next, s', w⟩ ∧ ¬ isReadOnly flag) ∧
    Settled mountedReadOnly ∧ ∃ devPath mountPath fs flag data next s' w,
      Reach (stickSettings "vfat").answers ⟨tryToFix "vol-8-1", mountedReadOnly, ()⟩
        ⟨.call (.mount devPath mountPath fs flag data) next, s', w⟩ ∧ ¬ isReadOnly flag := by
  let _ := tableJson
  constructor
  · obtain ⟨devPath, mountPath, fs, flag, data, next, s', w, issued, unset⟩ :=
      firstMount_issued f2fs_writable
    exact ⟨unmountedWith_settled _, devPath, mountPath, fs, flag, data, next, s', w, issued,
      of_decide_eq_true unset⟩
  · obtain ⟨devPath, mountPath, fs, flag, data, next, s', w, issued, unset⟩ :=
      firstMount_issued repaired_writable
    exact ⟨mountedReadOnly_settled, devPath, mountPath, fs, flag, data, next, s', w, issued,
      of_decide_eq_true unset⟩

end DiskManager
