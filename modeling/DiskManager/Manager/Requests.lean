import DiskManager.Manager.Index
import DiskManager.Manager.PartitionTable

/-!
# What an operation asks for

Which requests the operations of the manager make, whatever memory they find and whatever they are
answered. `P` says which requests are meant. Most operations make only mild ones; the lemmas about
the others say on which device they work.
-/

namespace DiskManager

open Interact

/-- Requests that do not read or write what is on a device. -/
def Req.mild : Req → Bool
  | .mount .. => false
  | .formatVolume .. => false
  | .check .. => false
  | .repair .. => false
  | .setLabel .. => false
  | .readMetadata _ => false
  | .partition .. => false
  | .formatPartition .. => false
  | _ => true

/-- Mild requests that leave loop devices, mappers and mounts alone. -/
def Req.passive (q : Req) : Bool :=
  q.mild && match q with
    | .executeCommand _ => false
    | .unmount .. => false
    | _ => true

theorem Req.mild_of_passive {q : Req} (passive : q.passive = true) : q.mild = true :=
  ((Bool.and_eq_true _ _).mp passive).1

/-- Mild requests that tell nobody of a volume being ejected or unmounted. -/
def Req.calm (q : Req) : Bool :=
  q.mild && match q with
    | .publishVolumeChange .ejecting _ => false
    | .publishVolumeChange .unmounted _ => false
    | .publishVolumeResult .ejecting _ => false
    | .publishVolumeResult .unmounted _ => false
    | _ => true

theorem Req.mild_of_calm {q : Req} (calm : q.calm = true) : q.mild = true :=
  ((Bool.and_eq_true _ _).mp calm).1

/-- Requests of a check or a repair on the device. -/
structure Checks (P : Req → Prop) (devPath : CppString) : Prop where
  check (fsType : CppString) : P (.check devPath fsType)
  repair (fsType : CppString) : P (.repair devPath fsType)

/-- Requests of a mount, with what comes before it, on the device. -/
structure Works (P : Req → Prop) (devPath : CppString) : Prop extends Checks P devPath where
  readMetadata : P (.readMetadata devPath)
  mount (mountPath fsType : CppString) (mountFlag : Nat) (mountData : CppString) :
    P (.mount devPath mountPath fsType mountFlag mountData)

section

variable {P : Req → Prop} {α : Type}

theorem asks_call_bind {q : Req} {f : q.Resp → ManagerProg α} (asked : P q)
    (rest : ∀ r, Asks P (f r)) : Asks P (call q >>= f) := ⟨asked, rest⟩

theorem asks_call {q : Req} (asked : P q) : Asks P (call q) := ⟨asked, fun _ => trivial⟩

theorem calm_of_mild (mild : ∀ q : Req, q.mild = true → P q) (q : Req) (calm : q.calm = true) :
    P q := mild q (q.mild_of_calm calm)

/-! ## Lookups -/

theorem asks_getDiskById {P : Req → Prop} (query : ∀ diskId volPath,
    P (.queryEncryptionExtraInfo diskId volPath)) (diskId : CppString) :
    Asks P (getDiskById diskId) := by
  rw [getDiskById]
  refine asks_read_bind fun s => ?_
  dsimp only
  split
  · trivial
  split
  · rw [queryAndAppendEncryptionStatusUnlocked]
    split
    · trivial
    · refine asks_bind (asks_request_bind (query _ _) fun extraInfo => ?_) fun _ => trivial
      split
      · trivial
      · trivial
  · trivial

theorem asks_anyVolumeNotUnmounted (P : Req → Prop) (volIds : List CppString) :
    Asks P (anyVolumeNotUnmounted volIds) := by
  induction volIds with
  | nil => trivial
  | cons item volIds ih =>
      rw [anyVolumeNotUnmounted, getVolumeById, findVolume]
      refine asks_read_bind fun s => ?_
      split
      · exact ih
      split
      · trivial
      · exact ih

theorem asks_isDiskNotReady {P : Req → Prop} (query : ∀ diskId volPath,
    P (.queryEncryptionExtraInfo diskId volPath)) (diskId : CppString) :
    Asks P (isDiskNotReady diskId) := by
  rw [isDiskNotReady]
  refine asks_bind (asks_getDiskById query diskId) fun shown => ?_
  split
  · trivial
  · exact asks_anyVolumeNotUnmounted P _

theorem asks_findVolumeByPartNum (P : Req → Prop) (partNum : Int) (volumeIds : List CppString) :
    Asks P (findVolumeByPartNum partNum volumeIds) := by
  induction volumeIds with
  | nil => trivial
  | cons item volumeIds ih =>
      rw [findVolumeByPartNum, getVolumeById, findVolume]
      refine asks_read_bind fun s => ?_
      split
      · exact ih
      split
      · trivial
      · exact ih

theorem asks_isVolumeMounted {P : Req → Prop} (query : ∀ diskId volPath,
    P (.queryEncryptionExtraInfo diskId volPath)) (diskId : CppString) (partNum : Int) :
    Asks P (isVolumeMounted diskId partNum) := by
  have loop : ∀ volIds, Asks P (anyVolumeMounted partNum volIds) := by
    intro volIds
    induction volIds with
    | nil => trivial
    | cons item volIds ih =>
        rw [anyVolumeMounted, getVolumeById, findVolume]
        refine asks_read_bind fun s => ?_
        split
        · exact ih
        split
        · trivial
        · exact ih
  rw [isVolumeMounted]
  refine asks_bind (asks_getDiskById query diskId) fun shown => ?_
  split
  · trivial
  split
  · trivial
  · exact loop _

theorem asks_isDiskSupported {P : Req → Prop} (query : ∀ diskId volPath,
    P (.queryEncryptionExtraInfo diskId volPath)) (diskId : CppString) :
    Asks P (isDiskSupported diskId) := by
  rw [isDiskSupported]
  refine asks_bind (asks_getDiskById query diskId) fun shown => ?_
  split
  · trivial
  · trivial

theorem asks_checkVolId (P : Req → Prop) (volId : CppString) : Asks P (checkVolId volId) := by
  rw [checkVolId]
  split
  · trivial
  rw [getVolumeById, findVolume]
  refine asks_read_bind fun s => ?_
  split
  · trivial
  split
  · split
    · trivial
    · trivial
  · trivial

theorem asks_isVolumeBind (P : Req → Prop) (offset sizeLimit : Nat)
    (volumeIds : List CppString) : Asks P (isVolumeBind offset sizeLimit volumeIds) := by
  induction volumeIds with
  | nil => trivial
  | cons item volumeIds ih =>
      rw [isVolumeBind, getVolumeById, findVolume]
      refine asks_read_bind fun s => ?_
      split
      · exact ih
      split
      · trivial
      · exact ih

/-! ## Requests that change nothing -/

theorem passive_readPersistUsbReadonlyMountFlagBits (useFuseData : Bool) :
    Asks (·.passive = true) (readPersistUsbReadonlyMountFlagBits useFuseData) := by
  rw [readPersistUsbReadonlyMountFlagBits]
  split
  · trivial
  · exact asks_call_bind rfl fun _ => trivial

theorem asks_freeSize [JsonLib] {P : Req → Prop} (statvfs : ∀ path, P (.statvfs path))
    (getCapacity : ∀ devPath, P (.getCapacity devPath)) (vol : VolumeExternal) :
    Asks P (saveVolumeFreeSize vol) := by
  have odd : ∀ extraInfo blockVolId diskInfo,
      Asks P (getOddFreeSize extraInfo blockVolId diskInfo) := by
    intro extraInfo blockVolId diskInfo
    rw [getOddFreeSize]
    dsimp only
    split
    · trivial
    refine asks_call_bind (getCapacity _) fun capacity => ?_
    split
    · trivial
    split
    · trivial
    split
    · trivial
    · trivial
  have size : Asks P (getFreeSizeOfVolume vol.fsUuid) := by
    rw [getFreeSizeOfVolume]
    refine asks_read_bind fun s => ?_
    split
    · trivial
    split
    · trivial
    refine asks_call_bind (statvfs _) fun diskInfo => ?_
    split
    · trivial
    split
    · exact odd _ _ _
    · trivial
  rw [saveVolumeFreeSize]
  refine asks_bind size fun result => ?_
  dsimp only
  split
  · trivial
  · trivial

theorem passive_saveVolumeFreeSize [JsonLib] (vol : VolumeExternal) :
    Asks (·.passive = true) (saveVolumeFreeSize vol) :=
  asks_freeSize (fun _ => rfl) (fun _ => rfl) vol

theorem asks_inUse {P : Req → Prop} (query : ∀ path, P (.queryUsbIsInUse path))
    (vol : VolumeExternal) (force : Bool) : Asks P (resolveUnmountForceFlag vol force) := by
  have path : Asks P (resolveQueryUsbIsInUseMountPath vol true) := by
    have other : Asks P (if isUuidValid vol.fsUuid then
        pure (EXTERNAL_MOUNT_ROOT ++ vol.fsUuid) else pure [] : ManagerProg CppString) := by
      split
      · trivial
      · trivial
    rw [resolveQueryUsbIsInUseMountPath]
    dsimp only
    split
    · trivial
    split
    · rw [tryGetMountPath]
      refine asks_read_bind fun s => ?_
      split
      · trivial
      · exact other
    · exact other
  rw [resolveUnmountForceFlag]
  refine asks_read_bind fun s => ?_
  split
  · trivial
  refine asks_bind path fun queryPath => ?_
  split
  · trivial
  refine asks_call_bind (query _) fun result => ?_
  dsimp only
  split
  · trivial
  · trivial

theorem passive_resolveUnmountForceFlag (vol : VolumeExternal) (force : Bool) :
    Asks (·.passive = true) (resolveUnmountForceFlag vol force) :=
  asks_inUse (fun _ => rfl) vol force

theorem asks_mountPoints {P : Req → Prop} (unmount : ∀ path fsType force,
    P (.unmount path fsType force)) (notify : ∀ volumeId, P (.notifyUsbFuseUmount volumeId))
    (vol : VolumeExternal) (force : Bool) : Asks P (unmountVolumeMountPoints vol force) := by
  rw [unmountVolumeMountPoints]
  dsimp only
  split
  · refine asks_call_bind (unmount _ _ _) fun err => ?_
    split
    · trivial
    split
    · refine asks_call_bind (unmount _ _ _) fun err' => ?_
      split
      · trivial
      · exact asks_call (notify _)
    · exact asks_call (notify _)
  split
  · exact asks_call (unmount _ _ _)
  split
  · split
    · trivial
    · exact asks_call (unmount _ _ _)
  · trivial

section

variable (calm : ∀ q : Req, q.calm = true → P q)

include calm

theorem asks_computeVolumeMountPolicy (diskId fsType : CppString) :
    Asks P (computeVolumeMountPolicy diskId fsType) := by
  rw [computeVolumeMountPolicy]
  refine asks_read_bind fun s => ?_
  dsimp only
  split
  · exact asks_call_bind (calm _ rfl) fun _ => trivial
  · trivial

theorem asks_readPersistUsbReadonlyMountFlagBits (useFuseData : Bool) :
    Asks P (readPersistUsbReadonlyMountFlagBits useFuseData) := by
  rw [readPersistUsbReadonlyMountFlagBits]
  split
  · trivial
  · exact asks_call_bind (calm _ rfl) fun _ => trivial

theorem asks_onStore {p : StoreProg α} : Asks P (onStore p) := asks_lift p fun _ => calm _ rfl

/-! ## Mounting -/

theorem asks_rollbackFuseMount (volumeId fsUuid : CppString) :
    Asks P (rollbackFuseMount volumeId fsUuid) := by
  rw [rollbackFuseMount]
  split
  · trivial
  refine asks_call_bind (calm _ rfl) fun mounted => ?_
  split
  · refine asks_call_bind (calm _ rfl) fun err => ?_
    split
    · trivial
    · exact asks_call (calm _ rfl)
  · exact asks_call (calm _ rfl)

theorem asks_mountUsbFuseIfNeeded (volumeId fsType fsUuid : CppString) (useFuseData : Bool) :
    Asks P (mountUsbFuseIfNeeded volumeId fsType fsUuid useFuseData) := by
  rw [mountUsbFuseIfNeeded]
  split
  · trivial
  refine asks_call_bind (calm _ rfl) fun enabled => ?_
  split
  · trivial
  split
  · trivial
  refine asks_call_bind (calm _ rfl) fun result => ?_
  dsimp only
  split
  · trivial
  refine asks_call_bind (calm _ rfl) fun err => ?_
  split
  · exact asks_call_bind (calm _ rfl) fun _ => trivial
  · trivial

theorem asks_undoVolumeDataMount [JsonLib] (vol : VolumeExternal) (params : MountDataPathParams) :
    Asks P (undoVolumeDataMount vol params) := by
  have rollback : Asks P (if params.fuseMounted = true then do
      let _ ← rollbackFuseMount vol.id params.fsUuid
      pure ()
    else pure () : ManagerProg Unit) := by
    split
    · exact asks_bind (asks_rollbackFuseMount calm _ _) fun _ => trivial
    · trivial
  rw [undoVolumeDataMount]
  split
  · exact asks_bind (asks_onStore calm) fun _ => rollback
  · exact rollback

theorem asks_buildMountDataPath [JsonLib] (params : MountDataPathParams) :
    Asks P (buildMountDataPath params) := by
  rw [buildMountDataPath]
  split
  · rw [resolveVoldataMountPath]
    refine asks_bind (asks_onStore calm) fun initRet => ?_
    split
    · trivial
    rw [tryGetMountPath]
    refine asks_read_bind fun s => ?_
    split
    · trivial
    refine asks_bind (asks_onStore calm) fun result => ?_
    dsimp only
    split
    · trivial
    · trivial
  split
  · trivial
  split
  · trivial
  · trivial

theorem asks_notify {vol : VolumeExternal} :
    Asks P (call (.publishVolumeChange .mounted vol)) := asks_call (calm _ rfl)

variable [JsonLib] {vol : VolumeExternal} (works : Works P (DEV_BLOCK_PREFIX ++ vol.id))

include works

omit calm [JsonLib] in
theorem asks_ensureFsUuidReady : Asks P (ensureFsUuidReady vol) := by
  rw [ensureFsUuidReady]
  dsimp only
  split
  · trivial
  refine asks_call_bind works.readMetadata fun metadata => ?_
  split
  · trivial
  split
  · trivial
  · exact fun _ => trivial

theorem asks_executeVolumeDataMount (fsType : CppString) (params : MountDataPathParams) :
    Asks P (executeVolumeDataMount vol fsType params) := by
  rw [executeVolumeDataMount]
  refine asks_bind (asks_readPersistUsbReadonlyMountFlagBits calm _) fun flag => ?_
  dsimp only
  refine asks_call_bind (works.mount _ _ _ _) fun err => ?_
  split
  · exact asks_bind (asks_undoVolumeDataMount calm _ _) fun _ => trivial
  refine asks_bind (p := mountVolumeSetPath _ _) ?_ fun err => ?_
  · rw [mountVolumeSetPath, updateVolumeIfFound]
    refine asks_bind (fun _ => trivial) fun found => ?_
    split
    · trivial
    · trivial
  split
  · refine asks_call_bind (calm _ rfl) fun _ => ?_
    exact asks_bind (asks_undoVolumeDataMount calm _ _) fun _ => trivial
  split
  · exact asks_call_bind (calm _ rfl) fun _ => asks_bind (asks_notify calm) fun _ => trivial
  · exact asks_bind (asks_notify calm) fun _ => trivial

theorem asks_mountCheckedVolume (fsType fsUuid : CppString) (readOnly : Bool) :
    Asks P (mountCheckedVolume vol fsType fsUuid readOnly) := by
  rw [mountCheckedVolume]
  refine asks_bind ?_ fun result => ?_
  · rw [mountVolumeFilesystem]
    refine asks_bind (asks_computeVolumeMountPolicy calm _ _) fun policy => ?_
    refine asks_bind (asks_mountUsbFuseIfNeeded calm _ _ _ _) fun fuse => ?_
    dsimp only
    split
    · trivial
    refine asks_bind (asks_buildMountDataPath calm _) fun built => ?_
    split
    · split
      · exact asks_bind (asks_rollbackFuseMount calm _ _) fun _ => trivial
      · trivial
    exact asks_read_bind fun s => asks_executeVolumeDataMount calm works _ _
  · obtain ⟨mountErr, copy⟩ := result
    dsimp only
    split
    · trivial
    · trivial

omit [JsonLib] works in
theorem asks_checkBeforeMount (checks : Checks P (DEV_BLOCK_PREFIX ++ vol.id))
    (volumeId fsType : CppString) : Asks P (checkBeforeMount vol volumeId fsType) := by
  rw [checkBeforeMount]
  dsimp only
  refine asks_bind (fun _ => trivial) fun _ => asks_call_bind (calm _ rfl) fun _ => ?_
  refine asks_call_bind (checks.check _) fun checkErr => ?_
  split
  · refine asks_bind (fun _ => trivial) fun _ => asks_call_bind (calm _ rfl) fun _ => ?_
    refine asks_bind (fun _ => trivial) fun _ => ?_
    refine asks_call_bind (checks.repair _) fun repairErr => ?_
    split
    · exact asks_bind (fun _ => trivial) fun _ => asks_call_bind (calm _ rfl) fun _ => trivial
    · exact asks_call_bind (calm _ rfl) fun _ => asks_bind (fun _ => trivial) fun _ => trivial
  split
  · exact asks_bind (fun _ => trivial) fun _ => asks_call_bind (calm _ rfl) fun _ => trivial
  · exact asks_call_bind (calm _ rfl) fun _ => asks_bind (fun _ => trivial) fun _ => trivial

theorem asks_mountVolumeEntry (volumeId : CppString) (readOnly : Bool) :
    Asks P (mountVolumeEntry vol volumeId readOnly) := by
  rw [mountVolumeEntry]
  refine asks_seq (asks_ensureFsUuidReady works) (sameIndex_ensureFsUuidReady vol)
    fun result same => ?_
  obtain ⟨uuidErr, vol', fsUuid⟩ := result
  have same : vol'.id = vol.id := congrArg Place.id same
  have works' : Works P (DEV_BLOCK_PREFIX ++ vol'.id) := same ▸ works
  dsimp only
  split
  · trivial
  refine asks_bind (asks_computeVolumeMountPolicy calm _ _) fun policy => ?_
  split
  · refine asks_seq (asks_checkBeforeMount calm works'.toChecks _ _) (within_checkBeforeMount _ _ _)
      fun result checked => ?_
    obtain ⟨checkErr, vol''⟩ := result
    obtain ⟨state, rfl⟩ := checked
    dsimp only
    split
    · trivial
    · have works'' : Works P (DEV_BLOCK_PREFIX ++ { vol' with state }.id) := works'
      exact asks_mountCheckedVolume calm works'' _ _ _
  · exact asks_mountCheckedVolume calm works' _ _ _

/-! ## Repairing -/

omit [JsonLib] works in
theorem asks_repairAndCheckVolume (checks : Checks P (DEV_BLOCK_PREFIX ++ vol.id))
    (volumeId : CppString) : Asks P (repairAndCheckVolume vol volumeId) := by
  have failed : ∀ copy err, Asks P (repairFailed copy volumeId err) := by
    intro copy err
    rw [repairFailed]
    exact asks_bind (fun _ => trivial) fun _ => asks_call_bind (calm _ rfl) fun _ => trivial
  have succeeded : ∀ copy, Asks P (repairSucceeded copy volumeId) := by
    intro copy
    rw [repairSucceeded]
    exact asks_call_bind (calm _ rfl) fun _ => asks_bind (fun _ => trivial) fun _ => trivial
  rw [repairAndCheckVolume]
  dsimp only
  refine asks_bind (fun _ => trivial) fun _ => asks_call_bind (calm _ rfl) fun _ => ?_
  refine asks_call_bind (checks.repair _) fun fixErr => ?_
  split
  · exact failed _ _
  refine asks_bind (asks_computeVolumeMountPolicy calm _ _) fun policy => ?_
  split
  · refine asks_call_bind (checks.check _) fun checkErr => ?_
    split
    · exact failed _ _
    · exact succeeded _
  · exact succeeded _

theorem asks_fixUnmounted (volumeId : CppString) : Asks P (fixUnmounted vol volumeId) := by
  rw [fixUnmounted]
  refine asks_seq (asks_repairAndCheckVolume calm works.toChecks _) (within_repairAndCheckVolume _ _)
    fun result repaired => ?_
  obtain ⟨rcErr, vol'⟩ := result
  obtain ⟨state, rfl⟩ := repaired
  dsimp only
  split
  · trivial
  have works' : Works P (DEV_BLOCK_PREFIX ++ { vol with state }.id) := works
  have entry := asks_mountVolumeEntry calm works' volumeId false
  refine asks_bind entry fun result => ?_
  refine asks_bind ?_ fun found => ?_
  · rw [updateVolumeIfFound]
    exact fun _ => trivial
  · split
    · trivial
    · trivial

end

section

variable (mild : ∀ q : Req, q.mild = true → P q)

include mild

/-! ## Unmounting -/

theorem asks_saveVolumeFreeSize [JsonLib] (vol : VolumeExternal) :
    Asks P (saveVolumeFreeSize vol) :=
  asks_mono (fun q passive => mild q (q.mild_of_passive passive)) (passive_saveVolumeFreeSize vol)

theorem asks_notifyVolumeEjecting (volumeId : CppString) (vol : VolumeExternal)
    (umountResult : CppString) : Asks P (notifyVolumeEjecting volumeId vol umountResult) := by
  rw [notifyVolumeEjecting]
  exact asks_bind (fun _ => trivial) fun _ => asks_call_bind (mild _ rfl) fun _ => trivial

theorem asks_resolveUnmountForceFlag (vol : VolumeExternal) (force : Bool) :
    Asks P (resolveUnmountForceFlag vol force) :=
  asks_mono (fun q passive => mild q (q.mild_of_passive passive))
    (passive_resolveUnmountForceFlag vol force)

theorem asks_unmountVolumeMountPoints (vol : VolumeExternal) (force : Bool) :
    Asks P (unmountVolumeMountPoints vol force) :=
  asks_mountPoints (fun _ _ _ => mild _ rfl) (fun _ => mild _ rfl) vol force

variable [JsonLib]

theorem asks_doUnmountVolume (vol : VolumeExternal) (force : Bool) :
    Asks P (doUnmountVolume vol force) := by
  have restore : ∀ (copy : VolumeExternal) (state : VolumeState) (err : ErrCode), Asks P (do
      let volExternal ← notifyVolumeEjecting copy.id copy "umountFail"
      restoreVolumeState volExternal.id state
      return err : ManagerProg ErrCode) := by
    intro copy state err
    refine asks_bind (asks_notifyVolumeEjecting mild _ _ _) fun _ => ?_
    exact asks_bind (fun _ => trivial) fun _ => trivial
  rw [doUnmountVolume]
  refine asks_bind (asks_saveVolumeFreeSize mild _) fun saved => ?_
  refine asks_bind (asks_notifyVolumeEjecting mild _ _ _) fun ejecting => ?_
  refine asks_bind (asks_resolveUnmountForceFlag mild _ _) fun flag => ?_
  dsimp only
  split
  · exact restore _ _ _
  refine asks_bind (asks_unmountVolumeMountPoints mild _ _) fun err => ?_
  split
  · exact restore _ _ _
  · exact asks_call_bind (mild _ rfl) fun _ _ => trivial

theorem asks_unmount (volumeId : CppString) : Asks P (unmount volumeId) := by
  rw [unmount, findVolume]
  refine asks_read_bind fun s => ?_
  split
  · trivial
  split
  · trivial
  · exact asks_doUnmountVolume mild _ _

theorem asks_forceUnmount (volumeId : CppString) : Asks P (forceUnmount volumeId) := by
  rw [forceUnmount, findVolume]
  refine asks_read_bind fun s => ?_
  split
  · trivial
  · exact asks_doUnmountVolume mild _ _

theorem asks_umountVolumeByPath (diskId volPath : CppString) :
    Asks P (umountVolumeByPath diskId volPath) := by
  rw [umountVolumeByPath, lookupVolumeByCryptPath]
  refine asks_bind (asks_getDiskById (fun _ _ => mild _ rfl) _) fun disk => ?_
  split
  · trivial
  split
  · trivial
  refine asks_read_bind fun s => ?_
  split
  · trivial
  split
  · trivial
  · exact asks_doUnmountVolume mild _ _

theorem asks_destroyVolumeByDiskIdAndPartNum (diskId : CppString) (partNum : Int) :
    Asks P (destroyVolumeByDiskIdAndPartNum diskId partNum) := by
  have removed : ∀ vol, Asks P (destroyFoundVolume vol) := by
    intro vol
    have rest : Asks P (do
        let ret ← call (.destroyBlockDeviceNode (DEV_BLOCK_PREFIX ++ vol.id))
        if ret ≠ E_OK then
          return false
        call (.publishVolumeChange (if vol.state = .unmounted then .removed else .badRemoval) vol)
        let _ ← onVolumeDestroyed vol.id
        return true : ManagerProg Bool) := by
      refine asks_call_bind (mild _ rfl) fun ret => ?_
      split
      · trivial
      · exact asks_call_bind (mild _ rfl) fun _ => asks_bind (fun _ => trivial) fun _ => trivial
    rw [destroyFoundVolume]
    dsimp only
    split
    · exact asks_bind (asks_forceUnmount mild _) fun _ => rest
    · exact rest
  rw [destroyVolumeByDiskIdAndPartNum]
  refine asks_bind (asks_getDiskById (fun _ _ => mild _ rfl) _) fun disk => ?_
  split
  · trivial
  refine asks_bind (asks_findVolumeByPartNum P _ _) fun vol => ?_
  split
  · trivial
  · exact removed _

/-! ## Formatting -/

theorem asks_updateVoldataMappingAfterFormat (diskId oldFsUuid newFsUuid fsType : CppString) :
    Asks P (updateVoldataMappingAfterFormat diskId oldFsUuid newFsUuid fsType) := by
  rw [updateVoldataMappingAfterFormat]
  refine asks_read_bind fun s => ?_
  split
  · split
    · exact asks_bind (asks_onStore (calm_of_mild mild)) fun _ => trivial
    · trivial
  split
  · trivial
  rw [tryGetMountPath]
  refine asks_read_bind fun s' => ?_
  split
  · trivial
  · exact asks_bind (asks_onStore (calm_of_mild mild)) fun _ => trivial

theorem asks_updateVolumeAfterFormat (volumeId fsType diskId oldFsUuid : CppString)
    {devPath : CppString} (reads : P (.readMetadata devPath)) :
    Asks P (updateVolumeAfterFormat volumeId fsType diskId oldFsUuid devPath) := by
  rw [updateVolumeAfterFormat]
  refine asks_call_bind reads fun metadata => ?_
  split
  · trivial
  refine asks_read_bind fun s => ?_
  refine asks_bind (asks_updateVoldataMappingAfterFormat mild _ _ _ _) fun _ => ?_
  exact asks_bind (fun _ => trivial) fun found => trivial

theorem asks_format (volumeId fsType : CppString)
    (formats : ∀ devPath diskPath partitionType partitionNum,
      P (.formatVolume devPath fsType diskPath partitionType partitionNum))
    (reads : ∀ devPath, P (.readMetadata devPath)) : Asks P (format volumeId fsType) := by
  rw [format, findVolume]
  refine asks_read_bind fun s => ?_
  split
  · trivial
  split
  · trivial
  refine asks_bind (asks_isDiskSupported (fun _ _ => mild _ rfl) _) fun supported => ?_
  split
  · trivial
  split
  · trivial
  refine asks_read_bind fun s' => asks_bind (asks_checkVolId P _) fun devPath => ?_
  split
  · trivial
  refine asks_call_bind (formats _ _ _ _) fun err => ?_
  split
  · rw [publishFormatFailEvent, findVolume]
    refine asks_bind (asks_bind (fun _ => trivial) fun _ => ?_) fun _ => trivial
    refine asks_read_bind fun s'' => ?_
    split
    · exact asks_call (mild _ rfl)
    · trivial
  · exact asks_updateVolumeAfterFormat mild _ _ _ _ (reads _)

/-! ## Mounting by path -/

omit mild [JsonLib] in
theorem asks_initAndMountVolume {vol : VolumeExternal} {volPath : CppString} {mountFlag : Nat}
    (works : Works P volPath) : Asks P (initAndMountVolume vol volPath mountFlag) := by
  rw [initAndMountVolume, initVolume]
  refine asks_bind (asks_call_bind works.readMetadata fun metadata => ?_) fun init => ?_
  · split
    · trivial
    split
    · trivial
    · trivial
  · dsimp only
    split
    · trivial
    · exact asks_call_bind (works.mount _ _ _ _) fun _ => trivial

omit [JsonLib] in
theorem asks_mountVolumeByPath (diskId volPath : CppString) (mountParam : MountParam)
    (works : Works P volPath) : Asks P (mountVolumeByPath diskId volPath mountParam) := by
  rw [mountVolumeByPath, lookupVolumeByCryptPath]
  refine asks_bind (asks_getDiskById (fun _ _ => mild _ rfl) _) fun disk => ?_
  split
  · trivial
  split
  · trivial
  refine asks_read_bind fun s => ?_
  split
  · trivial
  split
  · trivial
  refine asks_bind (asks_readPersistUsbReadonlyMountFlagBits (calm_of_mild mild) _) fun flag => ?_
  refine asks_bind (asks_initAndMountVolume works) fun result => ?_
  dsimp only
  split
  · trivial
  refine asks_bind ?_ fun updated => ?_
  · rw [updateVolumeExternal, updateVolumeIfFound]
    refine asks_bind (fun _ => trivial) fun found => ?_
    split
    · trivial
    · trivial
  · split
    · trivial
    · exact asks_call_bind (mild _ rfl) fun _ => trivial

theorem asks_mount (volumeId : CppString) (mountParam : MountParam)
    (works : ∀ devPath, Works P devPath) : Asks P (mount volumeId mountParam) := by
  rw [mount]
  refine asks_call_bind (mild _ rfl) fun disabled => ?_
  split
  · trivial
  rw [findVolume]
  refine asks_read_bind fun s => ?_
  split
  · trivial
  split
  · trivial
  refine asks_bind (asks_checkVolId P _) fun devPath => ?_
  refine asks_call_bind (mild _ rfl) fun controlled => ?_
  split
  · trivial
  split
  · exact asks_mountVolumeByPath mild _ _ _ (works _)
  · exact asks_bind (asks_mountVolumeEntry (calm_of_mild mild) (works _) _ _) fun result _ => trivial

end

section

variable (mild : ∀ q : Req, q.mild = true → P q)

include mild

/-! ## The other requests -/

theorem asks_setVolumeDescription (fsUuid description : CppString)
    (labels : ∀ devPath fsType label, P (.setLabel devPath fsType label)) :
    Asks P (setVolumeDescription fsUuid description) := by
  rw [setVolumeDescription]
  refine asks_read_bind fun s => ?_
  split
  · trivial
  split
  · trivial
  dsimp only
  split
  · trivial
  refine asks_bind (asks_isDiskSupported (fun _ _ => mild _ rfl) _) fun supported => ?_
  split
  · trivial
  split
  · trivial
  refine asks_bind (asks_checkVolId P _) fun devPath => ?_
  split
  · trivial
  refine asks_call_bind (labels _ _ _) fun err => ?_
  split
  · trivial
  · refine asks_bind (fun _ => trivial) fun found => ?_
    split
    · trivial
    · trivial

theorem asks_notifyMtpMounted (id path desc uuid fsType : CppString) :
    Asks P (notifyMtpMounted id path desc uuid fsType) := by
  rw [notifyMtpMounted]
  refine asks_call_bind (mild _ rfl) fun name => ?_
  exact asks_bind (fun _ => trivial) fun _ => asks_call_bind (mild _ rfl) fun _ => trivial

theorem asks_notifyMtpUnmounted (id : CppString) (isBadRemove : Bool) :
    Asks P (notifyMtpUnmounted id isBadRemove) := by
  rw [notifyMtpUnmounted]
  refine asks_bind (fun _ => trivial) fun found => ?_
  split
  · trivial
  · exact asks_call_bind (mild _ rfl) fun _ => trivial

theorem asks_getPartitionTable (diskId : CppString) : Asks P (getPartitionTable diskId) := by
  have lines : ∀ sectorSize content, Asks P (readPartitions diskId sectorSize content) := by
    intro sectorSize content
    induction content with
    | nil => trivial
    | cons buf content ih =>
        rw [readPartitions]
        split
        · exact ih
        rw [getFsTypeByDiskIdAndPartNum]
        refine asks_bind (asks_bind (asks_getDiskById (fun _ _ => mild _ rfl) _) fun disk => ?_)
          fun fsType => asks_bind ih fun _ => trivial
        split
        · trivial
        refine asks_bind (asks_findVolumeByPartNum P _ _) fun vol => ?_
        split
        · trivial
        · trivial
  rw [getPartitionTable, hasDisk]
  refine asks_read_bind fun s => ?_
  split
  · trivial
  refine asks_call_bind (mild _ rfl) fun result => ?_
  dsimp only
  split
  · trivial
  split
  · trivial
  · exact asks_bind (lines _ _) fun partitions => asks_bind (fun _ => trivial) fun _ => trivial

theorem asks_createPartition (diskId : CppString) (params : PartitionParams) :
    Asks P (createPartition diskId params) := by
  rw [createPartition]
  refine asks_bind (asks_getDiskById (fun _ _ => mild _ rfl) _) fun disk => ?_
  split
  · trivial
  split
  · trivial
  split
  · trivial
  refine asks_bind (asks_isDiskNotReady (fun _ _ => mild _ rfl) _) fun notReady => ?_
  split
  · trivial
  refine asks_read_bind fun s => ?_
  split
  · trivial
  split
  · trivial
  · exact asks_call_bind (mild _ rfl) fun ret => trivial

theorem asks_bindBlockLoopDev (diskId : CppString) (offset sizeLimit : Nat) :
    Asks P (bindBlockLoopDev diskId offset sizeLimit) := by
  rw [bindBlockLoopDev]
  refine asks_bind (asks_getDiskById (fun _ _ => mild _ rfl) _) fun disk => ?_
  split
  · trivial
  split
  · trivial
  refine asks_bind (asks_isVolumeBind P _ _ _) fun loopPath => ?_
  split
  · trivial
  refine asks_call_bind (mild _ rfl) fun result => ?_
  dsimp only
  split
  · trivial
  · exact asks_bind (fun _ _ => trivial) fun _ => trivial

theorem asks_createDmCryptVolume (param : CryptParam) (loopPath mapperName : CppString) :
    Asks P (createDmCryptVolume param loopPath mapperName) := by
  rw [createDmCryptVolume, getVolumeById, findVolume]
  refine asks_read_bind fun s => ?_
  split
  · trivial
  split
  · trivial
  refine asks_call_bind (mild _ rfl) fun result => ?_
  dsimp only
  split
  · trivial
  rw [updateVolumeExternal, updateVolumeIfFound]
  refine asks_bind (asks_bind (fun _ => trivial) fun found => ?_) fun updateErr => ?_
  · split
    · trivial
    · trivial
  · split
    · trivial
    · trivial

theorem asks_destroyDmCryptVolume (mapperName : CppString) :
    Asks P (destroyDmCryptVolume mapperName) := by
  rw [destroyDmCryptVolume]
  refine asks_call_bind (mild _ rfl) fun result => ?_
  dsimp only
  split
  · trivial
  · exact fun _ => trivial

theorem asks_unbindBlockLoopDev (loopPath : CppString) : Asks P (unbindBlockLoopDev loopPath) := by
  rw [unbindBlockLoopDev]
  refine asks_call_bind (mild _ rfl) fun result => ?_
  dsimp only
  split
  · trivial
  · exact asks_bind (fun _ => trivial) fun _ => trivial

variable [JsonLib]

theorem asks_deletePartition (diskId : CppString) (partitionNum : Int) :
    Asks P (deletePartition diskId partitionNum) := by
  rw [deletePartition]
  refine asks_bind (asks_getDiskById (fun _ _ => mild _ rfl) _) fun disk => ?_
  split
  · trivial
  split
  · trivial
  refine asks_bind (asks_isDiskNotReady (fun _ _ => mild _ rfl) _) fun notReady => ?_
  split
  · trivial
  refine asks_read_bind fun s => ?_
  split
  · trivial
  split
  · trivial
  refine asks_call_bind (mild _ rfl) fun ret => ?_
  split
  · trivial
  · exact asks_bind (asks_destroyVolumeByDiskIdAndPartNum mild _ _) fun _ => trivial

/-- The device that is formatted is made of the path of the disk shown. -/
theorem asks_formatShownPartition {shown : Option Disk} (diskId : CppString) (partitionNum : Int)
    (params : FormatParams)
    (formats : ∀ disk ∈ shown, ∀ fsType volumeName cmd quickFormat,
      P (.formatPartition (disk.sysPath ++ CppString.ofInt partitionNum) fsType volumeName cmd
        quickFormat))
    (reads : ∀ devPath, P (.readMetadata devPath)) :
    Asks P (formatShownPartition diskId partitionNum params shown) := by
  have refresh : ∀ fmtVol fsType, Asks P (refreshVolumeAfterFormatPartition fmtVol fsType diskId) := by
    intro fmtVol fsType
    rw [refreshVolumeAfterFormatPartition]
    split
    · trivial
    refine asks_bind (asks_checkVolId P _) fun devPath => ?_
    split
    · trivial
    · exact asks_bind (asks_updateVolumeAfterFormat mild _ _ _ _ (reads _)) fun _ => trivial
  cases shown with
  | none => trivial
  | some disk =>
      rw [formatShownPartition]
      split
      · trivial
      refine asks_bind (asks_isVolumeMounted (fun _ _ => mild _ rfl) _ _) fun mounted => ?_
      split
      · trivial
      refine asks_bind (asks_findVolumeByPartNum P _ _) fun fmtVol => ?_
      refine asks_read_bind fun s => ?_
      split
      · trivial
      split
      · trivial
      split
      · trivial
      refine asks_call_bind (formats disk rfl _ _ _ _) fun ret => ?_
      split
      · split
        · exact asks_call_bind (mild _ rfl) fun _ => trivial
        · trivial
      · exact asks_bind (refresh _ _) fun _ => trivial

theorem asks_formatPartition (diskId : CppString) (partitionNum : Int) (params : FormatParams)
    (formats : ∀ devPath fsType volumeName cmd quickFormat,
      P (.formatPartition devPath fsType volumeName cmd quickFormat))
    (reads : ∀ devPath, P (.readMetadata devPath)) :
    Asks P (formatPartition diskId partitionNum params) := by
  rw [formatPartition_eq]
  refine asks_bind (asks_getDiskById (fun _ _ => mild _ rfl) _) fun shown => ?_
  exact asks_formatShownPartition mild diskId partitionNum params (fun _ _ => formats _) reads

end

end

end DiskManager
