import DiskManager.Manager.CryptTable
import DiskManager.Manager.Filed
import DiskManager.JsonCodec
import Mathlib.Data.Set.Function

/-!
# Crypt volumes on a USB disk

The six operations of the provider on encrypted containers, one after another. After each of them
the records under `vol-crypt-` are those of the bound loop devices.
-/

namespace DiskManager

open Interact

inductive CryptOp : Type
  | bindBlockLoopDev (diskId : CppString) (offset sizeLimit : Nat)
  | createDmCryptVolume (param : CryptParam) (loopPath mapperName : CppString)
  | destroyDmCryptVolume (mapperName : CppString)
  | unbindBlockLoopDev (loopPath : CppString)
  | mountVolumeByPath (diskId volPath : CppString) (mountParam : MountParam)
  | umountVolumeByPath (diskId volPath : CppString)

/-! ## The checks of the provider -/

def isLoopPathValid (loopPath : CppString) : Bool :=
  !loopPath.isEmpty && !isFilePathInvalid loopPath && CppString.startsWith loopPath DEV_BLOCK_PREFIX

/-- `^[A-Za-z0-9]{1,maxLen}$` -/
def isMapperNameValid (maxLen : Nat) (mapperName : CppString) : Bool :=
  !mapperName.isEmpty && decide (mapperName.length ≤ maxLen) && mapperName.all Char.isAlphanum

def isVolPathValid (volPath : CppString) : Bool :=
  !volPath.isEmpty && !isFilePathInvalid volPath &&
    (CppString.startsWith volPath DEV_BLOCK_PREFIX || CppString.startsWith volPath DEV_MAPPER_PREFIX)

/-- The provider takes the parameters. -/
def CryptOp.accepted : CryptOp → Bool
  | .bindBlockLoopDev diskId offset sizeLimit =>
      offset ≠ 0 && sizeLimit ≠ 0 && isDiskIdValid diskId
  | .createDmCryptVolume _ loopPath mapperName =>
      isLoopPathValid loopPath && isMapperNameValid 127 mapperName
  | .destroyDmCryptVolume mapperName => isMapperNameValid 128 mapperName
  | .unbindBlockLoopDev loopPath => isLoopPathValid loopPath
  | .mountVolumeByPath diskId volPath _ => isDiskIdValid diskId && isVolPathValid volPath
  | .umountVolumeByPath diskId volPath => isDiskIdValid diskId && isVolPathValid volPath

/-- A failure is reported as that of the operation. -/
def failsWith (failure ret : ErrCode) : ErrCode := if ret ≠ E_OK then failure else E_OK

def CryptOp.prog [JsonLib] : CryptOp → ManagerProg ErrCode
  | .bindBlockLoopDev diskId offset sizeLimit => do
      let (ret, _) ← DiskManager.bindBlockLoopDev diskId offset sizeLimit
      return failsWith E_BIND_LOOP_DEV_FAILED ret
  | .createDmCryptVolume param loopPath mapperName => do
      let (ret, _) ← DiskManager.createDmCryptVolume param loopPath mapperName
      return failsWith E_CREATE_DM_CRYPT_VOLUME_FAILED ret
  | .destroyDmCryptVolume mapperName => do
      let ret ← DiskManager.destroyDmCryptVolume mapperName
      return failsWith E_DESTROY_DM_CRYPT_VOLUME_FAILED ret
  | .unbindBlockLoopDev loopPath => do
      let ret ← DiskManager.unbindBlockLoopDev loopPath
      return failsWith E_UNBIND_LOOP_DEV_FAILED ret
  | .mountVolumeByPath diskId volPath mountParam => do
      let ret ← DiskManager.mountVolumeByPath diskId volPath mountParam
      return failsWith E_MOUNT_VOL_BY_PATH_FAILED ret
  | .umountVolumeByPath diskId volPath => do
      let ret ← DiskManager.umountVolumeByPath diskId volPath
      return failsWith E_UMOUNT_VOL_BY_PATH_FAILED ret

/-! ## Rules -/

abbrev cryptContract : Contract ManagerState CryptWorld Req Req.Resp := .ofEnv cryptEnv

section

variable {s : ManagerState} {w : CryptWorld} {α β : Type}
  {post : α → ManagerState → CryptWorld → Prop}

theorem cryptEnv_passive {s : ManagerState} {w w' : CryptWorld} {q : Req} {r : q.Resp}
    (passive : q.passive = true) (answered : cryptEnv s w q r w') : w' = w := by
  cases q <;> first | exact answered.2 | cases passive

/-- A part that reads memory and asks for nothing that changes anything. -/
theorem wp_inert_bind {p : ManagerProg β} {f : β → ManagerProg α} {kept : β → Prop}
    (reads : Within Eq p kept) (asks : Asks (·.passive = true) p)
    (rest : ∀ b, kept b → wp cryptContract (f b) post s w) :
    wp cryptContract (p >>= f) post s w := by
  have first : wp cryptContract p (fun b s' w' => s = s' ∧ kept b ∧ w' = w) s w :=
    wp_asks reads asks (fun _ => rfl) Eq.trans (fun _ => trivial)
      (fun passive answered => cryptEnv_passive passive answered) fun _ => trivial
  refine wp_seq first fun b s' w' ended => ?_
  obtain ⟨rfl, known, rfl⟩ := ended
  exact rest b known

theorem wp_passive_bind {q : Req} {f : q.Resp → ManagerProg α} (passive : q.passive = true)
    (rest : ∀ r, wp cryptContract (f r) post s w) : wp cryptContract (call q >>= f) post s w := by
  refine wp_called_bind fun r w' answered => ?_
  obtain rfl := cryptEnv_passive passive answered
  exact rest r

theorem wp_execute_bind {cmd : List CppString} {f : ErrCode × List CppString → ManagerProg α}
    (failed : ∀ ret output, ret ≠ E_OK → wp cryptContract (f (ret, output)) post s w)
    (done : ∀ output w', w.Executed cmd output w' → wp cryptContract (f (E_OK, output)) post s w') :
    wp cryptContract (call (.executeCommand cmd) >>= f) post s w := by
  refine wp_called_bind fun r w' answered => ?_
  obtain ⟨ret, output⟩ := r
  rcases answered with ⟨bad, rfl⟩ | ⟨rfl, executed⟩
  · exact failed ret output bad
  · exact done output w' executed

/-- The result does not matter. -/
theorem wp_result {p : ManagerProg β} {f : β → α} {inv : ManagerState → CryptWorld → Prop}
    (pre : wp cryptContract p (fun _ => inv) s w) :
    wp cryptContract (p >>= fun b => pure (f b)) (fun _ => inv) s w :=
  wp_seq pre fun _ _ _ held => held

theorem wp_updateVolumeExternal_bind (vol : VolumeExternal) {v : VolumeExternal}
    {f : ErrCode → ManagerProg α} (found : s.volumeMap[vol.id]? = some v)
    (rest : wp cryptContract (f E_OK) post (s.updateVolume vol.id fun _ => vol) w) :
    wp cryptContract (updateVolumeExternal vol >>= f) post s w := by
  rw [updateVolumeExternal, updateVolumeIfFound]
  have there : s.volumeMap[vol.id]?.isSome = true := by
    rw [found]
    rfl
  refine wp_bind.mpr (wp_bind.mpr ⟨trivial, ?_⟩)
  change wp _ (if s.volumeMap[vol.id]?.isSome then pure E_OK else pure E_NON_EXIST) _ _ _
  rw [if_pos there]
  exact rest

/-! ## Loop devices and mappers -/

theorem wp_bindBlockLoopDev (table : CryptTable s w) (diskId : CppString)
    (offset sizeLimit : Nat) :
    wp cryptContract (bindBlockLoopDev diskId offset sizeLimit) (fun _ => CryptTable) s w := by
  rw [bindBlockLoopDev]
  refine wp_inert_bind (reads_getDiskById _) (asks_getDiskById (fun _ _ => rfl) _) fun disk _ => ?_
  split
  · exact table
  split
  · exact table
  refine wp_inert_bind (reads_isVolumeBind _ _ _) (asks_isVolumeBind _ _ _ _) fun known _ => ?_
  split
  · exact table
  refine wp_execute_bind (fun ret output bad => ?_) fun output w' executed => ?_
  · dsimp only
    rw [if_pos (by simp [bad])]
    exact table
  · obtain ⟨loop, fresh, path, prints, rfl⟩ := executed_bind executed
    obtain ⟨some', reads⟩ := firstLine_loop path prints
    dsimp only
    rw [if_neg (by simpa using some'), reads, onVolumeCreated]
    refine wp_bind.mpr (wp_look_bind ?_)
    exact ⟨trivial, table.bind path fresh rfl rfl rfl rfl ⟨fun no => (by cases no), fun no => (by cases no)⟩⟩

theorem wp_createDmCryptVolume (table : CryptTable s w) (param : CryptParam)
    (loopPath mapperName : CppString) :
    wp cryptContract (createDmCryptVolume param loopPath mapperName) (fun _ => CryptTable)
      s w := by
  rw [createDmCryptVolume, getVolumeById, findVolume]
  apply wp_look_bind
  split
  · exact table
  next vol found =>
  split
  · exact table
  next none' =>
  have none' : vol.mapperPath = [] := by simpa using none'
  refine wp_execute_bind (fun ret output bad => ?_) fun output w' executed => ?_
  · dsimp only
    rw [if_pos bad]
    exact table
  · obtain ⟨bound, free, rfl⟩ := executed_openMapper executed
    obtain ⟨v, there, path, -⟩ := table.of_bound bound
    rw [there, Option.some.injEq] at found
    subst found path
    have opened := table.openMapper there (startsWith_cryptVolumeId _) none' free
    have id : v.id = cryptVolumeId v.loopPath := table.ids there
    rw [← id] at there opened
    dsimp only
    rw [if_neg (by simp)]
    refine wp_updateVolumeExternal_bind _ there ?_
    rw [if_neg (by simp)]
    exact opened

theorem clearMapperPath_eq (table : CryptTable s w) {k : CppString} {v : VolumeExternal}
    (found : s.volumeMap[k]? = some v) (crypt : CryptId k) (some' : v.mapperPath ≠ []) :
    s.clearMapperPath v.mapperPath = s.updateVolume k fun vol => { vol with mapperPath := [] } := by
  have on : v.On v.mapperPath := .inr ⟨rfl, some'⟩
  rw [ManagerState.clearMapperPath]
  split
  next none' =>
    have passed := List.find?_eq_none.mp none' (k, v) (StdMap.mem_toList.mpr found)
    simp at passed
  next kv first =>
    obtain ⟨k', v'⟩ := kv
    have found' := StdMap.mem_toList.mp (List.mem_of_find?_eq_some first)
    have same : v'.mapperPath = v.mapperPath := by
      simpa using List.find?_some first
    have crypt' : CryptId k' := by
      by_contra plain
      exact some' (same ▸ (table.plain found' plain).2)
    have on' : v'.On v.mapperPath := .inr ⟨same.symm, some'⟩
    rw [table.on_unique found' crypt' on' found crypt on]

theorem wp_destroyDmCryptVolume (table : CryptTable s w) (mapperName : CppString) :
    wp cryptContract (destroyDmCryptVolume mapperName) (fun _ => CryptTable) s w := by
  rw [destroyDmCryptVolume]
  dsimp only
  refine wp_execute_bind (fun ret output bad => ?_) fun output w' executed => ?_
  · dsimp only
    rw [if_pos bad]
    exact table
  · obtain ⟨isOpen, idle, rfl⟩ := executed_closeMapper executed
    obtain ⟨loop, on⟩ := Option.ne_none_iff_exists'.mp isOpen
    obtain ⟨v, found, path, record⟩ := table.of_bound (table.mapper on).2
    have crypt := startsWith_cryptVolumeId loop
    subst path
    obtain ⟨named, some'⟩ := (record.mapper _).mp on
    rw [named] at idle some' ⊢
    have closed := table.closeMapper found crypt some' idle
    rw [← clearMapperPath_eq table found crypt some'] at closed
    dsimp only
    rw [if_neg (by simp)]
    exact wp_bind.mpr ⟨trivial, closed⟩

theorem wp_unbindBlockLoopDev (table : CryptTable s w) (loopPath : CppString) :
    wp cryptContract (unbindBlockLoopDev loopPath) (fun _ => CryptTable) s w := by
  rw [unbindBlockLoopDev]
  refine wp_execute_bind (fun ret output bad => ?_) fun output w' executed => ?_
  · dsimp only
    rw [if_pos bad]
    exact table
  · obtain ⟨bound, closed, idle, rfl⟩ := executed_unbind executed
    obtain ⟨v, found, path, -⟩ := table.of_bound bound
    dsimp only
    rw [if_neg (by simp), onVolumeDestroyed]
    refine wp_bind.mpr (wp_section ?_)
    rw [found, if_neg (by simp)]
    exact table.unbind bound closed idle

/-! ## Mounts -/

/-- The record a path leads to is that of a crypt volume on it. -/
theorem volumeByCryptPath_found (table : CryptTable s w) {diskId path : CppString}
    (some' : path ≠ []) {vol : VolumeExternal}
    (lookup : s.volumeByCryptPath diskId path = some vol) :
    s.volumeMap[vol.id]? = some vol ∧ CryptId vol.id ∧ vol.On path := by
  rw [ManagerState.volumeByCryptPath, Option.map_eq_some_iff] at lookup
  obtain ⟨⟨k, v⟩, first, rfl⟩ := lookup
  have found := StdMap.mem_toList.mp (List.mem_of_find?_eq_some first)
  have passed := List.find?_some first
  simp only [Bool.and_eq_true, Bool.or_eq_true, decide_eq_true_eq] at passed
  have id : v.id = k := table.ids found
  subst id
  refine ⟨found, ?_, ?_⟩
  · by_contra plain
    obtain ⟨loop, mapper⟩ := table.plain found plain
    rcases passed.2 with same | same
    · exact some' (same.symm.trans loop)
    · exact some' (same.symm.trans mapper)
  · exact passed.2.imp Eq.symm fun same => ⟨same.symm, some'⟩

theorem isVolPathValid_ne_nil {volPath : CppString} (valid : isVolPathValid volPath = true) :
    volPath ≠ [] := by
  rintro rfl
  cases valid

/-- The volume with what `InitVolume` read. -/
structure Initialized (vol vol' : VolumeExternal) : Prop where
  same : SameDevices vol vol'
  plain : PlainPath vol'.path

theorem wp_initAndMountVolume {vol : VolumeExternal} {volPath : CppString} {mountFlag : Nat}
    {f : ErrCode × VolumeExternal → ManagerProg α}
    (failed : ∀ res vol', res ≠ E_OK → wp cryptContract (f (res, vol')) post s w)
    (done : ∀ vol', Initialized vol vol' → (∀ d, (d, vol'.path) ∉ w.mounts) →
      wp cryptContract (f (E_OK, vol')) post s
        { w with mounts := (volPath, vol'.path) :: w.mounts }) :
    wp cryptContract (initAndMountVolume vol volPath mountFlag >>= f) post s w := by
  rw [initAndMountVolume, initVolume]
  refine wp_bind.mpr (wp_bind.mpr (wp_called_bind fun metadata w' answered => ?_))
  have block : (getFsTypeByStr metadata.type).block := answered.1
  obtain rfl : w' = w := answered.2
  split
  next bad =>
    rw [wp_pure]
    dsimp only
    rw [if_pos bad]
    exact failed _ _ bad
  split
  · rw [wp_pure]
    dsimp only
    rw [if_pos (by decide)]
    exact failed _ _ (by decide)
  · rw [wp_pure]
    dsimp only
    rw [if_neg (by simp)]
    refine wp_called_bind fun res w' answered => ?_
    obtain ⟨free, rfl⟩ := answered
    by_cases ok : res = E_OK
    · subst ok
      refine done _ ⟨⟨rfl, rfl, rfl, rfl, rfl, block⟩, plainPath_external _⟩ ?_
      exact (free rfl).2
    · rw [MountTable.after_mount_failed ok]
      exact failed _ _ ok

theorem wp_mountVolumeByPath (table : CryptTable s w) {diskId volPath : CppString}
    {mountParam : MountParam} (valid : isVolPathValid volPath = true) :
    wp cryptContract (mountVolumeByPath diskId volPath mountParam) (fun _ => CryptTable) s w := by
  rw [mountVolumeByPath, lookupVolumeByCryptPath]
  refine wp_inert_bind (reads_getDiskById _) (asks_getDiskById (fun _ _ => rfl) _) fun disk _ => ?_
  split
  · exact table
  next disk =>
  split
  · exact table
  apply wp_look_bind
  split
  · exact table
  next vol lookup =>
  obtain ⟨found, crypt, on⟩ := volumeByCryptPath_found table (isVolPathValid_ne_nil valid) lookup
  split
  · exact table
  next state =>
  refine wp_inert_bind (reads_readPersistUsbReadonlyMountFlagBits _)
    (passive_readPersistUsbReadonlyMountFlagBits _) fun flag _ => ?_
  dsimp only
  refine wp_initAndMountVolume (fun res vol' bad => ?_) fun vol' init free => ?_
  · rw [if_pos bad]
    exact table
  · rw [if_neg (by simp)]
    have there : s.volumeMap[vol'.id]? = some vol := init.same.id ▸ found
    refine wp_updateVolumeExternal_bind _ there ?_
    rw [if_neg (by simp)]
    refine wp_passive_bind rfl fun _ => ?_
    have mounted := table.mount found crypt state on free (r := { vol' with
      state := .mounted, flags := disk.diskType, mountFlag := mountParam.readOnly })
      ⟨init.same.id, init.same.loopPath, init.same.mapperPath, init.same.offset,
        init.same.sizeLimit, init.same.block⟩ rfl init.plain rfl
    rw [← init.same.id] at mounted
    exact mounted

theorem wp_notifyEjecting_bind {volumeId : CppString} {vol : VolumeExternal}
    {umountResult : CppString} {f : VolumeExternal → ManagerProg α}
    (rest : wp cryptContract (f { vol with state := .ejecting, umountResult }) post
      (s.updateVolume volumeId fun r => { r with state := .ejecting, umountResult }) w) :
    wp cryptContract (notifyVolumeEjecting volumeId vol umountResult >>= f) post s w := by
  rw [notifyVolumeEjecting]
  refine wp_bind.mpr (wp_bind.mpr ⟨trivial, ?_⟩)
  exact wp_passive_bind rfl fun _ => rest

/-- Only the path of a plain volume is unmounted. -/
theorem unmountVolumeMountPoints_plain {vol : VolumeExternal} (plain : PlainPath vol.path)
    (force : Bool) : unmountVolumeMountPoints vol force =
      call (.unmount vol.path vol.fsType.getFsTypeString force) := by
  rw [unmountVolumeMountPoints]
  dsimp only
  rw [plain.2, Bool.and_false, if_neg (by simp), if_pos (by simpa using plain.1)]

theorem wp_doUnmountVolume_mounted [JsonLib] (table : CryptTable s w) {vol : VolumeExternal}
    (found : s.volumeMap[vol.id]? = some vol) (crypt : CryptId vol.id)
    (state : vol.state = .mounted) (force : Bool) :
    wp cryptContract (doUnmountVolume vol force) (fun _ => CryptTable) s w := by
  have record := table.record found crypt
  have plain : PlainPath vol.path := by
    cases record.shown with
    | unmounted was _ =>
        rw [was] at state
        cases state
    | mounted _ plain _ _ _ _ => exact plain
  -- The record after the volume was marked as ejecting.
  let ejecting : ManagerState := s.updateVolume vol.id fun r =>
    { r with state := .ejecting, umountResult := [] }
  have restore : ∀ (copy : VolumeExternal) (err : ErrCode), copy.id = vol.id →
      wp cryptContract (do
        let copy ← notifyVolumeEjecting vol.id copy "umountFail"
        restoreVolumeState copy.id vol.state
        return err : ManagerProg ErrCode) (fun _ => CryptTable) ejecting w := by
    intro copy err same
    refine wp_notifyEjecting_bind (wp_bind.mpr ⟨trivial, ?_⟩)
    dsimp only [ejecting]
    rw [same, ManagerState.updateVolume_updateVolume, ManagerState.updateVolume_updateVolume]
    exact table.detail found crypt ⟨rfl, rfl, rfl, rfl, rfl, record.block⟩ rfl rfl
  rw [doUnmountVolume]
  dsimp only
  refine wp_inert_bind (reads_saveVolumeFreeSize _) (passive_saveVolumeFreeSize _)
    fun copy saved => ?_
  obtain ⟨freeSize, rfl⟩ := saved
  refine wp_notifyEjecting_bind ?_
  refine wp_inert_bind (reads_resolveUnmountForceFlag _ _) (passive_resolveUnmountForceFlag _ _)
    fun flag _ => ?_
  obtain ⟨prepErr, force'⟩ := flag
  dsimp only
  split
  · exact restore _ _ rfl
  rw [unmountVolumeMountPoints_plain]
  case plain => exact plain
  refine wp_called_bind fun err w' answered => ?_
  obtain ⟨-, rfl⟩ := answered
  split
  next bad =>
    rw [MountTable.after_unmount_failed bad]
    exact restore _ _ rfl
  next ok =>
    obtain rfl : err = E_OK := by simpa using ok
    have found' : ejecting.volumeMap[vol.id]? =
        some { vol with state := .ejecting, umountResult := [] } := by
      rw [ManagerState.get_updateVolume_self, found]
      rfl
    have unmounted := table.unmount found crypt state
      (f := fun r => { r with path := [], state := .unmounted, umountResult := [] })
      ⟨rfl, rfl, rfl, rfl, rfl, record.block⟩ rfl
    refine wp_passive_bind rfl fun _ => ?_
    rw [unmountWriteBack]
    refine wp_section ?_
    have fsType : ¬ (vol.fsType = .mtp ∨ vol.fsType = .ptp) :=
      not_or.mpr record.block
    rw [found', MountTable.after_unmount]
    dsimp only
    rw [if_neg fsType, ManagerState.updateVolume_updateVolume]
    exact unmounted

theorem wp_umountVolumeByPath [JsonLib] (table : CryptTable s w) {diskId volPath : CppString}
    (valid : isVolPathValid volPath = true) :
    wp cryptContract (umountVolumeByPath diskId volPath) (fun _ => CryptTable) s w := by
  rw [umountVolumeByPath, lookupVolumeByCryptPath]
  refine wp_inert_bind (reads_getDiskById _) (asks_getDiskById (fun _ _ => rfl) _) fun disk _ => ?_
  split
  · exact table
  split
  · exact table
  apply wp_look_bind
  split
  · exact table
  next vol lookup =>
  obtain ⟨found, crypt, -⟩ := volumeByCryptPath_found table (isVolPathValid_ne_nil valid) lookup
  split
  · exact table
  next state =>
  refine wp_doUnmountVolume_mounted table found crypt ?_ false
  cases (table.record found crypt).shown with
  | unmounted was _ => exact absurd was state
  | mounted was _ _ _ _ _ => exact was

/-- Each operation keeps the table. -/
theorem CryptOp.wp_prog [JsonLib] (op : CryptOp) (accepted : op.accepted = true)
    (table : CryptTable s w) : wp cryptContract op.prog (fun _ => CryptTable) s w := by
  cases op with
  | bindBlockLoopDev diskId offset sizeLimit =>
      exact wp_result (wp_bindBlockLoopDev table diskId offset sizeLimit)
  | createDmCryptVolume param loopPath mapperName =>
      exact wp_result (wp_createDmCryptVolume table param loopPath mapperName)
  | destroyDmCryptVolume mapperName => exact wp_result (wp_destroyDmCryptVolume table mapperName)
  | unbindBlockLoopDev loopPath => exact wp_result (wp_unbindBlockLoopDev table loopPath)
  | mountVolumeByPath diskId volPath mountParam =>
      exact wp_result (wp_mountVolumeByPath table ((Bool.and_eq_true _ _).mp accepted).2)
  | umountVolumeByPath diskId volPath =>
      exact wp_result (wp_umountVolumeByPath table ((Bool.and_eq_true _ _).mp accepted).2)

end

/-! ## The whole run -/

/-- The records under `vol-crypt-`, with their keys. -/
def ManagerState.cryptRecords (s : ManagerState) : Set (CppString × VolumeExternal) :=
  { kv | s.volumeMap[kv.1]? = some kv.2 ∧ CryptId kv.1 }

/-- The table mirrors the devices: one record for each bound loop device, with its range, its
mapper and whether it or its mapper is mounted. -/
structure MirrorsDaemon (s : ManagerState) (w : CryptWorld) : Prop where
  bijection : Set.BijOn (fun kv => kv.2.loopPath) s.cryptRecords { loop | w.loops loop ≠ none }
  range : ∀ kv ∈ s.cryptRecords, w.loops kv.2.loopPath = some (kv.2.offset, kv.2.sizeLimit)
  mapper : ∀ kv ∈ s.cryptRecords,
    (kv.2.mapperPath ≠ [] ↔ w.mappers kv.2.mapperPath = some kv.2.loopPath) ∧
      ∀ m, w.mappers m = some kv.2.loopPath → m = kv.2.mapperPath
  mounted : ∀ kv ∈ s.cryptRecords, kv.2.state = .mounted ↔
    w.mounts.mounted kv.2.loopPath ∨ kv.2.mapperPath ≠ [] ∧ w.mounts.mounted kv.2.mapperPath

theorem CryptTable.mirrors {s : ManagerState} {w : CryptWorld} (table : CryptTable s w) :
    MirrorsDaemon s w where
  bijection := by
    refine ⟨?_, ?_, ?_⟩
    · rintro ⟨k, v⟩ ⟨found, crypt⟩
      have range := (table.record found crypt).range
      change w.loops v.loopPath ≠ none
      rw [range]
      exact Option.some_ne_none _
    · rintro ⟨k, v⟩ ⟨found, crypt⟩ ⟨k', v'⟩ ⟨found', crypt'⟩ same
      have key : k = cryptVolumeId v.loopPath := table.key found crypt
      have key' : k' = cryptVolumeId v'.loopPath := table.key found' crypt'
      obtain rfl : k = k' := (key.trans (congrArg cryptVolumeId same)).trans key'.symm
      rw [Prod.mk.injEq]
      exact ⟨rfl, Option.some.inj (found.symm.trans found')⟩
    · intro loop bound
      obtain ⟨v, found, path⟩ := table.bound bound
      exact ⟨(cryptVolumeId loop, v), ⟨found, startsWith_cryptVolumeId loop⟩, path⟩
  range := by
    rintro ⟨k, v⟩ ⟨found, crypt⟩
    exact (table.record found crypt).range
  mapper := by
    rintro ⟨k, v⟩ ⟨found, crypt⟩
    have mapper := (table.record found crypt).mapper
    refine ⟨?_, fun m on => ((mapper m).mp on).1⟩
    rw [mapper]
    exact ⟨fun some' => ⟨rfl, some'⟩, fun both => both.2⟩
  mounted := by
    rintro ⟨k, v⟩ ⟨found, crypt⟩
    rw [(table.record found crypt).shown.mounted_iff]
    constructor
    · rintro ⟨dev, rfl | ⟨rfl, some'⟩, mounted⟩
      · exact .inl mounted
      · exact .inr ⟨some', mounted⟩
    · rintro (mounted | ⟨some', mounted⟩)
      · exact ⟨_, .inl rfl, mounted⟩
      · exact ⟨_, .inr ⟨rfl, some'⟩, mounted⟩

/-- Disks and regular volumes, and no loop device, mapper or crypt volume yet. -/
structure NoCryptVolumes (s : ManagerState) (w : CryptWorld) : Prop where
  ids : KeyIds s
  records {k : CppString} {v : VolumeExternal} : s.volumeMap[k]? = some v →
    ¬ CryptId k ∧ v.loopPath = [] ∧ v.mapperPath = []
  loops : ∀ loop, w.loops loop = none
  mappers : ∀ m, w.mappers m = none
  mounts {dev : CppString} : w.mounts.mounted dev →
    ¬ LoopDevice dev ∧ CppString.startsWith dev DEV_MAPPER_PREFIX = false

theorem NoCryptVolumes.table {s : ManagerState} {w : CryptWorld} (fresh : NoCryptVolumes s w) :
    CryptTable s w where
  ids found := fresh.ids _ _ found
  bound bound := absurd (fresh.loops _) bound
  record found crypt := absurd crypt (fresh.records found).1
  plain found _ := (fresh.records found).2
  mapper on := by
    rw [fresh.mappers] at on
    cases on
  loopThere mounted path := absurd path (fresh.mounts mounted).1
  mapperThere mounted named := by
    rw [(fresh.mounts mounted).2] at named
    cases named

/-- After every sequential run of accepted operations the table mirrors the devices. -/
theorem crypt_table_mirrors [JsonLib] {s₀ s : ManagerState} {w₀ w : CryptWorld}
    {ops : List CryptOp} (fresh : NoCryptVolumes s₀ w₀)
    (run : GuardedRuns CryptOp.prog (fun _ => cryptEnv) (fun op _ _ => op.accepted = true)
      s₀ w₀ ops s w) : MirrorsDaemon s w := by
  have kept : ∀ (op : CryptOp) s w, CryptTable s w → op.accepted = true →
      wp cryptContract op.prog (fun _ => CryptTable) s w :=
    fun op s w table accepted => op.wp_prog accepted table
  have table : CryptTable s w := GuardedRuns.invariant (C := fun _ => cryptContract) CryptTable
    kept fresh.table run
  exact table.mirrors

/-! ## A container on a stick -/

def containerStick : ManagerState :=
  { ManagerState.boot with
    diskMap := (∅ : StdMap Disk).insert "disk-8-0" (Disk.create "disk-8-0" 0 "sda" USB_FLAG) }

def noDevices : CryptWorld := ⟨fun _ => none, fun _ => none, []⟩

def loop0 : CppString := "/dev/block/loop0"

def containerParam : CryptParam := ⟨"plain", "aes-xts-plain64", 256, "/data/key"⟩

/-- The container is bound, opened and mounted. -/
def containerOps : List CryptOp :=
  [.bindBlockLoopDev "disk-8-0" 2048 4096, .createDmCryptVolume containerParam loop0 "crypt0",
    .mountVolumeByPath "disk-8-0" "/dev/mapper/crypt0" {}]

/-- Commands for the first loop device and one mapper on it. -/
def containerCommand (w : CryptWorld) (cmd : List CppString) :
    (ErrCode × List CppString) × CryptWorld :=
  if cmd = bindCommand 2048 4096 (DEV_BLOCK_PREFIX ++ "disk-8-0") ∧ w.loops loop0 = none then
    ((E_OK, [loop0]), w.bind loop0 (2048, 4096))
  else if cmd = openCommand containerParam loop0 "crypt0" ∧ w.loops loop0 ≠ none ∧
      w.mappers (DEV_MAPPER_PREFIX ++ "crypt0") = none then
    ((E_OK, []), w.openMapper (DEV_MAPPER_PREFIX ++ "crypt0") loop0)
  else ((DISK_MGR_ERR, []), w)

def containerHandle (w : CryptWorld) : (q : Req) → q.Resp × CryptWorld
  | .executeCommand cmd => containerCommand w cmd
  | .mount devPath mountPath _ _ _ =>
      if w.mounts = [] then (E_OK, { w with mounts := [(devPath, mountPath)] })
      else (DISK_MGR_ERR, w)
  | .readMetadata _ => (⟨E_OK, "0451-cdef", "exfat", []⟩, w)
  | q => (okAnswer w.mounts q, { w with mounts := w.mounts.after q (okAnswer w.mounts q) })

theorem failed_ne_ok : DISK_MGR_ERR ≠ E_OK := by decide

theorem containerCommand_obeys (w : CryptWorld) (cmd : List CppString) :
    (containerCommand w cmd).1.1 ≠ E_OK ∧ (containerCommand w cmd).2 = w ∨
      (containerCommand w cmd).1.1 = E_OK ∧
        w.Executed cmd (containerCommand w cmd).1.2 (containerCommand w cmd).2 := by
  unfold containerCommand
  split
  next known =>
    obtain ⟨rfl, fresh⟩ := known
    have prints : FirstLine [loop0] loop0 := ⟨[], [], by rw [List.append_nil], .inl rfl⟩
    exact .inr ⟨rfl, .bind fresh ⟨0, by decide⟩ prints⟩
  split
  next known =>
    obtain ⟨rfl, bound, free⟩ := known
    exact .inr ⟨rfl, .openMapper bound free⟩
  · exact .inl ⟨failed_ne_ok, rfl⟩

theorem containerHandle_obeys (s : ManagerState) (w : CryptWorld) (q : Req) :
    cryptEnv s w q (containerHandle w q).1 (containerHandle w q).2 := by
  cases q with
  | executeCommand cmd => exact containerCommand_obeys w cmd
  | mount devPath mountPath fsType mountFlag mountData =>
      unfold containerHandle
      dsimp only
      split
      next empty =>
        refine ⟨fun _ => ?_, ?_⟩
        · rw [empty]
          exact ⟨fun mounted => (by cases mounted.choose_spec), nofun⟩
        · rw [MountTable.after_mount, empty]
      · exact ⟨fun ok => absurd ok failed_ne_ok, rfl⟩
  | readMetadata devPath =>
      have block : (getFsTypeByStr "exfat").block := by decide
      exact ⟨block, rfl⟩
  | _ => exact ⟨trivial, rfl⟩

def containerMounted : ManagerState × CryptWorld :=
  letI := tableJson
  execAll CryptOp.prog containerHandle containerOps (containerStick, noDevices)

theorem noCryptVolumes_stick : NoCryptVolumes containerStick noDevices where
  ids k v found := by
    rw [show containerStick.volumeMap = ∅ from rfl, StdMap.get_empty] at found
    cases found
  records found := by
    rw [show containerStick.volumeMap = ∅ from rfl, StdMap.get_empty] at found
    cases found
  loops _ := rfl
  mappers _ := rfl
  mounts mounted := by cases mounted.choose_spec

/-- The state and the mapper of a volume. -/
def ManagerState.shownOf (s : ManagerState) (volumeId : CppString) :
    Option (VolumeState × CppString) :=
  s.volumeMap[volumeId]?.map fun v => (v.state, v.mapperPath)

theorem containerMounted_shown :
    containerMounted.1.shownOf "vol-crypt-loop0" = some (VolumeState.mounted, ↑"/dev/mapper/crypt0") := by
  decide +kernel

theorem crypt_table_mirrors_container :
    MirrorsDaemon containerMounted.1 containerMounted.2 ∧
      containerMounted.1.shownOf "vol-crypt-loop0" = some (VolumeState.mounted, ↑"/dev/mapper/crypt0") := by
  let _ := tableJson
  have run : GuardedRuns CryptOp.prog (fun _ => cryptEnv) (fun op _ _ => op.accepted = true)
      containerStick noDevices containerOps containerMounted.1 containerMounted.2 := by
    unfold containerMounted
    refine .execAll (fun _ _ => containerHandle_obeys) (fun op mem _ _ => ?_) _ _
    revert op
    decide
  exact ⟨crypt_table_mirrors noCryptVolumes_stick run, containerMounted_shown⟩

end DiskManager
