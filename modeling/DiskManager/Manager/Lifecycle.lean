import DiskManager.JsonCodec
import DiskManager.Manager.UnmountSpec

/-!
# The life of one volume

`Mount`, `Unmount`, `ForceUnmount`, `TryToFix`, `Format` and `MarkVolumeAbnormal` on one block
volume, one after another, with whatever results the daemon gives. Between two operations the
volume is at rest (`AtRest`): its state is final, and it is MOUNTED exactly when the device is
mounted, at the recorded path.
-/

namespace DiskManager

open Interact

/-! ## At rest -/

/-- The states an operation leaves a volume in. -/
def VolumeState.resting : VolumeState → Bool
  | .unmounted | .mounted | .damaged | .repairFinishFail | .formatFinishFail => true
  | _ => false

/-- The record `r` of volume `v` says what the mount table says. -/
structure RecordAtRest (v : CppString) (r : VolumeExternal) (w : MountTable) : Prop where
  id : r.id = v
  block : r.fsType.block
  resting : r.state.resting = true
  agrees : r.state = .mounted ∧ w.mountedAt (volumeDev v) r.path ∧ PlainPath r.path ∨
    r.state ≠ .mounted ∧ ¬ w.mounted (volumeDev v) ∧ r.path = []

structure AtRest (v : CppString) (s : ManagerState) (w : MountTable) : Prop where
  record : ∃ r, s.volumeMap[v]? = some r ∧ RecordAtRest v r w
  paths : DataPaths s.voldata.uuidMap

theorem RecordAtRest.not_mounted {v : CppString} {r : VolumeExternal} {w : MountTable}
    (rest : RecordAtRest v r w) (ne : r.state ≠ .mounted) :
    ¬ w.mounted (volumeDev v) ∧ r.path = [] := by
  rcases rest.agrees with ⟨mounted, -, -⟩ | ⟨-, free⟩
  · exact absurd mounted ne
  · exact free

theorem RecordAtRest.mounted {v : CppString} {r : VolumeExternal} {w : MountTable}
    (rest : RecordAtRest v r w) (eq : r.state = .mounted) :
    w.mountedAt (volumeDev v) r.path ∧ PlainPath r.path := by
  rcases rest.agrees with ⟨-, at', plain⟩ | ⟨ne, -, -⟩
  · exact ⟨at', plain⟩
  · exact absurd eq ne

/-- A record without a mount, in a state an operation leaves. -/
theorem RecordAtRest.of_free {v : CppString} {r : VolumeExternal} {w : MountTable} (id : r.id = v)
    (block : r.fsType.block) (resting : r.state.resting = true) (ne : r.state ≠ .mounted)
    (free : ¬ w.mounted (volumeDev v)) (path : r.path = []) : RecordAtRest v r w :=
  ⟨id, block, resting, .inr ⟨ne, free, path⟩⟩

/-- The record is the value a write left. -/
theorem AtRest.of_updateVolume {v : CppString} {s : ManagerState} {w : MountTable}
    {r : VolumeExternal} {f : VolumeExternal → VolumeExternal} (found : s.volumeMap[v]? = some r)
    (paths : DataPaths s.voldata.uuidMap) (rest : RecordAtRest v (f r) w) :
    AtRest v (s.updateVolume v f) w := by
  refine ⟨⟨f r, ?_, rest⟩, paths⟩
  rw [ManagerState.get_updateVolume_self, found]
  rfl

/-- A copy that comes back from `MountVolumeEntry` can be the record. -/
theorem MountEnd.atRest {answers : Answers} {v : CppString} {vol r : VolumeExternal}
    {result : ErrCode × VolumeExternal} {s' : ManagerState} {w' : MountTable}
    (ended : MountEnd answers v vol r result s' w') (plain : PlainAnswers answers)
    (block : vol.fsType.block) (path : vol.path = []) : RecordAtRest v result.2 w' := by
  have block' := ended.block plain block
  rcases ended.outcome with ⟨-, state, at', plainPath⟩ | ⟨-, state, path', free⟩
  · exact ⟨ended.id, block', by rw [state]; rfl, .inl ⟨state, at', plainPath plain⟩⟩
  · refine .of_free ended.id block' ?_ ?_ free (path'.trans path)
    · rcases state with state | state <;> rw [state] <;> rfl
    · rcases state with state | state <;> rw [state] <;> decide

/-! ## The operations -/

section

variable {answers : Answers} {s : ManagerState} {w : MountTable} {v : CppString}

theorem wp_checkVolId {post : CppString → ManagerState → MountTable → Prop}
    (rest : ∀ devPath, (CppString.startsWith v CRYPT_VOLUME_PREFIX = false →
      devPath = [] ∨ devPath = volumeDev v) → post devPath s w) :
    wp (daemonContract answers) (checkVolId v) post s w := by
  rw [checkVolId]
  split
  · exact rest _ fun _ => .inl rfl
  rw [getVolumeById, findVolume]
  apply wp_read_bind
  split
  · exact rest _ fun _ => .inl rfl
  split
  next crypt =>
    split
    · exact rest _ fun plain => absurd crypt (by rw [plain]; decide)
    · exact rest _ fun plain => absurd crypt (by rw [plain]; decide)
  · exact rest _ fun _ => .inr rfl

theorem wp_mountWriteBack {err : ErrCode} {vol r : VolumeExternal}
    {post : ErrCode → ManagerState → MountTable → Prop} (found : s.volumeMap[v]? = some r)
    (written : (err = E_OK → r.state.mountable = true) →
      post err (s.updateVolume v fun _ => vol) w)
    (refused : err = E_OK → r.state.mountable = false → post E_VOL_MOUNT_ERR s w) :
    wp (daemonContract answers) (mountWriteBack v err vol) post s w := by
  rw [mountWriteBack, wp_atomically]
  refine ⟨trivial, ?_⟩
  simp only [found]
  split
  next changed => exact refused changed.1 changed.2
  next same =>
    refine written fun ok => ?_
    cases mountable : r.state.mountable with
    | true => rfl
    | false => exact absurd ⟨ok, mountable⟩ same

theorem wp_markVolumeAbnormal {reason : AbnormalReason} (rest : AtRest v s w) :
    wp (daemonContract answers) (markVolumeAbnormal v reason) (fun _ => AtRest v) s w := by
  obtain ⟨⟨r, found, calm⟩, paths⟩ := rest
  have here : AtRest v s w := ⟨⟨r, found, calm⟩, paths⟩
  rw [markVolumeAbnormal, wp_bind, wp_atomically]
  refine ⟨trivial, ?_⟩
  simp only [found]
  by_cases unmounted : r.state = .unmounted
  · obtain ⟨free, path⟩ := calm.not_mounted (by rw [unmounted]; decide)
    simp only [unmounted, if_true, reduceCtorEq, if_false, ne_eq, not_true_eq_false]
    refine wp_quiet_bind rfl fun _ _ => .of_updateVolume found paths ?_
    exact .of_free calm.id calm.block rfl (by simp) free path
  · simp only [unmounted, if_false, ne_eq, not_false_eq_true, if_true]
    split
    · exact here
    · exact here

section

variable [JsonLib]

theorem wp_mount {param : MountParam} (plain : PlainAnswers answers)
    (noCrypt : CppString.startsWith v CRYPT_VOLUME_PREFIX = false) (rest : AtRest v s w) :
    wp (daemonContract answers) (mount v param) (fun _ => AtRest v) s w := by
  obtain ⟨⟨r, found, calm⟩, paths⟩ := rest
  have here : AtRest v s w := ⟨⟨r, found, calm⟩, paths⟩
  rw [mount]
  refine wp_quiet_bind rfl fun _ _ => ?_
  split
  · exact here
  rw [findVolume]
  apply wp_read_bind
  rw [found]
  dsimp only
  split
  · exact here
  next mountable =>
    have mountable : r.state.mountable = true := by simpa using mountable
    have ne : r.state ≠ .mounted := by
      intro mounted
      rw [mounted] at mountable
      cases mountable
    obtain ⟨free, path⟩ := calm.not_mounted ne
    refine wp_bind.mpr (wp_checkVolId fun devPath _ => ?_)
    refine wp_quiet_bind rfl fun _ _ => ?_
    split
    · exact here
    rw [noCrypt, Bool.and_false, if_neg (by decide)]
    apply wp_seq (wp_mountVolumeEntry found calm.id rfl free paths)
    rintro ⟨err, vol⟩ s' w' ended
    obtain ⟨r', found', -, state'⟩ := ended.record
    dsimp only at state' ⊢
    refine wp_mountWriteBack found' (fun _ => .of_updateVolume found' ended.paths ?_)
      fun ok refused => ?_
    · exact ended.atRest plain calm.block path
    · -- The record was mountable and only ever became UNMOUNTED.
      rcases state' ok with same | unmounted
      · rw [same, mountable] at refused
        cases refused
      · rw [unmounted] at refused
        cases refused

/-- An unmount from rest ends at rest. -/
theorem wp_doUnmountVolume_atRest {force : Bool} {r : VolumeExternal}
    (found : s.volumeMap[v]? = some r) (calm : RecordAtRest v r w)
    (paths : DataPaths s.voldata.uuidMap) :
    wp (daemonContract answers) (doUnmountVolume r force) (fun _ => AtRest v) s w := by
  refine wp_mono ?_ (wp_doUnmountVolume found calm.id)
  intro err s' w' ended
  cases ended with
  | failed bad memory fewer same gone =>
      subst memory
      refine .of_updateVolume found paths ⟨calm.id, calm.block, calm.resting, ?_⟩
      rcases calm.agrees with ⟨mounted, at', plain⟩ | ⟨ne, free, path⟩
      · rw [same plain]
        exact .inl ⟨mounted, at', plain⟩
      · exact .inr ⟨ne, fun ⟨p, mem⟩ => free ⟨p, fewer mem⟩, path⟩
  | unmounted block memory points =>
      subst memory
      refine .of_updateVolume found paths (.of_free calm.id block rfl (by simp) ?_ rfl)
      rintro ⟨p, mem⟩
      rcases calm.agrees with ⟨-, at', plain⟩ | ⟨-, free, -⟩
      · have here := at'.2 p (points.fewer mem)
        subst here
        exact points.gone (.inl rfl) plain.1 _ mem
      · exact free ⟨p, points.fewer mem⟩
  | removed mtp => exact absurd calm.block mtp

theorem wp_unmount (rest : AtRest v s w) :
    wp (daemonContract answers) (unmount v) (fun _ => AtRest v) s w := by
  obtain ⟨⟨r, found, calm⟩, paths⟩ := rest
  rw [unmount, findVolume]
  apply wp_read_bind
  rw [found]
  dsimp only
  split
  · exact ⟨⟨r, found, calm⟩, paths⟩
  · exact wp_doUnmountVolume_atRest found calm paths

theorem wp_forceUnmount (rest : AtRest v s w) :
    wp (daemonContract answers) (forceUnmount v) (fun _ => AtRest v) s w := by
  obtain ⟨⟨r, found, calm⟩, paths⟩ := rest
  rw [forceUnmount, findVolume]
  apply wp_read_bind
  rw [found]
  exact wp_doUnmountVolume_atRest found calm paths

/-! ### Format -/

omit [JsonLib] in
theorem wp_getDiskById {diskId : CppString} {post : Option Disk → ManagerState → MountTable → Prop}
    (rest : ∀ disk, post disk s w) :
    wp (daemonContract answers) (getDiskById diskId) post s w := by
  rw [getDiskById]
  apply wp_read_bind
  dsimp only
  split
  · exact rest _
  split
  · rw [queryAndAppendEncryptionStatusUnlocked, wp_bind]
    split
    · exact rest _
    · refine wp_quiet_bind rfl fun extraInfo _ => ?_
      split
      · exact rest _
      · exact rest _
  · exact rest _

omit [JsonLib] in
theorem wp_isDiskSupported {diskId : CppString} {post : ErrCode → ManagerState → MountTable → Prop}
    (rest : ∀ err, post err s w) :
    wp (daemonContract answers) (isDiskSupported diskId) post s w := by
  rw [isDiskSupported]
  refine wp_bind.mpr (wp_getDiskById fun disk => ?_)
  split
  · exact rest _
  · exact rest _

theorem wp_updateVoldataMappingAfterFormat {diskId oldFsUuid newFsUuid fsType : CppString}
    (paths : DataPaths s.voldata.uuidMap) :
    wp (daemonContract answers)
      (updateVoldataMappingAfterFormat diskId oldFsUuid newFsUuid fsType)
      (fun _ s' w' => StoreMoved s s' ∧ w' = w) s w := by
  rw [updateVoldataMappingAfterFormat]
  apply wp_read_bind
  split
  · split
    · apply wp_seq (wp_onStore_keeps (keepsPaths_removeByFsUuid oldFsUuid) paths)
      exact fun _ _ _ ended => ⟨ended.1, ended.2.1⟩
    · exact ⟨.refl paths, rfl⟩
  split
  · exact ⟨.refl paths, rfl⟩
  rw [tryGetMountPath]
  apply wp_read_bind
  split
  · exact ⟨.refl paths, rfl⟩
  · apply wp_seq (wp_onStore_keeps (keepsPaths_replaceFsUuid oldFsUuid newFsUuid) paths)
    exact fun _ _ _ ended => ⟨ended.1, ended.2.1⟩

/-- The record after a format, or nothing when the new file system has no valid uuid. -/
theorem wp_updateVolumeAfterFormat {fsType diskId oldFsUuid devPath : CppString}
    (paths : DataPaths s.voldata.uuidMap) :
    wp (daemonContract answers) (updateVolumeAfterFormat v fsType diskId oldFsUuid devPath)
      (fun _ s' w' => w' = w ∧ (s' = s ∨ ∃ (m : Metadata) (t : StoreState),
        isUuidValid m.uuid = true ∧ DataPaths t.uuidMap ∧
        s' = { s with
          voldata := t
          volumeMap := s.volumeMap.update v fun r => { r with
            fsUuid := dedupFsUuidUnlocked s.volumeMap v m.uuid
            description := m.label
            fsType := getFsTypeByStr fsType
            state := .unmounted } })) s w := by
  rw [updateVolumeAfterFormat]
  refine wp_quiet_bind rfl fun m _ => ?_
  split
  · exact ⟨rfl, .inl rfl⟩
  next valid =>
    apply wp_read_bind
    apply wp_seq (wp_updateVoldataMappingAfterFormat paths)
    rintro _ _ _ ⟨⟨t, paths', rfl⟩, rfl⟩
    rw [wp_bind, updateVolumeIfFound, wp_atomically]
    exact ⟨trivial, rfl, .inr ⟨m, t, by simpa using valid, paths', rfl⟩⟩

omit [JsonLib] in
theorem wp_publishFormatFailEvent {post : Unit → ManagerState → MountTable → Prop}
    (rest : post () (s.updateVolume v fun r => { r with state := .formatFinishFail }) w) :
    wp (daemonContract answers) (publishFormatFailEvent v) post s w := by
  rw [publishFormatFailEvent, findVolume]
  apply wp_updateVolume_bind
  apply wp_read_bind
  split
  · exact (wp_quiet rfl).mpr fun _ _ => rest
  · exact rest

theorem wp_format {fsType : CppString} (block : (getFsTypeByStr fsType).block)
    (noCrypt : CppString.startsWith v CRYPT_VOLUME_PREFIX = false) (rest : AtRest v s w) :
    wp (daemonContract answers) (format v fsType) (fun _ => AtRest v) s w := by
  obtain ⟨⟨r, found, calm⟩, paths⟩ := rest
  have here : AtRest v s w := ⟨⟨r, found, calm⟩, paths⟩
  rw [format, findVolume]
  apply wp_read_bind
  rw [found]
  dsimp only
  rw [if_neg calm.block.1]
  refine wp_bind.mpr (wp_isDiskSupported fun err => ?_)
  split
  · exact here
  split
  · exact here
  next formattable =>
    have ne : r.state ≠ .mounted := by
      intro mounted
      rw [mounted] at formattable
      exact formattable rfl
    obtain ⟨free, path⟩ := calm.not_mounted ne
    apply wp_read_bind
    refine wp_bind.mpr (wp_checkVolId fun devPath node => ?_)
    split
    · exact here
    next some' =>
      obtain rfl : devPath = volumeDev v := (node noCrypt).resolve_left (by simpa using some')
      refine wp_device_bind rfl (fun _ => rfl) free fun err _ => ?_
      split
      · refine wp_bind.mpr (wp_publishFormatFailEvent (.of_updateVolume found paths ?_))
        exact .of_free calm.id calm.block rfl (by simp) free path
      · refine wp_mono ?_ (wp_updateVolumeAfterFormat paths)
        rintro _ s' _ ⟨rfl, rfl | ⟨m, t, -, paths', rfl⟩⟩
        · exact here
        · refine .of_updateVolume (s := { s with voldata := t }) found paths' ?_
          exact .of_free calm.id block rfl (by simp) free path

/-! ### Repair -/

omit [JsonLib] in
/-- How `RepairAndCheckVolume` ends, for the copy and for the record alike. -/
theorem wp_repairAndCheckVolume {vol : VolumeExternal} (free : ¬ w.mounted (volumeDev vol.id)) :
    wp (daemonContract answers) (repairAndCheckVolume vol v)
      (fun result s' w' => ∃ state : VolumeState, result.2 = { vol with state } ∧
        s' = s.updateVolume v (fun r => { r with state }) ∧ w' = w ∧
        (result.1 = E_OK ∧ state = .unmounted ∨ result.1 ≠ E_OK ∧ state = .repairFinishFail))
      s w := by
  have failed : ∀ {err : ErrCode}, err ≠ E_OK →
      wp (daemonContract answers) (repairFailed { vol with state := .checking } v err)
        (fun result s' w' => ∃ state : VolumeState, result.2 = { vol with state } ∧
          s' = s.updateVolume v (fun r => { r with state }) ∧ w' = w ∧
          (result.1 = E_OK ∧ state = .unmounted ∨ result.1 ≠ E_OK ∧ state = .repairFinishFail))
        (s.updateVolume v fun r => { r with state := .checking }) w := by
    intro err bad
    rw [repairFailed]
    apply wp_updateVolume_bind
    refine wp_quiet_bind rfl fun _ _ => ?_
    exact ⟨_, rfl, by simp, rfl, .inr ⟨bad, rfl⟩⟩
  have succeeded :
      wp (daemonContract answers) (repairSucceeded { vol with state := .checking } v)
        (fun result s' w' => ∃ state : VolumeState, result.2 = { vol with state } ∧
          s' = s.updateVolume v (fun r => { r with state }) ∧ w' = w ∧
          (result.1 = E_OK ∧ state = .unmounted ∨ result.1 ≠ E_OK ∧ state = .repairFinishFail))
        (s.updateVolume v fun r => { r with state := .checking }) w := by
    rw [repairSucceeded]
    refine wp_quiet_bind rfl fun _ _ => ?_
    apply wp_updateVolume_bind
    exact ⟨_, rfl, by simp, rfl, .inl ⟨rfl, rfl⟩⟩
  rw [repairAndCheckVolume]
  dsimp only
  apply wp_updateVolume_bind
  refine wp_quiet_bind rfl fun _ _ => ?_
  refine wp_device_bind rfl (fun _ => rfl) free fun fixErr _ => ?_
  split
  next bad => exact failed bad
  refine wp_bind.mpr (wp_computeVolumeMountPolicy fun policy _ => ?_)
  split
  · refine wp_device_bind rfl (fun _ => rfl) free fun checkErr _ => ?_
    split
    next bad => exact failed bad
    · exact succeeded
  · exact succeeded

theorem wp_fixUnmounted {vol r : VolumeExternal} (plain : PlainAnswers answers)
    (found : s.volumeMap[v]? = some r) (record : r.id = v ∧ r.fsType.block ∧ r.path = [])
    (copy : vol.id = v ∧ vol.fsType.block ∧ vol.path = []) (uuid : vol.fsUuid = r.fsUuid)
    (free : ¬ w.mounted (volumeDev v)) (paths : DataPaths s.voldata.uuidMap) :
    wp (daemonContract answers) (fixUnmounted vol v) (fun _ => AtRest v) s w := by
  rw [fixUnmounted]
  apply wp_seq (wp_repairAndCheckVolume (by rw [copy.1]; exact free))
  rintro ⟨rcErr, _⟩ _ _ ⟨state, rfl, rfl, rfl, ended⟩
  have found₁ : (s.updateVolume v fun r => { r with state }).volumeMap[v]? =
      some { r with state } := by
    rw [ManagerState.get_updateVolume_self, found]
    rfl
  dsimp only at ended ⊢
  rcases ended with ⟨rfl, rfl⟩ | ⟨bad, rfl⟩
  · rw [if_neg (by decide)]
    refine wp_seq (wp_mountVolumeEntry found₁ ?_ ?_ free paths) ?_
    · exact copy.1
    · exact uuid
    intro result s' w' ended
    obtain ⟨r', found', -, -⟩ := ended.record
    rw [wp_bind, updateVolumeIfFound, wp_atomically]
    refine ⟨trivial, ?_⟩
    rw [found']
    simp only [Option.isSome_some, if_true, wp_pure]
    exact .of_updateVolume found' ended.paths (ended.atRest plain copy.2.1 copy.2.2)
  · rw [if_pos bad]
    refine .of_updateVolume found paths ?_
    exact .of_free record.1 record.2.1 rfl (by simp) free record.2.2

theorem wp_tryToFix (plain : PlainAnswers answers) (rest : AtRest v s w) :
    wp (daemonContract answers) (tryToFix v) (fun _ => AtRest v) s w := by
  obtain ⟨⟨r, found, calm⟩, paths⟩ := rest
  rw [tryToFix, findVolume]
  apply wp_read_bind
  rw [found]
  dsimp only
  split
  next mounted =>
    have mounted : r.state = .mounted := by
      rcases mounted with damaged | mounted
      · have resting := calm.resting
        rw [damaged] at resting
        cases resting
      · exact mounted
    obtain ⟨at', plainPath⟩ := calm.mounted mounted
    refine wp_bind.mpr (wp_notifyVolumeEjecting ?_)
    apply wp_seq wp_unmountVolumeMountPoints
    rintro umErr _ w' ⟨rfl, points⟩
    split
    next bad =>
      apply wp_updateVolume_bind
      rw [ManagerState.updateVolume_updateVolume]
      refine .of_updateVolume found paths ⟨calm.id, calm.block, calm.resting, .inl ?_⟩
      rw [points.failed plainPath bad]
      exact ⟨mounted, at', plainPath⟩
    next ok =>
      obtain rfl : umErr = E_OK := by simpa using ok
      apply wp_updateVolume_bind
      rw [ManagerState.updateVolume_updateVolume]
      have free : ¬ w'.mounted (volumeDev v) := by
        rintro ⟨p, mem⟩
        have here := at'.2 p (points.fewer mem)
        subst here
        exact points.gone (.inl rfl) plainPath.1 _ mem
      have found₁ : (s.updateVolume v fun r => { r with
          state := .unmounted, umountResult := [], path := [] }).volumeMap[v]? =
          some { r with state := .unmounted, umountResult := [], path := [] } := by
        rw [ManagerState.get_updateVolume_self, found]
        rfl
      exact wp_fixUnmounted plain found₁ ⟨calm.id, calm.block, rfl⟩ ⟨calm.id, calm.block, rfl⟩ rfl
        free paths
  next idle =>
    obtain ⟨free, path⟩ := calm.not_mounted fun mounted => idle (.inr mounted)
    exact wp_fixUnmounted plain found ⟨calm.id, calm.block, path⟩ ⟨calm.id, calm.block, path⟩ rfl
      free paths

end

end

/-! ## Runs -/

inductive VolumeOp : Type
  | mount (mountParam : MountParam)
  | unmount
  | forceUnmount
  | tryToFix
  | format (fsType : CppString)
  | markVolumeAbnormal (reason : AbnormalReason)

/-- A format makes a block file system. -/
def VolumeOp.block : VolumeOp → Prop
  | .format fsType => (getFsTypeByStr fsType).block
  | _ => True

abbrev BlockOp : Type := { op : VolumeOp // op.block }

def BlockOp.prog [JsonLib] (v : CppString) (op : BlockOp) : ManagerProg ErrCode :=
  match op.val with
  | .mount mountParam => DiskManager.mount v mountParam
  | .unmount => DiskManager.unmount v
  | .forceUnmount => DiskManager.forceUnmount v
  | .tryToFix => DiskManager.tryToFix v
  | .format fsType => DiskManager.format v fsType
  | .markVolumeAbnormal reason => DiskManager.markVolumeAbnormal v reason

/-- A block volume that is not mounted. -/
structure Unmounted (v : CppString) (s : ManagerState) (w : MountTable) : Prop where
  record : ∃ r, s.volumeMap[v]? = some r ∧ r.id = v ∧ r.fsType.block ∧ r.state = .unmounted ∧
    r.path = []
  free : ¬ w.mounted (volumeDev v)
  paths : DataPaths s.voldata.uuidMap

theorem Unmounted.atRest {v : CppString} {s : ManagerState} {w : MountTable}
    (start : Unmounted v s w) : AtRest v s w := by
  obtain ⟨r, found, id, block, state, path⟩ := start.record
  have resting : r.state.resting = true := by rw [state]; rfl
  have ne : r.state ≠ .mounted := by rw [state]; decide
  exact ⟨⟨r, found, .of_free id block resting ne start.free path⟩, start.paths⟩

/-- One operation of a run: it starts and ends at rest, and on the way no request works on a
mounted device. -/
theorem BlockOp.wp_prog [JsonLib] {answers : Answers} (plain : PlainAnswers answers) {v : CppString}
    (noCrypt : CppString.startsWith v CRYPT_VOLUME_PREFIX = false) (op : BlockOp)
    {s : ManagerState} {w : MountTable} (rest : AtRest v s w) :
    wp (daemonContract answers) (op.prog v) (fun _ => AtRest v) s w := by
  obtain ⟨op, block⟩ := op
  cases op with
  | mount mountParam => exact wp_mount plain noCrypt rest
  | unmount => exact wp_unmount rest
  | forceUnmount => exact wp_forceUnmount rest
  | tryToFix => exact wp_tryToFix plain rest
  | format fsType => exact wp_format block noCrypt rest
  | markVolumeAbnormal reason => exact wp_markVolumeAbnormal rest

/-- After every operation of a run the state is final and says whether, and where, the device is
mounted; and no `Mount`, `FormatVolume`, `Check` or `Repair` is issued while it is. -/
theorem volume_lifecycle [JsonLib] {answers : Answers} (plain : PlainAnswers answers)
    {v : CppString} (noCrypt : CppString.startsWith v CRYPT_VOLUME_PREFIX = false)
    {s₀ s : ManagerState} {w₀ w : MountTable} {ops : List BlockOp} (start : Unmounted v s₀ w₀)
    (run : Runs (BlockOp.prog v) (fun _ => daemonEnv answers) s₀ w₀ ops s w) :
    (∃ r, s.volumeMap[v]? = some r ∧
      r.state ∈ [VolumeState.unmounted, .mounted, .damaged, .repairFinishFail,
        .formatFinishFail] ∧
      (r.state = .mounted ↔ w.mounted (volumeDev v)) ∧
      (r.state = .mounted → w.mountedAt (volumeDev v) r.path) ∧
      (r.state ≠ .mounted → r.path = [])) ∧
    ∀ (op : BlockOp) (q : Req) (next : q.Resp → ManagerProg ErrCode) (s' : ManagerState)
      (w' : MountTable),
      Reach (daemonEnv answers) ⟨op.prog v, s, w⟩ ⟨.call q next, s', w'⟩ →
      ∀ dev ∈ q.device, ¬ w'.mounted dev := by
  have rest : AtRest v s w :=
    Runs.invariant (C := fun _ => daemonContract answers) (AtRest v)
      (fun op _ _ rest => op.wp_prog plain noCrypt rest) start.atRest run
  refine ⟨?_, fun op q next s' w' path => ?_⟩
  · obtain ⟨r, found, calm⟩ := rest.record
    refine ⟨r, found, ?_, ⟨fun mounted => ?_, fun held => ?_⟩, fun mounted => ?_, fun ne => ?_⟩
    · have resting := calm.resting
      cases state : r.state <;> rw [state] at resting <;> first | decide | cases resting
    · exact MountTable.mounted_of_mountedAt (calm.mounted mounted).1
    · by_contra ne
      exact (calm.not_mounted ne).1 held
    · exact (calm.mounted mounted).1
    · exact (calm.not_mounted ne).2
  · exact wp_issued (C := daemonContract answers) (op.wp_prog plain noCrypt rest) path

/-- A state with one volume, on a USB stick. -/
def oneVolume : ManagerState :=
  { ManagerState.boot with
    volumeMap := (∅ : VolumeMap).insert "vol-8-1"
      { id := "vol-8-1", diskId := "disk-8-0", fsUuid := "1234-ABCD", fsType := .vfat } }

theorem oneVolume_unmounted : Unmounted "vol-8-1" oneVolume [] where
  record := ⟨_, StdMap.get_insert_self _ _ _, rfl, by decide, rfl, rfl⟩
  free := fun ⟨_, mem⟩ => by cases mem
  paths := .empty

theorem okAnswer_plain : PlainAnswers (.of okAnswer) where
  fuse same := same
  metadata same := by
    rw [same]
    exact (by decide : (getFsTypeByStr []).block)

/-- One mount of that volume by a daemon that mounts it. -/
theorem volume_lifecycle_mount :
    letI := tableJson
    ∃ s w, Runs (BlockOp.prog "vol-8-1") (fun _ => daemonEnv (.of okAnswer)) oneVolume []
        [⟨.mount {}, trivial⟩] s w ∧
      (∃ r, s.volumeMap["vol-8-1".toList]? = some r ∧ r.state = .mounted) ∧
      w.mounted (volumeDev "vol-8-1") := by
  let _ := tableJson
  have run : Runs (BlockOp.prog "vol-8-1") (fun _ => daemonEnv (.of okAnswer)) oneVolume []
      [⟨.mount {}, trivial⟩] _ _ :=
    .next .start (Prog.exec_returns (daemon_obeys okAnswer)
      (BlockOp.prog "vol-8-1" ⟨.mount {}, trivial⟩) oneVolume [])
  obtain ⟨⟨r, found, -, iff, -⟩, -⟩ :=
    volume_lifecycle okAnswer_plain (by decide) oneVolume_unmounted run
  have held : MountTable.mounted ((mount "vol-8-1" {}).exec (daemon okAnswer) oneVolume []).2.2
      (volumeDev "vol-8-1") := ⟨"/mnt/data/external/1234-ABCD", by decide +kernel⟩
  exact ⟨_, _, run, ⟨r, found, iff.mpr held⟩, held⟩

end DiskManager
