import DiskManager.Manager.Unmount
import DiskManager.Manager.Daemon

/-!
# Burning

`DiskManager::Burn`. A mounted disc is unmounted first, by a call to the daemon that goes past
`DoUnmountVolume`.

* `burn_truthful_iff`: the record still tells whether the disc is mounted, exactly when that unmount
  is not made or fails.
-/

namespace DiskManager

open Interact

def EDM_BURN_DENIED_MARK : ErrCode := -2
def BURN_REPORT_EVENT_ID : Int := 0x00F000004
def BURN_EDM_CONTROL_EVENT_ID : Int := 0x00F000008

/-- `PrepareBurn`: the result, `blockVolId` and `fsType`. -/
def prepareBurn (volumeId burnOptions : CppString) (callerUserId : Int) :
    ManagerProg (ErrCode × CppString × CppString) := do
  match ← findVolume volumeId with
  | none => return (E_PARAMS_INVALID, [], [])
  | some vol =>
      let fsType := vol.fsType.getFsTypeString
      if !isOddFsType fsType then
        return (E_NOT_SUPPORT, vol.id, fsType)
      if burnOptions.isEmpty then
        return (E_PARAMS_INVALID, vol.id, fsType)
      if !(← call (.isEdmEnableOddBurn vol.diskId callerUserId)) then
        return (EDM_BURN_DENIED_MARK, vol.id, fsType)
      if (vol.state = .mounted ∨ vol.state = .damagedMounted) ∧ !vol.path.isEmpty then
        let umountErr ← call (.unmount vol.path fsType true)
        if umountErr ≠ E_OK then
          return (E_VOL_UMOUNT_ERR, vol.id, fsType)
      return (E_OK, vol.id, fsType)

def burn (volumeId burnOptions callerBundle : CppString) (callerUserId : Int) :
    ManagerProg ErrCode := do
  let (prepErr, blockVolId, fsType) ← prepareBurn volumeId burnOptions callerUserId
  if prepErr = EDM_BURN_DENIED_MARK then
    let _ ← call (.reportBurnSecurityInfo callerUserId callerBundle fsType
      BURN_EDM_CONTROL_EVENT_ID)
    return E_NOT_SUPPORT
  if prepErr ≠ E_OK then
    return prepErr
  let err ← call (.burn (DEV_BLOCK_PREFIX ++ blockVolId) burnOptions fsType)
  let _ ← call (.reportBurnSecurityInfo callerUserId callerBundle fsType BURN_REPORT_EVENT_ID)
  if err ≠ E_OK then
    return if err = E_BURN_NOSPC then E_BURN_NOSPC else E_BURN_FAILED
  return E_OK

/-! ## The record and the mount table -/

/-- The record of `v` says MOUNTED exactly when its device is mounted at the recorded path. -/
def Truthful (s : ManagerState) (w : MountTable) (v : CppString) : Prop :=
  ∀ r, s.volumeMap[v]? = some r →
    (r.state = .mounted ↔ (DEV_BLOCK_PREFIX ++ r.id, r.path) ∈ w)

/-- The burn policy answers `allowed` and the unmount before the burn returns `umountErr`; nothing
is assumed of the rest. -/
def burnAnswers (allowed : Bool) (umountErr : ErrCode) : Answers := fun _ q r =>
  match q, r with
  | .isEdmEnableOddBurn .., answer => answer = allowed
  | .unmount .., err => err = umountErr
  | _, _ => True

theorem burnAnswers_answerable (allowed : Bool) (umountErr : ErrCode) (s : ManagerState)
    (w : MountTable) (q : Req) :
    ∃ r w', daemonEnv (burnAnswers allowed umountErr) s w q r w' := by
  have some' : ∃ r, burnAnswers allowed umountErr w q r := by
    cases q with
    | isEdmEnableOddBurn diskId user => exact ⟨allowed, rfl⟩
    | unmount path fsType force => exact ⟨umountErr, rfl⟩
    | _ => exact ⟨okAnswer w _, trivial⟩
  obtain ⟨r, answered⟩ := some'
  exact ⟨r, _, answered, rfl⟩

/-- The unmount before the burn is made and succeeds. -/
def UnmountsForBurn (r : VolumeExternal) (burnOptions : CppString) (allowed : Bool)
    (umountErr : ErrCode) : Prop :=
  isOddFsType r.fsType.getFsTypeString = true ∧ burnOptions ≠ [] ∧ allowed = true ∧
    r.state = .mounted ∧ r.path ≠ [] ∧ umountErr = E_OK

section

variable {allowed : Bool} {umountErr : ErrCode} {s : ManagerState} {w : MountTable}

/-- What `PrepareBurn` leaves: memory as it was, and the table without the recorded path when the
unmount was made and succeeded. -/
theorem wp_prepareBurn {v burnOptions : CppString} {user : Int} {r : VolumeExternal}
    (found : s.volumeMap[v]? = some r) (truthful : Truthful s w v) :
    wp (.ofEnv (daemonEnv (burnAnswers allowed umountErr))) (prepareBurn v burnOptions user)
      (fun _ s' w' => s' = s ∧ (Truthful s w' v ↔
        ¬ UnmountsForBurn r burnOptions allowed umountErr)) s w := by
  have still : ¬ UnmountsForBurn r burnOptions allowed umountErr →
      (Truthful s w v ↔ ¬ UnmountsForBurn r burnOptions allowed umountErr) :=
    fun no => ⟨fun _ => no, fun _ => truthful⟩
  rw [prepareBurn, findVolume, wp_bind, wp_read]
  refine ⟨trivial, ?_⟩
  rw [found]
  dsimp only
  split
  next notOdd =>
    refine ⟨rfl, still fun unmounts => ?_⟩
    rw [unmounts.1] at notOdd
    cases notOdd
  next odd =>
  split
  next empty =>
    refine ⟨rfl, still fun unmounts => unmounts.2.1 ?_⟩
    exact List.isEmpty_iff.mp empty
  next nonempty =>
  rw [wp_bind]
  refine ⟨trivial, ?_⟩
  rintro _ w₁ ⟨rfl, same⟩
  obtain rfl : w = w₁ := same.symm
  change wp _ (if _ then _ else _) _ _ _
  split
  next denied =>
    refine ⟨rfl, still fun unmounts => ?_⟩
    rw [unmounts.2.2.1] at denied
    cases denied
  next permitted =>
  split
  next shape =>
    -- The daemon takes the path out of the table, or refuses.
    obtain ⟨state, path⟩ := shape
    have path' : r.path ≠ [] := by
      intro empty
      rw [empty] at path
      cases path
    rw [wp_bind]
    refine ⟨trivial, ?_⟩
    rintro err _ ⟨rfl, rfl⟩
    change wp _ (if _ then _ else _) _ _ _
    split
    next failed =>
      refine ⟨rfl, ?_⟩
      rw [MountTable.after_unmount_failed failed]
      exact still fun unmounts => failed unmounts.2.2.2.2.2
    next ok =>
      rw [not_not] at ok
      refine ⟨rfl, ?_⟩
      have gone : (DEV_BLOCK_PREFIX ++ r.id, r.path) ∉
          w.after (.unmount r.path r.fsType.getFsTypeString true) err := by
        rw [ok, MountTable.after_unmount]
        simp
      constructor
      · intro truthful' unmounts
        exact gone ((truthful' r found).mp unmounts.2.2.2.1)
      · intro no r' found'
        rw [found] at found'
        cases found'
        have notMounted : r.state ≠ .mounted := fun mounted => no ⟨by simpa using odd,
          fun empty => nonempty (List.isEmpty_iff.mpr empty), by simpa using permitted, mounted,
          path', ok⟩
        exact ⟨fun mounted => absurd mounted notMounted, fun mem => absurd mem gone⟩
  next skip =>
    refine ⟨rfl, still fun unmounts => skip ⟨.inl unmounts.2.2.2.1, ?_⟩⟩
    simpa using unmounts.2.2.2.2.1

/-- `Burn` keeps the record truthful exactly when it does not unmount the disc. -/
theorem burn_truthful_iff {v burnOptions bundle : CppString} {user : Int} {r : VolumeExternal}
    (found : s.volumeMap[v]? = some r) (truthful : Truthful s w v) :
    wp (.ofEnv (daemonEnv (burnAnswers allowed umountErr))) (burn v burnOptions bundle user)
      (fun _ s' w' => Truthful s' w' v) s w ↔
        ¬ UnmountsForBurn r burnOptions allowed umountErr := by
  refine wp_iff (burnAnswers_answerable allowed umountErr) ?_
  rw [burn]
  refine wp_seq (wp_prepareBurn found truthful) ?_
  rintro ⟨prepErr, blockVolId, fsType⟩ _ w₁ ⟨rfl, ends⟩
  dsimp only
  split
  · rw [wp_bind]
    refine ⟨trivial, ?_⟩
    rintro _ _ ⟨-, rfl⟩
    exact ends
  split
  · exact ends
  rw [wp_bind]
  refine ⟨trivial, ?_⟩
  rintro err _ ⟨-, rfl⟩
  change wp _ (_ >>= _) _ _ _
  rw [wp_bind]
  refine ⟨trivial, ?_⟩
  rintro _ _ ⟨-, rfl⟩
  change wp _ (if _ then _ else _) _ _ _
  split
  · exact ends
  · exact ends

end

/-! ## A disc that is burnt while mounted -/

def mountedDisc : VolumeExternal :=
  { id := "vol-11-0", diskId := "disk-11-0", fsType := .udf, fsUuid := "1234-ABCD"
    path := "/mnt/data/external/1234-ABCD", state := .mounted }

def loadedState : ManagerState :=
  { ManagerState.boot with volumeMap := (∅ : StdMap VolumeExternal).insert "vol-11-0" mountedDisc }

def discTable : MountTable := [("/dev/block/vol-11-0", "/mnt/data/external/1234-ABCD")]

theorem loadedState_found : loadedState.volumeMap[("vol-11-0" : CppString)]? = some mountedDisc :=
  StdMap.get_insert_self _ _ _

theorem loadedState_truthful : Truthful loadedState discTable "vol-11-0" := by
  intro r found
  rw [loadedState_found] at found
  cases found
  decide

theorem burn_truthful_iff_disc :
    wp (.ofEnv (daemonEnv (burnAnswers true E_UMOUNT_BUSY))) (burn "vol-11-0" "-speed=4" "app" 100)
      (fun _ s' w' => Truthful s' w' "vol-11-0") loadedState discTable ↔
        ¬ UnmountsForBurn mountedDisc "-speed=4" true E_UMOUNT_BUSY :=
  burn_truthful_iff loadedState_found loadedState_truthful

/-- The burn of the mounted disc, when the daemon does what it is asked. -/
def discBurnt : ErrCode × ManagerState × MountTable :=
  (burn "vol-11-0" "-speed=4" "app" 100).exec (daemon okAnswer) loadedState discTable

theorem discBurnt_found :
    discBurnt.2.1.volumeMap[("vol-11-0" : CppString)]? = some mountedDisc := by
  decide +kernel

theorem discBurnt_table : discBurnt.2.2 = [] := by decide +kernel

theorem okAnswer_burns (s : ManagerState) (w : MountTable) (q : Req) :
    daemonEnv (burnAnswers true E_OK) s w q (daemon okAnswer w q).1 (daemon okAnswer w q).2 := by
  refine ⟨?_, rfl⟩
  cases q with
  | isEdmEnableOddBurn => exact rfl
  | unmount => exact rfl
  | _ => exact trivial

/-- The burn unmounts the disc and leaves its record MOUNTED. -/
theorem burn_leaves_record_mounted :
    Truthful loadedState discTable "vol-11-0" ∧
      ∃ s' w', Returns (daemonEnv (burnAnswers true E_OK)) (burn "vol-11-0" "-speed=4" "app" 100)
        loadedState discTable E_OK s' w' ∧ ¬ Truthful s' w' "vol-11-0" := by
  refine ⟨loadedState_truthful, discBurnt.2.1, discBurnt.2.2, ?_, fun truthful => ?_⟩
  · have ok : discBurnt.1 = E_OK := by decide +kernel
    have run := Prog.exec_returns okAnswer_burns (burn "vol-11-0" "-speed=4" "app" 100) loadedState
      discTable
    rw [← ok]
    exact run
  · have mem := (truthful mountedDisc discBurnt_found).mp rfl
    rw [discBurnt_table] at mem
    cases mem

end DiskManager
