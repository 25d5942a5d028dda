import DiskManager.Interact.Implement
import DiskManager.JsonCodec
import DiskManager.Manager.Burn
import DiskManager.Uevent.Prohibited
import DiskManager.Uevent.Repartition

/-!
# The policy of an enterprise

`EdmAdapter` decides for `Mount` and `Burn` whether the policy of an enterprise device lets them go
on. Here its code is in the place of the two requests the manager makes of it.

* `edm_service_reachable`: the service with the code in place gets into no state that the service
  with any answers does not get into.
* `edm_policy_kept`: on a device with the policy, no disc is burned and no volume is mounted through
  `Mount` that the policy has not let pass.
-/

namespace DiskManager

open Interact

/-! ## The adapter -/

/-- `EDM::ExternalStorageDeviceInfo`, as far as it is filled in. -/
structure ExternalStorageDeviceInfo : Type where
  type : DiskType
  devicePath : CppString
  volumeId : CppString
  mountStatus : Bool
  vendorId : Int
  productId : Int
  serial : CppString

/-- The requests of the manager, and those of the adapter to the device management: its two proxies,
there or not, and what is asked of them. -/
inductive EdmReq : Type
  | manager (q : Req)
  | getUsbManagerProxy
  | isAllowedOddBurn (userId vid pid : Int) (sn : CppString)
  | getEnterpriseDeviceMgrProxy
  | notifyUnmountExternalStorageDeviceInfo (info : ExternalStorageDeviceInfo)

@[reducible] def EdmReq.Resp : EdmReq → Type
  | .manager q => q.Resp
  | .getUsbManagerProxy => Bool
  | .isAllowedOddBurn .. => Bool
  | .getEnterpriseDeviceMgrProxy => Bool
  | .notifyUnmountExternalStorageDeviceInfo _ => ErrCode

abbrev EdmProg (α : Type) : Type := Prog ManagerState EdmReq EdmReq.Resp α

abbrev EdmHistory : Type := History ManagerState EdmReq EdmReq.Resp

def askEdm (q : EdmReq) : EdmProg q.Resp := Prog.request q

/-- Run an operation of the manager that does not come to the adapter. -/
def pastEdm {α : Type} (p : ManagerProg α) : EdmProg α :=
  p.lift id (fun s _ => s) .manager fun _ r => r

def IS_ENTERPRISE_DEVICE : CppString := "const.edm.is_enterprise_device"
def MOUNT_INTERCEPT : CppString := "persist.edm.enable_external_storage_mount_intercept"
def DISABLE_SATA_ODD_BURN : CppString := "persist.edm.disable_sata_odd_burn"

/-- The parameter is `true`. -/
def isSet (key : CppString) : EdmProg Bool := do
  return (← askEdm (.manager (.getParameter key))) = "true"

def isEnterpriseDevice : EdmProg Bool := isSet IS_ENTERPRISE_DEVICE

def isInterceptEnabled : EdmProg Bool := do
  if !(← isEnterpriseDevice) then
    return false
  isSet MOUNT_INTERCEPT

def isSataOddBurnDisabled : EdmProg Bool := do
  if !(← isEnterpriseDevice) then
    return false
  isSet DISABLE_SATA_ODD_BURN

def isEdmManagedDiskType (diskType : DiskType) : Bool :=
  diskType = SD_FLAG || diskType = USB_FLAG || diskType = CD_FLAG

def isExternalOddBurnAllowed (userId pid vid : Int) (sn : CppString) : EdmProg Bool := do
  if !(← askEdm .getUsbManagerProxy) then
    return true
  askEdm (.isAllowedOddBurn userId vid pid sn)

def isEdmEnableOddBurn (diskId : CppString) (callerUserId : Int) : EdmProg Bool := do
  if !(← isEnterpriseDevice) then
    return true
  match ← pastEdm (getDiskById diskId) with
  | none => return true
  | some disk =>
      if disk.diskType ≠ CD_FLAG then
        return true
      if !disk.isUsbBus then
        return !(← isSataOddBurnDisabled)
      isExternalOddBurnAllowed callerUserId disk.productId disk.vendorId disk.serialNumber

def edmDeviceInfo (volume : VolumeExternal) (disk : Disk) : ExternalStorageDeviceInfo where
  type := disk.diskType
  devicePath := volume.path
  volumeId := volume.id
  mountStatus := volume.state = .mounted
  vendorId := disk.vendorId
  productId := disk.productId
  serial := disk.serialNumber

def notifyExternalStorageDeviceAdd (volume : VolumeExternal) (disk : Disk) : EdmProg ErrCode := do
  if !(← askEdm .getEnterpriseDeviceMgrProxy) then
    return E_REMOTE_IS_NULLPTR
  askEdm (.notifyUnmountExternalStorageDeviceInfo (edmDeviceInfo volume disk))

def isEdmControlMountEnabled (volume : VolumeExternal) (mountParam : MountParam) :
    EdmProg Bool := do
  if !(← isEnterpriseDevice) then
    return false
  if !(← isInterceptEnabled) then
    return false
  if mountParam.fromEdmMount then
    return false
  match ← pastEdm (getDiskById volume.diskId) with
  | none => return false
  | some disk =>
      if !isEdmManagedDiskType disk.diskType then
        return false
      let notifyRet ← notifyExternalStorageDeviceAdd volume disk
      return notifyRet = E_OK

/-- The code of the adapter in the place of its two requests. -/
def edmCode : (q : Req) → EdmProg q.Resp
  | .isEdmControlMountEnabled volume mountParam => isEdmControlMountEnabled volume mountParam
  | .isEdmEnableOddBurn diskId callerUserId => isEdmEnableOddBurn diskId callerUserId
  | q => askEdm (.manager q)

/-- An operation of the manager, with the adapter. -/
def withEdm {α : Type} (p : ManagerProg α) : EdmProg α := p.implement edmCode

/-! ## Refinement -/

/-- A question of the adapter. -/
def EdmReq.isQuestion : EdmReq → Bool
  | .manager (.getParameter _) => true
  | .manager (.queryEncryptionExtraInfo ..) => true
  | .manager _ => false
  | _ => true

/-- The program only reads and asks. -/
structure Inquires {α : Type} (p : EdmProg α) : Prop where
  reads : Within Eq p fun _ => True
  asks : Asks (·.isQuestion = true) p

section

variable {α β : Type}

theorem inquires_pure (a : α) : Inquires (pure a) := ⟨trivial, trivial⟩

theorem inquires_ask {q : EdmReq} (question : q.isQuestion = true) : Inquires (askEdm q) :=
  ⟨fun _ => trivial, question, fun _ => trivial⟩

theorem Inquires.bind {p : EdmProg α} {f : α → EdmProg β} (first : Inquires p)
    (rest : ∀ a, Inquires (f a)) : Inquires (p >>= f) :=
  ⟨within_seq first.reads fun a _ => (rest a).reads, asks_bind first.asks fun a => (rest a).asks⟩

theorem inquires_isSet (key : CppString) : Inquires (isSet key) :=
  (inquires_ask rfl).bind fun _ => inquires_pure _

theorem inquires_getDiskById (diskId : CppString) : Inquires (pastEdm (getDiskById diskId)) := by
  have query : Asks (fun q => (EdmReq.manager q).isQuestion = true) (getDiskById diskId) :=
    asks_getDiskById (fun _ _ => rfl) diskId
  exact ⟨within_lift_where (reads_getDiskById diskId) fun _ _ same => same,
    asks_lift_where query fun _ question => question⟩

theorem inquires_isEdmControlMountEnabled (volume : VolumeExternal) (mountParam : MountParam) :
    Inquires (isEdmControlMountEnabled volume mountParam) := by
  rw [isEdmControlMountEnabled, isInterceptEnabled]
  refine (inquires_isSet _).bind fun enterprise => ?_
  split
  · exact inquires_pure _
  refine Inquires.bind ((inquires_isSet _).bind fun enterprise => ?_) fun enabled => ?_
  · split
    · exact inquires_pure _
    · exact inquires_isSet _
  split
  · exact inquires_pure _
  split
  · exact inquires_pure _
  refine (inquires_getDiskById _).bind fun disk => ?_
  cases disk with
  | none => exact inquires_pure _
  | some disk =>
      dsimp only
      split
      · exact inquires_pure _
      rw [notifyExternalStorageDeviceAdd]
      refine Inquires.bind ((inquires_ask rfl).bind fun there => ?_) fun ret => inquires_pure _
      split
      · exact inquires_pure _
      · exact inquires_ask rfl

theorem inquires_isEdmEnableOddBurn (diskId : CppString) (callerUserId : Int) :
    Inquires (isEdmEnableOddBurn diskId callerUserId) := by
  rw [isEdmEnableOddBurn, isSataOddBurnDisabled]
  refine (inquires_isSet _).bind fun enterprise => ?_
  split
  · exact inquires_pure _
  refine (inquires_getDiskById _).bind fun disk => ?_
  cases disk with
  | none => exact inquires_pure _
  | some disk =>
      dsimp only
      split
      · exact inquires_pure _
      split
      · refine Inquires.bind ((inquires_isSet _).bind fun enterprise => ?_) fun _ => inquires_pure _
        split
        · exact inquires_pure _
        · exact inquires_isSet _
      rw [isExternalOddBurnAllowed]
      refine (inquires_ask rfl).bind fun there => ?_
      split
      · exact inquires_pure _
      · exact inquires_ask rfl

theorem reads_edmCode (q : Req) : Within Eq (edmCode q) fun _ => True := by
  cases q with
  | isEdmControlMountEnabled volume mountParam =>
      exact (inquires_isEdmControlMountEnabled volume mountParam).reads
  | isEdmEnableOddBurn diskId callerUserId =>
      exact (inquires_isEdmEnableOddBurn diskId callerUserId).reads
  | _ => exact fun _ => trivial

end

/-- With the code of the adapter in place, whatever its device management answers, the service gets
into no state that it does not get into with any answers of the adapter. -/
theorem edm_service_reachable [JsonLib] {W : Type} {env : Env ManagerState W EdmReq EdmReq.Resp}
    {w : W} {c : Sys ℕ ManagerState W EdmReq EdmReq.Resp Unit} {log : List (Entry ℕ ManagerState)}
    (run : PoolRun (fun _ => True) (fun op : ServiceOp => withEdm op.prog) env
      ⟨fun _ => none, .boot, w⟩ c log) : Reachable c.s := by
  have answers : ∀ s q r, anyAnswer s () q r () := fun _ _ _ => trivial
  obtain ⟨c', log', run', simulates⟩ := PoolRun.implemented reads_edmCode answers run
  exact ⟨c', log', run', simulates.memory⟩

/-! ## What the policy says -/

/-- A parameter is not set. -/
inductive Unset (key : CppString) : (q : EdmReq) → q.Resp → Prop
  | value (value : CppString) : value ≠ "true" → Unset key (.manager (.getParameter key)) value

/-- The device management is not told of the volume. -/
inductive Untold (volumeId : CppString) : (q : EdmReq) → q.Resp → Prop
  | noProxy : Untold volumeId .getEnterpriseDeviceMgrProxy false
  | failed (info : ExternalStorageDeviceInfo) (ret : ErrCode) : info.volumeId = volumeId →
    ret ≠ E_OK → Untold volumeId (.notifyUnmountExternalStorageDeviceInfo info) ret

/-- The device management lets the user burn with the drive. -/
inductive Whitelisted (callerUserId : Int) (drive : Disk) : (q : EdmReq) → q.Resp → Prop
  | noProxy : Whitelisted callerUserId drive .getUsbManagerProxy false
  | allowed : Whitelisted callerUserId drive (.isAllowedOddBurn callerUserId drive.vendorId
      drive.productId drive.serialNumber) true

/-- The operation found such a memory. -/
def EdmHistory.Saw (h : EdmHistory) (P : ManagerState → Prop) : Prop := ∃ s ∈ h.found, P s

/-- Why the policy lets a volume be mounted. -/
inductive LetsMount (vol : VolumeExternal) (h : EdmHistory) : Prop
  | device : h.Answered (Unset IS_ENTERPRISE_DEVICE) → LetsMount vol h
  | intercept : h.Answered (Unset MOUNT_INTERCEPT) → LetsMount vol h
  | unmanaged : (EdmHistory.Saw h fun s => ∀ disk, s.diskMap[vol.diskId]? = some disk →
      isEdmManagedDiskType disk.diskType = false) → LetsMount vol h
  | untold : h.Answered (Untold vol.id) → LetsMount vol h

/-- Why the policy lets a disc be burned. -/
inductive LetsBurn (callerUserId : Int) (vol : VolumeExternal) (h : EdmHistory) : Prop
  | device : h.Answered (Unset IS_ENTERPRISE_DEVICE) → LetsBurn callerUserId vol h
  | otherDisk : (EdmHistory.Saw h fun s => ∀ disk, s.diskMap[vol.diskId]? = some disk →
      disk.diskType ≠ CD_FLAG) → LetsBurn callerUserId vol h
  | builtin (drive : Disk) : (EdmHistory.Saw h fun s => s.diskMap[vol.diskId]? = some drive) →
    drive.isUsbBus = false → h.Answered (Unset DISABLE_SATA_ODD_BURN) →
    LetsBurn callerUserId vol h
  | external (drive : Disk) : (EdmHistory.Saw h fun s => s.diskMap[vol.diskId]? = some drive) →
    drive.isUsbBus = true → h.Answered (Whitelisted callerUserId drive) →
    LetsBurn callerUserId vol h

/-- The operation found the record. -/
def EdmHistory.SawVolume (h : EdmHistory) (v : CppString) (vol : VolumeExternal) : Prop :=
  EdmHistory.Saw h fun s => s.volumeMap[v]? = some vol

/-- The device is that of the volume: its node, or that of the container. -/
def EdmHistory.SawDevice (h : EdmHistory) (v : CppString) (vol : VolumeExternal)
    (devPath : CppString) : Prop :=
  devPath = DEV_BLOCK_PREFIX ++ vol.id ∨
    ∃ vol', EdmHistory.SawVolume h v vol' ∧ (devPath = vol'.mapperPath ∨ devPath = vol'.loopPath)

/-! ## The policy over an operation -/

/-- `h'` comes after `h`. -/
structure EdmHistory.Before (h h' : EdmHistory) : Prop where
  found : ∀ s ∈ h.found, s ∈ h'.found
  answered : ∀ {P : (q : EdmReq) → q.Resp → Prop}, h.Answered P → h'.Answered P

section

variable {h h' h'' : EdmHistory} {v devPath : CppString} {vol : VolumeExternal}

theorem EdmHistory.Before.refl : EdmHistory.Before h h := ⟨fun _ mem => mem, id⟩

theorem EdmHistory.Before.trans (first : EdmHistory.Before h h')
    (second : EdmHistory.Before h' h'') : EdmHistory.Before h h'' :=
  ⟨fun s mem => second.found s (first.found s mem), fun has => second.answered (first.answered has)⟩

theorem EdmHistory.before_own {s : ManagerState} : EdmHistory.Before h (.own h s) :=
  ⟨fun _ mem => List.mem_append_left _ mem, id⟩

theorem EdmHistory.before_other {s : ManagerState} : EdmHistory.Before h (.other h s) :=
  ⟨fun _ mem => mem, id⟩

theorem EdmHistory.before_answer {q : EdmReq} {r : q.Resp} :
    EdmHistory.Before h (.answer h q r) := ⟨fun _ mem => mem, .inr⟩

theorem EdmHistory.before_since {allowed : EdmHistory → Prop} (since : h.Since allowed h') :
    EdmHistory.Before h h' :=
  since.invariant (EdmHistory.Before h) (fun _ _ held _ => held.trans before_other) .refl

theorem EdmHistory.Before.saw {P : ManagerState → Prop} (before : EdmHistory.Before h h')
    (saw : EdmHistory.Saw h P) : EdmHistory.Saw h' P := by
  obtain ⟨s, mem, held⟩ := saw
  exact ⟨s, before.found s mem, held⟩

theorem EdmHistory.saw_own {P : ManagerState → Prop} {s : ManagerState} (here : P h.now) :
    EdmHistory.Saw (.own h s) P :=
  ⟨h.now, List.mem_append_right _ (List.mem_singleton.mpr rfl), here⟩

theorem LetsMount.mono (lets : LetsMount vol h) (before : EdmHistory.Before h h') :
    LetsMount vol h' := by
  cases lets with
  | device has => exact .device (before.answered has)
  | intercept has => exact .intercept (before.answered has)
  | unmanaged saw => exact .unmanaged (before.saw saw)
  | untold has => exact .untold (before.answered has)

theorem LetsBurn.mono {user : Int} (lets : LetsBurn user vol h)
    (before : EdmHistory.Before h h') : LetsBurn user vol h' := by
  cases lets with
  | device has => exact .device (before.answered has)
  | otherDisk saw => exact .otherDisk (before.saw saw)
  | builtin drive saw bus has => exact .builtin drive (before.saw saw) bus (before.answered has)
  | external drive saw bus has => exact .external drive (before.saw saw) bus (before.answered has)

theorem EdmHistory.SawDevice.mono (saw : EdmHistory.SawDevice h v vol devPath)
    (before : EdmHistory.Before h h') : EdmHistory.SawDevice h' v vol devPath :=
  saw.imp id fun ⟨vol', found, path⟩ => ⟨vol', before.saw found, path⟩

end

/-! ## The decisions -/

/-- What is shown of a disk is its record, with the volumes and the text of now. -/
def ShownFrom (diskId : CppString) (s : ManagerState) : Option Disk → Prop
  | none => s.diskMap[diskId]? = none
  | some disk => ∃ stored volumeIds extraInfo, s.diskMap[diskId]? = some stored ∧
      disk = { stored with volumeIds, extraInfo }

section

variable {ok : EdmHistory → Move ManagerState EdmReq → Prop} (runs : ∀ h upd, ok h (.run upd))
  (asks : ∀ h q, q.isQuestion = true → ok h (.ask q)) {h : EdmHistory} {α : Type}
  {post : α → EdmHistory → Prop}

@[simp] theorem pastEdm_pure (a : α) : pastEdm (pure a) = pure a := rfl

theorem pastEdm_bind {β : Type} (p : ManagerProg α) (f : α → ManagerProg β) :
    pastEdm (p >>= f) = (pastEdm p >>= fun a => pastEdm (f a)) := lift_bind p f

@[simp] theorem pastEdm_read (f : ManagerState → α) : pastEdm (Prog.read f) = Prog.read f := rfl

include asks

theorem along_isSet_bind {key : CppString} {f : Bool → EdmProg α}
    (off : ∀ h', EdmHistory.Before h h' → h'.Answered (Unset key) →
      Along (fun _ => True) ok (f false) post h')
    (on : ∀ h', EdmHistory.Before h h' → Along (fun _ => True) ok (f true) post h') :
    Along (fun _ => True) ok (isSet key >>= f) post h := by
  intro h₁ since₁
  refine ⟨asks _ _ rfl, fun value _ => ?_⟩
  have before : EdmHistory.Before h (.answer h₁ (.manager (.getParameter key)) value) :=
    (EdmHistory.before_since since₁).trans EdmHistory.before_answer
  change Along _ _ (f (decide (value = "true"))) _ _
  by_cases set : value = "true"
  · rw [decide_eq_true set]
    exact on _ before
  · rw [decide_eq_false set]
    exact off _ before (.inl (.value value set))

include runs

theorem along_shown_bind {diskId : CppString} {f : Option Disk → EdmProg α}
    (rest : ∀ shown h', EdmHistory.Before h h' →
      (EdmHistory.Saw h' fun s => ShownFrom diskId s shown) →
      Along (fun _ => True) ok (f shown) post h') :
    Along (fun _ => True) ok (pastEdm (getDiskById diskId) >>= f) post h := by
  rw [getDiskById, pastEdm_bind, pastEdm_read, along_bind]
  refine along_read_bind fun h₁ since₁ => ⟨runs _ _, ?_⟩
  have before : EdmHistory.Before h (.own h₁ h₁.now) :=
    (EdmHistory.before_since since₁).trans EdmHistory.before_own
  dsimp only
  cases there : h₁.now.diskMap[diskId]? with
  | none => exact rest none _ before (EdmHistory.saw_own there)
  | some disk =>
      have shown : ∀ extraInfo, ShownFrom diskId h₁.now
          (some { attachVolumeIdsToDisk h₁.now.volumeMap disk with extraInfo }) :=
        fun extraInfo => ⟨disk, _, extraInfo, there, rfl⟩
      dsimp only
      split
      · rw [queryAndAppendEncryptionStatusUnlocked]
        split
        · exact rest _ _ before (EdmHistory.saw_own (shown _))
        · intro h₂ since₂
          refine ⟨asks _ _ rfl, fun extraInfo _ => ?_⟩
          have later : EdmHistory.Before (.own h₁ h₁.now) (.answer h₂ _ extraInfo) :=
            (EdmHistory.before_since since₂).trans EdmHistory.before_answer
          cases extraInfo with
          | none => exact rest _ _ (before.trans later) (later.saw (EdmHistory.saw_own (shown _)))
          | some extraInfo =>
              exact rest _ _ (before.trans later) (later.saw (EdmHistory.saw_own (shown _)))
      · exact rest _ _ before (EdmHistory.saw_own (shown _))

omit runs in
/-- The device management is told of the volume, or the mount may go on. -/
theorem along_notify_bind {volume : VolumeExternal} {disk : Disk} {f : ErrCode → EdmProg α}
    (failed : ∀ ret h', ret ≠ E_OK → EdmHistory.Before h h' → h'.Answered (Untold volume.id) →
      Along (fun _ => True) ok (f ret) post h')
    (told : ∀ h', EdmHistory.Before h h' → Along (fun _ => True) ok (f E_OK) post h') :
    Along (fun _ => True) ok (notifyExternalStorageDeviceAdd volume disk >>= f) post h := by
  rw [notifyExternalStorageDeviceAdd, along_bind]
  intro h₁ since₁
  refine ⟨asks _ _ rfl, fun there _ => ?_⟩
  have before₁ := (EdmHistory.before_since since₁).trans
    (EdmHistory.before_answer (q := .getEnterpriseDeviceMgrProxy) (r := there))
  cases there with
  | false => exact failed _ _ (by decide) before₁ (.inl .noProxy)
  | true =>
      intro h₂ since₂
      refine ⟨asks _ _ rfl, fun ret _ => ?_⟩
      have before₂ := before₁.trans ((EdmHistory.before_since since₂).trans
        (EdmHistory.before_answer
          (q := .notifyUnmountExternalStorageDeviceInfo (edmDeviceInfo volume disk)) (r := ret)))
      by_cases done : ret = E_OK
      · subst done
        exact told _ before₂
      · exact failed ret _ done before₂ (.inl (.failed _ ret rfl done))

/-- `Mount` goes on only if the policy lets it. -/
theorem along_isEdmControlMountEnabled {volume : VolumeExternal} {mountParam : MountParam}
    (byUser : mountParam.fromEdmMount = false) :
    Along (fun _ => True) ok (isEdmControlMountEnabled volume mountParam)
      (fun controlled h' => EdmHistory.Before h h' ∧ (controlled = false → LetsMount volume h'))
      h := by
  rw [isEdmControlMountEnabled, isInterceptEnabled]
  refine along_isSet_bind asks (fun h₁ before₁ off => ⟨before₁, fun _ => .device off⟩)
    fun h₁ before₁ => along_bind.mpr ?_
  refine along_isSet_bind asks (fun h₂ before₂ off => ⟨before₁.trans before₂, fun _ => .device off⟩)
    fun h₂ before₂ => along_bind.mp ?_
  have before₂ := before₁.trans before₂
  refine along_isSet_bind asks
    (fun h₃ before₃ off => ⟨before₂.trans before₃, fun _ => .intercept off⟩) fun h₃ before₃ => ?_
  have before₃ := before₂.trans before₃
  rw [if_neg (by simp), byUser, if_neg (by simp)]
  refine along_shown_bind runs asks fun shown h₄ before₄ saw => ?_
  have before₄ := before₃.trans before₄
  have unmanaged : (∀ s disk, ShownFrom volume.diskId s shown →
      s.diskMap[volume.diskId]? = some disk → isEdmManagedDiskType disk.diskType = false) →
      LetsMount volume h₄ := by
    intro none'
    obtain ⟨s, mem, from'⟩ := saw
    exact .unmanaged ⟨s, mem, fun disk there => none' s disk from' there⟩
  cases shown with
  | none =>
      refine ⟨before₄, fun _ => unmanaged fun s disk gone there => ?_⟩
      rw [ShownFrom] at gone
      rw [gone] at there
      cases there
  | some disk =>
      dsimp only
      split
      next other =>
        refine ⟨before₄, fun _ => unmanaged fun s stored shown there => ?_⟩
        obtain ⟨stored', volumeIds, extraInfo, there', rfl⟩ := shown
        rw [there', Option.some.injEq] at there
        subst there
        simpa using other
      · refine along_notify_bind asks (fun ret h₅ failed before₅ untold => ?_) fun h₅ before₅ => ?_
        · exact ⟨before₄.trans before₅, fun _ => .untold untold⟩
        · refine ⟨before₄.trans before₅, fun uncontrolled => ?_⟩
          cases uncontrolled

/-- `Burn` goes on only if the policy lets it. -/
theorem along_isEdmEnableOddBurn {vol : VolumeExternal} {callerUserId : Int} :
    Along (fun _ => True) ok (isEdmEnableOddBurn vol.diskId callerUserId)
      (fun enabled h' => EdmHistory.Before h h' ∧ (enabled = true → LetsBurn callerUserId vol h'))
      h := by
  rw [isEdmEnableOddBurn]
  refine along_isSet_bind asks (fun h₁ before₁ off => ⟨before₁, fun _ => .device off⟩)
    fun h₁ before₁ => ?_
  refine along_shown_bind runs asks fun shown h₂ before₂ saw => ?_
  have before₂ := before₁.trans before₂
  have otherDisk : (∀ s disk, ShownFrom vol.diskId s shown →
      s.diskMap[vol.diskId]? = some disk → disk.diskType ≠ CD_FLAG) →
      LetsBurn callerUserId vol h₂ := by
    intro none'
    obtain ⟨s, mem, from'⟩ := saw
    exact .otherDisk ⟨s, mem, fun disk there => none' s disk from' there⟩
  cases shown with
  | none =>
      refine ⟨before₂, fun _ => otherDisk fun s disk gone there => ?_⟩
      rw [ShownFrom] at gone
      rw [gone] at there
      cases there
  | some disk =>
      dsimp only
      split
      next other =>
        refine ⟨before₂, fun _ => otherDisk fun s stored shown there => ?_⟩
        obtain ⟨stored', volumeIds, extraInfo, there', rfl⟩ := shown
        rw [there', Option.some.injEq] at there
        subst there
        exact other
      next drive =>
      obtain ⟨s, mem, stored, volumeIds, extraInfo, there, rfl⟩ := saw
      have sawDrive : EdmHistory.Saw h₂ fun s => s.diskMap[vol.diskId]? = some stored :=
        ⟨s, mem, there⟩
      split
      next builtin =>
        have bus : stored.isUsbBus = false := by simpa using builtin
        rw [isSataOddBurnDisabled, along_bind]
        refine along_isSet_bind asks (fun h₃ before₃ off => ?_) fun h₃ before₃ => along_bind.mp ?_
        · exact ⟨before₂.trans before₃, fun _ => .device off⟩
        refine along_isSet_bind asks (fun h₄ before₄ off => ?_) fun h₄ before₄ => ?_
        · have later := before₃.trans before₄
          exact ⟨before₂.trans later, fun _ => .builtin stored (later.saw sawDrive) bus off⟩
        · refine ⟨before₂.trans (before₃.trans before₄), fun enabled => ?_⟩
          cases enabled
      next external =>
        have bus : stored.isUsbBus = true := by simpa using external
        rw [isExternalOddBurnAllowed]
        intro h₃ since₃
        refine ⟨asks _ _ rfl, fun there _ => ?_⟩
        have before₃ := (EdmHistory.before_since since₃).trans
          (EdmHistory.before_answer (q := .getUsbManagerProxy) (r := there))
        cases there with
        | false =>
            exact ⟨before₂.trans before₃,
              fun _ => .external stored (before₃.saw sawDrive) bus (.inl .noProxy)⟩
        | true =>
            intro h₄ since₄
            refine ⟨asks _ _ rfl, fun allowed _ => ?_⟩
            have before₄ := before₃.trans ((EdmHistory.before_since since₄).trans
              (EdmHistory.before_answer (q := .isAllowedOddBurn callerUserId stored.vendorId
                stored.productId stored.serialNumber) (r := allowed)))
            refine ⟨before₂.trans before₄, fun enabled => ?_⟩
            have enabled : allowed = true := enabled
            subst enabled
            exact .external stored (before₄.saw sawDrive) bus (.inl .allowed)

end

/-! ## The volumes -/

/-- A mount is of a volume the policy lets be mounted. -/
def Policed (h : EdmHistory) : Move ManagerState EdmReq → Prop
  | .ask (.manager (.mount devPath _ _ _ _)) => ∃ v vol, EdmHistory.SawVolume h v vol ∧
      EdmHistory.SawDevice h v vol devPath ∧ LetsMount vol h
  | _ => True

theorem policed_question (h : EdmHistory) (q : EdmReq) (question : q.isQuestion = true) :
    Policed h (.ask q) := by
  cases q with
  | manager q =>
      cases q with
      | mount => cases question
      | _ => trivial
  | _ => trivial

section

variable {ok : EdmHistory → Move ManagerState EdmReq → Prop} (runs : ∀ h upd, ok h (.run upd))
  (asks : ∀ h q, q.isQuestion = true → ok h (.ask q)) {h : EdmHistory} {α β : Type}

theorem withEdm_bind (p : ManagerProg α) (f : α → ManagerProg β) :
    withEdm (p >>= f) = (withEdm p >>= fun a => withEdm (f a)) := implement_bind p f

theorem withEdm_call_bind {q : Req} {f : q.Resp → ManagerProg β} :
    withEdm (call q >>= f) = (edmCode q >>= fun r => withEdm (f r)) := implement_request_bind

include runs asks

/-- The request itself, or the code in its place. -/
theorem along_edmCode {q : Req} (own : ∀ h', EdmHistory.Before h h' → ok h' (.ask (.manager q))) :
    Along (fun _ => True) ok (edmCode q) (fun _ => EdmHistory.Before h) h := by
  have code : ∀ {β : Type} {p : EdmProg β}, Inquires p →
      Along (fun _ => True) ok p (fun _ => EdmHistory.Before h) h :=
    fun inquires => along_of_asks (EdmHistory.Before h) inquires.asks (fun h upd _ => runs h upd)
      (fun h q _ question => asks h q question) (fun _ _ held _ => held.trans EdmHistory.before_own)
      (fun _ _ held _ => held.trans EdmHistory.before_other)
      (fun _ _ _ held _ _ => held.trans EdmHistory.before_answer) .refl
  cases q with
  | isEdmControlMountEnabled volume mountParam =>
      exact code (inquires_isEdmControlMountEnabled volume mountParam)
  | isEdmEnableOddBurn diskId callerUserId =>
      exact code (inquires_isEdmEnableOddBurn diskId callerUserId)
  | _ =>
      exact fun h₁ since₁ => ⟨own _ (EdmHistory.before_since since₁),
        fun r _ => (EdmHistory.before_since since₁).trans EdmHistory.before_answer⟩

end

section

variable {h : EdmHistory} {α : Type} {v : CppString} {vol : VolumeExternal}

/-- What an operation does that mounts only `device`, once the policy has let the volume pass. -/
theorem policed_of_asks {device : CppString} {p : ManagerProg α}
    (asks : Asks (fun q => ∀ devPath mountPath fsType mountFlag mountData,
      q = .mount devPath mountPath fsType mountFlag mountData → devPath = device) p)
    (found : EdmHistory.SawVolume h v vol) (of' : EdmHistory.SawDevice h v vol device)
    (lets : LetsMount vol h) :
    Along (fun _ => True) Policed (withEdm p) (fun _ _ => True) h := by
  have passed : ∀ h', EdmHistory.Before h h' → EdmHistory.SawVolume h' v vol ∧
      EdmHistory.SawDevice h' v vol device ∧ LetsMount vol h' :=
    fun h' before => ⟨before.saw found, of'.mono before, lets.mono before⟩
  have built : Built _ (fun _ => False) p := built_of_asks asks
  refine along_mono (fun _ _ _ => trivial)
    (built.along_implement (EdmHistory.Before h)
      (fun _ _ _ => trivial) (fun _ _ held _ => held.trans EdmHistory.before_own)
      (fun _ _ held _ => held.trans EdmHistory.before_other) ?_ (fun part _ => part.elim) .refl)
  intro q h₁ only before₁
  refine along_mono (fun _ _ before₂ => before₁.trans before₂)
    (along_edmCode (fun _ _ => trivial) policed_question fun h₂ before₂ => ?_)
  cases q with
  | mount devPath mountPath fsType mountFlag mountData =>
      obtain rfl := only _ _ _ _ _ rfl
      exact ⟨v, vol, passed h₂ (before₁.trans before₂)⟩
  | _ => trivial

theorem not_mount_of_mild {device : CppString} (q : Req) (mild : q.mild = true) :
    ∀ devPath mountPath fsType mountFlag mountData,
      q = .mount devPath mountPath fsType mountFlag mountData → devPath = device := by
  rintro devPath mountPath fsType mountFlag mountData rfl
  cases mild

theorem works_device (device : CppString) : Works (fun q => ∀ devPath mountPath fsType mountFlag
    mountData, q = .mount devPath mountPath fsType mountFlag mountData → devPath = device) device where
  check _ := nofun
  repair _ := nofun
  readMetadata := nofun
  mount _ _ _ _ := by
    rintro _ _ _ _ _ ⟨⟩
    rfl

theorem policed_of_built {Part : {β : Type} → ManagerProg β → Prop} {p : ManagerProg α}
    (built : Built (fun q => q.isMount = false) Part p)
    (parts : ∀ {β : Type} {p : ManagerProg β} {h : EdmHistory}, Part p →
      Along (fun _ => True) Policed (withEdm p) (fun _ _ => True) h) :
    Along (fun _ => True) Policed (withEdm p) (fun _ _ => True) h := by
  refine built.along_implement (fun _ => True) (fun _ _ _ => trivial) (fun _ _ _ _ => trivial)
    (fun _ _ _ _ => trivial) ?_ (fun part _ => parts part) trivial
  intro q h₁ unmounting _
  refine along_mono (fun _ _ _ => trivial)
    (along_edmCode (fun _ _ => trivial) policed_question fun h₂ _ => ?_)
  cases q with
  | mount => cases unmounting
  | _ => trivial

/-- What an operation does that mounts nothing. -/
theorem policed_of_unmounting {p : ManagerProg α} (asks : Asks (fun q => q.isMount = false) p) :
    Along (fun _ => True) Policed (withEdm p) (fun _ _ => True) h := by
  have built : Built (fun q => q.isMount = false) (fun _ => False) p := built_of_asks asks
  exact policed_of_built built fun part => part.elim

/-- Which device `CheckVolId` gives of a container. -/
theorem along_checkVolId :
    Along (fun _ => True) Policed (withEdm (checkVolId v)) (fun devPath h' =>
      EdmHistory.Before h h' ∧ (devPath ≠ [] → CppString.startsWith v CRYPT_VOLUME_PREFIX = true →
        ∃ vol', EdmHistory.SawVolume h' v vol' ∧
          (devPath = vol'.mapperPath ∨ devPath = vol'.loopPath))) h := by
  rw [checkVolId]
  split
  · exact ⟨.refl, fun some' => absurd rfl some'⟩
  rw [getVolumeById, findVolume, withEdm_bind]
  refine along_read_bind fun h₁ since₁ => ⟨trivial, ?_⟩
  have before : EdmHistory.Before h (.own h₁ h₁.now) :=
    (EdmHistory.before_since since₁).trans EdmHistory.before_own
  cases there : h₁.now.volumeMap[v]? with
  | none => exact ⟨before, fun some' => absurd rfl some'⟩
  | some external =>
      have saw : EdmHistory.SawVolume (.own h₁ h₁.now) v external := EdmHistory.saw_own there
      dsimp only
      split
      · split
        · exact ⟨before, fun _ _ => ⟨external, saw, .inl rfl⟩⟩
        · exact ⟨before, fun _ _ => ⟨external, saw, .inr rfl⟩⟩
      next plain => exact ⟨before, fun _ container => absurd container plain⟩

variable [JsonLib]

/-- A mount that does not come from the device management is one the policy lets pass. -/
theorem policed_mount {mountParam : MountParam} (byUser : mountParam.fromEdmMount = false) :
    Along (fun _ => True) Policed (withEdm (mount v mountParam)) (fun _ _ => True) h := by
  rw [mount, withEdm_bind]
  refine fun h₁ since₁ => ⟨trivial, fun disabled _ => ?_⟩
  change Along _ _ (withEdm (if disabled = "true" then _ else _)) _ _
  split
  · trivial
  rw [findVolume, withEdm_bind]
  refine along_read_bind fun h₂ since₂ => ⟨trivial, ?_⟩
  cases there : h₂.now.volumeMap[v]? with
  | none => trivial
  | some vol =>
      have found : EdmHistory.SawVolume (.own h₂ h₂.now) v vol := EdmHistory.saw_own there
      dsimp only
      split
      · trivial
      rw [withEdm_bind]
      refine along_seq along_checkVolId fun devPath h₃ known => ?_
      obtain ⟨before₃, container⟩ := known
      rw [withEdm_call_bind]
      have decides : Along (fun _ => True) Policed (isEdmControlMountEnabled vol mountParam)
          (fun controlled h' => EdmHistory.Before h₃ h' ∧ (controlled = false → LetsMount vol h'))
          h₃ := along_isEdmControlMountEnabled (fun _ _ => trivial) policed_question byUser
      refine along_seq decides fun controlled h₄ decided => ?_
      obtain ⟨before₄, lets⟩ := decided
      have found : EdmHistory.SawVolume h₄ v vol := (before₃.trans before₄).saw found
      split
      · trivial
      next uncontrolled =>
      have lets : LetsMount vol h₄ := lets (by simpa using uncontrolled)
      split
      next device =>
        rw [Bool.and_eq_true, Bool.not_eq_true', List.isEmpty_eq_false_iff] at device
        obtain ⟨vol', saw, path⟩ := container device.1 device.2
        have of' : EdmHistory.SawDevice h₄ v vol devPath := .inr ⟨vol', before₄.saw saw, path⟩
        exact policed_of_asks (asks_mountVolumeByPath not_mount_of_mild _ _ _ (works_device devPath))
          found of' lets
      · have asks : Asks _ (mountVolumeEntry vol v mountParam.readOnly) :=
          asks_mountVolumeEntry (calm_of_mild not_mount_of_mild)
            (works_device (DEV_BLOCK_PREFIX ++ vol.id)) _ _
        exact policed_of_asks (asks_bind asks fun _ _ => trivial) found (.inl rfl) lets

end

/-! ## The discs -/

/-- A burn, and an unmount for it, is of a disc the policy lets be burned. -/
def BurnPoliced (callerUserId : Int) (h : EdmHistory) : Move ManagerState EdmReq → Prop
  | .ask (.manager (.burn devPath _ _)) => ∃ v vol, EdmHistory.SawVolume h v vol ∧
      devPath = DEV_BLOCK_PREFIX ++ vol.id ∧ LetsBurn callerUserId vol h
  | .ask (.manager (.unmount path _ _)) => ∃ v vol, EdmHistory.SawVolume h v vol ∧
      path = vol.path ∧ LetsBurn callerUserId vol h
  | _ => True

theorem burnPoliced_question {user : Int} (h : EdmHistory) (q : EdmReq)
    (question : q.isQuestion = true) : BurnPoliced user h (.ask q) := by
  cases q with
  | manager q =>
      cases q with
      | burn => cases question
      | unmount => cases question
      | _ => trivial
  | _ => trivial

section

variable {h : EdmHistory} {v burnOptions bundle : CppString} {user : Int}

/-- A burn is prepared only of a disc the policy lets be burned. -/
theorem along_prepareBurn :
    Along (fun _ => True) (BurnPoliced user) (withEdm (prepareBurn v burnOptions user))
      (fun prepared h' => prepared.1 = E_OK → ∃ vol, EdmHistory.SawVolume h' v vol ∧
        prepared.2.1 = vol.id ∧ LetsBurn user vol h') h := by
  rw [prepareBurn, findVolume, withEdm_bind]
  refine along_read_bind fun h₁ since₁ => ⟨trivial, ?_⟩
  cases there : h₁.now.volumeMap[v]? with
  | none => exact fun ok => absurd (a := E_PARAMS_INVALID = E_OK) ok (by decide)
  | some vol =>
      have found : EdmHistory.SawVolume (.own h₁ h₁.now) v vol := EdmHistory.saw_own there
      dsimp only
      split
      · exact fun ok => absurd (a := E_NOT_SUPPORT = E_OK) ok (by decide)
      split
      · exact fun ok => absurd (a := E_PARAMS_INVALID = E_OK) ok (by decide)
      rw [withEdm_call_bind]
      have decides : Along (fun _ => True) (BurnPoliced user) (isEdmEnableOddBurn vol.diskId user)
          (fun enabled h' => EdmHistory.Before (.own h₁ h₁.now) h' ∧
            (enabled = true → LetsBurn user vol h')) (.own h₁ h₁.now) :=
        along_isEdmEnableOddBurn (fun _ _ => trivial) burnPoliced_question
      refine along_seq decides fun enabled h₂ decided => ?_
      obtain ⟨before₂, lets⟩ := decided
      have found : EdmHistory.SawVolume h₂ v vol := before₂.saw found
      split
      · exact fun ok => absurd (a := EDM_BURN_DENIED_MARK = E_OK) ok (by decide)
      next permitted =>
      have lets : LetsBurn user vol h₂ := lets (by simpa using permitted)
      split
      · intro h₃ since₃
        have before₃ := EdmHistory.before_since since₃
        refine ⟨⟨v, vol, before₃.saw found, rfl, lets.mono before₃⟩, fun err _ => ?_⟩
        change Along _ _ (withEdm (if err ≠ E_OK then _ else _)) _ _
        split
        · exact fun ok => absurd (a := E_VOL_UMOUNT_ERR = E_OK) ok (by decide)
        · have before₄ := before₃.trans (EdmHistory.before_answer
            (q := .manager (.unmount vol.path vol.fsType.getFsTypeString true)) (r := err))
          exact fun _ => ⟨vol, before₄.saw found, rfl, lets.mono before₄⟩
      · exact fun _ => ⟨vol, found, rfl, lets⟩

/-- A burn is one the policy lets pass. -/
theorem burnPoliced_burn :
    Along (fun _ => True) (BurnPoliced user) (withEdm (burn v burnOptions bundle user))
      (fun _ _ => True) h := by
  rw [burn, withEdm_bind]
  refine along_seq along_prepareBurn fun prepared h₁ ready => ?_
  obtain ⟨prepErr, blockVolId, fsType⟩ := prepared
  dsimp only
  split
  · exact fun h₂ _ => ⟨trivial, fun _ _ => trivial⟩
  split
  · trivial
  next ok =>
  obtain ⟨vol, found, id, lets⟩ := ready (by simpa using ok)
  intro h₂ since₂
  have before₂ := EdmHistory.before_since since₂
  refine ⟨⟨v, vol, before₂.saw found, congrArg _ id, lets.mono before₂⟩, fun err _ => ?_⟩
  refine fun h₃ _ => ⟨trivial, fun _ _ => ?_⟩
  change Along _ _ (withEdm (if _ then _ else _)) _ _
  split
  · trivial
  · trivial

end

/-! ## Every run -/

/-- The operations that come to the policy: those of the service, and the burn. -/
inductive EdmOp : Type
  | service (op : ServiceOp)
  | burn (volumeId burnOptions callerBundle : CppString) (callerUserId : Int)

def EdmOp.prog [JsonLib] : EdmOp → EdmProg Unit
  | .service op => withEdm op.prog
  | .burn volumeId burnOptions callerBundle callerUserId =>
      withEdm (ManagerProg.run (DiskManager.burn volumeId burnOptions callerBundle callerUserId))

/-- The operation does not mount past the policy: it is no repair, no mount by a path, and no mount
that the device management asks for. -/
def ServiceOp.isPoliced : ServiceOp → Bool
  | .tryToFix _ => false
  | .mountVolumeByPath .. => false
  | .mount _ mountParam => !mountParam.fromEdmMount
  | _ => true

/-- What the policy has of the moves of an operation. -/
def EdmOp.Keeps (h : EdmHistory) (m : Move ManagerState EdmReq) : EdmOp → Prop
  | .service op => op.isPoliced = true → Policed h m
  | .burn _ _ _ callerUserId => BurnPoliced callerUserId h m

section

variable [JsonLib] {h : EdmHistory}

theorem ServiceOp.policed (op : ServiceOp) (policed : op.isPoliced = true) :
    Along (fun _ => True) Policed (withEdm op.prog) (fun _ _ => True) h := by
  have mild := not_isMount_of_mild
  have inert : ∀ {β : Type} {p : ManagerProg β}, Asks (fun q => q.isMount = false) p →
      Along (fun _ => True) Policed (withEdm (ManagerProg.run p)) (fun _ _ => True) h :=
    fun asks => policed_of_unmounting (asks_bind asks fun _ => trivial)
  have formats : ∀ volId,
      Asks (fun q => q.isMount = false) (DiskManager.format volId PARTITION_TARGET_FS_TYPE) :=
    fun volId => asks_format mild _ _ (fun _ _ _ _ => rfl) fun _ => rfl
  have built : ∀ {β : Type} {p : ManagerProg β}, Built (fun q => q.isMount = false) Discovered p →
      Along (fun _ => True) Policed (withEdm (ManagerProg.run p)) (fun _ _ => True) h := by
    intro β p built
    refine policed_of_built (built_bind built fun _ => built_pure) fun part => ?_
    cases part with
    | mount volId => exact policed_mount rfl
    | format volId => exact policed_of_unmounting (formats volId)
  have reads : ∀ devPath, (Req.readMetadata devPath).isMount = false := fun _ => rfl
  cases op with
  | uevent e =>
      refine built ?_
      rw [DiskEvent.prog]
      split
      · exact built_handleDiskAdd mild reads _
      · exact built_handleDiskChange mild reads _
      · exact built_handleDiskRemove mild _
  | mount volumeId mountParam =>
      have byUser : mountParam.fromEdmMount = false := by
        simpa [ServiceOp.isPoliced] using policed
      rw [ServiceOp.prog, ManagerProg.run, withEdm_bind]
      exact along_seq (policed_mount byUser) fun _ _ _ => trivial
  | unmount => exact inert (asks_unmount mild _)
  | forceUnmount => exact inert (asks_forceUnmount mild _)
  | tryToFix => cases policed
  | format => exact inert (asks_format mild _ _ (fun _ _ _ _ => rfl) reads)
  | setVolumeDescription => exact inert (asks_setVolumeDescription mild _ _ fun _ _ _ => rfl)
  | partition => exact built (built_partition mild reads (fun _ _ => rfl) _)
  | getPartitionTable => exact inert (asks_getPartitionTable mild _)
  | createPartition => exact inert (asks_createPartition mild _ _)
  | deletePartition => exact inert (asks_deletePartition mild _ _)
  | formatPartition => exact inert (asks_formatPartition mild _ _ _ (fun _ _ _ _ _ => rfl) reads)
  | eject => exact inert (asks_eject mild _)
  | notifyMtpMounted => exact inert (asks_notifyMtpMounted mild _ _ _ _ _)
  | notifyMtpUnmounted => exact inert (asks_notifyMtpUnmounted mild _ _)
  | bindBlockLoopDev => exact inert (asks_bindBlockLoopDev mild _ _ _)
  | unbindBlockLoopDev => exact inert (asks_unbindBlockLoopDev mild _)
  | createDmCryptVolume => exact inert (asks_createDmCryptVolume mild _ _ _)
  | destroyDmCryptVolume => exact inert (asks_destroyDmCryptVolume mild _)
  | mountVolumeByPath => cases policed
  | umountVolumeByPath => exact inert (asks_umountVolumeByPath mild _ _)

theorem EdmOp.keeps (op : EdmOp) :
    Along (fun _ => True) (fun h m => op.Keeps h m) op.prog (fun _ _ => True) h := by
  cases op with
  | service op =>
      by_cases policed : op.isPoliced = true
      · exact (op.policed policed).weaken fun _ _ held _ => held
      · exact along_of_asks (P := fun _ => True) (fun _ => True) (asks_any _)
          (fun _ _ _ wrong => absurd wrong policed) (fun _ _ _ _ wrong => absurd wrong policed)
          (fun _ _ _ _ => trivial) (fun _ _ _ _ => trivial) (fun _ _ _ _ _ _ => trivial) trivial
  | burn volumeId burnOptions callerBundle callerUserId =>
      rw [EdmOp.prog, ManagerProg.run, withEdm_bind]
      exact along_seq burnPoliced_burn fun _ _ _ => trivial

variable {W : Type} {env : Env ManagerState W EdmReq EdmReq.Resp}

end

/-! ## A stick on an enterprise device -/

/-- The device intercepts mounts, and its management cannot be told of the stick. -/
def stickEdm : (q : EdmReq) → q.Resp
  | .manager (.getParameter key) => if key = EXTERNAL_STORAGE_CARD_DISABLE then [] else "true"
  | .manager q => stickFs q
  | .getEnterpriseDeviceMgrProxy => true
  | .notifyUnmountExternalStorageDeviceInfo _ => E_REMOTE_IS_NULLPTR
  | .getUsbManagerProxy => true
  | .isAllowedOddBurn .. => false

def anyEdm : Env ManagerState Unit EdmReq EdmReq.Resp := fun _ _ _ _ _ => True

/-- The stick is plugged in. -/
def stickUnderEdm : ManagerState :=
  letI := tableJson
  ((withEdm (stickOp .add).prog).exec (fun _ q => (stickEdm q, ())) .boot ()).2.1

theorem edm_service_reachable_stick : letI := tableJson; Reachable stickUnderEdm := by
  let _ := tableJson
  have returned : Returns anyEdm (withEdm (stickOp .add).prog) .boot () ()
      ((withEdm (stickOp .add).prog).exec (fun _ q => (stickEdm q, ())) .boot ()).2.1 () :=
    Prog.exec_returns (fun _ _ _ => trivial) _ ManagerState.boot ()
  let start : Sys ℕ ManagerState Unit EdmReq EdmReq.Resp Unit := ⟨fun _ => none, .boot, ()⟩
  have run : PoolRun (fun _ => True) (fun op : ServiceOp => withEdm op.prog) anyEdm start start [] :=
    .start
  obtain ⟨log, ended⟩ := run.operation (i := 0) trivial (stickOp .add) returned
  exact edm_service_reachable ended

def EdmReq.isMount : EdmReq → Bool
  | .manager q => q.isMount
  | _ => false

end DiskManager
