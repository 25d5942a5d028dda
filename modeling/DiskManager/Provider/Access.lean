import DiskManager.Provider.Entries

/-!
# Who may call what

Every entry point knows of its caller what its access asks for before it does any work, whatever the
others do meanwhile: until then it makes no request, does not look at the memory of the manager and
changes nothing of it.
-/

namespace DiskManager

open Interact

/-! ## The entry points -/

inductive EntryOp : Type
  | mount (volumeId : CppString) (mountParam : MountParam)
  | unmount (volumeId : CppString)
  | format (volumeId fsType : CppString)
  | tryToFix (volumeId : CppString)
  | setVolumeDescription (fsUuid description : CppString)
  | getAllVolumes
  | getVolumeByUuid (fsUuid : CppString)
  | getVolumeById (volumeId : CppString)
  | getFreeSizeOfVolume (volumeUuid : CppString)
  | getTotalSizeOfVolume (volumeUuid : CppString)
  | getExternalVolumeInfos
  | partition (diskId : CppString) (type : Int)
  | getAllDisks
  | getDiskById (diskId : CppString)
  | getExternalDiskInfos
  | queryUsbIsInUse (diskPath : CppString) (isInUse : Bool)
  | erase (volumeId : CppString)
  | eject (diskId : CppString)
  | createIsoImage (volumeId filePath : CppString)
  | burn (volumeId burnOptions : CppString)
  | getVolumeOpProcess (volumeId : CppString) (progressPct : Int)
  | getPartitionTable (diskId : CppString)
  | createPartition (diskId : CppString) (params : PartitionParams)
  | deletePartition (diskId : CppString) (partitionNum : Int)
  | formatPartition (diskId : CppString) (partitionNum : Int) (params : FormatParams)
  | crypt (op : CryptOp)
  | onBlockDiskUevent (rawUeventMsg : CppString) (e : Option DiskEvent)
  | reportVolumeOpDiag (opDiag : CppString)
  | notifyMtpMounted (id path desc uuid fsType : CppString)
  | notifyMtpUnmounted (id : CppString) (isBadRemove : Bool)

/-- The code of a result. -/
def code {α : Type} (p : EntryProg (ErrCode × α)) : EntryProg ErrCode := do
  return (← p).1

def EntryOp.prog [JsonLib] : EntryOp → EntryProg ErrCode
  | .mount volumeId mountParam => Provider.mount volumeId mountParam
  | .unmount volumeId => Provider.unmount volumeId
  | .format volumeId fsType => onProvider (Provider.format volumeId fsType)
  | .tryToFix volumeId => Provider.tryToFix volumeId
  | .setVolumeDescription fsUuid description => Provider.setVolumeDescription fsUuid description
  | .getAllVolumes => code Provider.getAllVolumes
  | .getVolumeByUuid fsUuid => code (Provider.getVolumeByUuid fsUuid)
  | .getVolumeById volumeId => code (Provider.getVolumeById volumeId)
  | .getFreeSizeOfVolume volumeUuid => code (Provider.getFreeSizeOfVolume volumeUuid)
  | .getTotalSizeOfVolume volumeUuid => code (Provider.getTotalSizeOfVolume volumeUuid)
  | .getExternalVolumeInfos => code Provider.getExternalVolumeInfos
  | .partition diskId type => onProvider (Provider.partition diskId type)
  | .getAllDisks => code Provider.getAllDisks
  | .getDiskById diskId => code (Provider.getDiskById diskId)
  | .getExternalDiskInfos => code Provider.getExternalDiskInfos
  | .queryUsbIsInUse diskPath isInUse => code (Provider.queryUsbIsInUse diskPath isInUse)
  | .erase volumeId => Provider.erase volumeId
  | .eject diskId => Provider.eject diskId
  | .createIsoImage volumeId filePath => Provider.createIsoImage volumeId filePath
  | .burn volumeId burnOptions => Provider.burn volumeId burnOptions
  | .getVolumeOpProcess volumeId progressPct =>
      code (Provider.getVolumeOpProcess volumeId progressPct)
  | .getPartitionTable diskId => code (Provider.getPartitionTable diskId)
  | .createPartition diskId params => Provider.createPartition diskId params
  | .deletePartition diskId partitionNum => Provider.deletePartition diskId partitionNum
  | .formatPartition diskId partitionNum params =>
      Provider.formatPartition diskId partitionNum params
  | .crypt op => Provider.crypt op
  | .onBlockDiskUevent rawUeventMsg e => onProvider (Provider.onBlockDiskUevent rawUeventMsg e)
  | .reportVolumeOpDiag opDiag => onProvider (Provider.reportVolumeOpDiag opDiag)
  | .notifyMtpMounted id path desc uuid fsType =>
      onProvider (Provider.notifyMtpMounted id path desc uuid fsType)
  | .notifyMtpUnmounted id isBadRemove => onProvider (Provider.notifyMtpUnmounted id isBadRemove)

/-! ## What they ask for -/

/-- The arguments pass the checks. -/
def EntryOp.accepted : EntryOp → Bool
  | .mount volumeId _ => isVolumeIdValid volumeId
  | .unmount volumeId => isVolumeIdValid volumeId
  | .format volumeId _ => isVolumeIdValid volumeId
  | .tryToFix volumeId => isVolumeIdValid volumeId
  | .setVolumeDescription fsUuid _ => isUuidValid fsUuid
  | .getVolumeByUuid fsUuid => isUuidValid fsUuid
  | .getVolumeById volumeId => isVolumeIdValid volumeId
  | .getFreeSizeOfVolume volumeUuid => isUuidValid volumeUuid
  | .getTotalSizeOfVolume volumeUuid => isUuidValid volumeUuid
  | .partition diskId _ => isDiskIdValid diskId
  | .getDiskById diskId => !diskId.isEmpty && isDiskIdValid diskId
  | .queryUsbIsInUse diskPath _ => isMountPathValid diskPath
  | .erase volumeId => isVolumeIdValid volumeId
  | .eject diskId => isDiskIdValid diskId
  | .createIsoImage volumeId filePath => isVolumeIdValid volumeId && !isFilePathInvalid filePath
  | .burn volumeId burnOptions =>
      isVolumeIdValid volumeId && validateBurnOptionsSubfields burnOptions
  | .getVolumeOpProcess volumeId _ => isVolumeIdValid volumeId
  | .getPartitionTable diskId => !diskId.isEmpty && isDiskIdValid diskId
  | .createPartition diskId params => Provider.createPartitionAccepts diskId params
  | .deletePartition diskId partitionNum => isDiskIdValid diskId && decide (0 < partitionNum)
  | .formatPartition diskId partitionNum params =>
      Provider.formatPartitionAccepts diskId partitionNum params
  | .crypt op => op.accepted
  | .onBlockDiskUevent rawUeventMsg _ =>
      decide (rawUeventMsg.length ≤ Provider.UEVENT_RAW_MAX_LEN) && !isFilePathInvalid rawUeventMsg
  | .notifyMtpMounted id path _ uuid _ =>
      isVolumeIdValid id && isUuidValid uuid && isMountPathValid path
  | .notifyMtpUnmounted id _ => isVolumeIdValid id
  | .getAllVolumes | .getExternalVolumeInfos | .getAllDisks | .getExternalDiskInfos
  | .reportVolumeOpDiag _ => true

/-- Who may call. -/
inductive Access : Type
  -- a part of the system: storage_manager, or who has the permission
  | client (permissionName : CppString)
  -- a part of the system that has the permission
  | permitted (permissionName : CppString)
  -- who has the permission
  | application (permissionName : CppString)
  | cryptoUsb
  | storageDaemon

def EntryOp.access : EntryOp → Access
  | .mount .. | .unmount _ | .tryToFix _ | .setVolumeDescription .. | .getAllDisks
  | .getDiskById _ => .client PERMISSION_MOUNT_MANAGER
  | .format .. | .partition .. => .client PERMISSION_FORMAT_MANAGER
  | .getAllVolumes | .getVolumeByUuid _ | .getVolumeById _ | .getFreeSizeOfVolume _
  | .getTotalSizeOfVolume _ => .client PERMISSION_STORAGE_MANAGER
  | .queryUsbIsInUse .. | .erase _ | .eject _ | .createIsoImage .. | .burn ..
  | .getVolumeOpProcess .. => .permitted PERMISSION_MOUNT_MANAGER
  | .getPartitionTable _ | .createPartition .. | .deletePartition .. | .formatPartition .. =>
      .permitted PERMISSION_FORMAT_MANAGER
  | .getExternalVolumeInfos | .getExternalDiskInfos =>
      .application PERMISSION_GET_STORAGE_VOLUME_INFO
  | .crypt _ => .cryptoUsb
  | .onBlockDiskUevent .. | .reportVolumeOpDiag _ | .notifyMtpMounted .. | .notifyMtpUnmounted .. =>
      .storageDaemon

/-! ## What is known of a caller -/

/-- What the platform can be asked about a caller. -/
inductive CallerFact : Type
  | systemApp
  | native (processName : CppString) (callingUid : Int)
  | permission (permissionName : CppString)
  | uid (callingUid : Int)

/-- The platform answers that it is so. -/
def CallerFact.ConfirmedBy : CallerFact → (q : EntryReq) → q.Resp → Prop
  | .systemApp, .provider .isCallingSystemApp, r => r = true
  | .native processName callingUid, .provider (.verifyNativeCallerMatches name number), r =>
      name = processName ∧ number = callingUid ∧ r = true
  | .permission permissionName, .provider (.verifyCallerPermission name), r =>
      name = permissionName ∧ r = true
  | .uid callingUid, .getCallingUid, r => r = callingUid
  | _, _, _ => False

/-- An operation has been told the fact of its caller. -/
def CallerFact.KnownTo (fact : CallerFact) (h : EntryHistory) : Prop :=
  h.Answered fact.ConfirmedBy

/-- The caller is known to be one of those who may call. -/
def Access.Granted : Access → EntryHistory → Prop
  | .client permissionName, h =>
      CallerFact.systemApp.KnownTo h ∧
        ((CallerFact.native "storage_manager" STORAGE_MANAGER_UID).KnownTo h ∨
          (CallerFact.permission permissionName).KnownTo h)
  | .permitted permissionName, h =>
      CallerFact.systemApp.KnownTo h ∧ (CallerFact.permission permissionName).KnownTo h
  | .application permissionName, h => (CallerFact.permission permissionName).KnownTo h
  | .cryptoUsb, h =>
      (CallerFact.uid CRYPTO_USB_MGR_SERVICE_UID).KnownTo h ∧
        (CallerFact.permission PERMISSION_MOUNT_MANAGER).KnownTo h
  | .storageDaemon, h => (CallerFact.native "storage_daemon" STORAGEDAEMON_UID).KnownTo h

/-- The caller may call, with these arguments. -/
def EntryOp.Authorised (op : EntryOp) (h : EntryHistory) : Prop :=
  op.access.Granted h ∧ op.accepted = true

/-- The request is more than a question about the caller or a turn of the mutex. -/
def EntryReq.isWork : EntryReq → Bool
  | .provider .isCallingSystemApp => false
  | .provider (.verifyNativeCallerMatches ..) => false
  | .provider (.verifyCallerPermission _) => false
  | .provider .lockUnloadUevent => false
  | .provider .unlockUnloadUevent => false
  | .getCallingUid => false
  | _ => true

/-- A callback of storage_daemon counts itself before it asks who calls. -/
def EntryOp.Guarded (op : EntryOp) (h : EntryHistory) : Move ProviderState EntryReq → Prop
  | .ask q => q.isWork = true → op.Authorised h
  | .run upd =>
      op.Authorised h ∨ op.access = .storageDaemon ∧ ∀ s, (upd s).manager = s.manager

/-- The codes of a call that may not be made. -/
def refusals : List ErrCode :=
  [E_SYS_APP_PERMISSION_DENIED, E_PERMISSION_DENIED, E_SA_IS_UNLOADING]

/-- The codes of arguments that do not pass. -/
def objections : List ErrCode := [E_PARAMS_INVALID, E_NON_EXIST]

/-- Who is not known is refused, and whose arguments do not pass is told so. -/
def EntryOp.Ends (op : EntryOp) (err : ErrCode) (h : EntryHistory) : Prop :=
  op.Authorised h ∨ err ∈ refusals ∨ op.access.Granted h ∧ err ∈ objections

/-! ## Knowing -/

section

variable {fact : CallerFact} {access : Access} {op : EntryOp} {h h' : EntryHistory}

theorem CallerFact.KnownTo.own {s : ProviderState} (known : fact.KnownTo h) :
    fact.KnownTo (.own h s) := known

theorem CallerFact.KnownTo.other {s : ProviderState} (known : fact.KnownTo h) :
    fact.KnownTo (.other h s) := known

theorem CallerFact.KnownTo.answer {q : EntryReq} {r : q.Resp} (known : fact.KnownTo h) :
    fact.KnownTo (.answer h q r) := .inr known

theorem CallerFact.KnownTo.since {allowed : EntryHistory → Prop} (known : fact.KnownTo h)
    (since : h.Since allowed h') : fact.KnownTo h' :=
  since.invariant fact.KnownTo (fun _ _ held _ => held.other) known

theorem Access.Granted.own {s : ProviderState} (granted : access.Granted h) :
    access.Granted (.own h s) := by
  cases access <;> exact granted

theorem Access.Granted.other {s : ProviderState} (granted : access.Granted h) :
    access.Granted (.other h s) := by
  cases access <;> exact granted

/-- What is known stays known. -/
theorem Access.Granted.answer {q : EntryReq} {r : q.Resp} (granted : access.Granted h) :
    access.Granted (.answer h q r) := by
  cases access with
  | client permissionName => exact granted.imp .answer (.imp .answer .answer)
  | permitted permissionName => exact granted.imp .answer .answer
  | application permissionName => exact CallerFact.KnownTo.answer granted
  | cryptoUsb => exact granted.imp .answer .answer
  | storageDaemon => exact CallerFact.KnownTo.answer granted

theorem Access.Granted.since {allowed : EntryHistory → Prop} (granted : access.Granted h)
    (since : h.Since allowed h') : access.Granted h' :=
  since.invariant access.Granted (fun _ _ held _ => held.other) granted

theorem EntryOp.Authorised.own {s : ProviderState} (authorised : op.Authorised h) :
    op.Authorised (.own h s) := ⟨authorised.1.own, authorised.2⟩

theorem EntryOp.Authorised.other {s : ProviderState} (authorised : op.Authorised h) :
    op.Authorised (.other h s) := ⟨authorised.1.other, authorised.2⟩

theorem EntryOp.Authorised.answer {q : EntryReq} {r : q.Resp} (authorised : op.Authorised h) :
    op.Authorised (.answer h q r) := ⟨authorised.1.answer, authorised.2⟩

theorem EntryOp.Ends.own {err : ErrCode} {s : ProviderState} (ends : op.Ends err h) :
    op.Ends err (.own h s) := by
  rcases ends with authorised | refused | ⟨granted, objected⟩
  · exact .inl authorised.own
  · exact .inr (.inl refused)
  · exact .inr (.inr ⟨granted.own, objected⟩)

theorem EntryOp.Ends.other {err : ErrCode} {s : ProviderState} (ends : op.Ends err h) :
    op.Ends err (.other h s) := by
  rcases ends with authorised | refused | ⟨granted, objected⟩
  · exact .inl authorised.other
  · exact .inr (.inl refused)
  · exact .inr (.inr ⟨granted.other, objected⟩)

theorem EntryOp.Ends.answer {err : ErrCode} {q : EntryReq} {r : q.Resp} (ends : op.Ends err h) :
    op.Ends err (.answer h q r) := by
  rcases ends with authorised | refused | ⟨granted, objected⟩
  · exact .inl authorised.answer
  · exact .inr (.inl refused)
  · exact .inr (.inr ⟨granted.answer, objected⟩)

theorem EntryOp.Ends.since {allowed : EntryHistory → Prop} {err : ErrCode} (ends : op.Ends err h)
    (since : h.Since allowed h') : op.Ends err h' :=
  since.invariant (op.Ends err) (fun _ _ held _ => held.other) ends

/-- A call that succeeds was made by one who may call. -/
theorem EntryOp.Ends.ok (ends : op.Ends E_OK h) : op.Authorised h := by
  rcases ends with authorised | refused | ⟨-, objected⟩
  · exact authorised
  · exact absurd refused (by decide)
  · exact absurd objected (by decide)

end

/-! ## Before and after the checks -/

/-- `p` does no work that is not authorised, and ends with `post`. -/
abbrev EntryOp.Guards {α : Type} (op : EntryOp) (p : EntryProg α)
    (post : α → EntryHistory → Prop) (h : EntryHistory) : Prop :=
  Along (fun _ => True) op.Guarded p post h

section

variable {op : EntryOp} {α β : Type} {h : EntryHistory} {post : α → EntryHistory → Prop}

@[simp] theorem onProvider_pure (a : α) : onProvider (pure a) = pure a := rfl

theorem onProvider_bind (p : ProviderProg α) (f : α → ProviderProg β) :
    onProvider (p >>= f) = (onProvider p >>= fun a => onProvider (f a)) := lift_bind p f

/-- Once the call is authorised anything goes. -/
theorem along_authorised {p : EntryProg α} (authorised : op.Authorised h)
    (ends : ∀ a h, op.Authorised h → post a h) : op.Guards p post h := by
  have kept : op.Guards p (fun _ h => op.Authorised h) h :=
    along_of_asks op.Authorised (asks_any p) (fun _ _ held => .inl held) (fun _ _ held _ _ => held)
      (fun _ _ held _ => held.own) (fun _ _ held _ => held.other)
      (fun _ _ _ held _ _ => held.answer) authorised
  exact along_mono ends kept

/-- A question about the caller, or a turn of the mutex. -/
theorem along_question {q : EntryReq} {f : q.Resp → EntryProg α} (question : q.isWork = false)
    (rest : ∀ (h' : EntryHistory) r, h.Since (fun _ => True) h' →
      op.Guards (f r) post (.answer h' q r)) :
    op.Guards (entryCall q >>= f) post h := by
  intro h' since
  refine ⟨fun work => ?_, fun r _ => rest h' r since⟩
  rw [question] at work
  cases work

end

/-- `p` does no work that is not authorised, and what it ends with is what `EntryOp.Ends` allows. -/
abbrev EntryOp.Sound {α : Type} (op : EntryOp) (codeOf : α → ErrCode) (p : EntryProg α)
    (h : EntryHistory) : Prop :=
  op.Guards p (fun a h => op.Ends (codeOf a) h) h

section

variable {op : EntryOp} {α : Type} {codeOf : α → ErrCode} {h : EntryHistory}
  {permissionName : CppString} {refused : ErrCode → α} {p run : EntryProg α}

theorem sound_code {p : EntryProg (ErrCode × α)} (sound : op.Sound Prod.fst p h) :
    op.Sound id (code p) h := along_bind.mpr sound

theorem sound_authorised (authorised : op.Authorised h) : op.Sound codeOf p h :=
  along_authorised authorised fun _ _ held => .inl held

/-- A check of the arguments. -/
theorem sound_checked {check : Bool} {a : α} (granted : op.access.Granted h)
    (objection : codeOf a ∈ objections) (rest : check = true → op.Sound codeOf p h) :
    op.Sound codeOf (if (!check) = true then pure a else p) h := by
  cases check with
  | false => exact .inr (.inr ⟨granted, objection⟩)
  | true => exact rest rfl

/-- The only check of the arguments. -/
theorem sound_accepts {check : Bool} {a : α} (granted : op.access.Granted h)
    (objection : codeOf a ∈ objections) (accepts : check = true → op.accepted = true) :
    op.Sound codeOf (if (!check) = true then pure a else p) h :=
  sound_checked granted objection fun valid => sound_authorised ⟨granted, accepts valid⟩

/-- storage_manager, or who has the permission. -/
theorem sound_asClient (named : ∀ err, codeOf (refused err) = err)
    (rest : ∀ h, (Access.client permissionName).Granted h → op.Sound codeOf run h) :
    op.Sound codeOf (asClient permissionName refused run) h := by
  rw [asClient, asSystemApp, mayCall, isStorageManagerCaller, onProvider_bind]
  refine along_question rfl fun h₁ system since₁ => ?_
  cases system with
  | false => exact .inr (.inl (by rw [named]; decide))
  | true =>
      have known₁ : CallerFact.systemApp.KnownTo
          (.answer h₁ (.provider .isCallingSystemApp) true) := .inl rfl
      refine along_bind.mpr (along_question rfl fun h₂ native since₂ => ?_)
      have known₂ := known₁.since since₂
      cases native with
      | true => exact rest _ ⟨known₂.answer, .inl (.inl ⟨rfl, rfl, rfl⟩)⟩
      | false =>
          intro h₃ since₃
          refine ⟨fun work => (by cases work), fun has _ => ?_⟩
          cases has with
          | false => exact .inr (.inl (by rw [named]; decide))
          | true => exact rest _ ⟨(known₂.answer.since since₃).answer, .inr (.inl ⟨rfl, rfl⟩)⟩

/-- Who has the permission. -/
theorem sound_asPermitted (named : ∀ err, codeOf (refused err) = err)
    (rest : ∀ h, (Access.permitted permissionName).Granted h → op.Sound codeOf run h) :
    op.Sound codeOf (asPermitted permissionName refused run) h := by
  rw [asPermitted, asSystemApp]
  refine along_question rfl fun h₁ system since₁ => ?_
  cases system with
  | false => exact .inr (.inl (by rw [named]; decide))
  | true =>
      have known₁ : CallerFact.systemApp.KnownTo
          (.answer h₁ (.provider .isCallingSystemApp) true) := .inl rfl
      refine along_question rfl fun h₂ has since₂ => ?_
      cases has with
      | false => exact .inr (.inl (by rw [named]; decide))
      | true => exact rest _ ⟨(known₁.since since₂).answer, .inl ⟨rfl, rfl⟩⟩

/-- Any application that has the permission. -/
theorem sound_asApplication (named : ∀ err, codeOf (refused err) = err)
    (rest : ∀ h, (Access.application permissionName).Granted h → op.Sound codeOf run h) :
    op.Sound codeOf (asApplication permissionName refused run) h := by
  rw [asApplication]
  refine along_question rfl fun h₁ has since₁ => ?_
  cases has with
  | false => exact .inr (.inl (by rw [named]; decide))
  | true => exact rest _ (.inl ⟨rfl, rfl⟩)

/-- The service for encrypted containers. -/
theorem sound_asCryptoUsb {run : EntryProg ErrCode}
    (rest : ∀ h, Access.cryptoUsb.Granted h → op.Sound id run h) :
    op.Sound id (asCryptoUsb run) h := by
  rw [asCryptoUsb]
  refine along_question rfl fun h₁ callingUid since₁ => ?_
  split
  · exact .inr (.inl (by decide))
  next same =>
  have same : callingUid = CRYPTO_USB_MGR_SERVICE_UID := by simpa using same
  have known₁ : (CallerFact.uid CRYPTO_USB_MGR_SERVICE_UID).KnownTo
      (.answer h₁ .getCallingUid callingUid) := .inl same
  refine along_question rfl fun h₂ has since₂ => ?_
  cases has with
  | false => exact .inr (.inl (by decide))
  | true => exact rest _ ⟨(known₁.since since₂).answer, .inl ⟨rfl, rfl⟩⟩

/-- The mutex is taken or given back. -/
theorem sound_turn {q : EntryReq} {f : q.Resp → EntryProg α} (question : q.isWork = false)
    (rest : ∀ r h, op.Sound codeOf (f r) h) : op.Sound codeOf (entryCall q >>= f) h :=
  along_question question fun h' r _ => rest r (.answer h' q r)

theorem onProvider_asClient {run : ProviderProg ErrCode} :
    onProvider (invoke .isCallingSystemApp >>= fun system =>
      if (!system) = true then pure E_SYS_APP_PERMISSION_DENIED
      else mayCall permissionName >>= fun may =>
        if (!may) = true then pure E_PERMISSION_DENIED else run) =
      asClient permissionName id (onProvider run) := by
  rw [asClient, asSystemApp, onProvider_bind]
  congr 1
  funext system
  cases system with
  | false => rfl
  | true =>
      rw [if_neg (by simp), if_neg (by simp), onProvider_bind]
      congr 1
      funext may
      cases may <;> rfl

/-- A callback looks whether the ability is unloading. -/
theorem sound_unless {flag : ProviderState → Bool} {err : ErrCode} {p : ProviderProg ErrCode}
    (daemon : op.access = .storageDaemon) (refused : err ∈ refusals)
    (rest : ∀ h, op.Sound id (onProvider p) h) :
    op.Sound id (onProvider (Prog.read flag >>= fun unloading =>
      if unloading = true then pure err else p)) h := by
  intro h₁ since₁
  refine ⟨.inr ⟨daemon, fun _ => rfl⟩, fun _ => ?_⟩
  change op.Sound id (onProvider (if flag h₁.now = true then pure err else p)) _
  split
  · exact .inr (.inl refused)
  · exact rest _

/-- A callback asks who calls while it is counted. -/
theorem sound_callback {work : ProviderProg ErrCode} (daemon : op.access = .storageDaemon)
    (rest : ∀ h, Access.storageDaemon.Granted h → op.Sound id (onProvider work) h) :
    op.Sound id (onProvider (Provider.whilePending (checkStorageDaemonPermission >>= fun allowed =>
      if (!allowed) = true then pure E_PERMISSION_DENIED else work))) h := by
  have counts : ∀ {h : EntryHistory} {upd : ProviderState → ProviderState},
      (∀ s, (upd s).manager = s.manager) → op.Guarded h (.run upd) :=
    fun same => .inr ⟨daemon, same⟩
  have asked : ∀ h, op.Sound id (onProvider (checkStorageDaemonPermission >>= fun allowed =>
      if (!allowed) = true then pure E_PERMISSION_DENIED else work)) h := by
    intro h
    rw [checkStorageDaemonPermission, onProvider_bind]
    refine along_question rfl fun h₁ allowed since₁ => ?_
    cases allowed with
    | false => exact .inr (.inl (by decide))
    | true => exact rest _ (.inl ⟨rfl, rfl, rfl⟩)
  have ended : ∀ {p : ProviderProg ErrCode} {h : EntryHistory}, op.Sound id (onProvider p) h →
      op.Sound id (onProvider (p >>= fun ret =>
        Provider.endPendingStorageDaemonCallback >>= fun _ => pure ret)) h := by
    intro p h sound
    rw [onProvider_bind]
    refine along_seq sound fun ret h₁ ends h₂ since₂ => ⟨counts fun _ => rfl, fun _ => ?_⟩
    exact (ends.since since₂).own
  exact fun h₁ since₁ => ⟨counts fun _ => rfl, fun _ => ended (asked _)⟩

end

section

variable [JsonLib]

open Provider

theorem EntryOp.sound (op : EntryOp) (s : ProviderState) : op.Sound id op.prog (.came s) := by
  have objected : E_PARAMS_INVALID ∈ objections := by decide
  cases op with
  | mount volumeId mountParam =>
      exact sound_asClient (fun _ => rfl) fun _ granted => sound_accepts granted (by decide) id
  | unmount volumeId =>
      exact sound_asClient (fun _ => rfl) fun _ granted => sound_accepts granted (by decide) id
  | format volumeId fsType =>
      change EntryOp.Sound _ id (onProvider (Provider.format volumeId fsType)) _
      rw [Provider.format, onProvider_asClient]
      refine sound_asClient (fun _ => rfl) fun h granted => ?_
      rw [apply_ite onProvider]
      exact sound_accepts granted objected id
  | tryToFix volumeId =>
      exact sound_asClient (fun _ => rfl) fun _ granted => sound_accepts granted (by decide) id
  | setVolumeDescription fsUuid description =>
      exact sound_asClient (fun _ => rfl) fun _ granted => sound_accepts granted (by decide) id
  | getAllVolumes =>
      exact sound_code (sound_asClient (fun _ => rfl) fun _ granted =>
        sound_authorised ⟨granted, rfl⟩)
  | getVolumeByUuid fsUuid =>
      exact sound_code (sound_asClient (fun _ => rfl) fun _ granted =>
        sound_accepts granted (by decide) id)
  | getVolumeById volumeId =>
      exact sound_code (sound_asClient (fun _ => rfl) fun _ granted =>
        sound_accepts granted (by decide) id)
  | getFreeSizeOfVolume volumeUuid =>
      exact sound_code (sound_asClient (fun _ => rfl) fun _ granted =>
        sound_accepts granted (by decide) id)
  | getTotalSizeOfVolume volumeUuid =>
      exact sound_code (sound_asClient (fun _ => rfl) fun _ granted =>
        sound_accepts granted (by decide) id)
  | getExternalVolumeInfos =>
      exact sound_code (sound_asApplication (fun _ => rfl) fun _ granted =>
        sound_authorised ⟨granted, rfl⟩)
  | partition diskId type =>
      change EntryOp.Sound _ id (onProvider (Provider.partition diskId type)) _
      rw [Provider.partition, onProvider_asClient]
      refine sound_asClient (fun _ => rfl) fun h granted => ?_
      rw [apply_ite onProvider]
      exact sound_accepts granted objected id
  | getAllDisks =>
      exact sound_code (sound_asClient (fun _ => rfl) fun _ granted =>
        sound_authorised ⟨granted, rfl⟩)
  | getDiskById diskId =>
      refine sound_code (sound_asClient (fun _ => rfl) fun h granted => ?_)
      split
      · exact .inr (.inr ⟨granted, by decide⟩)
      next some' =>
      exact sound_accepts granted (by decide) fun valid => by simp [EntryOp.accepted, some', valid]
  | getExternalDiskInfos =>
      exact sound_code (sound_asApplication (fun _ => rfl) fun _ granted =>
        sound_authorised ⟨granted, rfl⟩)
  | queryUsbIsInUse diskPath isInUse =>
      exact sound_code (sound_asPermitted (fun _ => rfl) fun _ granted =>
        sound_accepts granted objected id)
  | erase volumeId =>
      exact sound_asPermitted (fun _ => rfl) fun _ granted => sound_accepts granted (by decide) id
  | eject diskId =>
      exact sound_asPermitted (fun _ => rfl) fun _ granted => sound_accepts granted (by decide) id
  | createIsoImage volumeId filePath =>
      refine sound_asPermitted (fun _ => rfl) fun h granted => ?_
      refine sound_checked granted objected fun known => ?_
      split
      · exact .inr (.inr ⟨granted, objected⟩)
      next valid =>
      exact sound_authorised ⟨granted, by simp [EntryOp.accepted, known, valid]⟩
  | burn volumeId burnOptions =>
      refine sound_asPermitted (fun _ => rfl) fun h granted => ?_
      refine sound_checked granted objected fun known => ?_
      exact sound_accepts granted objected fun valid => by simp [EntryOp.accepted, known, valid]
  | getVolumeOpProcess volumeId progressPct =>
      exact sound_code (sound_asPermitted (fun _ => rfl) fun _ granted =>
        sound_accepts granted objected id)
  | getPartitionTable diskId =>
      refine sound_code (sound_asPermitted (fun _ => rfl) fun h granted => ?_)
      split
      · exact .inr (.inr ⟨granted, by decide⟩)
      next some' =>
      exact sound_accepts granted (by decide) fun valid => by simp [EntryOp.accepted, some', valid]
  | createPartition diskId params =>
      exact sound_asPermitted (fun _ => rfl) fun _ granted => sound_accepts granted (by decide) id
  | deletePartition diskId partitionNum =>
      refine sound_asPermitted (fun _ => rfl) fun h granted => ?_
      refine sound_checked granted objected fun known => ?_
      split
      · exact .inr (.inr ⟨granted, objected⟩)
      next positive =>
      have positive : 0 < partitionNum := not_le.mp positive
      exact sound_authorised ⟨granted, by simp [EntryOp.accepted, known, positive]⟩
  | formatPartition diskId partitionNum params =>
      exact sound_asPermitted (fun _ => rfl) fun _ granted => sound_accepts granted (by decide) id
  | crypt op =>
      exact sound_asCryptoUsb fun _ granted => sound_accepts granted (by decide) id
  | onBlockDiskUevent rawUeventMsg e =>
      change EntryOp.Sound _ id (onProvider (Provider.onBlockDiskUevent rawUeventMsg e)) _
      have unloading : E_SA_IS_UNLOADING ∈ refusals := by decide
      have locked : ∀ h, EntryOp.Sound (.onBlockDiskUevent rawUeventMsg e) id
          (onProvider (Provider.onBlockDiskUeventLocked rawUeventMsg e)) h := by
        intro h
        unfold Provider.onBlockDiskUeventLocked
        refine sound_unless rfl unloading fun h => sound_callback rfl fun h granted => ?_
        split
        · exact .inr (.inr ⟨granted, objected⟩)
        next short =>
        split
        · exact .inr (.inr ⟨granted, objected⟩)
        next valid =>
        have short : rawUeventMsg.length ≤ UEVENT_RAW_MAX_LEN := not_lt.mp short
        exact sound_authorised ⟨granted, by simp [EntryOp.accepted, short, valid]⟩
      unfold Provider.onBlockDiskUevent
      refine sound_unless rfl unloading fun h => ?_
      rw [onProvider_bind]
      refine sound_turn rfl fun _ h => ?_
      rw [onProvider_bind]
      refine along_seq (locked _) fun ret h ends => ?_
      rw [onProvider_bind]
      exact along_question rfl fun h' r since => (ends.since since).answer
  | reportVolumeOpDiag opDiag =>
      exact sound_callback rfl fun h granted => sound_authorised ⟨granted, rfl⟩
  | notifyMtpMounted id path desc uuid fsType =>
      refine sound_callback rfl fun h granted => ?_
      rw [apply_ite onProvider]
      refine sound_checked granted objected fun known => ?_
      rw [apply_ite onProvider]
      refine sound_checked granted objected fun same => ?_
      rw [apply_ite onProvider]
      exact sound_accepts granted objected fun valid => by
        simp [EntryOp.accepted, known, same, valid]
  | notifyMtpUnmounted id isBadRemove =>
      refine sound_callback rfl fun h granted => ?_
      rw [apply_ite onProvider]
      exact sound_accepts granted objected fun valid => valid

end

/-! ## Every interleaving -/

end DiskManager
