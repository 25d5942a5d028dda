import DiskManager.Interact.Beside
import DiskManager.Interact.Built
import DiskManager.Uevent.Repartition

/-!
# Waiting for the uevent of a partition

`CreatePartition` and `DeletePartition` change the partition table through the daemon and then wait
for the change uevent: `WaitForPartitionDone` registers the disk in `partitionDoneMap_` and sleeps
until `HandleDiskChange` has run `NotifyPartitionDone`, which ignores a disk that is not registered.
The lock, the map and the wait are kept beside the memory of the manager. Sections that take the
lock for themselves alone are the sections of the manager.
-/

namespace DiskManager

open Interact

/-! ## The lock and the wait -/

inductive PartitionReq : Type
  | manager (q : Req)
  | lockPartition
  | unlockPartition
  | awaitPartitionDone (diskId : CppString)

/-- A wait returns whether the flag is set. -/
@[reducible] def PartitionReq.Resp : PartitionReq → Type
  | .manager q => q.Resp
  | .lockPartition => Unit
  | .unlockPartition => Unit
  | .awaitPartitionDone _ => Bool

/-- `notices` are the disks `NotifyPartitionDone` was run for, the newest first: nothing reads it. -/
structure PartitionState : Type where
  manager : ManagerState
  partitionDoneMap : StdMap Bool
  notices : List CppString

abbrev PartitionProg (α : Type) : Type := Prog PartitionState PartitionReq PartitionReq.Resp α

def partitionCall (q : PartitionReq) : PartitionProg q.Resp := Prog.request q

/-- The world is whether `partitionLock_` is held. A wait ends when the flag is set or with the
timeout, and takes the lock again. -/
def partitionEnv : Env PartitionState Bool PartitionReq PartitionReq.Resp
  | _, locked, .manager _, _, locked' => locked' = locked
  | _, locked, .lockPartition, _, locked' => locked = false ∧ locked' = true
  | _, _, .unlockPartition, _, locked' => locked' = false
  | s, locked, .awaitPartitionDone diskId, done, locked' =>
      locked = false ∧ locked' = true ∧ (done = true → s.partitionDoneMap[diskId]? = some true)

/-- Run an operation of the manager. -/
def besideWaits {α : Type} (p : ManagerProg α) : PartitionProg α :=
  p.lift (·.manager) (fun manager s => { s with manager }) .manager fun _ r => r

def PartitionState.register (s : PartitionState) (diskId : CppString) : PartitionState :=
  { s with partitionDoneMap := s.partitionDoneMap.insert diskId false }

def PartitionState.notify (s : PartitionState) (diskId : CppString) : PartitionState :=
  { s with
    partitionDoneMap := s.partitionDoneMap.update diskId fun _ => true
    notices := diskId :: s.notices }

def notifyPartitionDone (diskId : CppString) : PartitionProg Unit := do
  partitionCall .lockPartition
  Prog.modify (·.notify diskId)
  partitionCall .unlockPartition

def waitForPartitionDone (diskId : CppString) : PartitionProg Unit := do
  partitionCall .lockPartition
  Prog.modify (·.register diskId)
  -- `wait_until` gives the lock back and takes it again.
  partitionCall .unlockPartition
  let _ ← partitionCall (.awaitPartitionDone diskId)
  Prog.modify fun s => { s with partitionDoneMap := s.partitionDoneMap.erase diskId }
  partitionCall .unlockPartition

/-! ## The requests -/

/-- `CreatePartition` up to the lock: the code of the type. -/
def createPartitionChecked (diskId : CppString) (params : PartitionParams) :
    ManagerProg (Except ErrCode CppString) := do
  match ← getDiskById diskId with
  | none => return .error E_NON_EXIST
  | some disk =>
      if disk.diskType ≠ SD_FLAG ∧ disk.diskType ≠ USB_FLAG then
        return .error E_CREATE_PARTITION_NOT_SUPPORT
      match typeCodeOf params.typeCode with
      | none => return .error E_CREATE_PARTITION_NOT_SUPPORT
      | some code =>
          if (← isDiskNotReady diskId) then
            return .error E_VOL_STATE
          return .ok code

/-- `CreatePartition` under the lock. -/
def createPartitionLocked (diskId : CppString) (params : PartitionParams) (code : CppString) :
    ManagerProg ErrCode := do
  match ← Prog.read fun s => s.partitionTableMap[diskId]? with
  | none => return E_NON_EXIST
  | some info =>
      if !isParamsValid params info then
        return E_PARAMS_INVALID
      let ret ← call (.createPartition (DEV_BLOCK_PREFIX ++ diskId) params.partitionNum
        params.startSector params.endSector code)
      return if ret ≠ E_OK then E_CREATE_PARTITION_ERROR else E_OK

/-- What follows the checks, unless they failed. -/
def afterChecks {α : Type} (locked : α → ManagerProg ErrCode) : Except ErrCode α →
    ManagerProg ErrCode
  | .error err => pure err
  | .ok a => locked a

theorem afterChecks_unless {α : Type} (p : ManagerProg Bool) (err : ErrCode) (a : α)
    (locked : α → ManagerProg ErrCode) :
    (p.bind fun fails => if fails then pure err else locked a) =
      (p.bind fun fails => if fails then pure (.error err) else pure (.ok a)).bind
        (afterChecks locked) := by
  rw [Prog.bind_bind]
  congr 1
  funext fails
  cases fails with
  | true => rfl
  | false => rfl

theorem createPartition_parts (diskId : CppString) (params : PartitionParams) :
    createPartition diskId params =
      (createPartitionChecked diskId params).bind
        (afterChecks fun code => createPartitionLocked diskId params code) := by
  unfold createPartition createPartitionChecked
  change (getDiskById diskId).bind _ = ((getDiskById diskId).bind _).bind _
  rw [Prog.bind_bind]
  congr 1
  funext found
  cases found with
  | none => rfl
  | some disk =>
      dsimp only
      split
      · rfl
      cases typeCodeOf params.typeCode with
      | none => rfl
      | some code =>
          exact afterChecks_unless (isDiskNotReady diskId) E_VOL_STATE code
            fun code => createPartitionLocked diskId params code

section

variable [JsonLib]

/-- `DeletePartition` up to the lock: the disk. -/
def deletePartitionChecked (diskId : CppString) : ManagerProg (Except ErrCode Disk) := do
  match ← getDiskById diskId with
  | none => return .error E_NON_EXIST
  | some disk =>
      if disk.diskType ≠ SD_FLAG ∧ disk.diskType ≠ USB_FLAG then
        return .error E_DELETE_PARTITION_NOT_SUPPORT
      if (← isDiskNotReady diskId) then
        return .error E_VOL_STATE
      return .ok disk

/-- `DeletePartition` under the lock. -/
def deletePartitionLocked (diskId : CppString) (partitionNum : Int) (disk : Disk) :
    ManagerProg ErrCode := do
  match ← Prog.read fun s => s.partitionTableMap[diskId]? with
  | none => return E_NON_EXIST
  | some info =>
      if !info.lists partitionNum then
        return E_NON_EXIST
      let ret ← call (.deletePartition disk.sysPath diskId partitionNum)
      if ret ≠ E_OK then
        return E_DELETE_PARTITION_ERROR
      let _ ← destroyVolumeByDiskIdAndPartNum diskId partitionNum
      return E_OK

theorem deletePartition_parts (diskId : CppString) (partitionNum : Int) :
    deletePartition diskId partitionNum =
      (deletePartitionChecked diskId).bind
        (afterChecks fun disk => deletePartitionLocked diskId partitionNum disk) := by
  unfold deletePartition deletePartitionChecked
  change (getDiskById diskId).bind _ = ((getDiskById diskId).bind _).bind _
  rw [Prog.bind_bind]
  congr 1
  funext found
  cases found with
  | none => rfl
  | some disk =>
      dsimp only
      split
      · rfl
      · exact afterChecks_unless (isDiskNotReady diskId) E_VOL_STATE disk
          fun disk => deletePartitionLocked diskId partitionNum disk

/-- The section under the lock, and the wait where it changed the table. -/
def partitionAndWait (diskId : CppString) (locked : ManagerProg ErrCode) :
    PartitionProg ErrCode := do
  partitionCall .lockPartition
  let ret ← besideWaits locked
  partitionCall .unlockPartition
  if ret ≠ E_OK then
    return ret
  waitForPartitionDone diskId
  return E_OK

inductive PartitionRequest : Type
  | create (diskId : CppString) (params : PartitionParams)
  | delete (diskId : CppString) (partitionNum : Int)

namespace PartitionRequest

def diskId : PartitionRequest → CppString
  | .create diskId _ => diskId
  | .delete diskId _ => diskId

/-- The request with its lock and its wait. -/
def prog : PartitionRequest → PartitionProg ErrCode
  | .create diskId params => do
      match ← besideWaits (createPartitionChecked diskId params) with
      | .error err => return err
      | .ok code => partitionAndWait diskId (createPartitionLocked diskId params code)
  | .delete diskId partitionNum => do
      match ← besideWaits (deletePartitionChecked diskId) with
      | .error err => return err
      | .ok disk => partitionAndWait diskId (deletePartitionLocked diskId partitionNum disk)

end PartitionRequest

/-! ## The uevents -/

/-- `HandleDiskChange` of a disk that is not an internal one being partitioned. -/
def discoverChangedDisk (env : UeventEnv) : ManagerProg ErrCode := do
  let known ← hasDisk (diskIdFrom env.major env.minor)
  discoverPartitionsAndVolumes env !known

theorem handleDiskChange_parts (env : UeventEnv) :
    handleDiskChange env =
      (isPartitioningInternal (diskIdFrom env.major env.minor)).bind fun skipped =>
        if skipped then pure E_OK else discoverChangedDisk env := rfl

/-- `HandleDiskChange` with its notice. -/
def handleDiskChangeNoticed (env : UeventEnv) : PartitionProg ErrCode := do
  if (← besideWaits (isPartitioningInternal (diskIdFrom env.major env.minor))) then
    return E_OK
  let ret ← besideWaits (discoverChangedDisk env)
  notifyPartitionDone (diskIdFrom env.major env.minor)
  return ret

def DiskEvent.noticedProg (e : DiskEvent) : PartitionProg ErrCode :=
  match e.action with
  | .change => handleDiskChangeNoticed e.uevent
  | _ => besideWaits e.prog

/-- The request is in progress already; only uevents come. -/
def noticedProg : Option DiskEvent → PartitionProg ErrCode
  | none => pure E_OK
  | some e => e.noticedProg

end

/-! ## Notices -/

/-- The daemon changed the partition table. -/
def PartitionReq.partitioned : (q : PartitionReq) → q.Resp → Bool
  | .manager (.createPartition ..), ret => ret = E_OK
  | .manager (.deletePartition ..), ret => ret = E_OK
  | _, _ => false

abbrev PartitionHistory : Type := History PartitionState PartitionReq PartitionReq.Resp

namespace PartitionHistory

variable (d : CppString)

/-- The daemon call of the request succeeded. -/
def Partitioned (h : PartitionHistory) : Prop := h.Answered fun q r => q.partitioned r = true

instance (h : PartitionHistory) : Decidable (Partitioned h) :=
  History.decidableAnswered h

/-- `WaitForPartitionDone` has registered the disk. -/
def Registered (h : PartitionHistory) : Prop :=
  h.Ever fun s => s.partitionDoneMap[d]?.isSome = true

instance (h : PartitionHistory) : Decidable (Registered d h) := History.decidableEver h

/-- `NotifyPartitionDone` ran for the disk after the daemon call succeeded. -/
def Noticed : PartitionHistory → Prop
  | .came _ => False
  | .own h s => Noticed h ∨ Partitioned h ∧ s.notices = d :: h.now.notices
  | .other h s => Noticed h ∨ Partitioned h ∧ s.notices = d :: h.now.notices
  | .answer h _ _ => Noticed h

instance decidableNoticed : (h : PartitionHistory) → Decidable (Noticed d h)
  | .came _ => inferInstanceAs (Decidable False)
  | .own h _ => @instDecidableOr _ _ (decidableNoticed h) inferInstance
  | .other h _ => @instDecidableOr _ _ (decidableNoticed h) inferInstance
  | .answer h _ _ => decidableNoticed h

/-- It does not run between the success of the daemon call and the registration. -/
def InTime : PartitionHistory → Prop
  | .other h s => Partitioned h → ¬ Registered d h → s.notices ≠ d :: h.now.notices
  | _ => True

end PartitionHistory

/-- Notices for the request come in time. -/
def noticesInTime (d : CppString) : Option DiskEvent → PartitionHistory → Prop
  | none, h => PartitionHistory.InTime d h
  | some _, _ => True

/-- Neither flags nor notices change. -/
def FlagsKept (s s' : PartitionState) : Prop :=
  s'.partitionDoneMap = s.partitionDoneMap ∧ s'.notices = s.notices

/-- What a section of a uevent does: it runs `NotifyPartitionDone` or leaves the flags alone. -/
def NoticeStep (s s' : PartitionState) : Prop := FlagsKept s s' ∨ ∃ d, s' = s.notify d

theorem within_besideWaits {α : Type} (p : ManagerProg α) :
    Within FlagsKept (besideWaits p) fun _ => True :=
  within_lift p fun _ _ => ⟨rfl, rfl⟩

theorem noticeStep_besideWaits {α : Type} (p : ManagerProg α) :
    Within NoticeStep (besideWaits p) fun _ => True :=
  within_weaken (within_besideWaits p) .inl

theorem noticeStep_notifyPartitionDone (diskId : CppString) :
    Within NoticeStep (notifyPartitionDone diskId) fun _ => True :=
  fun _ _ => ⟨.inr ⟨diskId, rfl⟩, fun _ => trivial⟩

theorem noticeStep_noticedProg [JsonLib] (op : Option DiskEvent) :
    Within NoticeStep (noticedProg op) fun _ => True := by
  cases op with
  | none => trivial
  | some e =>
      change Within NoticeStep e.noticedProg _
      unfold DiskEvent.noticedProg
      split
      · rw [handleDiskChangeNoticed]
        refine within_seq (noticeStep_besideWaits _) fun skipped _ => ?_
        split
        · trivial
        refine within_seq (noticeStep_besideWaits _) fun ret _ => ?_
        exact within_seq (noticeStep_notifyPartitionDone _) fun _ _ => trivial
      · exact noticeStep_besideWaits _

theorem get_notify (s : PartitionState) (d d' : CppString) :
    (s.notify d').partitionDoneMap[d]? =
      if d' = d then s.partitionDoneMap[d]?.map fun _ => true else s.partitionDoneMap[d]? :=
  StdMap.get_update _ _ _ _

/-! ## The request -/

section

open PartitionHistory

variable {d : CppString} {h : PartitionHistory} {α : Type}

/-- The request waits only for a notice that is still to come. -/
def waitsForNotice (d : CppString) :
    Option DiskEvent → PartitionHistory → Move PartitionState PartitionReq → Prop
  | none, h, .ask (.awaitPartitionDone d') =>
      d' = d → Noticed d h → h.now.partitionDoneMap[d]? = some true
  | _, _, _ => True

/-- What the request meets. -/
abbrev meets (d : CppString) (h : PartitionHistory) : Prop :=
  noticesInTime d none h ∧ h.OthersMake NoticeStep

/-- Before the registration no notice has been lost. -/
def Unregistered (d : CppString) (h : PartitionHistory) : Prop :=
  ¬ Registered d h ∧ ¬ Noticed d h

/-- From the registration on a notice sets the flag. -/
def Watched (d : CppString) (h : PartitionHistory) : Prop :=
  h.now.partitionDoneMap[d]?.isSome = true ∧
    (Noticed d h → h.now.partitionDoneMap[d]? = some true)

theorem notices_ne_cons {s : PartitionState} {notices : List CppString}
    (same : notices = s.notices) : notices ≠ d :: s.notices := by
  rw [same]
  exact fun eq => List.cons_ne_self _ _ eq.symm

theorem Unregistered.own {s : PartitionState} (held : Unregistered d h)
    (kept : FlagsKept h.now s) : Unregistered d (.own h s) := by
  refine ⟨?_, ?_⟩
  · rintro (now | before)
    · rw [kept.1] at now
      exact held.1 (History.ever_now now)
    · exact held.1 before
  · rintro (before | ⟨-, noticed⟩)
    · exact held.2 before
    · exact notices_ne_cons kept.2 noticed

theorem Unregistered.other {s : PartitionState} (held : Unregistered d h)
    (may : meets d (.other h s)) : Unregistered d (.other h s) := by
  obtain ⟨inTime, step⟩ := may
  have unset : h.now.partitionDoneMap[d]?.isSome ≠ true :=
    fun now => held.1 (History.ever_now now)
  refine ⟨?_, ?_⟩
  · rintro (now | before)
    · refine unset ?_
      rcases step with kept | ⟨d', rfl⟩
      · rw [← kept.1]
        exact now
      · rw [get_notify] at now
        split at now
        · rw [Option.isSome_map] at now
          exact now
        · exact now
    · exact held.1 before
  · rintro (before | ⟨partitioned, noticed⟩)
    · exact held.2 before
    · exact inTime partitioned held.1 noticed

theorem Watched.other {s : PartitionState} (held : Watched d h) (step : NoticeStep h.now s) :
    Watched d (.other h s) := by
  change s.partitionDoneMap[d]?.isSome = true ∧
    (Noticed d h ∨ Partitioned h ∧ s.notices = d :: h.now.notices →
      s.partitionDoneMap[d]? = some true)
  rcases step with kept | ⟨d', rfl⟩
  · rw [kept.1]
    refine ⟨held.1, ?_⟩
    rintro (before | ⟨-, noticed⟩)
    · exact held.2 before
    · exact absurd noticed (notices_ne_cons kept.2)
  · obtain ⟨flag, registered⟩ := Option.isSome_iff_exists.mp held.1
    rw [get_notify]
    split
    · rw [registered]
      exact ⟨rfl, fun _ => rfl⟩
    next ne =>
      refine ⟨held.1, ?_⟩
      rintro (before | ⟨-, noticed⟩)
      · exact held.2 before
      · exact absurd (List.cons.inj noticed).1 ne

theorem Unregistered.waits (held : Unregistered d h) (m : Move PartitionState PartitionReq) :
    waitsForNotice d none h m := by
  unfold waitsForNotice
  split
  · exact fun _ noticed => absurd noticed held.2
  · trivial

/-- Work of the manager before the registration. -/
theorem along_besideWaits (p : ManagerProg α) (start : Unregistered d h) :
    Along (meets d) (waitsForNotice d none) (besideWaits p) (fun _ h => Unregistered d h) h :=
  along_mono (fun _ _ ended => ended.1)
    (along_of_within (Unregistered d) (within_besideWaits p) (fun _ _ held _ => held.waits _)
      (fun _ _ held => held.waits _) (fun _ _ held kept => held.own kept)
      (fun _ _ held may => held.other may) (fun _ _ _ held => held) start)

/-- A lock request before the registration. -/
theorem along_lock {q : PartitionReq} {f : q.Resp → PartitionProg α} (start : Unregistered d h)
    (rest : ∀ r h, Unregistered d h →
      Along (meets d) (waitsForNotice d none) (f r) (fun _ _ => True) h) :
    Along (meets d) (waitsForNotice d none) (partitionCall q >>= f) (fun _ _ => True) h := by
  intro h' since
  have held := since.invariant (Unregistered d) (fun _ _ held may => held.other may) start
  exact ⟨held.waits _, fun r _ => rest r (.answer h' q r) held⟩

theorem Unregistered.register (held : Unregistered d h) :
    Watched d (.own h (h.now.register d)) := by
  change (h.now.partitionDoneMap.insert d false)[d]?.isSome = true ∧
    (Noticed d h ∨ Partitioned h ∧ h.now.notices = d :: h.now.notices →
      (h.now.partitionDoneMap.insert d false)[d]? = some true)
  rw [StdMap.get_insert_self]
  refine ⟨rfl, ?_⟩
  rintro (before | ⟨-, noticed⟩)
  · exact absurd before held.2
  · exact absurd noticed (notices_ne_cons rfl)

/-- A request after the registration. -/
theorem along_watched {q : PartitionReq} {f : q.Resp → PartitionProg α} (start : Watched d h)
    (rest : ∀ r h, Watched d h →
      Along (meets d) (waitsForNotice d none) (f r) (fun _ _ => True) h) :
    Along (meets d) (waitsForNotice d none) (partitionCall q >>= f) (fun _ _ => True) h := by
  intro h' since
  have held := since.invariant (Watched d) (fun _ _ held may => held.other may.2) start
  refine ⟨?_, fun r _ => rest r (.answer h' q r) held⟩
  unfold waitsForNotice
  split
  · exact fun _ noticed => held.2 noticed
  · trivial

/-- `WaitForPartitionDone` sleeps only while there was no notice. -/
theorem along_waitForPartitionDone (start : Unregistered d h) :
    Along (meets d) (waitsForNotice d none) (waitForPartitionDone d) (fun _ _ => True) h := by
  rw [waitForPartitionDone]
  refine along_lock start fun _ h₁ held₁ => ?_
  intro h₂ since
  have held₂ := since.invariant (Unregistered d) (fun _ _ held may => held.other may) held₁
  refine ⟨held₂.waits _, fun _ => ?_⟩
  refine along_watched held₂.register fun _ h₃ held₃ => ?_
  refine along_watched held₃ fun _ h₄ _ => ?_
  -- The wait is over.
  intro h₅ _
  refine ⟨trivial, fun _ => ?_⟩
  intro h₆ _
  exact ⟨trivial, fun _ _ => trivial⟩

/-- What the request owes. -/
theorem along_partitionAndWait (locked : ManagerProg ErrCode) (start : Unregistered d h) :
    Along (meets d) (waitsForNotice d none) (partitionAndWait d locked) (fun _ _ => True) h := by
  rw [partitionAndWait]
  refine along_lock start fun _ h₁ held₁ => ?_
  refine along_seq (along_besideWaits locked held₁) fun ret h₂ held₂ => ?_
  refine along_lock held₂ fun _ h₃ held₃ => ?_
  split
  · trivial
  · exact along_seq (along_waitForPartitionDone held₃) fun _ _ _ => trivial

theorem PartitionRequest.along [JsonLib] (request : PartitionRequest)
    (start : Unregistered request.diskId h) :
    Along (meets request.diskId) (waitsForNotice request.diskId none) request.prog
      (fun _ _ => True) h := by
  cases request with
  | create diskId params =>
      change Along _ _ (besideWaits (createPartitionChecked diskId params) >>= _) _ _
      refine along_seq (along_besideWaits _ start) fun checked h' held => ?_
      split
      · trivial
      · exact along_partitionAndWait _ held
  | delete diskId partitionNum =>
      change Along _ _ (besideWaits (deletePartitionChecked diskId) >>= _) _ _
      refine along_seq (along_besideWaits _ start) fun checked h' held => ?_
      split
      · trivial
      · exact along_partitionAndWait _ held

end

/-- In every run of the request beside uevents whose notices come in time, the flag is set when the
request waits and there was a notice. -/
theorem partition_notice_observed [JsonLib] (request : PartitionRequest) {s : PartitionState}
    {locked : Bool} (unregistered : s.partitionDoneMap[request.diskId]? = none) {ι : Type}
    [DecidableEq ι] {i : ι} {c : Tasks ι (Option DiskEvent) PartitionState Bool PartitionReq PartitionReq.Resp ErrCode}
    (run : TaskRun (noticesInTime request.diskId) noticedProg partitionEnv
      (Tasks.alone i ⟨none, .came s, request.prog⟩ s locked) c)
    {past : PartitionHistory} {next : Bool → PartitionProg ErrCode}
    (waits : c.pool i = some ⟨none, past, .call (.awaitPartitionDone request.diskId) next⟩)
    (noticed : past.Noticed request.diskId) :
    c.s.partitionDoneMap[request.diskId]? = some true := by
  have start : Unregistered request.diskId (.came s) := by
    refine ⟨fun registered => ?_, fun noticed => noticed.elim⟩
    have registered : s.partitionDoneMap[request.diskId]?.isSome = true := registered
    rw [unregistered] at registered
    cases registered
  have beside : c.Beside (noticesInTime request.diskId) NoticeStep
      (waitsForNotice request.diskId) i := by
    refine run.beside (Tasks.beside_alone (request.along start)) noticeStep_noticedProg
      fun op s => ?_
    cases op with
    | none => trivial
    | some e => exact along_trivial
  have flag := (beside.owed waits past .refl).1 rfl noticed
  rw [beside.now waits] at flag
  exact flag

/-! ## The first partition of a blank disk -/

/-- The daemon succeeds, and nobody waits longer than it has to. -/
def blankHandle (s : PartitionState) (locked : Bool) : (q : PartitionReq) →
    Option (q.Resp × Bool)
  | .manager q => some (blankAnswer q, locked)
  | .lockPartition => if locked then none else some ((), true)
  | .unlockPartition => some ((), false)
  | .awaitPartitionDone diskId =>
      if locked = false ∧ s.partitionDoneMap[diskId]? = some true then some (true, true) else none

theorem blankHandle_obeys {s : PartitionState} {locked locked' : Bool} {q : PartitionReq}
    {r : q.Resp} (handled : blankHandle s locked q = some (r, locked')) :
    partitionEnv s locked q r locked' := by
  cases q with
  | manager q =>
      cases handled
      rfl
  | lockPartition =>
      cases locked with
      | true => cases handled
      | false =>
          cases handled
          exact ⟨rfl, rfl⟩
  | unlockPartition =>
      cases handled
      rfl
  | awaitPartitionDone diskId =>
      change (if _ then _ else _) = _ at handled
      split at handled
      next ready =>
        cases handled
        exact ⟨ready.1, rfl, fun _ => ready.2⟩
      · cases handled

def blankRequest : PartitionRequest := .create stick.diskId ⟨1, 2048, 4194304, "vfat"⟩

instance (d : CppString) : (h : PartitionHistory) → Decidable (PartitionHistory.InTime d h)
  | .came _ => .isTrue trivial
  | .own _ _ => .isTrue trivial
  | .other h s => inferInstanceAs (Decidable (PartitionHistory.Partitioned h →
      ¬ PartitionHistory.Registered d h → s.notices ≠ d :: h.now.notices))
  | .answer _ _ _ => .isTrue trivial

instance (d : CppString) : (op : Option DiskEvent) → (h : PartitionHistory) →
    Decidable (noticesInTime d op h)
  | none, h => inferInstanceAs (Decidable (PartitionHistory.InTime d h))
  | some _, _ => .isTrue trivial

abbrev PartitionTasks : Type :=
  Tasks Bool (Option DiskEvent) PartitionState Bool PartitionReq PartitionReq.Resp ErrCode

/-- The table of the disk was read. -/
def blankTabled : ManagerState :=
  after (.getPartitionTable stick.diskId) blankAnswer blankPlugged

theorem blankTabled_settled : letI := tableJson; Settled blankTabled := by
  let _ := tableJson
  unfold blankTabled
  exact settled_after _ _ _ blankPlugged_settled

def blankKnown : PartitionState := ⟨blankTabled, ∅, []⟩

/-- The request comes. -/
def blankStart : PartitionTasks :=
  letI := tableJson
  Tasks.alone true ⟨none, .came blankKnown, blankRequest.prog⟩ blankKnown false

/-- The request goes on for some steps, then the uevent comes and is processed, and the request
goes on. -/
def blankSchedule (n : ℕ) : List (Sched Bool (Option DiskEvent)) :=
  List.replicate n (.run true) ++ .enter false (some (stickEvent .change)) ::
    List.replicate 9 (.run false) ++ List.replicate 3 (.run true)

theorem blank_plays (allowed : Option DiskEvent → PartitionHistory → Prop)
    [∀ op h, Decidable (allowed op h)] (schedule : List (Sched Bool (Option DiskEvent))) :
    letI := tableJson
    TaskRun allowed noticedProg partitionEnv blankStart
      (Tasks.playFair allowed noticedProg blankHandle blankStart schedule) := by
  let _ := tableJson
  have obeys : ∀ s w q r w', blankHandle s w q = some (r, w') → partitionEnv s w q r w' :=
    fun _ _ _ _ _ handled => blankHandle_obeys handled
  have first : TaskRun allowed noticedProg partitionEnv blankStart blankStart := .start
  exact first.playFair obeys schedule

/-- The uevent comes when the request waits. -/
def blankTimely : PartitionTasks :=
  letI := tableJson
  Tasks.playFair (noticesInTime stick.diskId) noticedProg blankHandle blankStart
    (blankSchedule 9 |>.take 19)

/-- The uevent comes when the daemon call has returned. -/
def blankLost : PartitionTasks :=
  letI := tableJson
  Tasks.playFair (fun _ _ => True) noticedProg blankHandle blankStart (blankSchedule 6)

/-- The request waits after a notice, with the flag as given. -/
def waitsAfterNotice (d : CppString) (flag : Bool) (c : PartitionTasks) : Bool :=
  match c.pool true with
  | some ⟨none, past, .call (.awaitPartitionDone d') _⟩ =>
      d' = d && decide (PartitionHistory.Noticed d past) && c.s.partitionDoneMap[d]? = some flag
  | _ => false

theorem waitsAfterNotice_task {d : CppString} {flag : Bool} {c : PartitionTasks}
    (waits : waitsAfterNotice d flag c = true) :
    ∃ past next, c.pool true = some ⟨none, past, .call (.awaitPartitionDone d) next⟩ ∧
      PartitionHistory.Noticed d past ∧ c.s.partitionDoneMap[d]? = some flag := by
  unfold waitsAfterNotice at waits
  split at waits
  next past d' next here =>
    obtain ⟨known, set⟩ := (Bool.and_eq_true _ _).mp waits
    obtain ⟨same, noticed⟩ := (Bool.and_eq_true _ _).mp known
    obtain rfl := of_decide_eq_true same
    exact ⟨past, next, here, of_decide_eq_true noticed, of_decide_eq_true set⟩
  · cases waits

theorem blankTimely_waits : waitsAfterNotice stick.diskId true blankTimely = true := by
  decide +kernel

theorem blankLost_waits : waitsAfterNotice stick.diskId false blankLost = true := by
  decide +kernel

/-- The uevent of the first partition is noticed. -/
theorem partition_notice_observed_blank :
    letI := tableJson
    TaskRun (noticesInTime stick.diskId) noticedProg partitionEnv blankStart blankTimely ∧
      blankTimely.s.partitionDoneMap[stick.diskId]? = some true := by
  let _ := tableJson
  have run : TaskRun (noticesInTime stick.diskId) noticedProg partitionEnv blankStart
      blankTimely := by
    unfold blankTimely
    exact blank_plays _ _
  obtain ⟨past, next, waits, noticed, -⟩ := waitsAfterNotice_task blankTimely_waits
  exact ⟨run, partition_notice_observed blankRequest (StdMap.get_empty _) run waits noticed⟩

/-- The notice comes after the daemon call and before the registration, and the request waits for
another one. -/
theorem partition_notice_lost :
    letI := tableJson
    Settled blankTabled ∧
      TaskRun (fun _ _ => True) noticedProg partitionEnv blankStart blankLost ∧
      ∃ past next, blankLost.pool true =
          some ⟨none, past, .call (.awaitPartitionDone stick.diskId) next⟩ ∧
        PartitionHistory.Noticed stick.diskId past ∧
        blankLost.s.partitionDoneMap[stick.diskId]? = some false := by
  let _ := tableJson
  refine ⟨blankTabled_settled, ?_, waitsAfterNotice_task blankLost_waits⟩
  unfold blankLost
  exact blank_plays _ _

end DiskManager
