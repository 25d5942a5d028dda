import DiskManager.Interact.Counter
import DiskManager.JsonCodec
import DiskManager.Provider.State

/-!
# Unloading the idle service

`CheckAndUnloadIfIdle` runs on a timer and unloads the ability when the manager holds nothing and no
callback of storage_daemon is pending. It holds `unloadUeventMutex_`, which `OnBlockDiskUevent`
takes as well; the other callbacks only count themselves.
-/

namespace DiskManager

open Interact

def hasManagedResources : ManagerProg Bool :=
  Prog.read fun s => !s.diskMap.isEmpty || !s.volumeMap.isEmpty

namespace Provider

def beginPendingStorageDaemonCallback : ProviderProg Unit :=
  Prog.modify fun s =>
    { s with pendingStorageDaemonCallbackCount := s.pendingStorageDaemonCallbackCount + 1 }

def endPendingStorageDaemonCallback : ProviderProg Unit :=
  Prog.modify fun s =>
    { s with pendingStorageDaemonCallbackCount := s.pendingStorageDaemonCallbackCount - 1 }

def storeIsUnloading (isUnloading : Bool) : ProviderProg Unit :=
  Prog.modify fun s => { s with isUnloading }

/-- `CheckAndUnloadIfIdle` under the mutex. -/
def checkAndUnloadLocked : ProviderProg Unit := do
  if (← Prog.read (·.idleMonitorStopped)) then
    return
  if (← onManager hasManagedResources) then
    return
  let pendingCallbacks ← Prog.read (·.pendingStorageDaemonCallbackCount)
  if 0 < pendingCallbacks then
    return
  storeIsUnloading true
  if !(← invoke .getSystemAbilityManager) then
    storeIsUnloading false
    return
  let ret ← invoke .unloadSystemAbility
  if ret ≠ E_OK then
    storeIsUnloading false

def checkAndUnloadIfIdle : ProviderProg ErrCode := do
  invoke .lockUnloadUevent
  checkAndUnloadLocked
  invoke .unlockUnloadUevent
  return E_OK

/-! ## The callbacks -/

/-- The work of a callback between `BeginPendingStorageDaemonCallback` and
`EndPendingStorageDaemonCallback`, which comes before each of its returns. -/
def whilePending (work : ProviderProg ErrCode) : ProviderProg ErrCode := do
  beginPendingStorageDaemonCallback
  let ret ← work
  endPendingStorageDaemonCallback
  return ret

def UEVENT_RAW_MAX_LEN : Nat := 4096

section

variable [JsonLib]

/-- `OnBlockDiskUevent` under the mutex. `e` is the event that is read from the message, nothing
when it is not that of a block disk. -/
def onBlockDiskUeventLocked (rawUeventMsg : CppString) (e : Option DiskEvent) :
    ProviderProg ErrCode := do
  if (← Prog.read (·.isUnloading)) then
    return E_SA_IS_UNLOADING
  whilePending do
    if !(← checkStorageDaemonPermission) then
      return E_PERMISSION_DENIED
    if rawUeventMsg.length > UEVENT_RAW_MAX_LEN then
      return E_PARAMS_INVALID
    if isFilePathInvalid rawUeventMsg then
      return E_PARAMS_INVALID
    match e with
    | none => return E_OK
    | some e => onManager e.prog

def onBlockDiskUevent (rawUeventMsg : CppString) (e : Option DiskEvent) :
    ProviderProg ErrCode := do
  if (← Prog.read (·.isUnloading)) then
    return E_SA_IS_UNLOADING
  invoke .lockUnloadUevent
  let ret ← onBlockDiskUeventLocked rawUeventMsg e
  invoke .unlockUnloadUevent
  return ret

end

/-- `ReportVolumeOpDiag`: what it reports goes to the radar. -/
def reportVolumeOpDiag (_opDiag : CppString) : ProviderProg ErrCode :=
  whilePending do
    if !(← checkStorageDaemonPermission) then
      return E_PERMISSION_DENIED
    return E_OK

def notifyMtpMounted (id path desc uuid fsType : CppString) : ProviderProg ErrCode :=
  whilePending do
    if !(← checkStorageDaemonPermission) then
      return E_PERMISSION_DENIED
    if !isVolumeIdValid id then
      return E_PARAMS_INVALID
    if !isUuidValid uuid then
      return E_PARAMS_INVALID
    if !isMountPathValid path then
      return E_PARAMS_INVALID
    match ← invoke (.realpath path) with
    | none => return E_PARAMS_INVALID
    | some realPath => onManager (DiskManager.notifyMtpMounted id realPath desc uuid fsType)

def notifyMtpUnmounted (id : CppString) (isBadRemove : Bool) : ProviderProg ErrCode :=
  whilePending do
    if !(← checkStorageDaemonPermission) then
      return E_PERMISSION_DENIED
    if !isVolumeIdValid id then
      return E_PARAMS_INVALID
    onManager (DiskManager.notifyMtpUnmounted id isBadRemove)

end Provider

/-- The timer and the callbacks of storage_daemon. -/
inductive IdleOp : Type
  | checkAndUnloadIfIdle
  | onBlockDiskUevent (rawUeventMsg : CppString) (e : Option DiskEvent)
  | reportVolumeOpDiag (opDiag : CppString)
  | notifyMtpMounted (id path desc uuid fsType : CppString)
  | notifyMtpUnmounted (id : CppString) (isBadRemove : Bool)

def IdleOp.prog [JsonLib] : IdleOp → ProviderProg ErrCode
  | .checkAndUnloadIfIdle => Provider.checkAndUnloadIfIdle
  | .onBlockDiskUevent rawUeventMsg e => Provider.onBlockDiskUevent rawUeventMsg e
  | .reportVolumeOpDiag opDiag => Provider.reportVolumeOpDiag opDiag
  | .notifyMtpMounted id path desc uuid fsType =>
      Provider.notifyMtpMounted id path desc uuid fsType
  | .notifyMtpUnmounted id isBadRemove => Provider.notifyMtpUnmounted id isBadRemove

/-- The world is whether the mutex is held. -/
def idleEnv : Env ProviderState Bool ProviderReq ProviderReq.Resp
  | _, held, .lockUnloadUevent, _, held' => held = false ∧ held' = true
  | _, _, .unlockUnloadUevent, _, held' => held' = false
  | _, held, _, _, held' => held' = held

/-! ## The window -/

/-- Neither a disk nor a volume. -/
def ProviderState.Idle (s : ProviderState) : Prop :=
  s.manager.diskMap.isEmpty = true ∧ s.manager.volumeMap.isEmpty = true

instance (s : ProviderState) : Decidable s.Idle := inferInstanceAs (Decidable (_ ∧ _))

abbrev pendingCallbacks (s : ProviderState) : ℤ := s.pendingStorageDaemonCallbackCount

/-- `UnloadSystemAbility` has returned. -/
def ProviderHistory.Unloaded (h : ProviderHistory) : Prop :=
  h.Answered fun q _ => (match q with | .unloadSystemAbility => true | _ => false) = true

/-- The second section of the timer reads the resources, the third one the counter. Between the two
no disk or volume comes; between the third and the call of `UnloadSystemAbility` no callback
begins. -/
def IdleOp.Calm : IdleOp → ProviderHistory → Prop
  | .checkAndUnloadIfIdle, .other h s =>
      (h.found.length = 2 → h.now.Idle → s.Idle) ∧
      (3 ≤ h.found.length → ¬ ProviderHistory.Unloaded h →
        pendingCallbacks s ≤ pendingCallbacks h.now)
  | _, _ => True

/-! ## The callbacks count themselves -/

/-- No disk and no volume comes, goes or changes. -/
def MapsKept (s s' : ProviderState) : Prop :=
  s'.manager.diskMap = s.manager.diskMap ∧ s'.manager.volumeMap = s.manager.volumeMap

theorem MapsKept.idle {s s' : ProviderState} (kept : MapsKept s s') (idle : s.Idle) : s'.Idle := by
  unfold ProviderState.Idle
  rw [kept.1, kept.2]
  exact idle

/-- The counter is the same. -/
abbrev PendingKept (s s' : ProviderState) : Prop := pendingCallbacks s' = pendingCallbacks s

theorem pendingKept_onManager {α : Type} (p : ManagerProg α) :
    Within PendingKept (onManager p) fun _ => True :=
  within_lift p fun _ _ => rfl

theorem within_invoke_bind {α : Type} {G : ProviderState → ProviderState → Prop}
    {q : ProviderReq} {f : q.Resp → ProviderProg α} {post : α → Prop}
    (rest : ∀ r, Within G (f r) post) : Within G (invoke q >>= f) post :=
  within_bind.mpr rest

theorem counted_whilePending {work : ProviderProg ErrCode}
    (within : Within PendingKept work fun _ => True) :
    Counted pendingCallbacks MapsKept (Provider.whilePending work) false := by
  have ended : ∀ ret : ErrCode, Counted pendingCallbacks MapsKept
      (Provider.endPendingStorageDaemonCallback >>= fun _ => pure ret) true :=
    fun ret s => .inr (.inr ⟨rfl, rfl, rfl⟩)
  have rest : Counted pendingCallbacks MapsKept (work >>= fun ret =>
      Provider.endPendingStorageDaemonCallback >>= fun _ => pure ret) true :=
    counted_bind within fun ret _ => ended ret
  exact fun s => .inr (.inl ⟨rfl, rfl, ⟨rfl, rfl⟩, rest⟩)

theorem counted_checkAndUnloadIfIdle :
    Counted pendingCallbacks MapsKept Provider.checkAndUnloadIfIdle false := by
  have calm : ∀ s : ProviderState, pendingCallbacks s = pendingCallbacks s ∧ MapsKept s s :=
    fun s => ⟨rfl, rfl, rfl⟩
  have stored : ∀ isUnloading, Within (fun s s' => PendingKept s s' ∧ MapsKept s s')
      (Provider.storeIsUnloading isUnloading) fun _ => True :=
    fun _ s => ⟨⟨rfl, rfl, rfl⟩, trivial⟩
  have locked : Within (fun s s' => PendingKept s s' ∧ MapsKept s s')
      Provider.checkAndUnloadLocked fun _ => True := by
    refine within_bind.mpr fun s => ⟨calm s, ?_⟩
    change Within _ (if _ then _ else _) _
    split
    · trivial
    refine within_bind.mpr fun s => ⟨calm s, ?_⟩
    change Within _ (if _ then _ else _) _
    split
    · trivial
    refine within_bind.mpr fun s => ⟨calm s, ?_⟩
    change Within _ (if _ then _ else _) _
    split
    · trivial
    refine within_seq (stored true) fun _ _ => within_invoke_bind fun given => ?_
    split
    · exact within_seq (stored false) fun _ _ => trivial
    refine within_invoke_bind fun ret => ?_
    split
    · exact stored false
    · trivial
  have rest : Counted pendingCallbacks MapsKept (Provider.checkAndUnloadLocked >>= fun _ =>
      invoke .unlockUnloadUevent >>= fun _ => pure E_OK) false :=
    counted_calm_bind locked fun _ _ _ => rfl
  exact fun _ => rest

theorem counted_idleOp [JsonLib] (op : IdleOp) :
    Counted pendingCallbacks MapsKept op.prog false := by
  cases op with
  | checkAndUnloadIfIdle => exact counted_checkAndUnloadIfIdle
  | onBlockDiskUevent rawUeventMsg e =>
      have locked : Counted pendingCallbacks MapsKept
          (Provider.onBlockDiskUeventLocked rawUeventMsg e) false := by
        refine fun s => .inl ⟨rfl, fun _ => ⟨rfl, rfl⟩, ?_⟩
        change Counted _ _ (if s.isUnloading then _ else _) _
        split
        · rfl
        refine counted_whilePending (within_invoke_bind fun allowed => ?_)
        split
        · trivial
        split
        · trivial
        split
        · trivial
        split
        · trivial
        · exact pendingKept_onManager _
      have rest : Counted pendingCallbacks MapsKept
          (Provider.onBlockDiskUeventLocked rawUeventMsg e >>= fun ret =>
            invoke .unlockUnloadUevent >>= fun _ => pure ret) false :=
        counted_seq locked fun ret _ => rfl
      refine fun s => .inl ⟨rfl, fun _ => ⟨rfl, rfl⟩, ?_⟩
      change Counted _ _ (if s.isUnloading then _ else _) _
      split
      · rfl
      · exact fun _ => rest
  | reportVolumeOpDiag opDiag =>
      refine counted_whilePending (within_invoke_bind fun allowed => ?_)
      split
      · trivial
      · trivial
  | notifyMtpMounted id path desc uuid fsType =>
      refine counted_whilePending (within_invoke_bind fun allowed => ?_)
      split
      · trivial
      split
      · trivial
      split
      · trivial
      split
      · trivial
      refine within_invoke_bind fun realPath => ?_
      split
      · trivial
      · exact pendingKept_onManager _
  | notifyMtpUnmounted id isBadRemove =>
      refine counted_whilePending (within_invoke_bind fun allowed => ?_)
      split
      · trivial
      split
      · trivial
      · exact pendingKept_onManager _

/-! ## The timer -/

/-- The ability is unloaded when there is nothing to manage and the counter is not above zero. -/
def IdleOp.UnloadsIdle : IdleOp → ProviderHistory → Move ProviderState ProviderReq → Prop
  | .checkAndUnloadIfIdle, h, .ask .unloadSystemAbility => h.now.Idle ∧ pendingCallbacks h.now ≤ 0
  | _, _, _ => True

/-- What the timer meets in the window: a section of a callback that is not counted changes no
map. -/
abbrev IdleOp.Meets (op : IdleOp) (h : ProviderHistory) : Prop :=
  op.Calm h ∧ h.OthersMake fun s s' => MapsKept s s' ∨ 1 ≤ pendingCallbacks s

section

open Provider

variable {h : ProviderHistory} {α : Type}

/-- The resources were read, and there were none. -/
structure ResourcesRead (h : ProviderHistory) : Prop where
  sections : h.found.length = 2
  loaded : ¬ ProviderHistory.Unloaded h
  idle : h.now.Idle

/-- The counter was read, and was not above zero. -/
structure CounterRead (h : ProviderHistory) : Prop where
  sections : 3 ≤ h.found.length
  loaded : ¬ ProviderHistory.Unloaded h
  idle : h.now.Idle
  none : pendingCallbacks h.now ≤ 0

theorem ResourcesRead.other {s : ProviderState} (read : ResourcesRead h)
    (meets : IdleOp.checkAndUnloadIfIdle.Meets (.other h s)) : ResourcesRead (.other h s) :=
  ⟨read.sections, read.loaded, meets.1.1 read.sections read.idle⟩

/-- While no callback begins the counter stays, and so nothing comes. -/
theorem CounterRead.other {s : ProviderState} (read : CounterRead h)
    (meets : IdleOp.checkAndUnloadIfIdle.Meets (.other h s)) : CounterRead (.other h s) := by
  have fewer : pendingCallbacks s ≤ pendingCallbacks h.now :=
    meets.1.2 read.sections read.loaded
  refine ⟨read.sections, read.loaded, ?_, fewer.trans read.none⟩
  rcases meets.2 with kept | counted
  · exact kept.idle read.idle
  · exact absurd counted (not_le.mpr (lt_of_le_of_lt read.none one_pos))

theorem unloaded_answer {q : ProviderReq} {r : q.Resp}
    (unloaded : ProviderHistory.Unloaded (.answer h q r)) (other : q ≠ .unloadSystemAbility) :
    ProviderHistory.Unloaded h := by
  rcases unloaded with now | before
  · cases q <;> simp at now other
  · exact before

theorem along_checkAndUnloadLocked (first : h.found = []) (loaded : ¬ ProviderHistory.Unloaded h) :
    Along IdleOp.checkAndUnloadIfIdle.Meets IdleOp.checkAndUnloadIfIdle.UnloadsIdle
      checkAndUnloadLocked (fun _ _ => True) h := by
  have stored : ∀ h, Along IdleOp.checkAndUnloadIfIdle.Meets
      IdleOp.checkAndUnloadIfIdle.UnloadsIdle (storeIsUnloading false) (fun _ _ => True) h :=
    fun _ _ _ => ⟨trivial, fun _ => trivial⟩
  have never : ∀ {h h' : ProviderHistory}, ¬ ProviderHistory.Unloaded h →
      h.Since IdleOp.checkAndUnloadIfIdle.Meets h' → ¬ ProviderHistory.Unloaded h' :=
    fun loaded since => since.invariant (fun h => ¬ ProviderHistory.Unloaded h)
      (fun _ _ held _ => held) loaded
  rw [checkAndUnloadLocked]
  refine along_read_bind fun h₁ since₁ => ⟨trivial, ?_⟩
  split
  · trivial
  have loaded₁ : ¬ ProviderHistory.Unloaded h₁ := never loaded since₁
  refine along_read_bind fun h₂ since₂ => ⟨trivial, ?_⟩
  have loaded₁ : ¬ ProviderHistory.Unloaded (.own h₁ h₁.now) := loaded₁
  have loaded₂ : ¬ ProviderHistory.Unloaded h₂ := never loaded₁ since₂
  change Along _ _ (if _ then _ else _) _ _
  split
  · trivial
  next idle =>
  have read : ResourcesRead (.own h₂ h₂.now) := by
    refine ⟨?_, loaded₂, ?_⟩
    · change (h₂.found ++ [h₂.now]).length = 2
      rw [since₂.found]
      change ((h₁.found ++ [h₁.now]) ++ [h₂.now]).length = 2
      rw [since₁.found, first]
      rfl
    · change h₂.now.Idle
      simpa [ProviderState.Idle] using idle
  refine along_read_bind fun h₃ since₃ => ⟨trivial, ?_⟩
  have read := since₃.invariant ResourcesRead (fun _ _ held meets => held.other meets) read
  split
  · trivial
  next none =>
  have counter : CounterRead (.own h₃ h₃.now) := by
    refine ⟨?_, read.loaded, read.idle, not_lt.mp none⟩
    change 3 ≤ (h₃.found ++ [h₃.now]).length
    rw [List.length_append, read.sections]
    exact le_refl _
  have counter' : ∀ {h h' : ProviderHistory}, CounterRead h →
      h.Since IdleOp.checkAndUnloadIfIdle.Meets h' → CounterRead h' :=
    fun held since => since.invariant CounterRead (fun _ _ held meets => held.other meets) held
  intro h₄ since₄
  refine ⟨trivial, fun _ => ?_⟩
  have counter : CounterRead (.own h₄ { h₄.now with isUnloading := true }) := by
    have before := counter' counter since₄
    refine ⟨?_, before.loaded, before.idle, before.none⟩
    change 3 ≤ (h₄.found ++ [h₄.now]).length
    rw [List.length_append]
    exact Nat.le_add_right_of_le before.sections
  intro h₅ since₅
  refine ⟨trivial, fun given _ => ?_⟩
  have counter : CounterRead (.answer h₅ .getSystemAbilityManager given) := by
    have before := counter' counter since₅
    exact ⟨before.sections, fun unloaded => before.loaded (unloaded_answer unloaded nofun),
      before.idle, before.none⟩
  change Along _ _ (if _ then _ else _) _ _
  split
  · exact along_seq (stored _) fun _ _ _ => trivial
  intro h₆ since₆
  have before := counter' counter since₆
  refine ⟨⟨before.idle, before.none⟩, fun ret _ => ?_⟩
  change Along _ _ (if _ then _ else _) _ _
  split
  · exact stored _
  · trivial

theorem along_idleOp [JsonLib] (op : IdleOp) (s : ProviderState) :
    Along op.Meets op.UnloadsIdle op.prog (fun _ _ => True) (.came s) := by
  cases op with
  | checkAndUnloadIfIdle =>
      intro h since
      refine ⟨trivial, fun _ _ => ?_⟩
      have first : History.found (.answer h .lockUnloadUevent ()) = [] := since.found
      have loaded : ¬ ProviderHistory.Unloaded h :=
        since.invariant (fun h => ¬ ProviderHistory.Unloaded h) (fun _ _ held _ => held) id
      have loaded : ¬ ProviderHistory.Unloaded (.answer h .lockUnloadUevent ()) :=
        fun unloaded => loaded (unloaded_answer unloaded nofun)
      have rest : Along IdleOp.checkAndUnloadIfIdle.Meets IdleOp.checkAndUnloadIfIdle.UnloadsIdle
          (checkAndUnloadLocked >>= fun _ => invoke .unlockUnloadUevent >>= fun _ => pure E_OK)
          (fun _ _ => True) (.answer h .lockUnloadUevent ()) :=
        along_seq (along_checkAndUnloadLocked first loaded) fun _ _ _ _ _ =>
          ⟨trivial, fun _ _ => trivial⟩
      exact rest
  | _ => exact along_trivial

end

/-- The ability is only unloaded when the maps are empty and no callback is between its begin and
its end. -/
theorem unload_is_idle [JsonLib] {ι : Type} [DecidableEq ι]
    {c₀ c : Tasks ι IdleOp ProviderState Bool ProviderReq ProviderReq.Resp ErrCode}
    (quiet : c₀.quiet) (nonePending : c₀.s.pendingStorageDaemonCallbackCount = 0)
    (run : TaskRun IdleOp.Calm IdleOp.prog idleEnv c₀ c) {i : ι} {past : ProviderHistory}
    {next : ErrCode → ProviderProg ErrCode}
    (unloads : c.pool i = some ⟨.checkAndUnloadIfIdle, past, .call .unloadSystemAbility next⟩) :
    c.s.Idle ∧ ∀ j, ¬ c.IsCounted pendingCallbacks j := by
  obtain ⟨counting, run⟩ := run.counted quiet nonePending counted_idleOp
  have idle := (run.along quiet along_idleOp unloads past .refl).1
  have now : past.now = c.s := counting.now unloads
  have idle : past.now.Idle ∧ pendingCallbacks past.now ≤ 0 := idle
  rw [now] at idle
  refine ⟨idle.1, fun j counted => ?_⟩
  exact absurd (counting.pos counted) (not_le.mpr (lt_of_le_of_lt idle.2 one_pos))

/-! ## The timer beside a callback -/

abbrev IdleTasks : Type :=
  Tasks Bool IdleOp ProviderState Bool ProviderReq ProviderReq.Resp ErrCode

instance (h : ProviderHistory) : Decidable (ProviderHistory.Unloaded h) :=
  inferInstanceAs (Decidable (History.Answered _ h))

instance IdleOp.decidableCalm : (op : IdleOp) → (h : ProviderHistory) → Decidable (op.Calm h)
  | .checkAndUnloadIfIdle, .other _ _ => inferInstanceAs (Decidable (_ ∧ _))
  | .checkAndUnloadIfIdle, .came _ => .isTrue trivial
  | .checkAndUnloadIfIdle, .own _ _ => .isTrue trivial
  | .checkAndUnloadIfIdle, .answer _ _ _ => .isTrue trivial
  | .onBlockDiskUevent _ _, _ => .isTrue trivial
  | .reportVolumeOpDiag _, _ => .isTrue trivial
  | .notifyMtpMounted _ _ _ _ _, _ => .isTrue trivial
  | .notifyMtpUnmounted _ _, _ => .isTrue trivial

/-- Every request is granted, the mutex to one operation at a time. -/
def idleHandle (_ : ProviderState) (held : Bool) : (q : ProviderReq) → Option (q.Resp × Bool)
  | .lockUnloadUevent => if held then none else some ((), true)
  | .unlockUnloadUevent => some ((), false)
  | q => some (grantingAnswer q, held)

theorem idleHandle_obeys {s : ProviderState} {held : Bool} {q : ProviderReq} {r : q.Resp}
    {held' : Bool} (handled : idleHandle s held q = some (r, held')) : idleEnv s held q r held' := by
  cases q with
  | lockUnloadUevent =>
      cases held
      · cases handled
        exact ⟨rfl, rfl⟩
      · cases handled
  | _ =>
      cases handled
      exact rfl

def bootedTasks : IdleTasks := ⟨fun _ => none, .boot, false⟩

theorem booted_plays (allowed : IdleOp → ProviderHistory → Prop)
    [∀ op h, Decidable (allowed op h)] (schedule : List (Sched Bool IdleOp)) :
    letI := tableJson
    TaskRun allowed IdleOp.prog idleEnv bootedTasks
      (Tasks.playFair allowed IdleOp.prog idleHandle bootedTasks schedule) := by
  let _ := tableJson
  have obeys : ∀ s w q r w', idleHandle s w q = some (r, w') → idleEnv s w q r w' :=
    fun _ _ _ _ _ handled => idleHandle_obeys handled
  have first : TaskRun allowed IdleOp.prog idleEnv bootedTasks bootedTasks := .start
  exact first.playFair obeys schedule

def cameraMounted : IdleOp :=
  .notifyMtpMounted "mtp-1-5" "/mnt/data/external/camera" "camera" "0451-cdef" "mtpfs"

/-- The timer goes on for `n` sections and requests, a callback for `m`, and then the timer up to
the call. -/
def idleSchedule (callback : IdleOp) (n m : ℕ) : List (Sched Bool IdleOp) :=
  .enter true .checkAndUnloadIfIdle :: List.replicate n (.run true) ++
    .enter false callback :: List.replicate m (.run false) ++ List.replicate (6 - n) (.run true)

/-- A step that `allowed` excludes waits. -/
def idleWith (allowed : IdleOp → ProviderHistory → Prop) [∀ op h, Decidable (allowed op h)]
    (callback : IdleOp) (n m : ℕ) : IdleTasks :=
  letI := tableJson
  Tasks.playFair allowed IdleOp.prog idleHandle bootedTasks (idleSchedule callback n m)

/-- The timer is about to unload the ability. -/
def unloadsNext (c : IdleTasks) : Bool :=
  match c.pool true with
  | some ⟨.checkAndUnloadIfIdle, _, .call .unloadSystemAbility _⟩ => true
  | _ => false

theorem unloadsNext_task {c : IdleTasks} (unloads : unloadsNext c = true) :
    ∃ past next, c.pool true =
      some ⟨.checkAndUnloadIfIdle, past, .call .unloadSystemAbility next⟩ := by
  unfold unloadsNext at unloads
  split at unloads
  next past next here => exact ⟨past, next, here⟩
  · cases unloads

/-- The report comes when the timer is about to unload the ability. -/
def reportWaits : IdleTasks := idleWith IdleOp.Calm (.reportVolumeOpDiag "op") 4 1

theorem reportWaits_unloads : unloadsNext reportWaits = true := by
  decide +kernel

theorem unload_is_idle_report :
    letI := tableJson
    TaskRun IdleOp.Calm IdleOp.prog idleEnv bootedTasks reportWaits ∧
      reportWaits.s.Idle ∧ ∀ j, ¬ reportWaits.IsCounted pendingCallbacks j := by
  let _ := tableJson
  have run : TaskRun IdleOp.Calm IdleOp.prog idleEnv bootedTasks reportWaits := by
    unfold reportWaits idleWith
    exact booted_plays _ _
  obtain ⟨past, next, unloads⟩ := unloadsNext_task reportWaits_unloads
  exact ⟨run, unload_is_idle (fun _ => rfl) rfl run unloads⟩

/-- The camera comes between the two reads of the timer, and is there when its callback has ended. -/
def cameraComes : IdleTasks := idleWith (fun _ _ => True) cameraMounted 3 7

/-- The report comes after both. -/
def reportComes : IdleTasks := idleWith (fun _ _ => True) (.reportVolumeOpDiag "op") 4 1

theorem cameraComes_unloads : unloadsNext cameraComes = true := by
  decide +kernel

theorem cameraComes_holds : cameraComes.s.manager.volumeMap.isEmpty = false := by
  decide +kernel

theorem reportComes_unloads : unloadsNext reportComes = true := by
  decide +kernel

theorem reportComes_counted : reportComes.IsCounted pendingCallbacks false := by
  have there : ((reportComes.pool false).map fun task => task.past.raised pendingCallbacks) =
      some true := by decide +kernel
  exact Option.map_eq_some_iff.mp there

/-- The ability is unloaded with a volume, and beside a callback. -/
theorem unloads_in_use :
    letI := tableJson
    (TaskRun (fun _ _ => True) IdleOp.prog idleEnv bootedTasks cameraComes ∧
      (∃ past next, cameraComes.pool true =
        some ⟨.checkAndUnloadIfIdle, past, .call .unloadSystemAbility next⟩) ∧
      ¬ cameraComes.s.Idle) ∧
    (TaskRun (fun _ _ => True) IdleOp.prog idleEnv bootedTasks reportComes ∧
      (∃ past next, reportComes.pool true =
        some ⟨.checkAndUnloadIfIdle, past, .call .unloadSystemAbility next⟩) ∧
      ∃ j, reportComes.IsCounted pendingCallbacks j) := by
  let _ := tableJson
  refine ⟨⟨?_, unloadsNext_task cameraComes_unloads, ?_⟩,
    ⟨?_, unloadsNext_task reportComes_unloads, ⟨false, reportComes_counted⟩⟩⟩
  · unfold cameraComes idleWith
    exact booted_plays _ _
  · intro idle
    rw [ProviderState.Idle, cameraComes_holds] at idle
    cases idle.2
  · unfold reportComes idleWith
    exact booted_plays _ _

end DiskManager
