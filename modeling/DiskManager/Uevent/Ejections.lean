import DiskManager.Manager.PublicEvents
import DiskManager.Uevent.Coverage

/-!
# Ejected volumes

`Unmount`, `ForceUnmount` and `TryToFix` announce with VOLUME_EJECT that they unmount a volume. What
is told of the volume before they return, and what a listener believes of it then.
-/

namespace DiskManager

open Interact

/-! ## What listeners hear -/

def PublicEvent.volume? : PublicEvent → Option VolumeEvent
  | .volume e => some e
  | _ => none

/-- The events about volumes. -/
def volumeEvents (log : List PublicEvent) : List VolumeEvent := log.filterMap PublicEvent.volume?

theorem aside_volumeEvents {log : List PublicEvent} (aside : ∀ e ∈ log, e.aside) :
    ∀ e ∈ volumeEvents log, e.aside := by
  intro e mem
  obtain ⟨told, there, same⟩ := List.mem_filterMap.mp mem
  cases told with
  | volume e' =>
      cases same
      exact aside (.volume e) there
  | _ => cases same

/-- VOLUME_EJECT without a result. -/
def VolumeEvent.ejects (e : VolumeEvent) : Bool :=
  e.volumeState = .ejecting && e.umountResult.isEmpty

/-- The event tells how the unmount of volume `v` went. -/
def VolumeEvent.answers (v : CppString) (e : VolumeEvent) : Bool :=
  e.id = v && (e.volumeState = .unmounted ||
    e.volumeState = .ejecting && e.umountResult = "umountFail".toList)

/-- Each VOLUME_EJECT without a result is followed by exactly one answer, which is VOLUME_UNMOUNTED
where the unmount succeeded. -/
def EjectsAnswered (unmounted : Bool) (events : List VolumeEvent) : Prop :=
  ∀ before e after, events = before ++ e :: after → e.ejects = true →
    ∃ answer, after.filter (VolumeEvent.answers e.id) = [answer] ∧
      (answer.volumeState = .unmounted ↔ unmounted = true)

/-- What a listener believes of one volume. -/
structure Belief : Type where
  volumeState : VolumeState
  ejecting : Bool

def Belief.hear (v : CppString) (belief : Belief) (e : VolumeEvent) : Belief :=
  if e.id = v then
    if e.volumeState = .ejecting then { belief with ejecting := e.umountResult.isEmpty }
    else ⟨e.volumeState, false⟩
  else belief

/-- The listener replays the events. -/
def Belief.replay (v : CppString) (belief : Belief) (events : List VolumeEvent) : Belief :=
  events.foldl (Belief.hear v) belief

/-- Events that are beside the point begin no eject. -/
theorem replay_aside {v : CppString} {events : List VolumeEvent} {belief : Belief}
    (aside : ∀ e ∈ events, e.aside) (settled : belief.ejecting = false) :
    (belief.replay v events).ejecting = false := by
  induction events generalizing belief with
  | nil => exact settled
  | cons e events ih =>
      refine ih (fun e' mem => aside e' (List.mem_cons_of_mem e mem)) ?_
      unfold Belief.hear
      split
      · rw [if_neg (aside e List.mem_cons_self).1]
      · exact settled

theorem answered_aside {unmounted : Bool} {events : List VolumeEvent}
    (aside : ∀ e ∈ events, e.aside) : EjectsAnswered unmounted events := by
  rintro before e after rfl ejects
  have ejecting : e.volumeState = .ejecting := by
    unfold VolumeEvent.ejects at ejects
    simp only [Bool.and_eq_true, decide_eq_true_eq] at ejects
    exact ejects.1
  exact absurd ejecting (aside e (by simp)).1

/-- An eject with nothing to the point after it stays open. -/
theorem not_answered_of_aside {unmounted : Bool} {v : CppString} {events : List VolumeEvent}
    (aside : ∀ e ∈ events, e.aside) :
    ¬ EjectsAnswered unmounted (⟨.ejecting, v, []⟩ :: events) := by
  intro answered
  obtain ⟨answer, found, -⟩ := answered [] ⟨.ejecting, v, []⟩ events rfl rfl
  have mem : answer ∈ events.filter (VolumeEvent.answers v) := by
    rw [found]
    exact List.mem_singleton_self answer
  obtain ⟨there, answers⟩ := List.mem_filter.mp mem
  obtain ⟨notEjecting, notUnmounted⟩ := aside answer there
  simp [VolumeEvent.answers, notEjecting, notUnmounted] at answers

/-! ## Requests -/

inductive EjectRequest : Type
  | unmount (volumeId : CppString)
  | forceUnmount (volumeId : CppString)
  | tryToFix (volumeId : CppString)

def EjectRequest.volumeId : EjectRequest → CppString
  | .unmount volumeId => volumeId
  | .forceUnmount volumeId => volumeId
  | .tryToFix volumeId => volumeId

def EjectRequest.prog [JsonLib] : EjectRequest → ManagerProg ErrCode
  | .unmount volumeId => DiskManager.unmount volumeId
  | .forceUnmount volumeId => DiskManager.forceUnmount volumeId
  | .tryToFix volumeId => DiskManager.tryToFix volumeId

/-- The request only unmounts, so its result is that of the unmount. -/
def EjectRequest.onlyUnmounts : EjectRequest → Bool
  | .tryToFix _ => false
  | _ => true

/-- A request that returned: the record it found, its result, and the events of its time. -/
structure EjectOutcome : Type where
  request : EjectRequest
  record : Option VolumeExternal
  err : ErrCode
  events : List VolumeEvent

/-- The outcome of one request in memory `s`. -/
def EjectRequest.outcome (request : EjectRequest) (s : ManagerState) (err : ErrCode)
    (log : List PublicEvent) : EjectOutcome :=
  ⟨request, s.volumeMap[request.volumeId]?, err, volumeEvents log⟩

/-- The listener is told how the unmount went, whatever else it hears. -/
def EjectOutcome.Resolved (o : EjectOutcome) : Prop :=
  ∃ unmounted : Bool, EjectsAnswered unmounted o.events ∧
    (o.request.onlyUnmounts = true → (unmounted = true ↔ o.err = E_OK)) ∧
    ∀ belief : Belief, belief.ejecting = false →
      (belief.replay o.request.volumeId o.events).ejecting = false ∧
      (o.request.onlyUnmounts = true →
        (belief.replay o.request.volumeId o.events).volumeState =
          if unmounted then .unmounted else belief.volumeState)

/-- A mounted volume is repaired. -/
def EjectOutcome.repairsMounted (o : EjectOutcome) : Prop :=
  o.request.onlyUnmounts = false ∧
    ∃ r ∈ o.record, r.state = .damagedMounted ∨ r.state = .mounted

/-- The requests that answer to anything the daemon says, one after another, with what each of them
left. -/
inductive EjectRuns [JsonLib] (s₀ : ManagerState) : ManagerState → List EjectOutcome → Prop
  | start : EjectRuns s₀ s₀ []
  | next {s s' : ManagerState} {outcomes : List EjectOutcome} {request : EjectRequest}
    {err : ErrCode} {log : List PublicEvent} :
    EjectRuns s₀ s outcomes →
    Returns (publishing fun _ _ => True) request.prog s [] err s' log →
    EjectRuns s₀ s' (outcomes ++ [request.outcome s err log])

/-! ## Each request -/

/-- One event answers the one before it. -/
theorem answered_pair {unmounted : Bool} {eject answer : VolumeEvent}
    (answers : answer.answers eject.id = true) (last : answer.ejects = false)
    (tells : answer.volumeState = .unmounted ↔ unmounted = true) :
    EjectsAnswered unmounted [eject, answer] := by
  intro before e after split ejects
  rcases before with _ | ⟨e₁, _ | ⟨e₂, before⟩⟩
  · simp only [List.nil_append, List.cons.injEq] at split
    obtain ⟨rfl, rfl⟩ := split
    exact ⟨answer, List.filter_cons_of_pos answers, tells⟩
  · simp only [List.cons_append, List.nil_append, List.cons.injEq] at split
    obtain ⟨-, rfl, -⟩ := split
    rw [last] at ejects
    cases ejects
  · have lengths := congrArg List.length split
    simp at lengths

/-- How `Unmount` and `ForceUnmount` end: nothing was begun, or the listener is told. -/
theorem resolved_of_told {request : EjectRequest} {record : Option VolumeExternal} {err : ErrCode}
    {log : List PublicEvent}
    (told : err ≠ E_OK ∧ log = [] ∨ UnmountTold request.volumeId err log) :
    EjectOutcome.Resolved ⟨request, record, err, volumeEvents log⟩ := by
  rcases told with ⟨bad, rfl⟩ | told
  · have answered : EjectsAnswered false [] := answered_aside fun e mem => (by cases mem)
    refine ⟨false, answered, fun _ => ?_, fun belief settled => ?_⟩
    · simp [bad]
    · exact ⟨settled, fun _ => rfl⟩
  cases told with
  | unmounted ok =>
      refine ⟨true, answered_pair ?_ rfl (by simp), fun _ => by simp [ok], fun belief _ => ?_⟩
      · simp [VolumeEvent.answers]
      · simp [Belief.replay, Belief.hear, volumeEvents, PublicEvent.volume?]
  | failed bad =>
      refine ⟨false, answered_pair ?_ rfl (by simp), fun _ => by simp [bad], fun belief _ => ?_⟩
      · simp [VolumeEvent.answers]
      · simp [Belief.replay, Belief.hear, volumeEvents, PublicEvent.volume?]

theorem resolved_of_aside {v : CppString} {record : Option VolumeExternal} {err : ErrCode}
    {log : List PublicEvent} (aside : ∀ e ∈ log, e.aside) :
    EjectOutcome.Resolved ⟨.tryToFix v, record, err, volumeEvents log⟩ := by
  have asides := aside_volumeEvents aside
  refine ⟨true, answered_aside asides, fun no => (by cases no), fun belief settled => ?_⟩
  exact ⟨replay_aside asides settled, fun no => (by cases no)⟩

section

variable [JsonLib] {s : ManagerState}

theorem wp_unmount_told {volumeId : CppString} (ids : KeyIds s) :
    wp (.ofEnv (publishing fun _ _ => True)) (unmount volumeId)
      (fun err _ log => err ≠ E_OK ∧ log = [] ∨ UnmountTold volumeId err log) s [] := by
  rw [unmount, findVolume]
  apply wp_look_bind
  split
  · exact .inl ⟨by decide, rfl⟩
  next vol found =>
  split
  · exact .inl ⟨by decide, rfl⟩
  have id := ids _ _ found
  subst id
  refine wp_mono ?_ (wp_doUnmountVolume_told (Option.isSome_iff_exists.mpr ⟨vol, found⟩))
  rintro err s' _ ⟨log, rfl, told⟩
  exact .inr told

theorem wp_forceUnmount_told {volumeId : CppString} (ids : KeyIds s) :
    wp (.ofEnv (publishing fun _ _ => True)) (forceUnmount volumeId)
      (fun err _ log => err ≠ E_OK ∧ log = [] ∨ UnmountTold volumeId err log) s [] := by
  rw [forceUnmount, findVolume]
  apply wp_look_bind
  split
  · exact .inl ⟨by decide, rfl⟩
  next vol found =>
  have id := ids _ _ found
  subst id
  refine wp_mono ?_ (wp_doUnmountVolume_told (Option.isSome_iff_exists.mpr ⟨vol, found⟩))
  rintro err s' _ ⟨log, rfl, told⟩
  exact .inr told

/-- A repair answers no eject, and begins one just when the volume is mounted. -/
theorem wp_tryToFix_told {volumeId : CppString} :
    wp (.ofEnv (publishing fun _ _ => True)) (tryToFix volumeId)
      (fun err _ log => (EjectRequest.outcome (.tryToFix volumeId) s err log).Resolved ↔
        ¬ (EjectRequest.outcome (.tryToFix volumeId) s err log).repairsMounted) s [] := by
  have begun : ∀ {err : ErrCode} {vol : VolumeExternal} {log : List PublicEvent},
      s.volumeMap[volumeId]? = some vol → (vol.state = .damagedMounted ∨ vol.state = .mounted) →
      (∀ e ∈ log, e.aside) →
      ((EjectRequest.outcome (.tryToFix volumeId) s err
          (.volume ⟨.ejecting, vol.id, []⟩ :: log)).Resolved ↔
        ¬ (EjectRequest.outcome (.tryToFix volumeId) s err
          (.volume ⟨.ejecting, vol.id, []⟩ :: log)).repairsMounted) := by
    intro err vol log found mounted aside
    refine iff_of_false ?_ (not_not_intro ⟨rfl, vol, found, mounted⟩)
    rintro ⟨unmounted, answered, -⟩
    exact not_answered_of_aside (aside_volumeEvents aside) answered
  rw [tryToFix, findVolume]
  apply wp_look_bind
  split
  next missing =>
    refine iff_of_true (resolved_of_aside fun e mem => (by cases mem)) ?_
    rintro ⟨-, r, found, -⟩
    rw [EjectRequest.outcome, EjectRequest.volumeId, missing] at found
    cases found
  next vol found =>
  split
  next mounted =>
    dsimp only
    refine wp_notifyVolumeEjecting_told ?_
    refine wp_silent_bind (reads_unmountVolumeMountPoints _ _)
      (asks_mountPoints (fun _ _ _ => rfl) (fun _ => rfl) _ _) fun umErr _ => ?_
    split
    · exact wp_bind.mpr ⟨trivial, begun found mounted fun e mem => (by cases mem)⟩
    · refine wp_bind.mpr ⟨trivial, wp_done.mpr (wp_mono ?_ wp_fixUnmounted_told)⟩
      rintro err s' _ ⟨log, rfl, aside⟩
      exact begun found mounted aside
  next idle =>
    refine wp_mono ?_ wp_fixUnmounted_told
    rintro err s' _ ⟨log, rfl, aside⟩
    refine iff_of_true (resolved_of_aside aside) ?_
    rintro ⟨-, r, there, mounted⟩
    rw [EjectRequest.outcome, EjectRequest.volumeId, found] at there
    cases there
    exact idle mounted

/-- The listener is told how it went just when it is no mounted volume that is repaired. -/
theorem wp_ejectRequest_told {request : EjectRequest} (ids : KeyIds s) :
    wp (.ofEnv (publishing fun _ _ => True)) request.prog
      (fun err _ log => (request.outcome s err log).Resolved ↔
        ¬ (request.outcome s err log).repairsMounted) s [] := by
  have unmounts : ∀ {err : ErrCode} {log : List PublicEvent}, request.onlyUnmounts = true →
      (err ≠ E_OK ∧ log = [] ∨ UnmountTold request.volumeId err log) →
      ((request.outcome s err log).Resolved ↔ ¬ (request.outcome s err log).repairsMounted) := by
    intro err log only told
    refine iff_of_true (resolved_of_told told) fun repairs => ?_
    exact absurd repairs.1 (by rw [EjectRequest.outcome, only]; decide)
  cases request with
  | unmount volumeId =>
      exact wp_mono (fun err _ log told => unmounts rfl told) (wp_unmount_told ids)
  | forceUnmount volumeId =>
      exact wp_mono (fun err _ log told => unmounts rfl told) (wp_forceUnmount_told ids)
  | tryToFix volumeId => exact wp_tryToFix_told

theorem EjectRequest.filed (request : EjectRequest) :
    Keeps (FiledAs WellPlaced WellNamed fun _ => True) request.prog fun _ => True := by
  cases request with
  | unmount volumeId => exact filed_unmount volumeId
  | forceUnmount volumeId => exact filed_forceUnmount volumeId
  | tryToFix volumeId => exact filed_tryToFix volumeId

theorem EjectRuns.filed {s₀ : ManagerState} {outcomes : List EjectOutcome}
    (filed : FiledAs WellPlaced WellNamed (fun _ => True) s₀) (run : EjectRuns s₀ s outcomes) :
    FiledAs WellPlaced WellNamed (fun _ => True) s := by
  induction run with
  | start => exact filed
  | @next s s' outcomes request err log before returned ih =>
      have kept : wp (.ofEnv (publishing fun _ _ => True)) request.prog
          (fun _ s' _ => FiledAs WellPlaced WellNamed (fun _ => True) s' ∧ True) s [] :=
        wp_of_free (wp_of_keeps request.filed ih) trivial trivial
      exact (wp_returns kept returned).1

/-! ## Runs -/

/-- In a run of these requests, the listener is told how an unmount went except where a mounted
volume is repaired. -/
theorem ejects_resolved_iff {s₀ : ManagerState} {outcomes : List EjectOutcome}
    (settled : Settled s₀) (run : EjectRuns s₀ s outcomes) :
    ∀ o ∈ outcomes, o.Resolved ↔ ¬ o.repairsMounted := by
  have filed := settled.reachable.filed
  induction run with
  | start => intro o mem; cases mem
  | @next s s' outcomes request err log before returned ih =>
      intro o mem
      rcases List.mem_append.mp mem with old | new
      · exact ih o old
      · rw [List.mem_singleton.mp new]
        have ids : KeyIds s := keyIds_index.mpr (sound_of_filed (before.filed filed)).keys
        exact wp_returns (wp_ejectRequest_told ids) returned

end

/-- The outcome of a request to the stick that was just plugged in. -/
def stickOutcome (answer : (q : Req) → q.Resp) (request : EjectRequest) : EjectOutcome :=
  letI := tableJson
  let ended := request.prog.exec (fun log q => (answer q, log ++ q.publicEvents)) stickPlugged []
  request.outcome stickPlugged ended.1 ended.2.2

theorem stickOutcome_runs (answer : (q : Req) → q.Resp) (request : EjectRequest) :
    letI := tableJson; ∃ s, EjectRuns stickPlugged s [stickOutcome answer request] := by
  let _ := tableJson
  let handle : List PublicEvent → (q : Req) → q.Resp × List PublicEvent :=
    fun log q => (answer q, log ++ q.publicEvents)
  have returned : Returns (publishing fun _ _ => True) request.prog stickPlugged []
      (request.prog.exec handle stickPlugged []).1 (request.prog.exec handle stickPlugged []).2.1
      (request.prog.exec handle stickPlugged []).2.2 :=
    Prog.exec_returns (fun _ _ _ => ⟨trivial, rfl⟩) _ _ _
  exact ⟨_, .next .start returned⟩

theorem stickOutcome_unmounts :
    (stickOutcome stickFs (.unmount "vol-8-1")).repairsMounted → False := fun repairs => by
  cases repairs.1

/-- The stick that was just plugged in is unmounted. -/
theorem ejects_resolved_stick :
    (stickOutcome stickFs (.unmount "vol-8-1")).Resolved := by
  let _ := tableJson
  obtain ⟨s, run⟩ := stickOutcome_runs stickFs (.unmount "vol-8-1")
  exact (ejects_resolved_iff stickPlugged_settled run _ List.mem_cons_self).mpr
    stickOutcome_unmounts

/-- The stick is in use. -/
def stickBusy : (q : Req) → q.Resp
  | .unmount .. => DISK_MGR_ERR
  | q => stickFs q

theorem stickBusy_events : (stickOutcome stickBusy (.tryToFix "vol-8-1")).events =
    [⟨.ejecting, "vol-8-1".toList, []⟩] := by
  decide +kernel

/-- Repairing the mounted stick while it is in use ends with the eject still open. -/
theorem eject_left_open :
    letI := tableJson
    Settled stickPlugged ∧ ∃ s outcomes o, EjectRuns stickPlugged s outcomes ∧ o ∈ outcomes ∧
      ¬ o.Resolved := by
  let _ := tableJson
  obtain ⟨s, run⟩ := stickOutcome_runs stickBusy (.tryToFix "vol-8-1")
  refine ⟨stickPlugged_settled, s, _, _, run, List.mem_cons_self, ?_⟩
  rintro ⟨unmounted, answered, -⟩
  rw [stickBusy_events] at answered
  exact not_answered_of_aside (fun e mem => (by cases mem)) answered

end DiskManager
