import DiskManager.Manager.Requests

/-!
# Public events

What listeners are told while an operation runs: the world is the list of the events that were
published, the oldest first.
-/

namespace DiskManager

open Interact

/-! ## Events -/

/-- An event about a volume. -/
structure VolumeEvent : Type where
  volumeState : VolumeState
  id : CppString
  umountResult : CppString
deriving DecidableEq

inductive PublicEvent : Type
  | volume (e : VolumeEvent)
  | volumeAbnormal (id : CppString) (reason : AbnormalReason)
  | diskMounted (diskId : CppString)
  | diskRemoved (diskId : CppString)
  | diskAbnormal (diskId : CppString) (reason : AbnormalReason)
deriving DecidableEq

/-- The states of `STATE_INFOS`; for the others nothing is published. -/
def VolumeState.hasAction : VolumeState → Bool
  | .fuseRemoved => false
  | .repairing => false
  | _ => true

/-- The events of a request. Only a change to EJECTING carries `umountResult`. -/
def Req.publicEvents : Req → List PublicEvent
  | .publishVolumeChange notifyCode volume =>
      if notifyCode.hasAction then
        let umountResult := if notifyCode = .ejecting then volume.umountResult else []
        [.volume ⟨notifyCode, volume.id, umountResult⟩]
      else []
  | .publishVolumeResult notifyCode volume =>
      if notifyCode.hasAction then [.volume ⟨notifyCode, volume.id, []⟩] else []
  | .publishVolumeAbnormal volume reason => [.volumeAbnormal volume.id reason]
  | .publishDiskMounted disk => [.diskMounted disk.diskId]
  | .publishDiskRemoved disk => [.diskRemoved disk.diskId]
  | .publishDiskAbnormal diskId reason => [.diskAbnormal diskId reason]
  | _ => []

/-- The requests are answered as `answers` allows, and listeners hear the events. -/
def publishing (answers : (q : Req) → q.Resp → Prop) :
    Env ManagerState (List PublicEvent) Req Req.Resp :=
  fun _ log q r log' => answers q r ∧ log' = log ++ q.publicEvents

/-- Nobody hears of the request. -/
def Req.silent (q : Req) : Prop := q.publicEvents = []

/-- An event that is neither VOLUME_EJECT nor VOLUME_UNMOUNTED. -/
def VolumeEvent.aside (e : VolumeEvent) : Prop :=
  e.volumeState ≠ .ejecting ∧ e.volumeState ≠ .unmounted

def PublicEvent.aside : PublicEvent → Prop
  | .volume e => e.aside
  | _ => True

/-- A calm request publishes neither. -/
theorem aside_of_calm {q : Req} (calm : q.calm = true) : ∀ e ∈ q.publicEvents, e.aside := by
  have told : ∀ {tells : Bool} {e e' : PublicEvent},
      e ∈ (if tells then [e'] else []) → e = e' := by
    intro tells e e' mem
    split at mem
    · exact List.mem_singleton.mp mem
    · cases mem
  intro e mem
  cases q with
  | publishVolumeChange notifyCode volume =>
      rw [told mem]
      refine ⟨?_, ?_⟩
      · rintro rfl
        cases calm
      · rintro rfl
        cases calm
  | publishVolumeResult notifyCode volume =>
      rw [told mem]
      refine ⟨?_, ?_⟩
      · rintro rfl
        cases calm
      · rintro rfl
        cases calm
  | publishVolumeAbnormal volume reason =>
      rw [List.mem_singleton.mp mem]
      trivial
  | publishDiskMounted disk =>
      rw [List.mem_singleton.mp mem]
      trivial
  | publishDiskRemoved disk =>
      rw [List.mem_singleton.mp mem]
      trivial
  | publishDiskAbnormal diskId reason =>
      rw [List.mem_singleton.mp mem]
      trivial
  | _ => cases mem

section

variable {answers : (q : Req) → q.Resp → Prop} {α β : Type} {s : ManagerState}
  {log : List PublicEvent} {post : β → ManagerState → List PublicEvent → Prop}

/-- An operation nobody hears of. -/
theorem wp_silent_bind {p : ManagerProg α} {f : α → ManagerProg β} {kept : α → Prop}
    (reads : Within Eq p kept) (silent : Asks Req.silent p)
    (rest : ∀ a, kept a → wp (.ofEnv (publishing answers)) (f a) post s log) :
    wp (.ofEnv (publishing answers)) (p >>= f) post s log := by
  have first : wp (.ofEnv (publishing answers)) p
      (fun a s' log' => s = s' ∧ kept a ∧ log' = log) s log := by
    refine wp_asks reads silent (fun _ => rfl) .trans (fun _ => trivial) ?_ fun _ => trivial
    intro s w q r w' quiet answered
    rw [answered.2, quiet, List.append_nil]
  refine wp_seq first fun a s' log' ended => ?_
  obtain ⟨rfl, kept, rfl⟩ := ended
  exact rest a kept

/-- An operation that tells nobody of an eject or an unmount. -/
theorem wp_aside {p : ManagerProg α} (calm : Asks (fun q => ∀ e ∈ q.publicEvents, e.aside) p) :
    wp (.ofEnv (publishing answers)) p
      (fun _ _ log' => ∃ events, log' = log ++ events ∧ ∀ e ∈ events, e.aside) s log := by
  refine wp_asks_kept (fun log' => ∃ events, log' = log ++ events ∧ ∀ e ∈ events, e.aside)
    calm ?_ ⟨[], (List.append_nil log).symm, fun e mem => (by cases mem)⟩
  intro s w q r w' aside held answered
  obtain ⟨events, rfl, all⟩ := held
  refine ⟨events ++ q.publicEvents, ?_, fun e mem => ?_⟩
  · rw [answered.2, List.append_assoc]
  · rcases List.mem_append.mp mem with old | new
    · exact all e old
    · exact aside e new

/-! ## Unmounting -/

theorem wp_notifyVolumeEjecting_told {volumeId : CppString} {vol : VolumeExternal}
    {umountResult : CppString} {f : VolumeExternal → ManagerProg β}
    (rest : wp (.ofEnv (publishing answers)) (f { vol with state := .ejecting, umountResult }) post
      (s.updateVolume volumeId fun r => { r with state := .ejecting, umountResult })
      (log ++ [.volume ⟨.ejecting, vol.id, umountResult⟩])) :
    wp (.ofEnv (publishing answers)) (notifyVolumeEjecting volumeId vol umountResult >>= f) post
      s log := by
  rw [notifyVolumeEjecting, wp_bind]
  refine wp_bind.mpr ⟨trivial, ?_⟩
  refine wp_called_bind fun _ log' answered => ?_
  rw [answered.2]
  exact rest

end

/-- What `DoUnmountVolume` tells of volume `v` when it returns `err`. -/
inductive UnmountTold (v : CppString) (err : ErrCode) : List PublicEvent → Prop
  | unmounted : err = E_OK →
    UnmountTold v err [.volume ⟨.ejecting, v, []⟩, .volume ⟨.unmounted, v, []⟩]
  | failed : err ≠ E_OK →
    UnmountTold v err [.volume ⟨.ejecting, v, []⟩, .volume ⟨.ejecting, v, "umountFail"⟩]

section

variable [JsonLib] {answers : (q : Req) → q.Resp → Prop} {s : ManagerState}
  {log : List PublicEvent}

theorem wp_doUnmountVolume_told {vol : VolumeExternal} {force : Bool}
    (there : s.volumeMap[vol.id]?.isSome) :
    wp (.ofEnv (publishing answers)) (doUnmountVolume vol force)
      (fun err _ log' => ∃ events, log' = log ++ events ∧ UnmountTold vol.id err events) s log := by
  have failed : ∀ (copy : VolumeExternal) {err : ErrCode} {s' : ManagerState},
      copy.id = vol.id → err ≠ E_OK → wp (.ofEnv (publishing answers)) (do
        let volExternal ← notifyVolumeEjecting copy.id copy "umountFail"
        restoreVolumeState volExternal.id vol.state
        return err)
      (fun err _ log' => ∃ events, log' = log ++ events ∧ UnmountTold vol.id err events)
      s' (log ++ [.volume ⟨.ejecting, vol.id, []⟩]) := by
    intro copy err s' same bad
    refine wp_notifyVolumeEjecting_told ?_
    refine wp_bind.mpr ⟨trivial, ?_⟩
    refine ⟨_, ?_, .failed bad⟩
    rw [same, List.append_assoc]
    rfl
  rw [doUnmountVolume]
  dsimp only
  refine wp_silent_bind (reads_saveVolumeFreeSize vol)
    (asks_freeSize (fun _ => rfl) (fun _ => rfl) vol) fun copy saved => ?_
  obtain ⟨freeSize, rfl⟩ := saved
  refine wp_notifyVolumeEjecting_told ?_
  refine wp_silent_bind (reads_resolveUnmountForceFlag _ _) (asks_inUse (fun _ => rfl) _ _)
    fun result _ => ?_
  obtain ⟨prepErr, force'⟩ := result
  dsimp only
  split
  next bad => exact failed { vol with freeSize, state := .ejecting, umountResult := [] } rfl bad
  refine wp_silent_bind (reads_unmountVolumeMountPoints _ _)
    (asks_mountPoints (fun _ _ _ => rfl) (fun _ => rfl) _ _) fun err _ => ?_
  split
  next bad => exact failed { vol with freeSize, state := .ejecting, umountResult := [] } rfl bad
  refine wp_called_bind fun _ log' answered => ?_
  rw [answered.2]
  have still : (s.updateVolume vol.id fun r =>
      { r with state := .ejecting, umountResult := [] }).volumeMap[vol.id]?.isSome := by
    rw [ManagerState.get_updateVolume_self, Option.isSome_map]
    exact there
  obtain ⟨r, found⟩ := Option.isSome_iff_exists.mp still
  have ended : log ++ [PublicEvent.volume ⟨.ejecting, vol.id, []⟩] ++
        [.volume ⟨.unmounted, vol.id, []⟩] =
      log ++ [.volume ⟨.ejecting, vol.id, []⟩, .volume ⟨.unmounted, vol.id, []⟩] := by
    rw [List.append_assoc]
    rfl
  unfold unmountWriteBack
  apply wp_section
  simp only [found]
  split
  · exact ⟨_, ended, .unmounted rfl⟩
  · exact ⟨_, ended, .unmounted rfl⟩

/-! ## Repairing -/

theorem wp_fixUnmounted_told {vol : VolumeExternal} {volumeId : CppString} :
    wp (.ofEnv (publishing answers)) (fixUnmounted vol volumeId)
      (fun _ _ log' => ∃ events, log' = log ++ events ∧ ∀ e ∈ events, e.aside) s log := by
  have quiet : ∀ {q : Req}, q.publicEvents = [] → ∀ e ∈ q.publicEvents, e.aside := by
    intro q silent e mem
    rw [silent] at mem
    cases mem
  refine wp_aside (asks_fixUnmounted (fun q calm => aside_of_calm calm) ?_ volumeId)
  exact {
    check := fun _ => quiet rfl
    repair := fun _ => quiet rfl
    readMetadata := quiet rfl
    mount := fun _ _ _ _ => quiet rfl }

end

end DiskManager
