import DiskManager.Provider.CryptVolumes
import DiskManager.Uevent.Coverage

/-!
# Binding a loop device

`BindBlockLoopDev` takes the loop device from the output of `loopctl` and records it.

* `ends_bindBlockLoopDev`: the ways in which it ends, with the access to `tempInfo[0]` checked.
* `binds_range_iff`: from any reachable state, when it stays within the output and success means
  that the range is recorded.
-/

namespace DiskManager

open Interact CppString

/-! ## Lines -/

/-- There is no line in a text of line breaks. -/
theorem splitRawDumpToLines_eq_nil {rawDump : CppString} :
    splitRawDumpToLines rawDump = [] ↔ ∀ c ∈ rawDump, c = '\n' := by
  induction rawDump with
  | nil => exact iff_of_true rfl nofun
  | cons c rawDump ih =>
      unfold splitRawDumpToLines at ih ⊢
      rw [List.splitOn_cons_eq_if_modifyHead, List.forall_mem_cons]
      by_cases newline : c = '\n'
      · rw [if_pos (beq_iff_eq.mpr newline), List.filter_cons_of_neg (by decide), ih]
        exact (and_iff_right newline).symm
      · obtain ⟨first, rest, split⟩ :=
          List.exists_cons_of_ne_nil (List.splitOn_ne_nil '\n' rawDump)
        rw [if_neg (mt beq_iff_eq.mp newline), split, List.modifyHead_cons,
          List.filter_cons_of_pos rfl]
        exact iff_of_false (List.cons_ne_nil _ _) fun blank => newline blank.1

theorem ne_nil_of_splitRawDumpToLines {rawDump line : CppString} {lines : List CppString}
    (split : splitRawDumpToLines rawDump = line :: lines) : line ≠ [] := by
  have mem : line ∈ splitRawDumpToLines rawDump := split ▸ List.mem_cons_self
  unfold splitRawDumpToLines at mem
  have kept := (List.mem_filter.mp mem).2
  rintro rfl
  cases kept

/-! ## The access to the first line -/

/-- The command that binds a range of a disk. -/
def Req.loopctl (diskId : CppString) (offset sizeLimit : Nat) : Req :=
  .executeCommand ["loopctl", "--oh", "-f", "-o", CppString.ofNat offset, "--sizelimit",
    CppString.ofNat sizeLimit, "--show", DEV_BLOCK_PREFIX ++ diskId]

/-- The record of a bound range. -/
def loopVolume (diskId : CppString) (offset sizeLimit : Nat) (loopPath : CppString) :
    VolumeExternal :=
  { id := cryptVolumeId loopPath, diskId, loopPath, offset, sizeLimit, state := .unmounted }

/-- `BindBlockLoopDev` with the access to `tempInfo[0]` checked: there is no result where it is
past the end. -/
def bindBlockLoopDevChecked (diskId : CppString) (offset sizeLimit : Nat) :
    ManagerProg (Option (ErrCode × CppString)) := do
  match ← getDiskById diskId with
  | none => return some (E_NON_EXIST, [])
  | some disk =>
      if disk.diskType ≠ USB_FLAG then
        return some (E_BIND_LOOP_DEV_FAILED, [])
      match ← isVolumeBind offset sizeLimit disk.volumeIds with
      | some loopPath => return some (E_OK, loopPath)
      | none =>
          let (ret, output) ← call (.loopctl diskId offset sizeLimit)
          if ret ≠ E_OK || output.isEmpty then
            return some (E_BIND_LOOP_DEV_FAILED, [])
          match splitRawDumpToLines (output.headD []) with
          | [] => return none
          | loopPath :: _ =>
              let _ ← onVolumeCreated (loopVolume diskId offset sizeLimit loopPath)
              return some (E_OK, loopPath)

/-- The unchecked operation ends as the checked one does. -/
theorem bindBlockLoopDev_of_checked {W : Type} {handle : W → (q : Req) → q.Resp × W}
    {diskId : CppString} {offset sizeLimit : Nat} {s s' : ManagerState} {w w' : W}
    {result : ErrCode × CppString}
    (checked : (bindBlockLoopDevChecked diskId offset sizeLimit).exec handle s w =
      (some result, s', w')) :
    (bindBlockLoopDev diskId offset sizeLimit).exec handle s w = (result, s', w') := by
  have returned : ∀ {result' : ErrCode × CppString} {s₁ : ManagerState} {w₁ : W},
      (some result', s₁, w₁) = (some result, s', w') → (result', s₁, w₁) = (result, s', w') := by
    rintro _ _ _ ⟨⟩
    rfl
  rw [bindBlockLoopDevChecked, Prog.exec_bind] at checked
  rw [bindBlockLoopDev, Prog.exec_bind]
  generalize (getDiskById diskId).exec handle s w = looked at checked ⊢
  obtain ⟨_ | disk, s₁, w₁⟩ := looked
  · exact returned checked
  dsimp only at checked ⊢
  split at checked
  next other =>
    rw [if_pos other]
    exact returned checked
  next usb =>
    rw [if_neg usb, Prog.exec_bind]
    rw [Prog.exec_bind] at checked
    generalize (isVolumeBind offset sizeLimit disk.volumeIds).exec handle s₁ w₁ = sought
      at checked ⊢
    obtain ⟨_ | loopPath, s₂, w₂⟩ := sought
    · dsimp only at checked ⊢
      unfold Req.loopctl at checked
      rw [Prog.exec_bind] at checked ⊢
      generalize (call (Req.executeCommand _)).exec handle s₂ w₂ = called at checked ⊢
      obtain ⟨⟨ret, output⟩, s₃, w₃⟩ := called
      dsimp only at checked ⊢
      split at checked
      next failed =>
        rw [if_pos failed]
        exact returned checked
      next printed =>
        rw [if_neg printed]
        cases split : splitRawDumpToLines (output.headD []) with
        | nil =>
            rw [split] at checked
            cases checked
        | cons loopPath lines =>
            rw [split] at checked
            dsimp only at checked ⊢
            rw [Prog.exec_bind] at checked ⊢
            exact returned checked
    · exact returned checked

/-! ## How it ends -/

/-- The disk, where it is on USB. -/
def ManagerState.usbDisk (s : ManagerState) (diskId : CppString) : Option Disk :=
  s.diskMap[diskId]?.filter fun disk => disk.diskType = USB_FLAG

/-- The loop device of the first of the volumes with the range. -/
def loopAmong (volumeMap : VolumeMap) (offset sizeLimit : Nat) (volumeIds : List CppString) :
    Option CppString :=
  volumeIds.findSome? fun volumeId =>
    (volumeMap[volumeId]?.filter fun vol => vol.offset = offset ∧ vol.sizeLimit = sizeLimit).map
      (·.loopPath)

/-- The loop device the range of a disk is bound to. -/
def ManagerState.boundLoop (s : ManagerState) (disk : Disk) (offset sizeLimit : Nat) :
    Option CppString :=
  loopAmong s.volumeMap offset sizeLimit (attachVolumeIdsToDisk s.volumeMap disk).volumeIds

/-- How `BindBlockLoopDev` ends in a state when requests are answered so. -/
inductive BindEnds (replies : Replies) (s : ManagerState) (diskId : CppString)
    (offset sizeLimit : Nat) : Option (ErrCode × CppString) → ManagerState → Prop
  | refused {ret : ErrCode} : s.usbDisk diskId = none → ret ≠ E_OK →
    BindEnds replies s diskId offset sizeLimit (some (ret, [])) s
  | known {disk : Disk} {loopPath : CppString} : s.usbDisk diskId = some disk →
    s.boundLoop disk offset sizeLimit = some loopPath →
    BindEnds replies s diskId offset sizeLimit (some (E_OK, loopPath)) s
  | failed {disk : Disk} {ret : ErrCode} {output : List CppString} :
    s.usbDisk diskId = some disk → s.boundLoop disk offset sizeLimit = none →
    replies (.loopctl diskId offset sizeLimit) = (ret, output) → (ret ≠ E_OK ∨ output = []) →
    BindEnds replies s diskId offset sizeLimit (some (E_BIND_LOOP_DEV_FAILED, [])) s
  | unread {disk : Disk} {dump : CppString} {rest : List CppString} :
    s.usbDisk diskId = some disk → s.boundLoop disk offset sizeLimit = none →
    replies (.loopctl diskId offset sizeLimit) = (E_OK, dump :: rest) →
    splitRawDumpToLines dump = [] → BindEnds replies s diskId offset sizeLimit none s
  | made {disk : Disk} {dump loopPath : CppString} {rest lines : List CppString}
    (flags : DiskType) : s.usbDisk diskId = some disk →
    s.boundLoop disk offset sizeLimit = none →
    replies (.loopctl diskId offset sizeLimit) = (E_OK, dump :: rest) →
    splitRawDumpToLines dump = loopPath :: lines →
    BindEnds replies s diskId offset sizeLimit (some (E_OK, loopPath))
      (s.insertVolume { loopVolume diskId offset sizeLimit loopPath with flags })

section

variable {replies : Replies} {s : ManagerState} {diskId : CppString} {offset sizeLimit : Nat}

theorem wp_isVolumeBind {W β : Type} {env : Env ManagerState W Req Req.Resp} {w : W}
    {post : β → ManagerState → W → Prop} {f : Option CppString → ManagerProg β}
    {volumeIds : List CppString}
    (rest : wp (.ofEnv env) (f (loopAmong s.volumeMap offset sizeLimit volumeIds)) post s w) :
    wp (.ofEnv env) (isVolumeBind offset sizeLimit volumeIds >>= f) post s w := by
  unfold loopAmong at rest
  induction volumeIds with
  | nil => exact rest
  | cons item volumeIds ih =>
      rw [List.findSome?_cons] at rest
      rw [isVolumeBind, getVolumeById, findVolume, wp_bind]
      refine wp_look_bind ?_
      cases found : s.volumeMap[item]? with
      | none =>
          rw [found] at rest
          exact wp_bind.mp (ih rest)
      | some vol =>
          rw [found] at rest
          dsimp only
          split
          next same =>
            rw [Option.filter_some, decide_eq_true same] at rest
            exact rest
          next other =>
            rw [Option.filter_some, decide_eq_false other] at rest
            exact wp_bind.mp (ih rest)

theorem wp_onVolumeCreated_bind {W β : Type} {env : Env ManagerState W Req Req.Resp} {w : W}
    {post : β → ManagerState → W → Prop} {f : ErrCode → ManagerProg β} {vol : VolumeExternal}
    (rest : ∀ flags, wp (.ofEnv env) (f E_OK) post (s.insertVolume { vol with flags }) w) :
    wp (.ofEnv env) (onVolumeCreated vol >>= f) post s w := by
  rw [onVolumeCreated, wp_bind]
  refine wp_look_bind ?_
  exact ⟨trivial, rest _⟩

/-- The ways in which a call ends. -/
theorem ends_bindBlockLoopDev :
    wp (.ofEnv replies.env) (bindBlockLoopDevChecked diskId offset sizeLimit)
      (fun result s' _ => BindEnds replies s diskId offset sizeLimit result s') s () := by
  rw [bindBlockLoopDevChecked]
  refine getDiskById_shows (fun _ => rfl) fun shown shows => ?_
  cases shows with
  | none gone =>
      refine .refused ?_ (by decide)
      rw [ManagerState.usbDisk, gone]
      rfl
  | @some disk extraInfo found =>
      dsimp only
      split
      next other =>
        have other : ¬ disk.diskType = USB_FLAG := other
        refine .refused ?_ (by decide)
        rw [ManagerState.usbDisk, found, Option.filter_some, decide_eq_false other]
        rfl
      next type =>
        have type : disk.diskType = USB_FLAG := not_not.mp type
        have usb : s.usbDisk diskId = some disk := by
          rw [ManagerState.usbDisk, found, Option.filter_some, decide_eq_true type]
          rfl
        refine wp_isVolumeBind ?_
        cases bound : loopAmong s.volumeMap offset sizeLimit
            (attachVolumeIdsToDisk s.volumeMap disk).volumeIds with
        | some loopPath => exact .known usb bound
        | none =>
            dsimp only
            refine wp_called_bind fun answer w' answered => ?_
            obtain ⟨ret, output⟩ := answer
            dsimp only
            split
            next failed =>
              refine .failed usb bound answered.symm ?_
              rwa [Bool.or_eq_true, decide_eq_true_eq, List.isEmpty_iff] at failed
            next printed =>
              rw [Bool.or_eq_true, decide_eq_true_eq, List.isEmpty_iff, not_or, not_not] at printed
              obtain ⟨rfl, some⟩ := printed
              obtain ⟨dump, rest, rfl⟩ := List.exists_cons_of_ne_nil some
              split
              next blank => exact .unread usb bound answered.symm blank
              next loopPath lines split =>
                refine wp_onVolumeCreated_bind fun flags => ?_
                exact .made flags usb bound answered.symm split

/-! ## What success promises -/

/-- There is a volume of the disk on the loop device, with the range. -/
structure RangeBound (s : ManagerState) (diskId : CppString) (offset sizeLimit : Nat)
    (loopPath : CppString) : Prop where
  named : loopPath ≠ []
  recorded : ∃ k vol, s.volumeMap[k]? = some vol ∧ startsWith k CRYPT_VOLUME_PREFIX = true ∧
    vol.diskId = diskId ∧ vol.loopPath = loopPath ∧ vol.offset = offset ∧ vol.sizeLimit = sizeLimit

/-- The memory the program leaves. -/
def Replies.leaves {α : Type} (replies : Replies) (p : ManagerProg α) (s : ManagerState) :
    ManagerState :=
  (p.exec (fun _ q => (replies q, ())) s ()).2.1

theorem Replies.leaves_of_wp {α : Type} {replies : Replies} {p : ManagerProg α} {s : ManagerState}
    {P : α → ManagerState → Prop} (pre : wp (.ofEnv replies.env) p (fun a s' _ => P a s') s ()) :
    P (replies.result p s) (replies.leaves p s) :=
  wp_returns pre (Prog.exec_returns (fun _ _ _ => rfl) p s ())

/-- The output is not read past its end, and success means that the range is bound. -/
structure BindsRange (replies : Replies) (s : ManagerState) (diskId : CppString)
    (offset sizeLimit : Nat) : Prop where
  inBounds : replies.result (bindBlockLoopDevChecked diskId offset sizeLimit) s ≠ none
  binds : ∀ loopPath,
    replies.result (bindBlockLoopDev diskId offset sizeLimit) s = (E_OK, loopPath) →
    RangeBound (replies.leaves (bindBlockLoopDev diskId offset sizeLimit) s)
      diskId offset sizeLimit loopPath

/-- A range that is bound has a loop device. For one that is not, the output starts with a text
that has a line, and the id made of it is free. -/
structure CanBind (replies : Replies) (s : ManagerState) (diskId : CppString)
    (offset sizeLimit : Nat) : Prop where
  known : ∀ disk loopPath, s.usbDisk diskId = some disk →
    s.boundLoop disk offset sizeLimit = some loopPath → loopPath ≠ []
  printed : ∀ disk dump rest, s.usbDisk diskId = some disk →
    s.boundLoop disk offset sizeLimit = none →
    replies (.loopctl diskId offset sizeLimit) = (E_OK, dump :: rest) → ∃ c ∈ dump, c ≠ '\n'
  free : ∀ disk dump rest loopPath lines, s.usbDisk diskId = some disk →
    s.boundLoop disk offset sizeLimit = none →
    replies (.loopctl diskId offset sizeLimit) = (E_OK, dump :: rest) →
    splitRawDumpToLines dump = loopPath :: lines → s.volumeMap[cryptVolumeId loopPath]? = none

theorem usbDisk_some {disk : Disk} (usb : s.usbDisk diskId = some disk) :
    s.diskMap[diskId]? = some disk := by
  unfold ManagerState.usbDisk at usb
  exact (Option.filter_eq_some_iff.mp usb).1

/-- The volumes the loop finds with the range, and those it does not find. -/
theorem boundLoop_some (keys : KeyIds s) {disk : Disk} {loopPath : CppString}
    (bound : s.boundLoop disk offset sizeLimit = some loopPath) :
    ∃ (k : CppString) (vol : VolumeExternal), s.volumeMap[k]? = some vol ∧
      vol.diskId = disk.diskId ∧ vol.loopPath = loopPath ∧ vol.offset = offset ∧
      vol.sizeLimit = sizeLimit := by
  unfold ManagerState.boundLoop loopAmong at bound
  obtain ⟨k, mem, found⟩ := List.exists_of_findSome?_eq_some bound
  obtain ⟨vol, kept, path⟩ := Option.map_eq_some_iff.mp found
  obtain ⟨found, range⟩ := Option.filter_eq_some_iff.mp kept
  obtain ⟨vol', found', of⟩ := ManagerState.mem_keysOf.mp ((mem_volumeIds keys).mp mem)
  cases found.symm.trans found'
  exact ⟨k, vol, found, of, path, of_decide_eq_true range⟩

theorem boundLoop_none (keys : KeyIds s) {disk : Disk}
    (unbound : s.boundLoop disk offset sizeLimit = none) {k : CppString} {vol : VolumeExternal}
    (found : s.volumeMap[k]? = some vol) (of : vol.diskId = disk.diskId) :
    ¬ (vol.offset = offset ∧ vol.sizeLimit = sizeLimit) := by
  unfold ManagerState.boundLoop loopAmong at unbound
  intro range
  have mem := (mem_volumeIds keys).mpr (ManagerState.mem_keysOf.mpr ⟨vol, found, of⟩)
  have none := List.findSome?_eq_none_iff.mp unbound k mem
  rw [found, Option.filter_some, decide_eq_true range] at none
  cases none

/-- A record that is there stays, and a new one is filed under its id. -/
theorem insertVolume_found {vol : VolumeExternal} (taken : s.volumeMap[vol.id]? ≠ none) :
    s.insertVolume vol = s := by
  rw [ManagerState.insertVolume, if_pos (Option.isSome_iff_ne_none.mpr taken)]

theorem insertVolume_free {vol : VolumeExternal} (free : s.volumeMap[vol.id]? = none) :
    (s.insertVolume vol).volumeMap[vol.id]? = some vol := by
  rw [ManagerState.insertVolume, free, if_neg (by decide)]
  exact StdMap.get_insert_self _ _ _

variable [JsonLib]

/-- A bound range has its record, if it has a loop device. -/
theorem rangeBound_known (reachable : Reachable s) {disk : Disk} {loopPath : CppString}
    (usb : s.usbDisk diskId = some disk) (bound : s.boundLoop disk offset sizeLimit = some loopPath)
    (named : loopPath ≠ []) : RangeBound s diskId offset sizeLimit loopPath := by
  have keys : KeyIds s := keyIds_index.mpr reachable.sound.keys
  obtain ⟨k, vol, found, of, rfl, range⟩ := boundLoop_some keys bound
  have placed := reachable.filed.volume found
  have key : cryptVolumeId vol.loopPath = k := placed.loop named
  have id : disk.diskId = diskId := (reachable.filed.getDisk (usbDisk_some usb)).id
  refine ⟨named, k, vol, found, ?_, of.trans id, rfl, range⟩
  rw [← key]
  exact startsWith_cryptVolumeId vol.loopPath

/-- A range that is not bound has no record. -/
theorem not_rangeBound (reachable : Reachable s) {disk : Disk} {loopPath : CppString}
    (usb : s.usbDisk diskId = some disk) (unbound : s.boundLoop disk offset sizeLimit = none) :
    ¬ RangeBound s diskId offset sizeLimit loopPath := by
  rintro ⟨-, k, vol, found, -, of, -, range⟩
  have keys : KeyIds s := keyIds_index.mpr reachable.sound.keys
  have id : disk.diskId = diskId := (reachable.filed.getDisk (usbDisk_some usb)).id
  exact boundLoop_none keys unbound found (of.trans id.symm) range

theorem binds_of_ends (reachable : Reachable s) {result : Option (ErrCode × CppString)}
    {s' : ManagerState} (ends : BindEnds replies s diskId offset sizeLimit result s') :
    (result ≠ none ∧ ∀ loopPath, result = some (E_OK, loopPath) →
      RangeBound s' diskId offset sizeLimit loopPath) ↔
      CanBind replies s diskId offset sizeLimit := by
  cases ends with
  | refused gone ret =>
      refine iff_of_true ⟨Option.some_ne_none _, fun loopPath ok => ?_⟩ ⟨?_, ?_, ?_⟩
      · cases ok
        exact absurd rfl ret
      · intro disk loopPath usb
        cases gone.symm.trans usb
      · intro disk dump rest usb
        cases gone.symm.trans usb
      · intro disk dump rest loopPath lines usb
        cases gone.symm.trans usb
  | @known disk loopPath usb bound =>
      constructor
      · rintro ⟨-, binds⟩
        refine ⟨fun disk' loopPath' usb' bound' => ?_, fun disk' dump rest usb' unbound => ?_,
          fun disk' dump rest loopPath' lines usb' unbound => ?_⟩
        · cases usb.symm.trans usb'
          cases bound.symm.trans bound'
          exact (binds loopPath rfl).named
        · cases usb.symm.trans usb'
          cases bound.symm.trans unbound
        · cases usb.symm.trans usb'
          cases bound.symm.trans unbound
      · intro can
        refine ⟨Option.some_ne_none _, fun loopPath' ok => ?_⟩
        cases ok
        exact rangeBound_known reachable usb bound (can.known disk loopPath usb bound)
  | @failed disk ret output usb unbound answered failed =>
      have other : ∀ dump rest,
          replies (.loopctl diskId offset sizeLimit) ≠ (E_OK, dump :: rest) := by
        intro dump rest printed
        cases answered.symm.trans printed
        rcases failed with ret | none
        · exact ret rfl
        · cases none
      refine iff_of_true ⟨Option.some_ne_none _, fun loopPath ok => ?_⟩ ⟨?_, ?_, ?_⟩
      · cases ok
      · intro disk' loopPath usb' bound
        cases usb.symm.trans usb'
        cases unbound.symm.trans bound
      · exact fun _ dump rest _ _ printed => absurd printed (other dump rest)
      · exact fun _ dump rest _ _ _ _ printed => absurd printed (other dump rest)
  | @unread disk dump rest usb unbound answered blank =>
      refine iff_of_false (fun held => held.1 rfl) fun can => ?_
      obtain ⟨c, mem, other⟩ := can.printed disk dump rest usb unbound answered
      exact other (splitRawDumpToLines_eq_nil.mp blank c mem)
  | @made disk dump loopPath rest lines flags usb unbound answered split =>
      constructor
      · rintro ⟨-, binds⟩
        refine ⟨fun disk' loopPath' usb' bound => ?_, fun disk' dump' rest' _ _ answered' => ?_,
          fun disk' dump' rest' loopPath' lines' _ _ answered' split' => ?_⟩
        · cases usb.symm.trans usb'
          cases unbound.symm.trans bound
        · cases answered.symm.trans answered'
          by_contra blank
          push Not at blank
          rw [splitRawDumpToLines_eq_nil.mpr blank] at split
          cases split
        · cases answered.symm.trans answered'
          cases split.symm.trans split'
          by_contra taken
          have same : s.insertVolume
              { loopVolume diskId offset sizeLimit loopPath with flags } = s :=
            insertVolume_found taken
          have recorded := binds loopPath rfl
          rw [same] at recorded
          exact not_rangeBound reachable usb unbound recorded
      · intro can
        refine ⟨Option.some_ne_none _, fun loopPath' ok => ?_⟩
        cases ok
        have free := can.free disk dump rest loopPath lines usb unbound answered split
        refine ⟨ne_nil_of_splitRawDumpToLines split, cryptVolumeId loopPath, _,
          insertVolume_free free, startsWith_cryptVolumeId loopPath, rfl, rfl, rfl, rfl⟩

/-- From any reachable state a call binds the range exactly where the output has a line and the id
made of it is free. -/
theorem binds_range_iff (reachable : Reachable s) :
    BindsRange replies s diskId offset sizeLimit ↔ CanBind replies s diskId offset sizeLimit := by
  have ends : BindEnds replies s diskId offset sizeLimit
      (replies.result (bindBlockLoopDevChecked diskId offset sizeLimit) s)
      (replies.leaves (bindBlockLoopDevChecked diskId offset sizeLimit) s) :=
    Replies.leaves_of_wp ends_bindBlockLoopDev
  rw [← binds_of_ends reachable ends]
  cases result : replies.result (bindBlockLoopDevChecked diskId offset sizeLimit) s with
  | none => exact iff_of_false (fun held => held.inBounds result) fun held => held.1 rfl
  | some r =>
      have checked : (bindBlockLoopDevChecked diskId offset sizeLimit).exec
          (fun _ q => (replies q, ())) s () =
            (some r, replies.leaves (bindBlockLoopDevChecked diskId offset sizeLimit) s, ()) := by
        rw [← result]
        rfl
      have unchecked := bindBlockLoopDev_of_checked checked
      have same : replies.result (bindBlockLoopDev diskId offset sizeLimit) s = r :=
        congrArg Prod.fst unchecked
      have left : replies.leaves (bindBlockLoopDev diskId offset sizeLimit) s =
          replies.leaves (bindBlockLoopDevChecked diskId offset sizeLimit) s :=
        congrArg (fun ended => ended.2.1) unchecked
      constructor
      · rintro ⟨-, binds⟩
        refine ⟨Option.some_ne_none r, fun loopPath ok => ?_⟩
        rw [← left]
        exact binds loopPath (same.trans (Option.some.inj ok))
      · rintro ⟨-, binds⟩
        refine ⟨fun none => Option.some_ne_none r (result.symm.trans none), fun loopPath ok => ?_⟩
        rw [left]
        exact binds loopPath (congrArg some (same.symm.trans ok))

end

/-! ## A range of the stick -/

/-- The stick, with what `loopctl` prints. -/
def loopctlPrints (output : List CppString) : (q : Req) → q.Resp
  | .executeCommand _ => (E_OK, output)
  | q => stickFs q

theorem binds_range_stick :
    BindsRange (loopctlPrints ["/dev/block/loop0\n"]) stickPlugged "disk-8-0" 512 1024 ↔
      CanBind (loopctlPrints ["/dev/block/loop0\n"]) stickPlugged "disk-8-0" 512 1024 := by
  let _ := tableJson
  exact binds_range_iff stickPlugged_settled.reachable

/-- When the output is a line break, the first line is read past the end. -/
theorem bind_reads_past_output :
    letI := tableJson
    ¬ ∀ s, Reachable s → ∀ (diskId : CppString) (offset sizeLimit : Nat) (replies : Replies),
      (CryptOp.bindBlockLoopDev diskId offset sizeLimit).accepted = true →
      BindsRange replies s diskId offset sizeLimit := by
  let _ := tableJson
  intro binds
  have accepted : (CryptOp.bindBlockLoopDev "disk-8-0" 512 1024).accepted = true := by
    decide +kernel
  have bound := binds stickPlugged stickPlugged_settled.reachable "disk-8-0" 512 1024
    (loopctlPrints ["\n"]) accepted
  refine bound.inBounds ?_
  decide +kernel

end DiskManager
