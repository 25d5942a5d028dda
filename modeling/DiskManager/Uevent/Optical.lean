import DiskManager.Uevent.Filing
import DiskManager.Uevent.FreshTable
import DiskManager.Uevent.Requests

/-!
# The volume of an optical drive

An optical drive has no partitions: its volume is there or not. The events of one drive, whatever is
in it and however the daemon answers but for device nodes: there is never more than one volume, and
after an event it is there as the answers of the daemon to that event say.
-/

namespace DiskManager

open Interact

/-- The drive with this minor number. -/
structure OpticalDisk : Type where
  minor : Nat
  fits : minor < 2 ^ 32

namespace OpticalDisk

def diskId (d : OpticalDisk) : CppString := diskIdFrom DISK_CD_MAJOR d.minor

def volId (d : OpticalDisk) : CppString := ("vol-11-" : CppString) ++ CppString.ofNat d.minor

def dev (d : OpticalDisk) : Dev := partitionDev DISK_CD_MAJOR d.minor 0

theorem volIdFromDev_dev (d : OpticalDisk) : volIdFromDev d.dev = d.volId := by
  unfold dev partitionDev makedev volIdFromDev volId
  rw [if_neg (by decide)]
  dsimp only
  rw [Nat.add_zero, Nat.mod_eq_of_lt d.fits]
  rfl

/-- The only volume there may be. -/
def Sole (d : OpticalDisk) (k : CppString) (place : Place) : Prop :=
  k = d.volId ∧ place = .volumeOn d.diskId d.dev 0

theorem Sole.wellPlaced {d : OpticalDisk} {k : CppString} {place : Place} (sole : d.Sole k place) :
    WellPlaced k place := by
  obtain ⟨rfl, rfl⟩ := sole
  refine ⟨d.volIdFromDev_dev, fun loop => absurd rfl loop, fun _ eq => ?_⟩
  cases eq

end OpticalDisk

/-- An add or change event of the drive. -/
structure OpticalEvent (d : OpticalDisk) : Type where
  change : Bool
  uevent : UeventEnv
  major : uevent.major = DISK_CD_MAJOR
  minor : uevent.minor = d.minor

namespace OpticalEvent

variable {d : OpticalDisk}

def prog [JsonLib] (e : OpticalEvent d) : ManagerProg ErrCode :=
  if e.change then handleDiskChange e.uevent else handleDiskAdd e.uevent

theorem diskId (e : OpticalEvent d) : diskIdFrom e.uevent.major e.uevent.minor = d.diskId := by
  rw [e.major, e.minor]
  rfl

theorem dev (e : OpticalEvent d) : partitionDev e.uevent.major e.uevent.minor 0 = d.dev := by
  rw [e.major, e.minor]
  rfl

theorem fits (e : OpticalEvent d) : e.uevent.Fits := by
  refine ⟨?_, ?_⟩
  · rw [e.major]
    decide
  · rw [e.minor]
    exact d.fits

end OpticalEvent

/-! ## Answers -/

/-- The first answers to an event that decide about the volume. What `QueryUsbIsInUse` says counts
until the drive is told to eject. -/
structure OpticalNotes : Type where
  status : Option (ErrCode × Nat) := none
  metadata : Option Metadata := none
  inUse : Option (ErrCode × Bool) := none
  eject : Option ErrCode := none

namespace OpticalNotes

def note (diskId : CppString) (n : OpticalNotes) : (q : Req) → q.Resp → OpticalNotes
  | .queryCDStatus _, r => { n with status := n.status <|> some r }
  | .readMetadata path, r =>
      if path = blockPathForId diskId then { n with metadata := n.metadata <|> some r } else n
  | .queryUsbIsInUse _, r => if n.eject.isNone then { n with inUse := n.inUse <|> some r } else n
  | .eject _, r => { n with eject := n.eject <|> some r }
  | _, _ => n

/-- The disc counts as present: the drive says so, or cannot be asked and a file system is found. -/
def Present (n : OpticalNotes) : Prop :=
  (∃ status, n.status = some (E_OK, status) ∧ status.testBit 0 = true) ∨
    ∃ err status metadata, n.status = some (err, status) ∧ err ≠ E_OK ∧
      n.metadata = some metadata ∧ metadata.err = E_OK ∧ metadata.type ≠ []

/-- The mounted volume is in use, or that could not be found out. -/
def Blocked (n : OpticalNotes) : Prop :=
  ∃ err inUse, n.inUse = some (err, inUse) ∧ (err ≠ E_OK ∨ inUse = true)

end OpticalNotes

/-- The disk is recorded as an optical drive. -/
def OpticalDisk.recorded (d : OpticalDisk) (s : ManagerState) : Bool :=
  s.diskMap[d.diskId]?.any (·.diskType = CD_FLAG)

/-- `DiskManager::Eject` failed: the disk is not recorded as a drive, or the daemon failed. -/
def OpticalDisk.EjectFailed (d : OpticalDisk) (s : ManagerState) (n : OpticalNotes) : Prop :=
  d.recorded s = false ∨ ∃ err, n.eject = some err ∧ err ≠ E_OK

/-- The calls for device nodes succeed. -/
def Req.nodeOk : (q : Req) → q.Resp → Prop
  | .createBlockDeviceNode .., err => err = E_OK
  | .destroyBlockDeviceNode _, err => err = E_OK
  | _, _ => True

/-- Any answers, but for device nodes. -/
def nodesEnv (_ : ManagerState) (_ : Unit) (q : Req) (r : q.Resp) (_ : Unit) : Prop := q.nodeOk r

/-- The same, with the answers noted. -/
def OpticalDisk.noting (d : OpticalDisk) (_ : ManagerState) (n : OpticalNotes) (q : Req)
    (r : q.Resp) (n' : OpticalNotes) : Prop :=
  q.nodeOk r ∧ n' = n.note d.diskId q r

theorem OpticalDisk.noting_nodes (d : OpticalDisk) : NodesOk d.noting :=
  ⟨fun answered => answered.1, fun answered => answered.1⟩

/-- The request is none of those whose answer is noted. -/
def Req.isOpticalQuery : Req → Bool
  | .queryCDStatus _ => true
  | .readMetadata _ => true
  | .queryUsbIsInUse _ => true
  | .eject _ => true
  | _ => false

theorem OpticalDisk.noting_quiet (d : OpticalDisk) {s : ManagerState} {n n' : OpticalNotes} {q : Req}
    {r : q.Resp} (other : q.isOpticalQuery = false) (answered : d.noting s n q r n') : n' = n := by
  rw [answered.2]
  cases q with
  | queryCDStatus => cases other
  | readMetadata => cases other
  | queryUsbIsInUse => cases other
  | eject => cases other
  | _ => rfl

/-! ## The disc comes and goes -/

/-- Only disks changed, and the disk has the type it had. -/
def Refreshes (diskId : CppString) (s s' : ManagerState) : Prop :=
  ∃ disks, s' = { s with diskMap := disks } ∧
    disks[diskId]?.map (·.diskType) = s.diskMap[diskId]?.map (·.diskType)

section Wp

variable {W : Type} {env : Env ManagerState W Req Req.Resp} {s : ManagerState} {w : W}

theorem refreshes_updateDisk {disk copy : Disk} (found : s.diskMap[copy.diskId]? = some disk)
    (type : copy.diskType = disk.diskType) :
    wp (.ofEnv env) (updateDisk copy) (fun _ s' _ => Refreshes copy.diskId s s') s w := by
  refine wp_section ?_
  split
  next gone =>
    rw [found] at gone
    cases gone
  · refine ⟨_, rfl, ?_⟩
    rw [StdMap.get_insert_self, found, Option.map_some, Option.map_some, type]

theorem refreshes_refreshCdromState (ids : s.index.DiskIds) (diskId : CppString)
    (state : CdromState) :
    wp (.ofEnv env) (refreshCdromState diskId state) (fun _ s' _ => Refreshes diskId s s') s w := by
  rw [refreshCdromState]
  cases found : s.diskMap[diskId]? with
  | none => exact getDiskById_bind_none found ⟨s.diskMap, rfl, rfl⟩
  | some disk =>
      have id : disk.diskId = diskId := ids diskId disk found
      subst id
      refine getDiskById_bind_some found fun extraInfo w' => ?_
      exact wp_seq (refreshes_updateDisk found rfl) fun _ s' w' refreshed => refreshed

/-- The volume comes with the disc, unless it is there. -/
theorem index_handleAddCD [JsonLib] (nodes : NodesOk env) (ids : KeyIds s) {diskId : CppString}
    (there : s.diskMap[diskId]?.isSome) (uevent : UeventEnv) (state : CdromState) :
    wp (.ofEnv env) (handleAddCD uevent diskId state) (fun _ s' _ => s'.index =
      s.index.insert (.volumeOn diskId (partitionDev uevent.major uevent.minor 0) 0)) s w := by
  rw [handleAddCD]
  refine wp_seq (index_createAndSetupVolume nodes there _ _ _) fun err s₁ w₁ created => ?_
  obtain ⟨rfl, created⟩ := created
  rw [if_neg fun failed => failed rfl]
  refine index_bind (sameIndex_discMetadata _ _ _) fun metadata s₂ w₂ same₂ _ => ?_
  refine index_bind (sameIndex_updateVolumeMetadata _ _ _ _) fun _ s₃ w₃ same₃ _ => ?_
  refine index_bind (sameIndex_setVolumeDiscState _ _) fun _ s₄ w₄ same₄ _ => ?_
  have same := same₄.trans (same₃.trans (same₂.trans created))
  split
  · exact same
  have ids₄ : KeyIds s₄ := by
    rw [keyIds_index, same]
    exact (keyIds_index.mp ids).insert _
  exact wp_seq (index_mount ids₄ _ _) fun _ s₅ w₅ same₅ => same₅.trans same

end Wp

namespace OpticalNotes

theorem present_of_ok {n : OpticalNotes} {status : Nat} (asked : n.status = some (E_OK, status)) :
    n.Present ↔ status.testBit 0 = true := by
  unfold Present
  rw [asked]
  constructor
  · rintro (⟨status', same, bit⟩ | ⟨err, status', _, same, failed, -⟩)
    · cases same
      exact bit
    · cases same
      exact absurd rfl failed
  · exact fun bit => .inl ⟨status, rfl, bit⟩

theorem present_of_failed {n : OpticalNotes} {err : ErrCode} {status : Nat} {metadata : Metadata}
    (asked : n.status = some (err, status)) (failed : err ≠ E_OK)
    (read : n.metadata = some metadata) :
    n.Present ↔ metadata.err = E_OK ∧ metadata.type ≠ [] := by
  unfold Present
  rw [asked, read]
  constructor
  · rintro (⟨status', same, -⟩ | ⟨err', status', metadata', same, -, same', ok⟩)
    · cases same
      exact absurd rfl failed
    · cases same'
      exact ok
  · exact fun ok => .inr ⟨err, status, metadata, rfl, failed, rfl, ok⟩

/-- The answers noted so far decide whether there is a disc. -/
def Decided (n : OpticalNotes) : Prop :=
  ∃ err status, n.status = some (err, status) ∧ (err ≠ E_OK → n.metadata.isSome)

/-- What is noted stays. -/
theorem Decided.note {n : OpticalNotes} (decided : n.Decided) (diskId : CppString) (q : Req)
    (r : q.Resp) : (n.note diskId q r).Decided ∧ ((n.note diskId q r).Present ↔ n.Present) := by
  have kept : (n.note diskId q r).status = n.status ∧
      ((n.note diskId q r).metadata = n.metadata ∨ n.metadata = none) := by
    obtain ⟨err, status, asked, -⟩ := decided
    cases q with
    | queryCDStatus path => exact ⟨by simp [OpticalNotes.note, asked], .inl rfl⟩
    | readMetadata path =>
        unfold OpticalNotes.note
        dsimp only
        split
        · cases n.metadata with
          | none => exact ⟨rfl, .inr rfl⟩
          | some metadata => exact ⟨rfl, .inl rfl⟩
        · exact ⟨rfl, .inl rfl⟩
    | queryUsbIsInUse path =>
        unfold OpticalNotes.note
        dsimp only
        split
        · exact ⟨rfl, .inl rfl⟩
        · exact ⟨rfl, .inl rfl⟩
    | _ => exact ⟨rfl, .inl rfl⟩
  unfold Decided Present at *
  rcases kept with ⟨status, metadata | none⟩
  · rw [status, metadata]
    exact ⟨decided, Iff.rfl⟩
  · obtain ⟨err, st, asked, some'⟩ := decided
    have ok : err = E_OK := by
      by_contra failed
      rw [none] at some'
      cases some' failed
    rw [status, asked]
    refine ⟨⟨err, st, rfl, fun failed => absurd ok failed⟩, or_congr_right ?_⟩
    constructor
    · rintro ⟨err', st', _, same, failed, -⟩
      cases same
      exact absurd ok failed
    · rintro ⟨err', st', _, same, failed, -⟩
      cases same
      exact absurd ok failed

end OpticalNotes

section

variable {d : OpticalDisk} {s : ManagerState} {n : OpticalNotes}

/-- Whether there is a disc is what the first answers say. -/
theorem discState_noted (status : n.status = none) (metadata : n.metadata = none)
    (uevent : UeventEnv) :
    wp (.ofEnv d.noting) (discState uevent d.diskId) (fun state s' n' => s' = s ∧ n'.Decided ∧
      (state = .noDisc ↔ ¬ n'.Present)) s n := by
  rw [discState, queryCdromState, wp_bind]
  refine wp_called_bind fun answer n₁ answered => ?_
  obtain ⟨ret, st⟩ := answer
  have noted : n₁ = { n with status := some (ret, st) } := by
    rw [answered.2, OpticalNotes.note, status]
    rfl
  subst noted
  dsimp only
  by_cases failed : ret ≠ E_OK
  · rw [if_pos failed]
    refine wp_pure.mpr ?_
    rw [if_pos rfl]
    refine wp_called_bind fun read n₂ answered => ?_
    have noted : n₂ = { n with status := some (ret, st), metadata := some read } := by
      rw [answered.2, OpticalNotes.note, if_pos rfl]
      dsimp only
      rw [metadata]
      rfl
    subst noted
    refine ⟨rfl, ⟨ret, st, rfl, fun _ => rfl⟩, ?_⟩
    rw [OpticalNotes.present_of_failed rfl failed rfl]
    split
    next found =>
      simp only [Bool.and_eq_true, decide_eq_true_eq, Bool.not_eq_true',
        List.isEmpty_eq_false_iff] at found
      exact ⟨fun no => (by cases no), fun none => absurd found none⟩
    next none =>
      simp only [Bool.and_eq_true, decide_eq_true_eq, Bool.not_eq_true',
        List.isEmpty_eq_false_iff] at none
      exact ⟨fun _ => none, fun _ => rfl⟩
  · have ok : ret = E_OK := not_not.mp failed
    subst ok
    have decided : OpticalNotes.Decided { n with status := some (E_OK, st) } :=
      ⟨E_OK, st, rfl, fun failed => absurd rfl failed⟩
    have present : OpticalNotes.Present { n with status := some (E_OK, st) } ↔
      st.testBit 0 = true := OpticalNotes.present_of_ok rfl
    rw [if_neg failed]
    split
    next empty =>
      refine wp_pure.mpr ?_
      rw [if_neg (by decide)]
      refine ⟨rfl, decided, fun _ there => ?_, fun _ => rfl⟩
      exact Bool.false_ne_true (empty.symm.trans (present.mp there))
    next there =>
      have there := present.mpr (eq_true_of_ne_false there)
      split
      · refine wp_pure.mpr ?_
        rw [if_neg (by decide)]
        exact ⟨rfl, decided, fun no => (by cases no), fun none => absurd there none⟩
      · refine wp_pure.mpr ?_
        rw [if_neg (by decide)]
        exact ⟨rfl, decided, fun no => (by cases no), fun none => absurd there none⟩

/-- `DiskManager::Eject` asks the drive of a disk that is recorded as one. -/
theorem eject_noted (eject : n.eject = none) :
    wp (.ofEnv d.noting) (DiskManager.eject d.diskId) (fun err s' n' => s' = s ∧
      n'.inUse = n.inUse ∧ (err = E_OK ∧ d.recorded s = true ∧ n'.eject = some E_OK ∨
        err ≠ E_OK ∧ d.EjectFailed s n')) s n := by
  rw [DiskManager.eject]
  refine getDiskById_shows (fun answered => answered.2) fun shown shows => ?_
  cases shows with
  | none gone =>
      refine ⟨rfl, rfl, .inr ⟨by decide, .inl ?_⟩⟩
      rw [OpticalDisk.recorded, gone]
      rfl
  | @some disk extraInfo found =>
      have recorded : d.recorded s = decide (disk.diskType = CD_FLAG) := by
        rw [OpticalDisk.recorded, found]
        rfl
      dsimp only [attachVolumeIdsToDisk]
      split
      next other =>
        refine ⟨rfl, rfl, .inr ⟨by decide, .inl ?_⟩⟩
        rw [recorded]
        exact decide_eq_false other
      next optical =>
        have optical : d.recorded s = true := by
          rw [recorded]
          exact decide_eq_true (not_not.mp optical)
        refine wp_called_bind fun err n₁ answered => ?_
        have noted : n₁ = { n with eject := some err } := by
          rw [answered.2, OpticalNotes.note, eject]
          rfl
        subst noted
        refine ⟨rfl, rfl, ?_⟩
        by_cases failed : err ≠ E_OK
        · rw [if_pos failed]
          exact .inr ⟨by decide, .inr ⟨err, rfl, failed⟩⟩
        · rw [if_neg failed, not_not.mp failed]
          exact .inl ⟨rfl, optical, rfl⟩

end

/-- The volume of the drive is there. -/
def OpticalDisk.HasVolume (d : OpticalDisk) (s : ManagerState) : Prop :=
  s.volumeMap[d.volId]?.isSome = true

/-- What holds between the events of the drive. -/
structure OpticalDisk.Holds (d : OpticalDisk) (s : ManagerState) : Prop where
  filed : FiledAs d.Sole (fun diskId disk => disk.diskId = diskId) (fun _ => True) s
  free : s.partitioningDiskIds = []

namespace OpticalDisk

variable {d : OpticalDisk} {s s' : ManagerState}

theorem hasVolume_iff_place : d.HasVolume s ↔ (s.index.places d.volId).isSome = true := by
  unfold HasVolume
  change _ ↔ (s.volumeMap[d.volId]?.map VolumeExternal.place).isSome = true
  rw [Option.isSome_map]

theorem Holds.sound (holds : d.Holds s) : s.index.Sound :=
  ⟨fun _ _ found => (holds.filed.volumes found).wellPlaced.id,
    fun found => (holds.filed.volumes found).wellPlaced.loop,
    fun found => (holds.filed.volumes found).wellPlaced.named⟩

theorem Holds.diskIds (holds : d.Holds s) : s.index.DiskIds := fun _ _ found => holds.filed.disks found

/-- All volumes are that of the drive. -/
theorem not_hasVolume_of_eraseDisk (holds : d.Holds s)
    (erased : s'.index = s.index.eraseDisk d.diskId) : ¬ d.HasVolume s' := by
  rw [hasVolume_iff_place, erased]
  intro there
  obtain ⟨place, found⟩ := Option.isSome_iff_exists.mp there
  obtain ⟨found, other⟩ := Option.filter_eq_some_iff.mp found
  obtain ⟨-, rfl⟩ := holds.filed.volumes found
  simp [Place.volumeOn] at other

/-- What is to hold after an event with an eject request. -/
def Ejected (d : OpticalDisk) (s s' : ManagerState) (n : OpticalNotes) : Prop :=
  s'.partitioningDiskIds = s.partitioningDiskIds ∧
    (d.HasVolume s' ↔ d.HasVolume s ∧ (n.Blocked ∨ d.EjectFailed s' n))

variable {n : OpticalNotes}

/-- A blocked eject only asks for the state of the drive. -/
theorem blocked_refreshes (holds : d.Holds s) {err : ErrCode} {used : Bool}
    (inUse : n.inUse = some (err, used)) (bad : err ≠ E_OK ∨ used = true) :
    wp (.ofEnv d.noting) (do
      let state ← queryCdromState (blockPathForId d.diskId)
      refreshCdromState d.diskId state
      return) (fun _ => d.Ejected s) s n := by
  have refreshes : wp (.ofEnv d.noting) (do
      let state ← queryCdromState (blockPathForId d.diskId)
      refreshCdromState d.diskId state
      return) (fun _ s' _ => Refreshes d.diskId s s') s n := by
    refine wp_reads_bind (reads_queryCdromState _) fun state n' => ?_
    exact wp_seq (refreshes_refreshCdromState holds.diskIds d.diskId state) fun _ _ _ done => done
  have kept : wp (.ofEnv d.noting) (do
      let state ← queryCdromState (blockPathForId d.diskId)
      refreshCdromState d.diskId state
      return) (fun _ _ n' => n'.inUse = some (err, used)) s n := by
    refine wp_world_kept (fun n' : OpticalNotes => n'.inUse = some (err, used)) ?_ inUse
    intro s m q r m' held answered
    rw [answered.2]
    cases q with
    | readMetadata path =>
        unfold OpticalNotes.note
        dsimp only
        split
        · exact held
        · exact held
    | queryUsbIsInUse path =>
        unfold OpticalNotes.note
        dsimp only
        split
        · rw [held]
          rfl
        · exact held
    | _ => exact held
  refine wp_mono ?_ (wp_and refreshes kept)
  rintro _ s' n' ⟨⟨disks, rfl, -⟩, inUse⟩
  exact ⟨rfl, fun there => ⟨there, .inl ⟨err, used, inUse, bad⟩⟩, fun there => there.1⟩

variable [JsonLib]

/-- An eject that is not blocked. -/
theorem ejected_ejectAndDestroyCdrom (holds : d.Holds s) (eject : n.eject = none)
    (free : ¬ n.Blocked) :
    wp (.ofEnv d.noting) (ejectAndDestroyCdrom d.diskId) (fun _ => d.Ejected s) s n := by
  rw [ejectAndDestroyCdrom]
  refine wp_seq (eject_noted eject) fun err s₁ n₁ ended => ?_
  obtain ⟨rfl, inUse, ⟨rfl, recorded, ejected⟩ | ⟨failed, because⟩⟩ := ended
  · rw [if_neg fun failed => failed rfl]
    have kept : wp (.ofEnv d.noting) (destroyALLVolume d.diskId)
        (fun _ _ n' => n'.eject = some E_OK ∧ n'.inUse = n.inUse) s₁ n₁ := by
      refine wp_world_kept (fun n' : OpticalNotes => n'.eject = some E_OK ∧ n'.inUse = n.inUse) ?_
        ⟨ejected, inUse⟩
      intro s m q r m' held answered
      rw [answered.2]
      cases q with
      | readMetadata path =>
          unfold OpticalNotes.note
          dsimp only
          split
          · exact held
          · exact held
      | queryUsbIsInUse path =>
          unfold OpticalNotes.note
          dsimp only
          rw [held.1]
          exact held
      | eject path =>
          unfold OpticalNotes.note
          dsimp only
          rw [held.1]
          exact ⟨rfl, held.2⟩
      | _ => exact held
    have erases := index_destroyALLVolume (w := n₁) d.noting_nodes holds.sound
      (diskIdFrom_ne_nil DISK_CD_MAJOR d.minor)
    refine wp_seq (wp_and erases kept) fun _ s₂ n₂ ended => ?_
    obtain ⟨erased, ejected, inUse⟩ := ended
    refine ⟨congrArg Index.partitioningDiskIds erased, fun there => ?_, ?_⟩
    · exact absurd there (not_hasVolume_of_eraseDisk holds erased)
    · rintro ⟨-, ⟨err, used, noted, bad⟩ | failed | ⟨err, noted, failed⟩⟩
      · rw [inUse] at noted
        exact absurd ⟨err, used, noted, bad⟩ free
      · have disks : s₂.diskMap = s₁.diskMap := congrArg Index.diskMap erased
        unfold OpticalDisk.recorded at failed recorded
        rw [disks, recorded] at failed
        cases failed
      · cases noted.symm.trans ejected
        exact absurd rfl failed
  · rw [if_pos failed]
    exact ⟨rfl, fun there => ⟨there, .inr because⟩, fun there => there.1⟩

theorem ejected_tryEjectCdrom (holds : d.Holds s) (eject : n.eject = none) (inUse : n.inUse = none) :
    wp (.ofEnv d.noting) (tryEjectCdrom d.diskId) (fun _ => d.Ejected s) s n := by
  have free : ¬ n.Blocked := by
    rintro ⟨err, used, noted, -⟩
    cases inUse.symm.trans noted
  rw [tryEjectCdrom]
  refine getDiskById_shows (fun answered => answered.2) fun shown shows => ?_
  cases shows with
  | none gone =>
      refine ⟨rfl, fun there => ⟨there, .inr (.inl ?_)⟩, fun there => there.1⟩
      rw [OpticalDisk.recorded, gone]
      rfl
  | @some disk extraInfo found =>
      dsimp only
      split
      · exact wp_seq (ejected_ejectAndDestroyCdrom holds eject free) fun _ _ _ ended => ended
      rw [findMountedVolumePath, getAllVolumes]
      refine wp_bind.mpr (wp_look_bind ?_)
      change wp (.ofEnv d.noting) (if _ then _ else _) _ _ _
      split
      · rw [canEjectMountedCdrom]
        refine wp_bind.mpr (wp_called_bind fun answer n₁ answered => ?_)
        have noted : n₁ = { n with inUse := some answer } := by
          rw [answered.2, OpticalNotes.note, eject, inUse]
          rfl
        subst noted
        obtain ⟨queryErr, isInUse⟩ := answer
        change wp (.ofEnv d.noting) (if _ then _ else _) _ _ _
        split
        next blocked =>
          have bad : queryErr ≠ E_OK ∨ isInUse = true := by
            simpa [Decidable.or_iff_not_imp_left] using blocked
          exact blocked_refreshes (n := { n with inUse := some (queryErr, isInUse) }) holds rfl bad
        next allowed =>
          have good : ¬ OpticalNotes.Blocked { n with inUse := some (queryErr, isInUse) } := by
            rintro ⟨err, used, noted, bad⟩
            cases noted
            exact allowed (by simpa [Decidable.or_iff_not_imp_left] using bad)
          exact wp_seq (ejected_ejectAndDestroyCdrom holds eject good) fun _ _ _ ended => ended
      · exact wp_seq (ejected_ejectAndDestroyCdrom holds eject free) fun _ _ _ ended => ended

omit [JsonLib] in
/-- A refreshed disk does not touch the volumes. -/
theorem rest_of_refreshes (refreshes : Refreshes d.diskId s s') :
    s'.volumeMap = s.volumeMap ∧ s'.partitioningDiskIds = s.partitioningDiskIds ∧
      (s'.diskMap[d.diskId]?.isSome = s.diskMap[d.diskId]?.isSome) := by
  obtain ⟨disks, rfl, type⟩ := refreshes
  refine ⟨rfl, rfl, ?_⟩
  have same := congrArg Option.isSome type
  rwa [Option.isSome_map, Option.isSome_map] at same

/-- What follows the question whether there is a disc. -/
theorem followed_discState (holds : d.Holds s) (there : s.diskMap[d.diskId]?.isSome)
    {e : OpticalEvent d} (state : CdromState) :
    wp (.ofEnv d.noting) (do
      if state = .noDisc then
        destroyALLVolume d.diskId
        return
      refreshCdromState d.diskId state
      handleAddCD e.uevent d.diskId state) (fun _ s' _ =>
        s'.partitioningDiskIds = s.partitioningDiskIds ∧ (d.HasVolume s' ↔ state ≠ .noDisc)) s n := by
  split
  next none =>
    refine wp_seq (index_destroyALLVolume d.noting_nodes holds.sound
      (diskIdFrom_ne_nil DISK_CD_MAJOR d.minor)) fun _ s₁ n₁ erased => ?_
    refine ⟨congrArg Index.partitioningDiskIds erased, fun has => ?_, fun some' => ?_⟩
    · exact absurd has (not_hasVolume_of_eraseDisk holds erased)
    · exact absurd none some'
  next some' =>
    refine wp_seq (refreshes_refreshCdromState holds.diskIds d.diskId state) fun _ s₁ n₁ refreshed => ?_
    obtain ⟨volumes, free, disks⟩ := rest_of_refreshes refreshed
    have ids₁ : KeyIds s₁ := by
      intro k vol found
      rw [volumes] at found
      exact keyIds_index.mpr holds.sound.keys k vol found
    refine wp_mono ?_ (index_handleAddCD d.noting_nodes ids₁ (disks.trans there) e.uevent state)
    intro _ s₂ n₂ inserted
    refine ⟨(congrArg Index.partitioningDiskIds inserted).trans free, fun _ => some', fun _ => ?_⟩
    rw [hasVolume_iff_place, inserted, e.dev, ← d.volIdFromDev_dev]
    change ((s₁.index.insert (.volumeOn d.diskId d.dev 0)).places
      (Place.volumeOn d.diskId d.dev 0).id).isSome = true
    rw [Index.insert_places_self]
    rfl

/-- What is to hold after an event. -/
def Answers (d : OpticalDisk) (ejectRequest : Bool) (s s' : ManagerState) (n : OpticalNotes) : Prop :=
  if ejectRequest then d.HasVolume s' ↔ d.HasVolume s ∧ (n.Blocked ∨ d.EjectFailed s' n)
  else d.HasVolume s' ↔ n.Present

theorem answers_discoverSinglePartitionVolume4CD (holds : d.Holds s)
    (there : s.diskMap[d.diskId]?.isSome) (e : OpticalEvent d) :
    wp (.ofEnv d.noting) (discoverSinglePartitionVolume4CD e.uevent d.diskId)
      (fun _ s' n => s'.partitioningDiskIds = s.partitioningDiskIds ∧
        d.Answers e.uevent.ejectRequest s s' n) s {} := by
  rw [discoverSinglePartitionVolume4CD]
  cases request : e.uevent.ejectRequest with
  | true =>
      rw [if_pos rfl]
      refine wp_seq (ejected_tryEjectCdrom holds rfl rfl) fun _ s' n ended => ?_
      exact ended
  | false =>
      rw [if_neg Bool.false_ne_true]
      refine wp_seq (discState_noted rfl rfl e.uevent) fun state s₁ n₁ ended => ?_
      obtain ⟨rfl, decided, none⟩ := ended
      have kept : wp (.ofEnv d.noting) (do
          if state = .noDisc then
            destroyALLVolume d.diskId
            return
          refreshCdromState d.diskId state
          handleAddCD e.uevent d.diskId state)
          (fun _ _ n => n.Decided ∧ (n.Present ↔ n₁.Present)) s₁ n₁ := by
        refine wp_world_kept (fun n : OpticalNotes => n.Decided ∧ (n.Present ↔ n₁.Present)) ?_
          ⟨decided, Iff.rfl⟩
        intro s m q r m' held answered
        rw [answered.2]
        obtain ⟨decided, same⟩ := held.1.note d.diskId q r
        exact ⟨decided, same.trans held.2⟩
      refine wp_mono ?_ (wp_and (followed_discState holds there state) kept)
      rintro _ s' n ⟨⟨free, has⟩, -, present⟩
      refine ⟨free, has.trans ?_⟩
      rw [Ne, none, present]
      exact not_not

omit [JsonLib] in
theorem Holds.addDisk (holds : d.Holds s) {disk : Disk} (added : s'.index = s.index.addDisk disk) :
    d.Holds s' ∧ (d.HasVolume s' ↔ d.HasVolume s) := by
  refine ⟨⟨?_, ?_⟩, ?_⟩
  · unfold FiledAs
    rw [added]
    refine ⟨fun found => ?_, fun {k disk'} found => holds.diskIds.addDisk disk k disk' found, trivial⟩
    rw [Index.addDisk_places] at found
    exact holds.filed.volumes found
  · have same := congrArg Index.partitioningDiskIds added
    rw [Index.addDisk_partitioning] at same
    exact same.trans holds.free
  · rw [hasVolume_iff_place, hasVolume_iff_place, added, Index.addDisk_places]

theorem answers_discoverCdromVolumes (holds : d.Holds s) (e : OpticalEvent d) (new : Bool) :
    wp (.ofEnv d.noting) (discoverCdromVolumes e.uevent d.diskId new)
      (fun _ s' n => s'.partitioningDiskIds = [] ∧ d.Answers e.uevent.ejectRequest s s' n) s {} := by
  rw [discoverCdromVolumes]
  refine wp_called_bind fun err n₁ answered => ?_
  have quiet : n₁ = {} := answered.2
  subst quiet
  rw [d.noting_nodes.create answered, if_neg fun failed => failed rfl]
  have asked : ∀ publishNew, (publishNew = false → s.diskMap[d.diskId]?.isSome) →
      wp (.ofEnv d.noting) (do
        upsertDiskAndPublishEvent e.uevent d.diskId publishNew "cd"
        discoverSinglePartitionVolume4CD e.uevent d.diskId
        return E_OK) (fun _ s' n => s'.partitioningDiskIds = [] ∧
          d.Answers e.uevent.ejectRequest s s' n) s {} := by
    intro publishNew known
    have upserts := wp_keeps_world (C := .ofEnv d.noting) (w := {})
      (index_upsertDiskAndPublishEvent (s := s) e.uevent d.diskId publishNew "cd")
      (asks_upsertDiskAndPublishEvent (fun _ => rfl) (fun _ _ => rfl) (fun _ => rfl) (fun _ => rfl)
        (fun _ => rfl) _ _ _ _)
      fun {s _ _ _ _} other answered => d.noting_quiet (s := s) other answered
    refine wp_seq upserts fun _ s₁ n₁ upserted => ?_
    obtain ⟨upserted, rfl⟩ := upserted
    have there : s₁.diskMap[d.diskId]?.isSome ∧ d.Holds s₁ ∧ (d.HasVolume s₁ ↔ d.HasVolume s) := by
      rcases upserted with ⟨rfl, same⟩ | ⟨rfl, disk, record, added⟩
      · have disks : s₁.diskMap = s.diskMap := congrArg Index.diskMap same
        refine ⟨disks.symm ▸ known rfl, ⟨?_, ?_⟩, ?_⟩
        · exact FiledAs.sameIndex holds.filed same
        · exact (congrArg Index.partitioningDiskIds same).trans holds.free
        · rw [hasVolume_iff_place, hasVolume_iff_place, same]
      · refine ⟨?_, holds.addDisk added⟩
        have disks : s₁.diskMap = (s.index.addDisk disk).diskMap := congrArg Index.diskMap added
        rw [disks, ← record.id]
        exact Index.addDisk_isSome _ _
    obtain ⟨there, holds₁, same⟩ := there
    refine wp_seq (answers_discoverSinglePartitionVolume4CD holds₁ there e) fun _ s₂ n₂ ended => ?_
    refine ⟨ended.1.trans holds₁.free, ?_⟩
    have answers := ended.2
    unfold Answers at answers ⊢
    rwa [same] at answers
  rw [isNewDisk]
  cases new with
  | true => exact asked true fun no => by cases no
  | false =>
      rw [if_neg Bool.false_ne_true, hasDisk]
      refine wp_bind.mpr (wp_look_bind ?_)
      exact asked _ fun known => by simpa using known

theorem answers_prog (holds : d.Holds s) (e : OpticalEvent d) :
    wp (.ofEnv d.noting) e.prog (fun _ s' n => s'.partitioningDiskIds = [] ∧
      d.Answers e.uevent.ejectRequest s s' n) s {} := by
  have discovers : ∀ new, wp (.ofEnv d.noting) (discoverPartitionsAndVolumes e.uevent new)
      (fun _ s' n => s'.partitioningDiskIds = [] ∧
        d.Answers e.uevent.ejectRequest s s' n) s {} := by
    intro new
    rw [discoverPartitionsAndVolumes, if_pos e.major, e.diskId]
    exact answers_discoverCdromVolumes holds e new
  unfold OpticalEvent.prog
  split
  · rw [handleDiskChange, isPartitioningInternal]
    refine wp_bind.mpr (isPartitioning_bind ?_)
    rw [holds.free]
    exact wp_bind.mp (hasDisk_bind (discovers _))
  · rw [handleDiskAdd]
    exact hasDisk_bind (discovers _)

theorem filed_prog (e : OpticalEvent d) :
    Keeps (FiledAs d.Sole (fun diskId disk => disk.diskId = diskId) fun _ => True) e.prog
      fun _ => True := by
  have disks : AcceptsDisks fun diskId disk => disk.diskId = diskId :=
    ⟨fun _ _ id => id, fun _ _ _ id copied => copied.diskId.trans id, fun _ _ _ _ _ => rfl⟩
  have ids : ∀ k place, d.Sole k place → place.id = k := fun _ _ sole => sole.wellPlaced.id
  have good : d.Sole (volIdFromDev (partitionDev e.uevent.major e.uevent.minor 0))
      (.volumeOn (diskIdFrom e.uevent.major e.uevent.minor)
        (partitionDev e.uevent.major e.uevent.minor 0) 0) := by
    rw [e.dev, e.diskId]
    exact ⟨d.volIdFromDev_dev, rfl⟩
  have discovers : ∀ new, Keeps (FiledAs d.Sole (fun diskId disk => disk.diskId = diskId)
      fun _ => True) (discoverPartitionsAndVolumes e.uevent new) fun _ => True := by
    intro new
    rw [discoverPartitionsAndVolumes]
    dsimp only
    rw [if_pos e.major]
    exact filed_discoverCdromVolumes disks ids e.fits good new
  unfold OpticalEvent.prog
  split
  · rw [handleDiskChange]
    refine keeps_seq (reads_isPartitioningInternal _).keeps fun partitioning _ => ?_
    split
    · trivial
    exact keeps_seq (reads_hasDisk _).keeps fun known _ => discovers _
  · rw [handleDiskAdd]
    exact keeps_seq (reads_hasDisk _).keeps fun known _ => discovers _

/-- Events of the drive, one after another. -/
theorem holds_of_runs {events : List (OpticalEvent d)} {s₀ : ManagerState}
    (fresh : s₀.index = ManagerState.boot.index)
    (run : Runs OpticalEvent.prog (fun _ => nodesEnv) s₀ () events s ()) : d.Holds s := by
  refine Runs.invariant (C := fun _ : OpticalEvent d => .ofEnv nodesEnv)
    (fun s _ => d.Holds s) (fun e s w holds => ?_) ?_ run
  · have free : wp (.ofEnv nodesEnv) e.prog (fun _ s' _ => s'.partitioningDiskIds = []) s w := by
      have noted : wp (.ofEnv d.noting) e.prog (fun _ s' _ => s'.partitioningDiskIds = []) s {} :=
        wp_mono (fun _ _ _ ended => ended.1) (answers_prog holds e)
      exact wp_world (C := .ofEnv d.noting) (fun n answered => ⟨_, answered, rfl⟩) trivial
        (fun _ => trivial) noted
    have filed : wp (.ofEnv nodesEnv) e.prog (fun _ s' _ =>
        FiledAs d.Sole (fun diskId disk => disk.diskId = diskId) (fun _ => True) s' ∧ True) s w :=
      wp_of_free (wp_of_keeps (filed_prog e) holds.filed) trivial trivial
    exact wp_mono (fun _ _ _ ended => ⟨ended.1.1, ended.2⟩) (wp_and filed free)
  · refine ⟨?_, congrArg Index.partitioningDiskIds fresh⟩
    unfold FiledAs
    rw [fresh]
    refine ⟨fun found => ?_, fun found => ?_, trivial⟩
    · exact absurd found (by simp [ManagerState.index, ManagerState.boot])
    · exact absurd found (by simp [ManagerState.index, ManagerState.boot])

/-- A volume of the drive stands there. -/
def VolumeUnder (d : OpticalDisk) (s : ManagerState) (k : CppString) : Prop :=
  ∃ vol, s.volumeMap[k]? = some vol ∧ vol.diskId = d.diskId

/-- In a run of events of a drive there is never more than one volume of it; an event leaves the
volume there where the disc counts as present, and an eject request where it was there and the eject
was blocked or failed. -/
theorem optical_presence {events : List (OpticalEvent d)} {s₀ : ManagerState}
    (fresh : s₀.index = ManagerState.boot.index)
    (run : Runs OpticalEvent.prog (fun _ => nodesEnv) s₀ () events s ()) (e : OpticalEvent d) :
    (∀ c, Reach nodesEnv ⟨e.prog, s, ()⟩ c →
      ∀ k k', d.VolumeUnder c.s k → d.VolumeUnder c.s k' → k = k') ∧
    ∀ err s' n, Returns d.noting e.prog s {} err s' n →
      d.Answers e.uevent.ejectRequest s s' n := by
  have holds := holds_of_runs fresh run
  refine ⟨fun c reach k k' here here' => ?_, fun err s' n returned => ?_⟩
  · have filed := (keeps_reach (filed_prog e) holds.filed reach).2
    obtain ⟨vol, found, -⟩ := here
    obtain ⟨vol', found', -⟩ := here'
    rw [(filed.volume found).1, (filed.volume found').1]
  · exact (wp_returns (answers_prog holds e) returned).2

end OpticalDisk

/-- The first drive, with a disc in it. -/
theorem drive_fits : 0 < 2 ^ 32 := by decide

def drive : OpticalDisk := ⟨0, drive_fits⟩

def driveEvent (ejectRequest : Bool) : OpticalEvent drive :=
  ⟨ejectRequest, { major := DISK_CD_MAJOR, minor := 0, devName := "sr0", ejectRequest }, rfl, rfl⟩

def discAnswer : (q : Req) → q.Resp
  | .queryCDStatus _ => (E_OK, 1)
  | .readMetadata _ => ⟨E_OK, "1234-ABCD", "udf", []⟩
  | q => okAnswer ∅ q

def driveLoaded : ManagerState × Unit :=
  letI := tableJson
  execAll OpticalEvent.prog (fun _ q => (discAnswer q, ())) [driveEvent false] (.boot, ())

/-- The disc is loaded; then the drive is asked to eject it. -/
theorem optical_presence_drive :
    letI := tableJson
    (∀ c, Reach nodesEnv ⟨(driveEvent true).prog, driveLoaded.1, ()⟩ c →
      ∀ k k', drive.VolumeUnder c.s k → drive.VolumeUnder c.s k' → k = k') ∧
    ∀ err s' n, Returns drive.noting (driveEvent true).prog driveLoaded.1 {} err s' n →
      drive.Answers true driveLoaded.1 s' n := by
  let _ := tableJson
  have obeys : ∀ (s : ManagerState) (w : Unit) (q : Req), nodesEnv s w q (discAnswer q) () := by
    intro s w q
    cases q with
    | createBlockDeviceNode => rfl
    | destroyBlockDeviceNode => rfl
    | _ => trivial
  have run : Runs OpticalEvent.prog (fun _ => nodesEnv) .boot () [driveEvent false] driveLoaded.1
      driveLoaded.2 := Runs.execAll (fun _ => obeys) _ _ _
  exact OpticalDisk.optical_presence rfl run (driveEvent true)

end DiskManager
