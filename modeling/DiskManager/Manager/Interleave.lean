import DiskManager.Interact.Fresh
import DiskManager.Manager.Lifecycle

/-!
# Mount and Unmount side by side

Any number of `Mount` and `Unmount` requests on one volume, in every order of their critical
sections and daemon calls. What a request knows of the volume is the mount status it saw: the
state, and the path of a mounted volume (`mountStatus`).

A request moves through phases (`Phase`), and `PhaseStep` says what a section may do to the record in
each. The mount of the device belongs to the record while it is MOUNTED, to the request that made
it until that request has recorded it, and to the request that ejects it (`Agreed`). As long as no
request writes over a status it has not watch, the record agrees with the device whenever no
request is in progress.
-/

namespace DiskManager

open Interact

/-! ## The protocol -/

/-- What the record says of the mount. -/
def mountStatus (r : VolumeExternal) : VolumeState × Option CppString :=
  (r.state, if r.state = .mounted then some r.path else none)

def watchVolume (v : CppString) (s : ManagerState) : Option (VolumeState × Option CppString) :=
  s.volumeMap[v]?.map mountStatus

abbrev MountWatch : Type := Watch (Option (VolumeState × Option CppString))

/-- Where a request stands: it holds nothing; it has mounted the device at `path` and not recorded
it; it has marked the record as ejecting, with the device mounted at `path`; it has unmounted the
device and not reset the record. -/
inductive Phase : Type
  | idle
  | mounted (path : CppString)
  | ejecting (path : CppString)
  | released

/-- A state in which the record makes no claim on the mount. -/
def VolumeState.calm (state : VolumeState) : Prop := state ≠ .mounted ∧ state ≠ .ejecting

instance (state : VolumeState) : Decidable state.calm :=
  inferInstanceAs (Decidable (state ≠ .mounted ∧ state ≠ .ejecting))

/-- What a section does to state and path of the record, by phase. -/
inductive PhaseStep : Phase → VolumeState × CppString → VolumeState × CppString → Phase → Prop
  | keep {φ : Phase} {a : VolumeState × CppString} : PhaseStep φ a a φ
  | work {a b : VolumeState × CppString} (before : a.1.calm) (after : b.1.calm) :
    PhaseStep .idle a b .idle
  | setPath {a : VolumeState × CppString} {path : CppString} (before : a.1.calm) :
    PhaseStep (.mounted path) a (a.1, path) (.mounted path)
  | record {a : VolumeState × CppString} {path : CppString} (before : a.1.calm) :
    PhaseStep (.mounted path) a (.mounted, path) .idle
  | eject {path : CppString} : PhaseStep .idle (.mounted, path) (.ejecting, path) (.ejecting path)
  | restore {path path' : CppString} :
    PhaseStep (.ejecting path) (.ejecting, path') (.mounted, path') .idle
  | reset {a : VolumeState × CppString} : PhaseStep .released a (.unmounted, []) .idle

/-- What an answer of the daemon does to the phase. -/
inductive AnswerMove (v : CppString) (w : MountTable) : Phase → (q : Req) → q.Resp → Phase → Prop
  | keep {φ : Phase} {q : Req} {r : q.Resp} (same : w.after q r = w) : AnswerMove v w φ q r φ
  | mount {path fsType mountData : CppString} {mountFlag : Nat} :
    AnswerMove v w .idle (.mount (volumeDev v) path fsType mountFlag mountData) E_OK
      (.mounted path)
  | unmount {path fsType : CppString} {force : Bool} :
    AnswerMove v w (.ejecting path) (.unmount path fsType force) E_OK .released

/-- A record of volume `v` on a block device, at no path or a plain one. -/
structure BlockRecord (v : CppString) (r : VolumeExternal) : Prop where
  id : r.id = v
  block : r.fsType.block
  path : r.path = [] ∨ PlainPath r.path
  held : ¬ r.state.calm → PlainPath r.path
  unmountable : r.state.unmountable = true → r.state = .mounted

structure HasBlockRecord (v : CppString) (s : ManagerState) : Prop where
  record : ∃ r, s.volumeMap[v]? = some r ∧ BlockRecord v r
  paths : DataPaths s.voldata.uuidMap

/-- State and path of the record. -/
def cell (v : CppString) (s : ManagerState) : Option (VolumeState × CppString) :=
  s.volumeMap[v]?.map fun r => (r.state, r.path)

def mountProtocol (v : CppString) (answers : Answers) :
    Protocol ManagerState MountTable Req Req.Resp (Option (VolumeState × Option CppString)) Phase
    where
  look := watchVolume v
  env := daemonEnv answers
  inv := HasBlockRecord v
  sect φ upd s φ' := ∃ a b, cell v s = some a ∧ cell v (upd s) = some b ∧ PhaseStep φ a b φ'
  answer φ w q r _ φ' := AnswerMove v w φ q r φ'

/-- The daemon does not mount a device that is mounted. -/
def RefusesMounted (answers : Answers) : Prop :=
  ∀ {w : MountTable} {devPath mountPath fsType mountData : CppString} {mountFlag : Nat}
    {err : ErrCode}, answers w (.mount devPath mountPath fsType mountFlag mountData) err →
    w.mounted devPath → err ≠ E_OK

/-! ## Whose the mount is -/

/-- The device is mounted exactly when the record or a request holds the mount, and at most one of
them does. -/
structure Agreed {ι : Type} (v : CppString) (φ : ι → Phase) (a : VolumeState × CppString)
    (w : MountTable) : Prop where
  recorded : a.1 = .mounted → w.mountedAt (volumeDev v) a.2 ∧ ∀ i, φ i = .idle
  mounting {i : ι} {path : CppString} : φ i = .mounted path →
    w.mountedAt (volumeDev v) path ∧ a.1 ≠ .mounted ∧ ∀ j ≠ i, φ j = .idle ∨ φ j = .released
  ejecting {i : ι} {path : CppString} : φ i = .ejecting path →
    w.mountedAt (volumeDev v) path ∧ a = (.ejecting, path) ∧ ∀ j ≠ i, φ j = .idle
  released {i : ι} : φ i = .released → a.1 = .ejecting ∧
    ∀ j ≠ i, φ j = .idle ∨ ∃ path, φ j = .mounted path
  held : w.mounted (volumeDev v) →
    a.1 = .mounted ∨ ∃ i path, φ i = .mounted path ∨ φ i = .ejecting path
  marked : a.1 = .ejecting → ∃ i, φ i = .released ∨ ∃ path, φ i = .ejecting path

section

variable {ι : Type} [DecidableEq ι] {v : CppString} {φ : ι → Phase}
  {a b : VolumeState × CppString} {w : MountTable}

/-- A section keeps the agreement. -/
theorem Agreed.move {i : ι} {φ' : Phase} (agreed : Agreed v φ a w) (move : PhaseStep (φ i) a b φ') :
    Agreed v (Function.update φ i φ') b w := by
  generalize here : φ i = before at move
  obtain ⟨recorded, mounting, ejecting, released, held, marked⟩ := agreed
  cases move with
  | keep =>
      rw [← here, Function.update_eq_self]
      exact ⟨recorded, mounting, ejecting, released, held, marked⟩
  | work before after =>
      -- Neither the record before nor the one after makes a claim, so the holders stay.
      rw [← here, Function.update_eq_self]
      constructor <;> simp only [VolumeState.calm] at before after <;> grind
  | setPath before =>
      rw [← here, Function.update_eq_self]
      constructor <;> simp only [VolumeState.calm] at before <;> grind
  | record before =>
      -- A request that had unmounted the device would have left the record EJECTING.
      have others : ∀ j ≠ i, φ j = .idle := by
        intro j ne
        rcases (mounting here).2.2 j ne with idle | gone
        · exact idle
        · exact absurd (released gone).1 before.2
      constructor <;> simp only [Function.update_apply] <;> grind
  | eject =>
      have others := (recorded rfl).2
      constructor <;> simp only [Function.update_apply] <;> grind
  | restore =>
      have others := (ejecting here).2.2
      constructor <;> simp only [Function.update_apply] <;> grind
  | reset =>
      -- A mount made since the unmount belongs to the request that made it.
      have others := (released here).2
      constructor <;> simp only [Function.update_apply] <;> grind

/-- So does an answer of a daemon that does not mount a mounted device. -/
theorem Agreed.answer {answers : Answers} (refuses : RefusesMounted answers) {i : ι} {φ' : Phase}
    {q : Req} {r : q.Resp} (agreed : Agreed v φ a w) (ans : answers w q r)
    (move : AnswerMove v w (φ i) q r φ') : Agreed v (Function.update φ i φ') a (w.after q r) := by
  generalize here : φ i = before at move
  cases move with
  | keep same =>
      rw [← here, Function.update_eq_self, same]
      exact agreed
  | @mount path fsType mountData mountFlag =>
      -- The device was free, so nobody held a mount.
      have free : ¬ w.mounted (volumeDev v) := fun mounted => refuses ans mounted rfl
      have at' : MountTable.mountedAt ((volumeDev v, path) :: w) (volumeDev v) path :=
        MountTable.mountedAt_cons free
      rw [MountTable.after_mount]
      obtain ⟨recorded, mounting, ejecting, released, -, marked⟩ := agreed
      have nobody : ∀ j, φ j = .idle ∨ φ j = .released := by
        intro j
        cases held : φ j with
        | idle => exact .inl rfl
        | released => exact .inr rfl
        | mounted p => exact absurd (MountTable.mounted_of_mountedAt (mounting held).1) free
        | ejecting p => exact absurd (MountTable.mounted_of_mountedAt (ejecting held).1) free
      have unrecorded : a.1 ≠ .mounted := fun state =>
        free (MountTable.mounted_of_mountedAt (recorded state).1)
      constructor <;> simp only [Function.update_apply] <;> grind
  | unmount =>
      have at' := (agreed.ejecting here).1
      have free := MountTable.not_mounted_filter at'
      rw [MountTable.after_unmount]
      obtain ⟨-, -, ejecting, -, -, -⟩ := agreed
      obtain ⟨-, rfl, others⟩ := ejecting here
      constructor <;> simp only [Function.update_apply] <;> grind

omit [DecidableEq ι] in
/-- With no request in progress the record and the device agree. -/
theorem Agreed.quiet (agreed : Agreed v φ a w) (idle : ∀ i, φ i = .idle) :
    a.1 = .mounted ↔ w.mounted (volumeDev v) := by
  refine ⟨fun state => MountTable.mounted_of_mountedAt (agreed.recorded state).1, fun mounted => ?_⟩
  rcases agreed.held mounted with state | ⟨i, path, holds | holds⟩
  · exact state
  · rw [idle i] at holds
    cases holds
  · rw [idle i] at holds
    cases holds

end

/-! ## Rules -/

section Rules

variable {answers : Answers} {v : CppString} {φ : Phase} {α β : Type}
  {x : Option (VolumeState × Option CppString)}
  {watch : MountWatch}
  {post : α → Phase → MountWatch → Prop}

/-- A request that leaves the mount table as it is. -/
theorem follows_call_bind {q : Req} {f : q.Resp → ManagerProg α}
    (keeps : ∀ (w : MountTable) r, w.after q r = w)
    (rest : ∀ w r, answers w q r → Follows (mountProtocol v answers) (f r) φ watch post) :
    Follows (mountProtocol v answers) (call q >>= f) φ watch post := by
  rw [follows_bind]
  rintro s w r w' - ⟨ans, -⟩
  exact ⟨φ, .keep (keeps w r), rest w r ans⟩

theorem follows_quiet_bind {q : Req} {f : q.Resp → ManagerProg α} (quiet : q.quiet = true)
    (rest : ∀ w r, answers w q r → Follows (mountProtocol v answers) (f r) φ watch post) :
    Follows (mountProtocol v answers) (call q >>= f) φ watch post :=
  follows_call_bind (fun _ _ => MountTable.after_quiet quiet _) rest

/-- The daemon mounts the device, or not. -/
theorem follows_mount_bind {path fsType mountData : CppString} {mountFlag : Nat}
    {f : ErrCode → ManagerProg α}
    (good : Follows (mountProtocol v answers) (f E_OK) (.mounted path) watch post)
    (bad : ∀ err ≠ E_OK, Follows (mountProtocol v answers) (f err) .idle watch post) :
    Follows (mountProtocol v answers)
      (call (.mount (volumeDev v) path fsType mountFlag mountData) >>= f) .idle watch post := by
  rw [follows_bind]
  rintro s w err w' - -
  by_cases ok : err = E_OK
  · subst ok
    exact ⟨.mounted path, .mount, good⟩
  · exact ⟨.idle, .keep (MountTable.after_mount_failed ok), bad err ok⟩

/-- The daemon unmounts the device, or not. -/
theorem follows_unmount_call {path fsType : CppString} {force : Bool}
    {post : ErrCode → Phase → MountWatch → Prop}
    (good : post E_OK .released watch) (bad : ∀ err ≠ E_OK, post err (.ejecting path) watch) :
    Follows (mountProtocol v answers) (call (.unmount path fsType force)) (.ejecting path) watch
      post := by
  rintro s w err w' - -
  by_cases ok : err = E_OK
  · subst ok
    exact ⟨.released, .unmount, good⟩
  · exact ⟨.ejecting path, .keep (MountTable.after_unmount_failed ok), bad err ok⟩

theorem HasBlockRecord.cell {s : ManagerState} (has : HasBlockRecord v s) :
    ∃ a, DiskManager.cell v s = some a := by
  obtain ⟨r, found, -⟩ := has.record
  exact ⟨(r.state, r.path), by rw [DiskManager.cell, found]; rfl⟩

/-- A section that leaves state and path of the record as they are. -/
theorem follows_other {upd : ManagerState → ManagerState} {next : ManagerState → ManagerProg α}
    (same : ∀ s, cell v (upd s) = cell v s) (watched : ∀ s, watchVolume v (upd s) = watchVolume v s)
    (kept : ∀ s, HasBlockRecord v s → HasBlockRecord v (upd s))
    (rest : ∀ s, HasBlockRecord v s →
      Follows (mountProtocol v answers) (next s) φ (.saw x) post) :
    Follows (mountProtocol v answers) (.atomic upd next) φ (.saw x) post := by
  intro s has _
  obtain ⟨a, here⟩ := has.cell
  refine ⟨kept s has, φ, ⟨a, a, here, by rw [same, here], .keep⟩, ?_⟩
  have other : ¬ Writes (mountProtocol v answers).look upd := fun ⟨s, ne⟩ => ne (watched s)
  rw [Watch.noticed_other other]
  exact rest s has

theorem follows_read_bind {g : ManagerState → β} {f : β → ManagerProg α}
    (rest : ∀ s, HasBlockRecord v s →
      Follows (mountProtocol v answers) (f (g s)) φ (.saw x) post) :
    Follows (mountProtocol v answers) (Prog.read g >>= f) φ (.saw x) post := by
  rw [follows_bind]
  exact follows_other (fun _ => rfl) (fun _ => rfl) (fun _ has => has) rest

/-- The first section of a request looks at the record. -/
theorem follows_gate_bind {g : ManagerState → β} {f : β → ManagerProg α}
    (rest : ∀ s, HasBlockRecord v s →
      Follows (mountProtocol v answers) (f (g s)) φ (.saw (watchVolume v s)) post) :
    Follows (mountProtocol v answers) (Prog.read g >>= f) φ .unseen post := by
  rw [follows_bind]
  intro s has _
  obtain ⟨a, here⟩ := has.cell
  refine ⟨has, φ, ⟨a, a, here, here, .keep⟩, ?_⟩
  exact rest s has

/-- An operation of the store does not touch the record. -/
theorem follows_onStore {p : StoreProg α} {kept : α → Prop}
    (keeps : Keeps StoreState.dataPaths p kept) :
    Follows (mountProtocol v answers) (onStore p) φ (.saw x)
      fun a φ' watch => φ' = φ ∧ watch = .saw x ∧ kept a := by
  induction p with
  | done a => exact ⟨rfl, rfl, keeps⟩
  | atomic upd next ih =>
      intro s has _
      obtain ⟨a, here⟩ := has.cell
      have held := keeps s.voldata has.paths
      refine ⟨⟨has.record, held.1⟩, φ, ⟨a, a, here, here, .keep⟩, ?_⟩
      have other : ¬ Writes (mountProtocol v answers).look fun s =>
          { s with voldata := upd s.voldata } := fun ⟨s, ne⟩ => ne rfl
      rw [Watch.noticed_other other]
      exact ih s.voldata held.2
  | call q next ih =>
      intro s w r w' _ _
      exact ⟨φ, .keep rfl, ih r (keeps r)⟩

/-- Memory in which `r` is the only volume. -/
def onlyVolume (v : CppString) (r : VolumeExternal) : ManagerState :=
  { ManagerState.boot with volumeMap := (∅ : VolumeMap).insert v r }

theorem get_onlyVolume (r : VolumeExternal) : (onlyVolume v r).volumeMap[v]? = some r :=
  StdMap.get_insert_self _ _ _

/-- A section that writes state or path of the record, which is as the request last saw it. -/
theorem follows_write {F : ManagerState → α × ManagerState}
    (writes : ∃ r, watchVolume v (F (onlyVolume v r)).2 ≠ some (mountStatus r))
    (step : ∀ s r, s.volumeMap[v]? = some r → BlockRecord v r → some (mountStatus r) = x →
      ∃ f φ', (F s).2 = s.updateVolume v f ∧ BlockRecord v (f r) ∧
        PhaseStep φ (r.state, r.path) ((f r).state, (f r).path) φ' ∧
        post (F s).1 φ' (.saw (some (mountStatus (f r))))) :
    Follows (mountProtocol v answers) (Prog.atomically F) φ (.saw x) post := by
  intro s has fresh
  obtain ⟨r, found, ok⟩ := has.record
  have writer : Writes (mountProtocol v answers).look fun s => (F s).2 := by
    obtain ⟨r', ne⟩ := writes
    refine ⟨onlyVolume v r', fun same => ne (same.trans ?_)⟩
    change (onlyVolume v r').volumeMap[v]?.map mountStatus = _
    rw [get_onlyVolume]
    rfl
  have saw : some (mountStatus r) = x := by
    have here := fresh x rfl writer
    change s.volumeMap[v]?.map mountStatus = x at here
    rw [found] at here
    exact here
  obtain ⟨f, φ', same, ok', move, done⟩ := step s r found ok saw
  have found' : (F s).2.volumeMap[v]? = some (f r) := by
    rw [same, ManagerState.get_updateVolume_self, found]
    rfl
  refine ⟨⟨⟨f r, found', ok'⟩, ?_⟩, φ', ⟨(r.state, r.path), ((f r).state, (f r).path), ?_, ?_, move⟩,
    ?_⟩
  · beta_reduce
    rw [same]
    exact has.paths
  · rw [cell, found]
    rfl
  · rw [cell, found']
    rfl
  · rw [Watch.noticed_writes writer]
    have watched : (mountProtocol v answers).look (F s).2 = some (mountStatus (f r)) := by
      change (F s).2.volumeMap[v]?.map mountStatus = _
      rw [found']
      rfl
    rw [watched]
    exact done

/-- A section that only sets the record. -/
theorem follows_updateVolume_bind {f : VolumeExternal → VolumeExternal} {g : Unit → ManagerProg α}
    (writes : ∃ r, mountStatus (f r) ≠ mountStatus r)
    (step : ∀ r, BlockRecord v r → some (mountStatus r) = x →
      BlockRecord v (f r) ∧ ∃ φ', PhaseStep φ (r.state, r.path) ((f r).state, (f r).path) φ' ∧
        Follows (mountProtocol v answers) (g ()) φ' (.saw (some (mountStatus (f r)))) post) :
    Follows (mountProtocol v answers) (updateVolume v f >>= g) φ (.saw x) post := by
  rw [follows_bind]
  change Follows _ (Prog.atomically fun s : ManagerState => ((), s.updateVolume v f)) φ (.saw x) _
  apply follows_write
  · obtain ⟨r, ne⟩ := writes
    refine ⟨r, ?_⟩
    rw [watchVolume, ManagerState.get_updateVolume_self, get_onlyVolume]
    exact fun same => ne (Option.some.inj same)
  · intro s r _ ok saw
    obtain ⟨ok', φ', move, rest⟩ := step r ok saw
    exact ⟨f, φ', rfl, ok', move, rest⟩

end Rules

/-! ## Mount -/

/-- The request last saw a record in `state`, which is not MOUNTED. -/
abbrev sawState (state : VolumeState) : MountWatch :=
  .saw (some (state, none))

theorem mountStatus_of_ne {r : VolumeExternal} (ne : r.state ≠ .mounted) :
    mountStatus r = (r.state, none) := by
  rw [mountStatus, if_neg ne]

theorem state_of_saw {r : VolumeExternal} {status : VolumeState × Option CppString}
    (saw : some (mountStatus r) = some status) : r.state = status.1 := by
  cases saw
  rfl

theorem BlockRecord.setState {v : CppString} {r : VolumeExternal} {state : VolumeState}
    (ok : BlockRecord v r) (calm : state.calm) (unmountable : state.unmountable = false) :
    BlockRecord v { r with state } where
  id := ok.id
  block := ok.block
  path := ok.path
  held busy := absurd calm busy
  unmountable some' := by
    change state.unmountable = true at some'
    rw [unmountable] at some'
    cases some'

theorem VolumeState.mountable_calm {state : VolumeState} (mountable : state.mountable = true) :
    state.calm := by
  cases state <;> first | decide | cases mountable

section

variable {answers : Answers} {v : CppString}

theorem follows_setVolumeStateLocked_bind {α : Type} {f : Unit → ManagerProg α}
    {post : α → Phase → MountWatch → Prop}
    {before state : VolumeState} (calm : before.calm) (calm' : state.calm)
    (unmountable : state.unmountable = false)
    (rest : Follows (mountProtocol v answers) (f ()) .idle (sawState state) post) :
    Follows (mountProtocol v answers) (setVolumeStateLocked v state >>= f) .idle (sawState before)
      post := by
  apply follows_updateVolume_bind
  · refine ⟨{ VolumeExternal.empty with state := .mounted }, fun same => calm'.1 ?_⟩
    exact congrArg Prod.fst same
  · intro r ok saw
    refine ⟨ok.setState calm' unmountable, .idle, .work ?_ calm', ?_⟩
    · rw [state_of_saw saw]
      exact calm
    · rw [mountStatus_of_ne calm'.1]
      exact rest

/-- The copy stays a record of the volume, and nothing but its uuid was written. -/
theorem follows_ensureFsUuidReady {φ : Phase} {x : Option (VolumeState × Option CppString)}
    {vol : VolumeExternal} (plain : PlainAnswers answers) (ok : BlockRecord v vol) :
    Follows (mountProtocol v answers) (ensureFsUuidReady vol) φ (.saw x)
      fun result φ' watch => φ' = φ ∧ watch = .saw x ∧ BlockRecord v result.2.1 := by
  rw [ensureFsUuidReady]
  dsimp only
  split
  · exact ⟨rfl, rfl, ok⟩
  apply follows_quiet_bind rfl
  intro w m ans
  split
  · exact ⟨rfl, rfl, ok⟩
  split
  · exact ⟨rfl, rfl, ok⟩
  have id := ok.id
  subst id
  rw [follows_bind]
  have written : ∀ s : ManagerState, (s.updateVolume vol.id fun r => { r with
      fsUuid := dedupFsUuidUnlocked s.volumeMap vol.id m.uuid }).volumeMap[vol.id]? =
      s.volumeMap[vol.id]?.map fun r => { r with
        fsUuid := dedupFsUuidUnlocked s.volumeMap vol.id m.uuid } :=
    fun s => ManagerState.get_updateVolume_self s vol.id _
  apply follows_other
  · intro s
    simp only [cell, written, Option.map_map]
    rfl
  · intro s
    simp only [watchVolume, written, Option.map_map]
    rfl
  · intro s has
    obtain ⟨r, found, ok'⟩ := has.record
    refine ⟨⟨_, by rw [written, found]; rfl, ?_⟩, has.paths⟩
    exact ⟨ok'.id, ok'.block, ok'.path, ok'.held, ok'.unmountable⟩
  · intro s _
    exact ⟨rfl, rfl, rfl, plain.metadata ans, ok.path, ok.held, ok.unmountable⟩

theorem follows_computeVolumeMountPolicy {φ : Phase}
    {x : Option (VolumeState × Option CppString)} {diskId fsType : CppString}
    (plain : PlainAnswers answers) :
    Follows (mountProtocol v answers) (computeVolumeMountPolicy diskId fsType) φ (.saw x)
      fun policy φ' watch => φ' = φ ∧ watch = .saw x ∧ policy.useFuseData = false := by
  rw [computeVolumeMountPolicy]
  apply follows_read_bind
  intro s _
  dsimp only
  split
  · apply follows_quiet_bind rfl
    intro w useFuseData ans
    exact ⟨rfl, rfl, plain.fuse ans⟩
  · exact ⟨rfl, rfl, rfl⟩

theorem follows_checkBeforeMount {state : VolumeState} {vol : VolumeExternal}
    {fsType : CppString} (calm : state.calm) :
    Follows (mountProtocol v answers) (checkBeforeMount vol v fsType) .idle (sawState state)
      fun result φ watch => φ = .idle ∧ ∃ state, result.2 = { vol with state } ∧
        watch = sawState state ∧
        (result.1 = E_OK ∧ state = .unmounted ∨ result.1 ≠ E_OK ∧ state = .repairFinishFail) := by
  rw [checkBeforeMount]
  dsimp only
  apply follows_setVolumeStateLocked_bind calm (by decide) rfl
  apply follows_quiet_bind rfl
  intro _ _ _
  apply follows_call_bind fun _ _ => rfl
  intro _ checkErr _
  split
  · apply follows_setVolumeStateLocked_bind (by decide) (by decide) rfl
    apply follows_quiet_bind rfl
    intro _ _ _
    apply follows_setVolumeStateLocked_bind (by decide) (by decide) rfl
    apply follows_call_bind fun _ _ => rfl
    intro _ repairErr _
    split
    next failed =>
      apply follows_setVolumeStateLocked_bind (by decide) (by decide) rfl
      apply follows_quiet_bind rfl
      intro _ _ _
      exact ⟨rfl, _, rfl, rfl, .inr ⟨failed, rfl⟩⟩
    · apply follows_quiet_bind rfl
      intro _ _ _
      apply follows_setVolumeStateLocked_bind (by decide) (by decide) rfl
      exact ⟨rfl, _, rfl, rfl, .inl ⟨rfl, rfl⟩⟩
  split
  next failed =>
    apply follows_setVolumeStateLocked_bind (by decide) (by decide) rfl
    apply follows_quiet_bind rfl
    intro _ _ _
    exact ⟨rfl, _, rfl, rfl, .inr ⟨failed, rfl⟩⟩
  · apply follows_quiet_bind rfl
    intro _ _ _
    apply follows_setVolumeStateLocked_bind (by decide) (by decide) rfl
    exact ⟨rfl, _, rfl, rfl, .inl ⟨rfl, rfl⟩⟩

section

variable [JsonLib]

theorem follows_buildMountDataPath {φ : Phase} {x : Option (VolumeState × Option CppString)}
    {params : MountDataPathParams} (noFuse : params.policy.useFuseData = false) :
    Follows (mountProtocol v answers) (buildMountDataPath params) φ (.saw x)
      fun result φ' watch => φ' = φ ∧ watch = .saw x ∧ (result.1 ≠ [] → PlainPath result.1) := by
  rw [buildMountDataPath]
  split
  · rw [resolveVoldataMountPath]
    apply follows_seq (follows_onStore keepsPaths_init)
    rintro initRet _ _ ⟨rfl, rfl, -⟩
    split
    · exact ⟨rfl, rfl, fun some' => absurd rfl some'⟩
    rw [tryGetMountPath]
    apply follows_read_bind
    intro s has
    cases found : s.voldata.uuidMap[params.fsUuid]? with
    | some entry => exact ⟨rfl, rfl, fun _ => plainPath_voldata (has.paths.path found)⟩
    | none =>
        apply follows_seq (follows_onStore (keepsPaths_resolveMountPath params.fsUuid))
        rintro ⟨err, path, created⟩ _ _ ⟨rfl, rfl, under⟩
        dsimp only
        split
        · exact ⟨rfl, rfl, fun some' => absurd rfl some'⟩
        next ok => exact ⟨rfl, rfl, fun _ => plainPath_voldata (under (by simpa using ok))⟩
  split
  · exact ⟨rfl, rfl, fun _ => plainPath_dvr _⟩
  split
  next fuse =>
    rw [noFuse] at fuse
    cases fuse
  · exact ⟨rfl, rfl, fun _ => plainPath_external _⟩

/-- What an attempt to mount returns in which phase: the copy is mounted where the device is, or
the device was not mounted. -/
inductive Tried (v : CppString) : ErrCode × VolumeExternal → Phase → Prop
  | mounted {vol : VolumeExternal} (ok : BlockRecord v vol) (state : vol.state = .mounted) :
    Tried v (E_OK, vol) (.mounted vol.path)
  | failed {err : ErrCode} {vol : VolumeExternal} (bad : err ≠ E_OK) (ok : BlockRecord v vol) :
    Tried v (err, vol) .idle

theorem follows_undoVolumeDataMount {φ : Phase} {x : Option (VolumeState × Option CppString)}
    {vol : VolumeExternal} {params : MountDataPathParams} (noFuse : params.fuseMounted = false) :
    Follows (mountProtocol v answers) (undoVolumeDataMount vol params) φ (.saw x)
      fun _ φ' watch => φ' = φ ∧ watch = .saw x := by
  rw [undoVolumeDataMount]
  simp only [noFuse, Bool.false_eq_true, if_false]
  split
  · apply follows_seq (follows_onStore (keepsPaths_removeByFsUuid params.fsUuid))
    rintro _ _ _ ⟨rfl, rfl, -⟩
    exact ⟨rfl, rfl⟩
  · exact ⟨rfl, rfl⟩

omit [JsonLib] in
/-- The record is there, so the path is set. -/
theorem follows_mountVolumeSetPath {state : VolumeState} {vol : VolumeExternal}
    {path : CppString} (id : vol.id = v) (calm : state.calm) (plain : PlainPath path) :
    Follows (mountProtocol v answers) (mountVolumeSetPath vol path) (.mounted path)
      (sawState state) fun err φ watch => err = E_OK ∧ φ = .mounted path ∧
        watch = sawState state := by
  subst id
  rw [mountVolumeSetPath, follows_bind, updateVolumeIfFound]
  apply follows_write
  · refine ⟨{ VolumeExternal.empty with state := .mounted }, ?_⟩
    rw [watchVolume, ManagerState.get_updateVolume_self, get_onlyVolume]
    intro same
    have path := congrArg (fun status => status.bind Prod.snd) same
    exact plain.1 (Option.some.inj path)
  · intro s r found ok saw
    have before : r.state = state := state_of_saw saw
    have ne : ({ r with path } : VolumeExternal).state ≠ .mounted := by
      change r.state ≠ .mounted
      rw [before]
      exact calm.1
    refine ⟨fun r => { r with path }, .mounted path, rfl, ?_, .setPath (by rw [before]; exact calm),
      ?_⟩
    · exact ⟨ok.id, ok.block, .inr plain, fun _ => plain, ok.unmountable⟩
    · rw [mountStatus_of_ne ne, found]
      exact ⟨rfl, rfl, congrArg sawState before⟩

theorem follows_executeVolumeDataMount {state : VolumeState} {vol : VolumeExternal}
    {fsType : CppString} {params : MountDataPathParams} (calm : state.calm)
    (ok : BlockRecord v vol) (plain : PlainPath params.dataMountPath)
    (noFuse : params.fuseMounted = false) :
    Follows (mountProtocol v answers) (executeVolumeDataMount vol fsType params) .idle
      (sawState state) fun result φ watch => Tried v result φ ∧ watch = sawState state := by
  have id := ok.id
  subst id
  rw [executeVolumeDataMount]
  have flag : Follows (mountProtocol vol.id answers)
      (readPersistUsbReadonlyMountFlagBits params.policy.useFuseData) .idle (sawState state)
      fun _ φ watch => φ = .idle ∧ watch = sawState state := by
    rw [readPersistUsbReadonlyMountFlagBits]
    split
    · exact ⟨rfl, rfl⟩
    · apply follows_quiet_bind rfl
      intro _ _ _
      exact ⟨rfl, rfl⟩
  apply follows_seq flag
  rintro mountFlag _ _ ⟨rfl, rfl⟩
  dsimp only
  apply follows_mount_bind
  · rw [if_neg fun bad => bad rfl]
    apply follows_seq (follows_mountVolumeSetPath rfl calm plain)
    rintro err _ _ ⟨rfl, rfl, rfl⟩
    simp only [ne_eq, not_true_eq_false, if_false]
    have ended : ∀ base : VolumeExternal, base = { vol with
          path := params.dataMountPath, state := .mounted, flags := params.diskFlag } →
        Tried vol.id (E_OK, applyDefaultVolumeDescriptionIfUnset base params.diskFlag)
          (.mounted params.dataMountPath) := by
      rintro base rfl
      obtain ⟨description, same⟩ := applyDefaultVolumeDescriptionIfUnset_eq { vol with
        path := params.dataMountPath, state := .mounted, flags := params.diskFlag } params.diskFlag
      rw [same]
      exact .mounted ⟨rfl, ok.block, .inr plain, fun _ => plain, fun _ => rfl⟩ rfl
    split
    · apply follows_quiet_bind rfl
      intro _ _ _
      apply follows_quiet_bind rfl
      intro _ _ _
      exact ⟨ended _ rfl, rfl⟩
    · apply follows_quiet_bind rfl
      intro _ _ _
      exact ⟨ended _ rfl, rfl⟩
  · intro err good
    rw [if_pos good]
    apply follows_seq (follows_undoVolumeDataMount noFuse)
    rintro _ _ _ ⟨rfl, rfl⟩
    exact ⟨.failed good (ok.setState (by decide) rfl), rfl⟩

theorem follows_mountVolumeFilesystem {state : VolumeState} {vol : VolumeExternal}
    {fsType fsUuid : CppString} {readOnly : Bool} (plain : PlainAnswers answers)
    (calm : state.calm) (ok : BlockRecord v vol) :
    Follows (mountProtocol v answers) (mountVolumeFilesystem vol fsType fsUuid readOnly) .idle
      (sawState state) fun result φ watch => Tried v result φ ∧ watch = sawState state := by
  rw [mountVolumeFilesystem]
  apply follows_seq (follows_computeVolumeMountPolicy plain)
  rintro policy _ _ ⟨rfl, rfl, noFuse⟩
  -- FUSE is off, so the first part is empty.
  rw [noFuse]
  change Follows _ (buildMountDataPath _ >>= _) _ _ _
  apply follows_seq (follows_buildMountDataPath noFuse)
  rintro ⟨dataMountPath, created⟩ _ _ ⟨rfl, rfl, under⟩
  dsimp only at under ⊢
  split
  · exact ⟨.failed (by decide) (ok.setState (by decide) rfl), rfl⟩
  next some' =>
    apply follows_read_bind
    intro s _
    exact follows_executeVolumeDataMount calm ok (under (by simpa using some')) rfl

/-- The end of an attempt to mount: a copy that was not mounted is in a calm state. -/
structure Attempted (v : CppString) (result : ErrCode × VolumeExternal) (φ : Phase)
    (watch : MountWatch) : Prop where
  tried : Tried v result φ
  calm : result.1 ≠ E_OK → result.2.state.calm
  saw : ∃ state, watch = sawState state ∧ state.calm ∧ (result.1 = E_OK → state.mountable = true)

omit [JsonLib] in
theorem Attempted.of_failed {err : ErrCode} {vol : VolumeExternal} {left saw : VolumeState}
    (bad : err ≠ E_OK) (ok : BlockRecord v vol) (calm : left.calm)
    (unmountable : left.unmountable = false) (before : saw.calm) :
    Attempted v (err, { vol with state := left }) .idle (sawState saw) where
  tried := .failed bad (ok.setState calm unmountable)
  calm _ := calm
  saw := ⟨saw, rfl, before, fun good => absurd good bad⟩

theorem follows_mountCheckedVolume {state : VolumeState} {vol : VolumeExternal}
    {fsType fsUuid : CppString} {readOnly : Bool} (plain : PlainAnswers answers)
    (mountable : state.mountable = true) (ok : BlockRecord v vol) :
    Follows (mountProtocol v answers) (mountCheckedVolume vol fsType fsUuid readOnly) .idle
      (sawState state) (Attempted v) := by
  have calm := VolumeState.mountable_calm mountable
  rw [mountCheckedVolume]
  apply follows_seq (follows_mountVolumeFilesystem plain calm ok)
  rintro _ _ _ ⟨tried, rfl⟩
  cases tried with
  | mounted ok' mounted =>
      simp only [ne_eq, not_true_eq_false, if_false]
      exact ⟨.mounted ok' mounted, fun bad => absurd rfl bad, state, rfl, calm, fun _ => mountable⟩
  | failed bad ok' =>
      dsimp only
      rw [if_pos bad]
      exact .of_failed bad ok' (by decide) rfl calm

theorem follows_mountVolumeEntry {state : VolumeState} {vol : VolumeExternal} {readOnly : Bool}
    (plain : PlainAnswers answers) (mountable : state.mountable = true) (ok : BlockRecord v vol) :
    Follows (mountProtocol v answers) (mountVolumeEntry vol v readOnly) .idle (sawState state)
      (Attempted v) := by
  have calm := VolumeState.mountable_calm mountable
  rw [mountVolumeEntry]
  apply follows_seq (follows_ensureFsUuidReady plain ok)
  rintro ⟨uuidErr, vol₁, fsUuid⟩ _ _ ⟨rfl, rfl, ok₁⟩
  dsimp only at ok₁ ⊢
  split
  next bad => exact .of_failed bad ok₁ (by decide) rfl calm
  apply follows_seq (follows_computeVolumeMountPolicy plain)
  rintro policy _ _ ⟨rfl, rfl, -⟩
  split
  · apply follows_seq (follows_checkBeforeMount calm)
    rintro ⟨checkErr, _⟩ _ _ ⟨rfl, state', rfl, rfl, ended⟩
    dsimp only at ended ⊢
    rcases ended with ⟨rfl, rfl⟩ | ⟨bad, rfl⟩
    · rw [if_neg (by decide)]
      exact follows_mountCheckedVolume plain rfl (ok₁.setState (by decide) rfl)
    · rw [if_pos bad]
      exact .of_failed bad ok₁ (by decide) rfl (by decide)
  · exact follows_mountCheckedVolume plain mountable ok₁

omit [JsonLib] in
/-- The copy is written back to the record the request has watch. -/
theorem follows_mountWriteBack {err : ErrCode} {vol : VolumeExternal} {φ : Phase}
    {watch : MountWatch}
    (attempted : Attempted v (err, vol) φ watch) :
    Follows (mountProtocol v answers) (mountWriteBack v err vol) φ watch
      fun _ φ _ => φ = .idle := by
  obtain ⟨tried, calm, state, rfl, before, mountable⟩ := attempted
  rw [mountWriteBack]
  apply follows_write
  · -- A mounted copy changes an unmounted record, any other copy a mounted one.
    by_cases good : err = E_OK
    · refine ⟨{ VolumeExternal.empty with state := .unmounted }, ?_⟩
      cases tried with
      | mounted ok mounted =>
          rw [get_onlyVolume]
          dsimp only
          rw [if_neg (by decide), watchVolume, ManagerState.get_updateVolume_self, get_onlyVolume]
          intro same
          have state := congrArg (fun status => status.map Prod.fst) same
          simp [mountStatus, mounted] at state
      | failed bad ok => exact absurd good bad
    · refine ⟨{ VolumeExternal.empty with state := .mounted }, ?_⟩
      rw [get_onlyVolume]
      dsimp only
      rw [if_neg (fun both => good both.1), watchVolume, ManagerState.get_updateVolume_self,
        get_onlyVolume]
      intro same
      have state := congrArg (fun status => status.map Prod.fst) same
      exact (calm good).1 (by simpa [mountStatus] using state)
  · intro s r found ok saw
    have same : r.state = state := state_of_saw saw
    simp only [found]
    have open' : ¬ (err = E_OK ∧ r.state.mountable = false) := by
      rintro ⟨good, closed⟩
      rw [same, mountable good] at closed
      cases closed
    rw [if_neg open']
    refine ⟨fun _ => vol, .idle, rfl, ?_⟩
    cases tried with
    | mounted ok' mounted =>
        refine ⟨ok', ?_, rfl⟩
        rw [mounted]
        exact .record (by rw [same]; exact before)
    | failed bad ok' => exact ⟨ok', .work (by rw [same]; exact before) (calm bad), rfl⟩

omit [JsonLib] in
theorem follows_checkVolId_bind {α : Type} {f : CppString → ManagerProg α} {φ : Phase}
    {x : Option (VolumeState × Option CppString)}
    {post : α → Phase → MountWatch → Prop}
    (rest : ∀ devPath, Follows (mountProtocol v answers) (f devPath) φ (.saw x) post) :
    Follows (mountProtocol v answers) (checkVolId v >>= f) φ (.saw x) post := by
  rw [follows_bind, checkVolId]
  split
  · exact rest _
  rw [getVolumeById, findVolume]
  apply follows_read_bind
  intro s _
  split
  · exact rest _
  split
  · split
    · exact rest _
    · exact rest _
  · exact rest _

theorem follows_mount {param : MountParam} (plain : PlainAnswers answers)
    (noCrypt : CppString.startsWith v CRYPT_VOLUME_PREFIX = false) :
    Follows (mountProtocol v answers) (mount v param) .idle .unseen fun _ φ _ => φ = .idle := by
  rw [mount]
  apply follows_quiet_bind rfl
  intro _ disabled _
  split
  · rfl
  rw [findVolume]
  apply follows_gate_bind
  intro s has
  obtain ⟨r, found, ok⟩ := has.record
  rw [watchVolume, found]
  dsimp only [Option.map_some]
  split
  · rfl
  next mountable =>
    have mountable : r.state.mountable = true := by simpa using mountable
    rw [mountStatus_of_ne (VolumeState.mountable_calm mountable).1]
    apply follows_checkVolId_bind
    intro devPath
    apply follows_quiet_bind rfl
    intro _ edm _
    split
    · rfl
    rw [noCrypt, Bool.and_false, if_neg (by decide)]
    apply follows_seq (follows_mountVolumeEntry plain mountable ok)
    rintro ⟨err, vol⟩ φ watch attempted
    exact follows_mountWriteBack attempted

/-! ## Unmount -/

theorem follows_saveVolumeFreeSize {φ : Phase} {x : Option (VolumeState × Option CppString)}
    {vol : VolumeExternal} :
    Follows (mountProtocol v answers) (saveVolumeFreeSize vol) φ (.saw x)
      fun copy φ' watch => φ' = φ ∧ watch = .saw x ∧ ∃ freeSize, copy = { vol with freeSize } := by
  have odd : ∀ {extraInfo blockVolId : CppString} {diskInfo : StatVfs},
      Follows (mountProtocol v answers) (getOddFreeSize extraInfo blockVolId diskInfo) φ (.saw x)
        fun _ φ' watch => φ' = φ ∧ watch = .saw x := by
    intro extraInfo blockVolId diskInfo
    rw [getOddFreeSize]
    dsimp only
    split
    · exact ⟨rfl, rfl⟩
    apply follows_quiet_bind rfl
    intro _ capacity _
    split
    · exact ⟨rfl, rfl⟩
    split
    · exact ⟨rfl, rfl⟩
    split
    · exact ⟨rfl, rfl⟩
    · exact ⟨rfl, rfl⟩
  have size : Follows (mountProtocol v answers) (getFreeSizeOfVolume vol.fsUuid) φ (.saw x)
      fun _ φ' watch => φ' = φ ∧ watch = .saw x := by
    rw [getFreeSizeOfVolume]
    apply follows_read_bind
    intro s _
    split
    · exact ⟨rfl, rfl⟩
    split
    · exact ⟨rfl, rfl⟩
    apply follows_quiet_bind rfl
    intro _ stat _
    split
    · exact ⟨rfl, rfl⟩
    split
    · exact odd
    · exact ⟨rfl, rfl⟩
  rw [saveVolumeFreeSize]
  apply follows_seq size
  rintro ⟨ret, freeSize⟩ _ _ ⟨rfl, rfl⟩
  dsimp only
  split
  · exact ⟨rfl, rfl, freeSize, rfl⟩
  · exact ⟨rfl, rfl, vol.freeSize, rfl⟩

omit [JsonLib] in
/-- The volume has a path, so the query needs no other. -/
theorem follows_resolveUnmountForceFlag {φ : Phase} {x : Option (VolumeState × Option CppString)}
    {vol : VolumeExternal} {force : Bool} (some' : vol.path ≠ []) :
    Follows (mountProtocol v answers) (resolveUnmountForceFlag vol force) φ (.saw x)
      fun _ φ' watch => φ' = φ ∧ watch = .saw x := by
  rw [resolveUnmountForceFlag]
  apply follows_read_bind
  intro s _
  split
  · exact ⟨rfl, rfl⟩
  rw [resolveQueryUsbIsInUseMountPath, if_pos (by simpa using some')]
  change Follows _ (if vol.path.isEmpty = true then _ else _) _ _ _
  rw [if_neg (by simpa using some')]
  apply follows_quiet_bind rfl
  rintro _ ⟨queryErr, isInUse⟩ _
  dsimp only
  split
  · exact ⟨rfl, rfl⟩
  · exact ⟨rfl, rfl⟩

omit [JsonLib] in
/-- The record is marked, by a request that saw it MOUNTED or marked it itself. -/
theorem follows_notifyVolumeEjecting_bind {α : Type} {f : VolumeExternal → ManagerProg α}
    {φ φ' : Phase} {x : VolumeState × Option CppString} {vol : VolumeExternal}
    {umountResult : CppString}
    {post : α → Phase → MountWatch → Prop}
    (move : ∀ r, BlockRecord v r → mountStatus r = x →
      PlainPath r.path ∧ PhaseStep φ (r.state, r.path) (.ejecting, r.path) φ')
    (rest : Follows (mountProtocol v answers) (f { vol with state := .ejecting, umountResult }) φ'
      (sawState .ejecting) post) :
    Follows (mountProtocol v answers) (notifyVolumeEjecting v vol umountResult >>= f) φ
      (.saw (some x)) post := by
  rw [follows_bind, notifyVolumeEjecting]
  apply follows_updateVolume_bind
  · refine ⟨{ VolumeExternal.empty with state := .mounted }, fun same => ?_⟩
    have state := congrArg Prod.fst same
    cases state
  · intro r ok saw
    obtain ⟨plain, move⟩ := move r ok (Option.some.inj saw)
    refine ⟨⟨ok.id, ok.block, ok.path, fun _ => plain, fun some' => by cases some'⟩, φ', move, ?_⟩
    rw [mountStatus_of_ne (by simp)]
    apply follows_quiet_bind rfl
    intro _ _ _
    exact rest

omit [JsonLib] in
theorem follows_unmountVolumeMountPoints {vol : VolumeExternal} {force : Bool}
    {watch : MountWatch} (plain : PlainPath vol.path) :
    Follows (mountProtocol v answers) (unmountVolumeMountPoints vol force) (.ejecting vol.path)
      watch fun err φ watch' => watch' = watch ∧
        (err = E_OK ∧ φ = .released ∨ err ≠ E_OK ∧ φ = .ejecting vol.path) := by
  have some' : (!vol.path.isEmpty) = true := by simpa using plain.1
  rw [unmountVolumeMountPoints]
  dsimp only
  rw [plain.2, Bool.and_false, if_neg (by decide), if_pos some']
  apply follows_unmount_call
  · exact ⟨rfl, .inl ⟨rfl, rfl⟩⟩
  · exact fun err bad => ⟨rfl, .inr ⟨bad, rfl⟩⟩

omit [JsonLib] in
/-- The failed unmount of a volume that was MOUNTED: it is MOUNTED again. -/
theorem follows_restoreVolumeState {path : CppString} {err : ErrCode} :
    Follows (mountProtocol v answers) (do
      restoreVolumeState v .mounted
      return err) (.ejecting path) (sawState .ejecting) fun _ φ _ => φ = .idle := by
  apply follows_updateVolume_bind
  · refine ⟨{ VolumeExternal.empty with state := .unmounted }, fun same => ?_⟩
    have state := congrArg Prod.fst same
    cases state
  · intro r ok saw
    have state : r.state = .ejecting := state_of_saw saw
    have plain : PlainPath r.path := ok.held (by rw [state]; decide)
    refine ⟨⟨ok.id, ok.block, ok.path, fun _ => plain, fun _ => rfl⟩, .idle, ?_, rfl⟩
    rw [state]
    exact .restore

omit [JsonLib] in
theorem follows_unmountWriteBack {fsType : FsType} (block : fsType.block) :
    Follows (mountProtocol v answers) (unmountWriteBack v fsType) .released (sawState .ejecting)
      fun _ φ _ => φ = .idle := by
  have noMtp : ¬ (fsType = .mtp ∨ fsType = .ptp) := not_or.mpr block
  rw [unmountWriteBack]
  apply follows_write
  · refine ⟨{ VolumeExternal.empty with state := .mounted }, ?_⟩
    rw [get_onlyVolume]
    dsimp only
    rw [if_neg noMtp, watchVolume, ManagerState.get_updateVolume_self, get_onlyVolume]
    intro same
    have state := congrArg (fun status => status.map Prod.fst) same
    cases state
  · intro s r found ok saw
    simp only [found]
    rw [if_neg noMtp]
    refine ⟨_, .idle, rfl, ?_, .reset, rfl⟩
    have calm : VolumeState.unmounted.calm := by decide
    exact ⟨ok.id, ok.block, .inl rfl, fun busy => absurd calm busy, fun some' => by cases some'⟩

theorem follows_unmount :
    Follows (mountProtocol v answers) (unmount v) .idle .unseen fun _ φ _ => φ = .idle := by
  rw [unmount, findVolume]
  apply follows_gate_bind
  intro s has
  obtain ⟨r, found, ok⟩ := has.record
  rw [watchVolume, found]
  dsimp only [Option.map_some]
  split
  · rfl
  next unmountable =>
  have mounted : r.state = .mounted := ok.unmountable (by simpa using unmountable)
  have plain : PlainPath r.path := ok.held (by rw [mounted]; decide)
  have id := ok.id
  subst id
  rw [doUnmountVolume]
  dsimp only
  apply follows_seq follows_saveVolumeFreeSize
  rintro _ _ _ ⟨rfl, rfl, freeSize, rfl⟩
  -- The record is the one that was MOUNTED at the path of the copy.
  have first : ∀ r', BlockRecord r.id r' → mountStatus r' = mountStatus r →
      PlainPath r'.path ∧
        PhaseStep .idle (r'.state, r'.path) (.ejecting, r'.path) (.ejecting r.path) := by
    intro r' ok' saw
    have state : r'.state = .mounted := (congrArg Prod.fst saw).trans mounted
    have path : some r'.path = some r.path := by
      have second := congrArg Prod.snd saw
      simpa only [mountStatus, state, mounted, if_true] using second
    rw [state, Option.some.inj path]
    exact ⟨plain, .eject⟩
  apply follows_notifyVolumeEjecting_bind first
  -- A request that marked the record finds it marked.
  have again : ∀ r', BlockRecord r.id r' → mountStatus r' = (.ejecting, none) →
      PlainPath r'.path ∧
        PhaseStep (.ejecting r.path) (r'.state, r'.path) (.ejecting, r'.path) (.ejecting r.path) := by
    intro r' ok' saw
    have state : r'.state = .ejecting := congrArg Prod.fst saw
    refine ⟨ok'.held (by rw [state]; decide), ?_⟩
    rw [state]
    exact .keep
  apply follows_seq (follows_resolveUnmountForceFlag plain.1)
  rintro ⟨prepErr, force⟩ _ _ ⟨rfl, rfl⟩
  dsimp only
  split
  · apply follows_notifyVolumeEjecting_bind again
    rw [mounted]
    exact follows_restoreVolumeState
  apply follows_seq (follows_unmountVolumeMountPoints plain)
  rintro err _ _ ⟨rfl, ended⟩
  rcases ended with ⟨rfl, rfl⟩ | ⟨bad, rfl⟩
  · rw [if_neg (by decide)]
    apply follows_quiet_bind rfl
    intro _ _ _
    exact follows_unmountWriteBack ok.block
  · rw [if_pos bad]
    apply follows_notifyVolumeEjecting_bind again
    rw [mounted]
    exact follows_restoreVolumeState

end

end

/-! ## Interleavings -/

inductive MountRequest : Type
  | mount (mountParam : MountParam)
  | unmount

def MountRequest.prog [JsonLib] (v : CppString) : MountRequest → ManagerProg ErrCode
  | .mount mountParam => DiskManager.mount v mountParam
  | .unmount => DiskManager.unmount v

/-- The record says whether the device is mounted. -/
def RecordAgrees (v : CppString) (s : ManagerState) (w : MountTable) : Prop :=
  ∃ r, s.volumeMap[v]? = some r ∧ (r.state = .mounted ↔ w.mounted (volumeDev v))

theorem AtRest.hasBlockRecord {v : CppString} {s : ManagerState} {w : MountTable}
    (rest : AtRest v s w) : HasBlockRecord v s := by
  obtain ⟨⟨r, found, calm⟩, paths⟩ := rest
  refine ⟨⟨r, found, calm.id, calm.block, ?_, fun busy => ?_, fun unmountable => ?_⟩, paths⟩
  · rcases calm.agrees with ⟨-, -, plain⟩ | ⟨-, -, empty⟩
    · exact .inr plain
    · exact .inl empty
  · refine (calm.mounted ?_).2
    by_contra ne
    refine busy ⟨ne, fun ejecting => ?_⟩
    have resting := calm.resting
    rw [ejecting] at resting
    cases resting
  · have resting := calm.resting
    revert resting unmountable
    cases r.state <;> decide

theorem AtRest.agreed {ι : Type} {v : CppString} {s : ManagerState} {w : MountTable}
    (rest : AtRest v s w) : ∃ a, cell v s = some a ∧ Agreed v (fun _ : ι => .idle) a w := by
  obtain ⟨r, found, calm⟩ := rest.record
  refine ⟨(r.state, r.path), by rw [cell, found]; rfl, ?_⟩
  exact {
    recorded := fun state => ⟨(calm.mounted state).1, fun _ => rfl⟩
    mounting := fun holds => by cases holds
    ejecting := fun holds => by cases holds
    released := fun holds => by cases holds
    held := fun mounted => .inl (by
      by_contra ne
      exact (calm.not_mounted ne).1 mounted)
    marked := fun (state : r.state = .ejecting) => by
      have resting := calm.resting
      rw [state] at resting
      cases resting }

section

variable [JsonLib] {ι : Type} [DecidableEq ι]

/-- An interleaving of requests on volume `v`. -/
def MountRun (v : CppString) (answers : Answers)
    (c₀ c : Sys ι ManagerState MountTable Req Req.Resp ErrCode) : Prop :=
  ∃ log, PoolRun (fun _ => True) (MountRequest.prog v) (daemonEnv answers) c₀ c log

/-- An interleaving in which every section that writes the mount status of `v` finds the status
its request last saw. -/
def FreshMountRun (v : CppString) (answers : Answers)
    (c₀ c : Sys ι ManagerState MountTable Req Req.Resp ErrCode) : Prop :=
  ∃ watch log, FreshRun (watchVolume v) .unseen (fun _ => True) (MountRequest.prog v)
    (daemonEnv answers) c₀ (fun _ => .unseen) c watch log

theorem FreshMountRun.mountRun {v : CppString} {answers : Answers}
    {c₀ c : Sys ι ManagerState MountTable Req Req.Resp ErrCode}
    (run : FreshMountRun v answers c₀ c) : MountRun v answers c₀ c := by
  obtain ⟨watch, log, run⟩ := run
  exact ⟨log, run.run⟩

/-- As long as every request finds the mount status it saw when it writes it, the record agrees
with the device whenever no request is in progress. -/
theorem mounts_agree {answers : Answers} (plain : PlainAnswers answers)
    (refuses : RefusesMounted answers) {v : CppString}
    (noCrypt : CppString.startsWith v CRYPT_VOLUME_PREFIX = false)
    {c₀ c : Sys ι ManagerState MountTable Req Req.Resp ErrCode} (start : c₀.quiet)
    (rest : AtRest v c₀.s c₀.w) (run : FreshMountRun v answers c₀ c) (quiet : c.quiet) :
    RecordAgrees v c.s c.w := by
  obtain ⟨watch, log, run⟩ := run
  have follows : ∀ op : MountRequest, Follows (mountProtocol v answers) (op.prog v) .idle .unseen
      fun _ φ _ => φ = .idle := by
    intro op
    cases op with
    | mount mountParam => exact follows_mount plain noCrypt
    | unmount => exact follows_unmount
  have pool : c₀.Follows (mountProtocol v answers) (· = .idle) (fun _ => .idle)
      fun _ => .unseen := by
    refine fun i => ⟨fun _ => rfl, fun p here => ?_⟩
    rw [start i] at here
    cases here
  obtain ⟨φ, -, ⟨a, here, agreed⟩, all⟩ :=
    FreshRun.invariant (P := mountProtocol v answers)
      (fun φ s w _ => ∃ a, cell v s = some a ∧ Agreed v φ a w) follows
      (fun {φ s w log i} _ idle kept => by
        rw [← idle, Function.update_eq_self]
        exact kept)
      (fun {φ upd s w log i φ'} _ ⟨a, here, agreed⟩ ⟨a', b, here', there, move⟩ => by
        obtain rfl : a = a' := Option.some.inj (here.symm.trans here')
        exact ⟨b, there, agreed.move move⟩)
      (fun {φ s w q r w' log i φ'} _ ⟨a, here, agreed⟩ ⟨ans, after⟩ move => by
        subst after
        exact ⟨a, here, agreed.answer refuses ans move⟩)
      pool rest.hasBlockRecord rest.agreed run
  have idle := agreed.quiet fun i => (all i).1 (quiet i)
  rw [cell, Option.map_eq_some_iff] at here
  obtain ⟨r, found, rfl⟩ := here
  exact ⟨r, found, idle⟩

end

/-- A daemon that mounts and unmounts, but does not mount a mounted device. -/
def refusingAnswer (w : MountTable) : (q : Req) → q.Resp
  | .mount devPath _ _ _ _ => if w.any fun m => m.1 = devPath then DISK_MGR_ERR else E_OK
  | q => okAnswer w q

theorem refusingAnswer_refuses : RefusesMounted (.of refusingAnswer) := by
  rintro w devPath mountPath fsType mountData mountFlag err same ⟨path, mem⟩
  have busy : (w.any fun m => m.1 = devPath) = true :=
    List.any_eq_true.mpr ⟨(devPath, path), mem, by simp⟩
  change err = if w.any fun m => m.1 = devPath then DISK_MGR_ERR else E_OK at same
  rw [same, if_pos busy]
  decide

theorem refusingAnswer_plain : PlainAnswers (.of refusingAnswer) where
  fuse same := same
  metadata same := by
    rw [same]
    exact (by decide : (getFsTypeByStr []).block)

/-- An empty pool and the volume of `oneVolume`. -/
def idleService : Sys Bool ManagerState MountTable Req Req.Resp ErrCode :=
  ⟨fun _ => none, oneVolume, []⟩

/-- One request mounts the volume. -/
theorem mounts_agree_mount :
    letI := tableJson
    ∃ c, FreshMountRun "vol-8-1" (.of refusingAnswer) idleService c ∧
      c.w.mounted (volumeDev "vol-8-1") ∧ RecordAgrees "vol-8-1" c.s c.w := by
  let _ := tableJson
  have entered : FreshRun (watchVolume "vol-8-1") .unseen (fun _ => True)
      (MountRequest.prog "vol-8-1") (daemonEnv (.of refusingAnswer)) idleService (fun _ => .unseen)
      (idleService.put true (some (MountRequest.prog "vol-8-1" (.mount {})))) _ [] :=
    .enter (MountRequest.mount {}) .start trivial rfl
  have here : (idleService.put true (some (MountRequest.prog "vol-8-1" (.mount {})))).pool true =
      some (MountRequest.prog "vol-8-1" (.mount {})) := rfl
  obtain ⟨watch, log, run⟩ := entered.exec (daemon_obeys refusingAnswer) here (by simp)
  have held : MountTable.mounted
      ((MountRequest.prog "vol-8-1" (.mount {})).exec (daemon refusingAnswer) oneVolume []).2.2
      (volumeDev "vol-8-1") := ⟨"/mnt/data/external/1234-ABCD", by decide +kernel⟩
  refine ⟨_, ⟨watch, log, run⟩, held, ?_⟩
  refine mounts_agree refusingAnswer_plain refusingAnswer_refuses (by decide) (fun _ => rfl)
    oneVolume_unmounted.atRest ⟨watch, log, run⟩ ?_
  intro i
  cases i <;> rfl

/-- Two requests pass the gate together. The daemon refuses the second, which then writes its copy
over the record of the first. -/
def overlappingMounts : List (Sched Bool MountRequest) :=
  [.enter false (.mount {}), .enter true (.mount {}), .run true, .run true] ++
    List.replicate 20 (.run false) ++ List.replicate 20 (.run true)

theorem mounts_disagree_overlapping :
    letI := tableJson
    PlainAnswers (.of refusingAnswer) ∧ RefusesMounted (.of refusingAnswer) ∧
      idleService.quiet ∧ AtRest "vol-8-1" idleService.s idleService.w ∧
      ∃ c, MountRun "vol-8-1" (.of refusingAnswer) idleService c ∧ c.quiet ∧
        ¬ RecordAgrees "vol-8-1" c.s c.w := by
  let _ := tableJson
  let ended := Sys.play (MountRequest.prog "vol-8-1") (daemon refusingAnswer) (idleService, [])
    overlappingMounts
  have seated : ∀ t ∈ overlappingMounts, t.seated fun _ : Bool => True := by
    intro t _
    cases t <;> trivial
  have run : PoolRun (fun _ => True) (MountRequest.prog "vol-8-1")
      (daemonEnv (.of refusingAnswer)) idleService ended.1 ended.2 :=
    PoolRun.play (daemon_obeys refusingAnswer) (c := (idleService, [])) .start seated
  refine ⟨refusingAnswer_plain, refusingAnswer_refuses, fun _ => rfl, oneVolume_unmounted.atRest,
    ended.1, ⟨_, run⟩, ?_, ?_⟩
  · intro i
    apply Option.isNone_iff_eq_none.mp
    revert i
    decide +kernel
  · rintro ⟨r, found, iff⟩
    have state : ended.1.s.volumeMap["vol-8-1".toList]?.map (·.state) = some .unmounted := by
      decide +kernel
    have held : MountTable.mounted ended.1.w (volumeDev "vol-8-1") :=
      ⟨"/mnt/data/external/1234-ABCD", by decide +kernel⟩
    rw [found] at state
    have mounted := iff.mpr held
    simp [mounted] at state

end DiskManager
