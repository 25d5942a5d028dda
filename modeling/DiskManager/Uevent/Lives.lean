import DiskManager.Uevent.Resting

/-!
# The lives of volumes

What the service is for, as a machine of its own: a volume is absent or has one of five lives, and a
request moves the life of at most one volume along the edges of `LifeEdge`. The requests of the
service, run one after another, are runs of this machine; hot-plug events and the repartition of a
disk make volumes come and go.
-/

namespace DiskManager

open Interact

/-! ## The machine -/

/-- What a volume is between operations. -/
inductive Life : Type
  | unmounted
  | mounted
  | damaged
  | repairFailed
  | formatFailed
deriving DecidableEq

/-- The volumes there are. -/
abbrev Lives : Type := CppString → Option Life

/-- What an operation may make of volume `k`. -/
inductive LifeEdge : ServiceOp → CppString → Option Life → Option Life → Prop
  | mount {v : CppString} {param : MountParam} {a b : Life} :
    a = .unmounted ∨ a = .formatFailed → b = .mounted ∨ b = .unmounted ∨ b = .repairFailed →
    LifeEdge (.mount v param) v (some a) (some b)
  /-- A container is mounted by the path of its device. -/
  | mountContainer {v k : CppString} {param : MountParam} {a : Life} :
    CppString.startsWith v CRYPT_VOLUME_PREFIX = true → a ≠ .mounted →
    LifeEdge (.mount v param) k (some a) (some .mounted)
  | unmount {v : CppString} {b : Option Life} : b = some .unmounted ∨ b = none →
    LifeEdge (.unmount v) v (some .mounted) b
  | forceUnmount {v : CppString} {a : Life} {b : Option Life} : b = some .unmounted ∨ b = none →
    LifeEdge (.forceUnmount v) v (some a) b
  | tryToFix {v : CppString} {a b : Life} : b = .mounted ∨ b = .unmounted ∨ b = .repairFailed →
    LifeEdge (.tryToFix v) v (some a) (some b)
  | format {v fsType : CppString} {a b : Life} :
    a = .unmounted ∨ a = .formatFailed ∨ a = .damaged → b = .unmounted ∨ b = .formatFailed →
    LifeEdge (.format v fsType) v (some a) (some b)
  | deletePartition {diskId k : CppString} {partitionNum : Int} :
    LifeEdge (.deletePartition diskId partitionNum) k (some .unmounted) none
  | notifyMtpMounted {id path desc uuid fsType : CppString} :
    LifeEdge (.notifyMtpMounted id path desc uuid fsType) id none (some .mounted)
  | notifyMtpUnmounted {id : CppString} {isBadRemove : Bool} {a : Life} :
    LifeEdge (.notifyMtpUnmounted id isBadRemove) id (some a) none
  | bindBlockLoopDev {diskId loopPath : CppString} {offset sizeLimit : Nat} :
    LifeEdge (.bindBlockLoopDev diskId offset sizeLimit) (cryptVolumeId loopPath) none
      (some .unmounted)
  | unbindBlockLoopDev {loopPath : CppString} {a : Life} :
    LifeEdge (.unbindBlockLoopDev loopPath) (cryptVolumeId loopPath) (some a) none
  | mountVolumeByPath {diskId volPath k : CppString} {param : MountParam} {a : Life} :
    a ≠ .mounted → LifeEdge (.mountVolumeByPath diskId volPath param) k (some a) (some .mounted)
  | umountVolumeByPath {diskId volPath k : CppString} {a : Life} {b : Option Life} :
    a ≠ .unmounted → b = some .unmounted ∨ b = none →
    LifeEdge (.umountVolumeByPath diskId volPath) k (some a) b

/-- Operations after which any volume may have come or gone. -/
def ServiceOp.remakes : ServiceOp → Bool
  | .uevent .. => true
  | .partition _ => true
  | _ => false

/-- One operation: nothing moves, or one volume along an edge. -/
inductive LifeStep (op : ServiceOp) (l : Lives) : Lives → Prop
  | same : LifeStep op l l
  | edge {l' : Lives} (k : CppString) : LifeEdge op k (l k) (l' k) →
    (∀ k', k' ≠ k → l' k' = l k') → LifeStep op l l'
  | remade {l' : Lives} : op.remakes = true → LifeStep op l l'

/-! ## What the service shows of it -/

def VolumeState.life : VolumeState → Option Life
  | .unmounted => some .unmounted
  | .mounted => some .mounted
  | .damaged => some .damaged
  | .repairFinishFail => some .repairFailed
  | .formatFinishFail => some .formatFailed
  | _ => none

def ManagerState.lives (s : ManagerState) : Lives :=
  fun k => (s.volumeMap[k]?.map (·.state)).bind VolumeState.life

theorem VolumeState.life_some {state : VolumeState} (resting : state.resting = true) :
    ∃ a, state.life = some a := by
  cases state <;> first | exact ⟨_, rfl⟩ | cases resting

/-- A volume at rest has the life of a state just when it is in it. -/
theorem VolumeState.life_inj {state state' : VolumeState} (resting : state.resting = true)
    (same : state'.life = state.life) : state' = state := by
  revert resting same
  cases state <;> cases state' <;> simp [VolumeState.life, VolumeState.resting]

theorem VolumeState.life_unmountable {state : VolumeState} (resting : state.resting = true)
    (unmountable : state.unmountable = true) : state.life = some .mounted := by
  revert resting unmountable
  cases state <;> decide

theorem VolumeState.life_mountable {state : VolumeState} (resting : state.resting = true)
    (mountable : state.mountable = true) :
    state.life = some .unmounted ∨ state.life = some .formatFailed := by
  revert resting mountable
  cases state <;> decide

theorem VolumeState.life_formattable {state : VolumeState} (formattable : state.formattable = true) :
    state.life = some .unmounted ∨ state.life = some .formatFailed ∨
      state.life = some .damaged := by
  revert formattable
  cases state <;> decide

/-- A volume that is taken down is UNMOUNTED or gone. -/
theorem Down.life {b : Option VolumeState} (down : Down b) :
    b.bind VolumeState.life = some .unmounted ∨ b.bind VolumeState.life = none := by
  rcases down with rfl | rfl
  · exact .inl rfl
  · exact .inr rfl

theorem MountOrNot.life {b : Option VolumeState} (tried : MountOrNot b) :
    ∃ l, b.bind VolumeState.life = some l ∧
      (l = .mounted ∨ l = .unmounted ∨ l = .repairFailed) := by
  rcases tried with rfl | rfl | rfl
  · exact ⟨_, rfl, .inl rfl⟩
  · exact ⟨_, rfl, .inr (.inl rfl)⟩
  · exact ⟨_, rfl, .inr (.inr rfl)⟩

namespace ManagerState

variable {s s' : ManagerState} {k v : CppString} {r : VolumeExternal}

theorem lives_found (found : s.volumeMap[k]? = some r) : s.lives k = r.state.life := by
  simp [lives, found]

theorem lives_none (gone : s.volumeMap[k]? = none) : s.lives k = none := by
  simp [lives, gone]

theorem lives_of_map (same : s'.volumeMap = s.volumeMap) : s'.lives = s.lives := by
  funext k
  simp only [lives, same]

theorem lives_others (others : Others v s s') (ne : k ≠ v) : s'.lives k = s.lives k := by
  simp only [lives, others k ne]

/-- A write that leaves the state alone. -/
theorem lives_setFields {f : VolumeExternal → VolumeExternal} (state : ∀ r, (f r).state = r.state) :
    (s.updateVolume v f).lives = s.lives := by
  funext k
  by_cases same : k = v
  · subst same
    simp only [lives, get_updateVolume_self, Option.map_map, Function.comp_def, state]
  · exact lives_others (.updateVolume v s f) same

end ManagerState

/-! ## Steps -/

section

variable {op : ServiceOp} {s s' : ManagerState} {v : CppString}

theorem LifeStep.of_lives (same : s'.lives = s.lives) : LifeStep op s.lives s'.lives := by
  rw [same]
  exact .same

theorem LifeStep.of_others (others : Others v s s') (moved : s'.lives v = s.lives v ∨
    LifeEdge op v (s.lives v) (s'.lives v)) : LifeStep op s.lives s'.lives := by
  rcases moved with same | edge
  · refine .of_lives (funext fun k => ?_)
    by_cases here : k = v
    · rw [here, same]
    · exact ManagerState.lives_others others here
  · exact .edge v edge fun k ne => ManagerState.lives_others others ne

/-- What moves a volume steps along the edges that its moves are seen as. -/
theorem LifeStep.of_moved {may : VolumeState → Option VolumeState → Prop} (rested : s.Rested)
    (moved : MovedTo v may s s')
    (edge : ∀ {a : VolumeState} {b : Option VolumeState}, a.resting = true → may a b →
      LifeEdge op v a.life (b.bind VolumeState.life)) : LifeStep op s.lives s'.lives := by
  refine .of_others moved.others ?_
  rcases moved.state with same | ⟨r, found, may⟩
  · exact .inl (congrArg (·.bind VolumeState.life) same)
  · rw [ManagerState.lives_found found]
    exact .inr (edge (rested.volume found).resting may)

theorem LifeStep.of_insert {vol : VolumeExternal} (edge : LifeEdge op vol.id none vol.state.life) :
    LifeStep op s.lives (s.insertVolume vol).lives := by
  unfold ManagerState.insertVolume
  split
  · exact .same
  next free =>
    have gone : s.volumeMap[vol.id]? = none := by simpa using free
    have here : ({ s with volumeMap := s.volumeMap.insert vol.id vol } : ManagerState).lives
        vol.id = vol.state.life := ManagerState.lives_found (StdMap.get_insert_self _ _ _)
    refine .of_others (v := vol.id) (fun k ne => StdMap.get_insert_ne ne.symm) (.inr ?_)
    rw [ManagerState.lives_none gone, here]
    exact edge

theorem LifeStep.of_erase (rested : s.Rested) (edge : ∀ a, LifeEdge op v (some a) none) :
    LifeStep op s.lives (s.eraseVolume v).lives := by
  have gone : (s.eraseVolume v).lives v = none :=
    ManagerState.lives_none (StdMap.get_erase_self _ _)
  refine .of_others (v := v) (fun k ne => StdMap.get_erase_ne ne.symm) ?_
  rw [gone]
  cases found : s.volumeMap[v]? with
  | none => exact .inl (ManagerState.lives_none found).symm
  | some r =>
      obtain ⟨a, life⟩ := VolumeState.life_some (rested.volume found).resting
      rw [ManagerState.lives_found found, life]
      exact .inr (edge a)

end

/-- `p`, started in `s`, takes a step of the machine. -/
abbrev Steps {α : Type} (op : ServiceOp) (p : ManagerProg α) (s : ManagerState) : Prop :=
  wp Contract.free p (fun _ s' _ => LifeStep op s.lives s'.lives) s ()

section

variable {α : Type} {op : ServiceOp} {s : ManagerState}

theorem steps_of_reads {p : ManagerProg α} {post : α → Prop} (reads : Within Eq p post) :
    Steps op p s := by
  refine wp_mono ?_ (wp_of_within reads (fun _ => rfl) .trans trivial fun _ => trivial)
  rintro _ _ _ ⟨rfl, -⟩
  exact .same

/-! ### Mounting and unmounting -/

variable [JsonLib]

theorem steps_mount (rested : s.Rested) (v : CppString) (mountParam : MountParam) :
    Steps (.mount v mountParam) (mount v mountParam) s := by
  refine wp_mono ?_ (moves_mount rested v mountParam)
  rintro _ s' _ (moved | ⟨crypt, k, moved⟩)
  · refine .of_moved rested moved fun {a b} resting ⟨mountable, tried⟩ => ?_
    obtain ⟨l, life, ended⟩ := tried.life
    rw [life]
    rcases VolumeState.life_mountable resting mountable with free | failed
    · rw [free]
      exact .mount (.inl rfl) ended
    · rw [failed]
      exact .mount (.inr rfl) ended
  · refine .of_moved rested moved fun {a b} resting ⟨free, ended⟩ => ?_
    obtain ⟨l, life⟩ := VolumeState.life_some resting
    subst ended
    rw [life]
    refine .mountContainer crypt ?_
    rintro rfl
    exact free (VolumeState.life_inj rfl life)

theorem steps_unmount (rested : s.Rested) (v : CppString) :
    Steps (.unmount v) (unmount v) s := by
  refine wp_mono (fun _ s' _ moved => ?_) (moves_unmount rested v)
  refine .of_moved rested moved fun {a b} resting ⟨unmountable, down⟩ => ?_
  rw [VolumeState.life_unmountable resting unmountable]
  exact .unmount down.life

theorem steps_forceUnmount (rested : s.Rested) (v : CppString) :
    Steps (.forceUnmount v) (forceUnmount v) s := by
  refine wp_mono (fun _ s' _ moved => ?_) (moves_forceUnmount rested v)
  refine .of_moved rested moved fun {a b} resting down => ?_
  obtain ⟨l, life⟩ := VolumeState.life_some resting
  rw [life]
  exact .forceUnmount down.life

theorem steps_umountVolumeByPath (rested : s.Rested) (diskId volPath : CppString) :
    Steps (.umountVolumeByPath diskId volPath) (umountVolumeByPath diskId volPath) s := by
  refine wp_mono ?_ (moves_umountVolumeByPath rested diskId volPath)
  rintro _ s' _ ⟨v, moved⟩
  refine .of_moved rested moved fun {a b} resting ⟨up, down⟩ => ?_
  obtain ⟨l, life⟩ := VolumeState.life_some resting
  rw [life]
  refine .umountVolumeByPath ?_ down.life
  rintro rfl
  exact up (VolumeState.life_inj rfl life)

omit [JsonLib] in
theorem steps_mountVolumeByPath (rested : s.Rested) (diskId volPath : CppString)
    (mountParam : MountParam) :
    Steps (.mountVolumeByPath diskId volPath mountParam)
      (mountVolumeByPath diskId volPath mountParam) s := by
  refine wp_mono ?_ (moves_mountVolumeByPath rested diskId volPath mountParam)
  rintro _ s' _ ⟨v, moved⟩
  refine .of_moved rested moved fun {a b} resting ⟨free, ended⟩ => ?_
  obtain ⟨l, life⟩ := VolumeState.life_some resting
  subst ended
  rw [life]
  refine .mountVolumeByPath ?_
  rintro rfl
  exact free (VolumeState.life_inj rfl life)

/-! ### Repair and format -/

theorem steps_tryToFix (rested : s.Rested) (v : CppString) :
    Steps (.tryToFix v) (tryToFix v) s := by
  refine wp_mono (fun _ s' _ moved => ?_) (moves_tryToFix rested v)
  refine .of_moved rested moved fun {a b} resting tried => ?_
  obtain ⟨l, before⟩ := VolumeState.life_some resting
  obtain ⟨l', after, ended⟩ := tried.life
  rw [before, after]
  exact .tryToFix ended

theorem steps_format (rested : s.Rested) (v fsType : CppString) :
    Steps (.format v fsType) (format v fsType) s := by
  refine wp_mono (fun _ s' _ moved => ?_) (moves_format rested v fsType)
  refine .of_moved rested moved fun {a b} resting ⟨formattable, ended⟩ => ?_
  have after : ∃ l, b.bind VolumeState.life = some l ∧ (l = .unmounted ∨ l = .formatFailed) := by
    rcases ended with rfl | rfl
    · exact ⟨_, rfl, .inl rfl⟩
    · exact ⟨_, rfl, .inr rfl⟩
  obtain ⟨l, after, ended⟩ := after
  rw [after]
  rcases VolumeState.life_formattable formattable with before | before | before
  · rw [before]
    exact .format (.inl rfl) ended
  · rw [before]
    exact .format (.inr (.inl rfl)) ended
  · rw [before]
    exact .format (.inr (.inr rfl)) ended

/-- An UNMOUNTED volume is UNMOUNTED again. -/
theorem steps_formatPartition (rested : s.Rested) (diskId : CppString) (partitionNum : Int)
    (params : FormatParams) :
    Steps (.formatPartition diskId partitionNum params)
      (formatPartition diskId partitionNum params) s := by
  refine wp_mono ?_ (moves_formatPartition rested diskId partitionNum params)
  rintro _ s' _ ⟨v, moved⟩
  refine .of_others moved.others (.inl ?_)
  rcases moved.state with same | ⟨r, found, before, after⟩
  · exact congrArg (·.bind VolumeState.life) same
  · rw [ManagerState.lives_found found, before]
    exact congrArg (·.bind VolumeState.life) after

/-! ### Volumes that come and go -/

omit [JsonLib] in
theorem steps_onVolumeCreated {vol : VolumeExternal}
    (edge : LifeEdge op vol.id none vol.state.life) : Steps op (onVolumeCreated vol) s := by
  rw [onVolumeCreated]
  refine wp_look_bind (wp_bind.mpr ⟨trivial, ?_⟩)
  exact .of_insert edge

omit [JsonLib] in
theorem steps_onVolumeDestroyed (rested : s.Rested) {v : CppString}
    (edge : ∀ a, LifeEdge op v (some a) none) : Steps op (onVolumeDestroyed v) s := by
  refine wp_section ?_
  split
  · exact .same
  · exact .of_erase rested edge

omit [JsonLib] in
theorem steps_notifyMtpMounted (id path desc uuid fsType : CppString) :
    Steps (.notifyMtpMounted id path desc uuid fsType)
      (notifyMtpMounted id path desc uuid fsType) s := by
  rw [notifyMtpMounted]
  refine wp_called_bind fun name _ _ => wp_bind.mpr ⟨trivial, wp_called_bind fun _ _ _ => ?_⟩
  exact .of_insert .notifyMtpMounted

omit [JsonLib] in
theorem steps_notifyMtpUnmounted (rested : s.Rested) (id : CppString) (isBadRemove : Bool) :
    Steps (.notifyMtpUnmounted id isBadRemove) (notifyMtpUnmounted id isBadRemove) s := by
  have erased : LifeStep (.notifyMtpUnmounted id isBadRemove) s.lives (s.eraseVolume id).lives :=
    .of_erase rested fun _ => .notifyMtpUnmounted
  rw [notifyMtpUnmounted]
  refine wp_bind.mpr (wp_section ?_)
  dsimp only
  split
  · exact erased
  · exact wp_called_bind fun _ _ _ => erased

omit [JsonLib] in
theorem steps_bindBlockLoopDev (diskId : CppString) (offset sizeLimit : Nat) :
    Steps (.bindBlockLoopDev diskId offset sizeLimit) (bindBlockLoopDev diskId offset sizeLimit)
      s := by
  rw [bindBlockLoopDev]
  refine wp_reads_bind (reads_getDiskById diskId) fun shown _ => ?_
  split
  · exact .same
  split
  · exact .same
  refine wp_reads_bind (reads_isVolumeBind _ _ _) fun bound _ => ?_
  split
  · exact .same
  refine wp_called_bind fun result _ _ => ?_
  obtain ⟨ret, output⟩ := result
  dsimp only
  split
  · exact .same
  · exact wp_seq (steps_onVolumeCreated .bindBlockLoopDev) fun _ _ _ stepped => stepped

omit [JsonLib] in
theorem steps_unbindBlockLoopDev (rested : s.Rested) (loopPath : CppString) :
    Steps (.unbindBlockLoopDev loopPath) (unbindBlockLoopDev loopPath) s := by
  rw [unbindBlockLoopDev]
  refine wp_called_bind fun result _ _ => ?_
  obtain ⟨ret, output⟩ := result
  dsimp only
  split
  · exact .same
  · exact wp_seq (steps_onVolumeDestroyed rested fun _ => .unbindBlockLoopDev)
      fun _ _ _ stepped => stepped

omit [JsonLib] in
/-- When no volume of the disk is in use, each of them is UNMOUNTED. -/
theorem isDiskNotReady_bind {β : Type} {diskId : CppString} {disk : Disk} {f : Bool → ManagerProg β}
    {post : β → ManagerState → Unit → Prop} (there : s.diskMap[diskId]? = some disk)
    (busy : wp Contract.free (f true) post s ())
    (free : (∀ item ∈ (attachVolumeIdsToDisk s.volumeMap disk).volumeIds, ∀ vol,
      s.volumeMap[item]? = some vol → vol.state = .unmounted) →
      wp Contract.free (f false) post s ()) :
    wp Contract.free (isDiskNotReady diskId >>= f) post s () := by
  rw [isDiskNotReady, wp_bind]
  refine getDiskById_bind_some there fun extraInfo w' => ?_
  refine wp_bind.mp (anyVolumeNotUnmounted_bind fun used same => ?_)
  cases used with
  | true => exact busy
  | false =>
      refine free fun item mem vol found => ?_
      by_contra other
      exact absurd (same.mpr ⟨item, mem, vol, found, other⟩) (by decide)

/-- The volume that is taken down is UNMOUNTED, so nothing is unmounted on the way. -/
theorem steps_deletePartition (rested : s.Rested) (diskId : CppString) (partitionNum : Int) :
    Steps (.deletePartition diskId partitionNum) (deletePartition diskId partitionNum) s := by
  rw [deletePartition]
  cases there : s.diskMap[diskId]? with
  | none => exact getDiskById_bind_none there .same
  | some disk =>
      refine getDiskById_bind_some there fun extraInfo _ => ?_
      dsimp only
      split
      · exact .same
      refine isDiskNotReady_bind there .same fun unmounted => ?_
      refine wp_look_bind ?_
      split
      · exact .same
      split
      · exact .same
      refine wp_called_bind fun ret _ _ => ?_
      split
      · exact .same
      have removed : Steps (.deletePartition diskId partitionNum)
          (destroyVolumeByDiskIdAndPartNum diskId partitionNum) s := by
        rw [destroyVolumeByDiskIdAndPartNum]
        refine getDiskById_bind_some there fun extraInfo _ => ?_
        dsimp only
        refine findVolumeByPartNum_bind (fun _ => .same) fun item mem vol found _ => ?_
        have state := unmounted item mem vol found
        dsimp only
        rw [destroyFoundVolume, state, if_neg (by decide)]
        refine wp_called_bind fun ret _ _ => ?_
        split
        · exact .same
        refine wp_called_bind fun _ _ _ => wp_bind.mpr (wp_section ?_)
        have calm := rested.volume found
        have erased : LifeStep (.deletePartition diskId partitionNum) s.lives
            (s.eraseVolume item).lives := by
          have gone : (s.eraseVolume item).lives item = none :=
            ManagerState.lives_none (StdMap.get_erase_self _ _)
          refine .of_others (v := item) (fun k ne => StdMap.get_erase_ne ne.symm) (.inr ?_)
          rw [gone, ManagerState.lives_found found, state]
          exact .deletePartition
        rw [calm.id]
        split
        · exact .same
        · exact erased
      exact wp_seq removed fun _ _ _ stepped => stepped

/-! ### Operations that leave every life alone -/

omit [JsonLib] in
theorem steps_createDmCryptVolume (rested : s.Rested) (param : CryptParam)
    (loopPath mapperName : CppString) :
    Steps op (createDmCryptVolume param loopPath mapperName) s := by
  rw [createDmCryptVolume, getVolumeById, findVolume]
  refine wp_look_bind ?_
  cases found : s.volumeMap[cryptVolumeId loopPath]? with
  | none => exact .same
  | some vol =>
      dsimp only
      split
      · exact .same
      refine wp_called_bind fun result _ _ => ?_
      obtain ⟨ret, output⟩ := result
      dsimp only
      split
      · exact .same
      have id : vol.id = cryptVolumeId loopPath := (rested.volume found).id
      have written : LifeStep op s.lives (s.updateVolume vol.id fun _ =>
          { vol with mapperPath := DEV_MAPPER_PREFIX ++ mapperName }).lives := by
        have moved : MovedTo vol.id (fun _ _ => False) s (s.updateVolume vol.id fun _ =>
            { vol with mapperPath := DEV_MAPPER_PREFIX ++ mapperName }) := by
          rw [id]
          exact .updateVolume rested found ((rested.volume found).copy id.symm rfl rfl) (.inl rfl)
        exact .of_moved rested moved fun _ => False.elim
      rw [updateVolumeExternal, updateVolumeIfFound]
      refine wp_bind.mpr (wp_bind.mpr (wp_section ?_))
      dsimp only
      split
      · exact written
      · exact written

omit [JsonLib] in
theorem steps_destroyDmCryptVolume (mapperName : CppString) :
    Steps op (destroyDmCryptVolume mapperName) s := by
  rw [destroyDmCryptVolume]
  refine wp_called_bind fun result _ _ => ?_
  obtain ⟨ret, output⟩ := result
  dsimp only
  split
  · exact .same
  refine wp_bind.mpr ⟨trivial, .of_lives ?_⟩
  unfold ManagerState.clearMapperPath
  dsimp only
  split
  · rfl
  · exact ManagerState.lives_setFields fun _ => rfl

omit [JsonLib] in
theorem steps_setVolumeDescription (fsUuid description : CppString) :
    Steps op (setVolumeDescription fsUuid description) s := by
  rw [setVolumeDescription]
  refine wp_look_bind ?_
  split
  · exact .same
  split
  · exact .same
  dsimp only
  split
  · exact .same
  refine wp_reads_bind (reads_isDiskSupported _) fun supported _ => ?_
  split
  · exact .same
  split
  · exact .same
  refine wp_reads_bind (reads_checkVolId _) fun devPath _ => ?_
  split
  · exact .same
  refine wp_called_bind fun err _ _ => ?_
  split
  · exact .same
  have named : ∀ v : CppString, LifeStep op s.lives
      (s.updateVolume v fun vol => { vol with description }).lives :=
    fun v => .of_lives (ManagerState.lives_setFields fun _ => rfl)
  rw [updateVolumeIfFound]
  refine wp_bind.mpr (wp_section ?_)
  dsimp only
  split
  · exact named _
  · exact named _

omit [JsonLib] in
theorem steps_getPartitionTable (diskId : CppString) :
    Steps op (getPartitionTable diskId) s := by
  rw [getPartitionTable]
  refine wp_reads_bind (reads_hasDisk diskId) fun known _ => ?_
  split
  · exact .same
  refine wp_called_bind fun result _ _ => ?_
  obtain ⟨ret, execRet⟩ := result
  dsimp only
  split
  · exact .same
  split
  · exact .same
  refine wp_reads_bind (reads_readPartitions _ _ _) fun partitions _ => ?_
  exact wp_bind.mpr ⟨trivial, .of_lives (ManagerState.lives_of_map rfl)⟩

/-! ## The service -/

theorem ServiceOp.steps (op : ServiceOp) (rested : s.Rested) : Steps op op.prog s := by
  have ran : ∀ {α : Type} {p : ManagerProg α}, Steps op p s → Steps op (ManagerProg.run p) s :=
    fun steps => wp_seq steps fun _ _ _ stepped => stepped
  have any : ∀ {α : Type} {p : ManagerProg α}, op.remakes = true →
      Steps op (ManagerProg.run p) s :=
    fun remakes => wp_mono (fun _ _ _ _ => .remade remakes)
      (wp_trivial trivial trivial)
  cases op with
  | uevent => exact any rfl
  | mount => exact ran (steps_mount rested _ _)
  | unmount => exact ran (steps_unmount rested _)
  | forceUnmount => exact ran (steps_forceUnmount rested _)
  | tryToFix => exact ran (steps_tryToFix rested _)
  | format => exact ran (steps_format rested _ _)
  | setVolumeDescription => exact ran (steps_setVolumeDescription _ _)
  | partition => exact any rfl
  | getPartitionTable => exact ran (steps_getPartitionTable _)
  | createPartition => exact ran (steps_of_reads (reads_createPartition _ _))
  | deletePartition => exact ran (steps_deletePartition rested _ _)
  | formatPartition => exact ran (steps_formatPartition rested _ _ _)
  | eject => exact ran (steps_of_reads (reads_eject _))
  | notifyMtpMounted => exact ran (steps_notifyMtpMounted _ _ _ _ _)
  | notifyMtpUnmounted => exact ran (steps_notifyMtpUnmounted rested _ _)
  | bindBlockLoopDev => exact ran (steps_bindBlockLoopDev _ _ _)
  | unbindBlockLoopDev => exact ran (steps_unbindBlockLoopDev rested _)
  | createDmCryptVolume => exact ran (steps_createDmCryptVolume rested _ _ _)
  | destroyDmCryptVolume => exact ran (steps_destroyDmCryptVolume _)
  | mountVolumeByPath => exact ran (steps_mountVolumeByPath rested _ _ _)
  | umountVolumeByPath => exact ran (steps_umountVolumeByPath rested _ _)

omit [JsonLib] in
/-- At rest a volume is there just when it has a life. -/
theorem ManagerState.Rested.lives_none (rested : s.Rested) (k : CppString) :
    s.lives k = none ↔ s.volumeMap[k]? = none := by
  refine ⟨fun gone => ?_, ManagerState.lives_none⟩
  cases found : s.volumeMap[k]? with
  | none => rfl
  | some r =>
      obtain ⟨a, life⟩ := VolumeState.life_some (rested.volume found).resting
      rw [ManagerState.lives_found found, life] at gone
      cases gone

/-- The runs of the service, as far as the states of its volumes show them, are runs of the
machine. -/
theorem runs_as_lives {ops : List ServiceOp} {s' : ManagerState}
    (rested : s.Rested) (paths : ∀ op ∈ ops, op.HasPath)
    (run : Runs ServiceOp.prog (fun _ => anyAnswer) s () ops s' ()) :
    AbstractRuns LifeStep s.lives ops s'.lives := by
  have steps : ∀ op ∈ ops, ∀ s : ManagerState, s.Rested →
      wp Contract.free op.prog (fun _ s' _ => LifeStep op s.lives s'.lives) s () :=
    fun op _ _ rested => op.steps rested
  exact run.refines (fun op mem => op.restores (paths op mem)) steps rested

end

/-! ## What the machine cannot do -/

/-- A volume keeps its life as long as no operation has an edge out of it. -/
theorem AbstractRuns.life_kept {l l' : Lives} {ops : List ServiceOp} {k : CppString} {a : Life}
    (run : AbstractRuns LifeStep l ops l') (here : l k = some a)
    (kept : ∀ op ∈ ops, op.remakes = false ∧ ∀ b, LifeEdge op k (some a) b → b = some a) :
    l' k = some a := by
  refine run.invariant (fun l => l k = some a) here fun op mem l l' held stepped => ?_
  obtain ⟨plain, edges⟩ := kept op mem
  cases stepped with
  | same => exact held
  | edge k₁ edge others =>
      by_cases same : k = k₁
      · subst same
        rw [held] at edge
        exact edges _ edge
      · rw [others k same, held]
  | remade remakes =>
      rw [plain] at remakes
      cases remakes

/-- What can take down a volume that is mounted. -/
def ServiceOp.takesDown (k : CppString) : ServiceOp → Bool
  | .unmount v => v = k
  | .forceUnmount v => v = k
  | .tryToFix v => v = k
  | .notifyMtpUnmounted v _ => v = k
  | .unbindBlockLoopDev loopPath => cryptVolumeId loopPath = k
  | .umountVolumeByPath .. => true
  | op => op.remakes

/-- What can help a volume that could not be repaired: its own repair, what takes it away, and the
mounting of containers, which finds its volume by the path of a device. -/
def ServiceOp.revives (k : CppString) : ServiceOp → Bool
  | .forceUnmount v => v = k
  | .tryToFix v => v = k
  | .notifyMtpUnmounted v _ => v = k
  | .unbindBlockLoopDev loopPath => cryptVolumeId loopPath = k
  | .umountVolumeByPath .. => true
  | .mountVolumeByPath .. => true
  | .mount v _ => CppString.startsWith v CRYPT_VOLUME_PREFIX
  | op => op.remakes

theorem ServiceOp.spares {op : ServiceOp} {k : CppString} (spared : op.takesDown k = false) :
    op.remakes = false ∧ ∀ b, LifeEdge op k (some .mounted) b → b = some .mounted := by
  refine ⟨?_, fun b edge => ?_⟩
  · cases op with
    | uevent => exact spared
    | partition => exact spared
    | _ => rfl
  · cases edge with
    | mount free => rcases free with free | free <;> cases free
    | mountContainer => rfl
    | unmount => simp [ServiceOp.takesDown] at spared
    | forceUnmount => simp [ServiceOp.takesDown] at spared
    | tryToFix => simp [ServiceOp.takesDown] at spared
    | format free => rcases free with free | free | free <;> cases free
    | notifyMtpUnmounted => simp [ServiceOp.takesDown] at spared
    | unbindBlockLoopDev => simp [ServiceOp.takesDown] at spared
    | mountVolumeByPath => rfl
    | umountVolumeByPath => cases spared

theorem ServiceOp.leaves_broken {op : ServiceOp} {k : CppString} (spared : op.revives k = false) :
    op.remakes = false ∧ ∀ b, LifeEdge op k (some .repairFailed) b → b = some .repairFailed := by
  refine ⟨?_, fun b edge => ?_⟩
  · cases op with
    | uevent => exact spared
    | partition => exact spared
    | _ => rfl
  · cases edge with
    | mount free => rcases free with free | free <;> cases free
    | mountContainer crypt => simp [ServiceOp.revives, crypt] at spared
    | forceUnmount => simp [ServiceOp.revives] at spared
    | tryToFix => simp [ServiceOp.revives] at spared
    | format free => rcases free with free | free | free <;> cases free
    | notifyMtpUnmounted => simp [ServiceOp.revives] at spared
    | unbindBlockLoopDev => simp [ServiceOp.revives] at spared
    | mountVolumeByPath => cases spared
    | umountVolumeByPath => cases spared

section

variable [JsonLib] {ops later : List ServiceOp} {s s' : ManagerState} {k : CppString}

omit [JsonLib] in
/-- The state of a volume, read off its life. -/
theorem ManagerState.of_life {state : VolumeState} {a : Life} (resting : state.resting = true)
    (life : state.life = some a) (here : s.lives k = some a) :
    ∃ r, s.volumeMap[k]? = some r ∧ r.state = state := by
  cases found : s.volumeMap[k]? with
  | none =>
      rw [ManagerState.lives_none found] at here
      cases here
  | some r =>
      refine ⟨r, rfl, VolumeState.life_inj resting ?_⟩
      rw [life, ← here, ManagerState.lives_found found]

/-- A mounted volume stays mounted, and one that could not be repaired stays so, through all
requests that are not there to change that. -/
theorem volumes_stay_until_asked (paths : ∀ op ∈ ops ++ later, op.HasPath)
    (run : Runs ServiceOp.prog (fun _ => anyAnswer) .boot () ops s ())
    (rest : Runs ServiceOp.prog (fun _ => anyAnswer) s () later s' ()) {r : VolumeExternal}
    (found : s.volumeMap[k]? = some r) :
    (r.state = .mounted → (∀ op ∈ later, op.takesDown k = false) →
      ∃ r', s'.volumeMap[k]? = some r' ∧ r'.state = .mounted) ∧
    (r.state = .repairFinishFail → (∀ op ∈ later, op.revives k = false) →
      ∃ r', s'.volumeMap[k]? = some r' ∧ r'.state = .repairFinishFail) := by
  have later' : ∀ op ∈ later, op ∈ ops ++ later := fun op mem => List.mem_append_right _ mem
  have rested : s.Rested :=
    run.restored (fun op mem => op.restores (paths op (List.mem_append_left _ mem))) rested_boot
  have lives : AbstractRuns LifeStep s.lives later s'.lives :=
    runs_as_lives rested (fun op mem => paths op (later' op mem)) rest
  have life := ManagerState.lives_found found
  refine ⟨fun mounted spared => ?_, fun broken spared => ?_⟩
  · rw [mounted] at life
    refine ManagerState.of_life rfl rfl (AbstractRuns.life_kept lives life ?_)
    exact fun op mem => ServiceOp.spares (spared op mem)
  · rw [broken] at life
    refine ManagerState.of_life rfl rfl (AbstractRuns.life_kept lives life ?_)
    exact fun op mem => ServiceOp.leaves_broken (spared op mem)

end

/-! ## The stick that cannot be repaired -/

/-- What a user may try next. -/
def stickRetry : List ServiceOp :=
  [.mount "vol-8-1" {}, .format "vol-8-1" "exfat", .unmount "vol-8-1", .setVolumeDescription "" ""]

/-- The stick after that, with a daemon that has no trouble any more. -/
def stickRetried : ManagerState × Unit :=
  letI := tableJson
  execAll ServiceOp.prog (fun _ q => (stickFs q, ())) stickRetry (stickUnrepaired.1, ())

theorem volumes_stay_until_asked_stick :
    ∃ r, stickRetried.1.volumeMap["vol-8-1".toList]? = some r ∧ r.state = .repairFinishFail := by
  let _ := tableJson
  have obeys : ∀ (s : ManagerState) (w : Unit) (q : Req), anyAnswer s w q (stickFs q) () :=
    fun _ _ _ => trivial
  have rest : Runs ServiceOp.prog (fun _ => anyAnswer) stickUnrepaired.1 () stickRetry
      stickRetried.1 stickRetried.2 := Runs.execAll (fun _ => obeys) _ _ _
  have paths : ∀ op ∈ stickRepair ++ stickRetry, op.HasPath := by
    intro op mem
    rcases List.mem_append.mp mem with mem | mem
    · exact hasPath_stickRepair op mem
    · simp only [stickRetry, List.mem_cons, List.not_mem_nil, or_false] at mem
      rcases mem with rfl | rfl | rfl | rfl <;> trivial
  have idle : ∀ op ∈ stickRetry, op.revives "vol-8-1" = false := by
    intro op mem
    simp only [stickRetry, List.mem_cons, List.not_mem_nil, or_false] at mem
    rcases mem with rfl | rfl | rfl | rfl <;> decide
  have state : stickUnrepaired.1.volumeMap["vol-8-1".toList]?.map (·.state) =
      some .repairFinishFail := by decide +kernel
  obtain ⟨r, found, broken⟩ := Option.map_eq_some_iff.mp state
  exact (volumes_stay_until_asked paths runs_stickRepair rest found).2 broken idle

end DiskManager
