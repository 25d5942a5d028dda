import DiskManager.Uevent.FreshTable

/-!
# Repartitioning

`DiskManager::Partition` takes the volumes of a disk down before it asks the daemon, and makes those
of the new table after. What a call that fails leaves behind, and which partitions have a volume
after one that succeeds.
-/

namespace DiskManager

open Interact

/-- The call is refused: there is no such disk, it is optical, or a volume of it is in use. -/
def Refused (s : ManagerState) (diskId : CppString) : Prop :=
  (∀ disk, s.diskMap[diskId]? = some disk → disk.diskType = CD_FLAG) ∨
    ∃ (k : CppString) (vol : VolumeExternal), s.volumeMap[k]? = some vol ∧ vol.diskId = diskId ∧
      vol.state ≠ .unmounted

theorem not_refused_isSome {s : ManagerState} {diskId : CppString} (passed : ¬ Refused s diskId) :
    s.diskMap[diskId]?.isSome := by
  by_contra none
  refine passed (.inl fun disk found => absurd ?_ none)
  rw [found]
  rfl

/-- The keys of the volumes of the disk. -/
def ManagerState.keysOf (s : ManagerState) (diskId : CppString) : List CppString :=
  (s.volumeMap.toList.filter fun kv => kv.2.diskId = diskId).map (·.1)

theorem ManagerState.mem_keysOf {s : ManagerState} {diskId k : CppString} :
    k ∈ s.keysOf diskId ↔ ∃ vol, s.volumeMap[k]? = some vol ∧ vol.diskId = diskId := by
  simp only [ManagerState.keysOf, List.mem_map, List.mem_filter, decide_eq_true_eq]
  constructor
  · rintro ⟨⟨a, vol⟩, ⟨mem, of⟩, rfl⟩
    exact ⟨vol, StdMap.mem_toList.mp mem, of⟩
  · rintro ⟨vol, found, of⟩
    exact ⟨(k, vol), ⟨StdMap.mem_toList.mpr found, of⟩, rfl⟩

/-- Only the voldata store changed. -/
def OnlyVoldata (s s' : ManagerState) : Prop := s' = { s with voldata := s'.voldata }

theorem OnlyVoldata.refl (s : ManagerState) : OnlyVoldata s s := rfl

theorem OnlyVoldata.trans {s₁ s₂ s₃ : ManagerState} (first : OnlyVoldata s₁ s₂)
    (second : OnlyVoldata s₂ s₃) : OnlyVoldata s₁ s₃ := by
  unfold OnlyVoldata at first second ⊢
  rw [first] at second
  exact second

/-- The daemon is asked to partition a disk. -/
def Req.isPartitionCall : Req → Bool
  | .partition .. => true
  | _ => false

/-! ## Checks -/

section Checks

variable {W : Type} {env : Env ManagerState W Req Req.Resp} {s : ManagerState} {w : W}
  {β : Type} {post : β → ManagerState → W → Prop}

/-- The loop over the volumes looks for one that is in use. -/
theorem anyVolumeNotUnmounted_bind {volIds : List CppString} {f : Bool → ManagerProg β}
    (rest : ∀ busy, (busy = true ↔ ∃ k ∈ volIds, ∃ vol, s.volumeMap[k]? = some vol ∧
      vol.state ≠ .unmounted) → wp (.ofEnv env) (f busy) post s w) :
    wp (.ofEnv env) (anyVolumeNotUnmounted volIds >>= f) post s w := by
  induction volIds with
  | nil => exact rest false ⟨fun no => (by cases no), fun ⟨_, mem, _⟩ => (by cases mem)⟩
  | cons item volIds ih =>
      have later : (∀ vol, s.volumeMap[item]? = some vol → vol.state = .unmounted) →
          wp (.ofEnv env) (anyVolumeNotUnmounted volIds >>= f) post s w := by
        intro first
        refine ih fun busy found => rest busy (found.trans ⟨?_, ?_⟩)
        · rintro ⟨k, mem, there⟩
          exact ⟨k, List.mem_cons_of_mem item mem, there⟩
        · rintro ⟨k, mem, vol, there, other⟩
          rcases List.mem_cons.mp mem with rfl | mem
          · exact absurd (first vol there) other
          · exact ⟨k, mem, vol, there, other⟩
      rw [anyVolumeNotUnmounted, getVolumeById, findVolume, wp_bind]
      refine wp_look_bind ?_
      cases found : s.volumeMap[item]? with
      | none => exact wp_bind.mp (later fun vol there => by cases found.symm.trans there)
      | some vol =>
          dsimp only
          split
          next other =>
            exact rest true ⟨fun _ => ⟨item, List.mem_cons_self, vol, found, other⟩, fun _ => rfl⟩
          next same =>
            refine wp_bind.mp (later fun vol' there => ?_)
            cases found.symm.trans there
            exact not_not.mp same

/-- Requests other than the daemon's `Partition` leave the world as it is. -/
def QuietButPartition (env : Env ManagerState W Req Req.Resp) : Prop :=
  ∀ {s w q r w'}, q.isPartitionCall = false → env s w q r w' → w' = w

theorem mem_volumeIds (keys : KeyIds s) {disk : Disk} {k : CppString} :
    k ∈ (attachVolumeIdsToDisk s.volumeMap disk).volumeIds ↔ k ∈ s.keysOf disk.diskId := by
  rw [ManagerState.mem_keysOf]
  simp only [attachVolumeIdsToDisk, List.mem_map, List.mem_filter, decide_eq_true_eq]
  constructor
  · rintro ⟨⟨a, vol⟩, ⟨mem, of⟩, rfl⟩
    have found := StdMap.mem_toList.mp mem
    rw [keys a vol found]
    exact ⟨vol, found, of⟩
  · rintro ⟨vol, found, of⟩
    exact ⟨(k, vol), ⟨StdMap.mem_toList.mpr found, of⟩, keys k vol found⟩

/-- The checks of `Partition` refuse a call or let it pass. -/
theorem partition_checks [JsonLib] {diskId : CppString} {post : ErrCode → ManagerState → W → Prop}
    (quiet : QuietButPartition env) (keys : KeyIds s) (ids : s.index.DiskIds)
    (refused : Refused s diskId → ∀ err, err ≠ E_OK → post err s w)
    (passed : ¬ Refused s diskId → wp (.ofEnv env) (do
      addPartitioningDisk diskId
      let ret ← partitionMarked diskId
      removePartitioningDisk diskId
      return ret) post s w) :
    wp (.ofEnv env) (partition diskId) post s w := by
  rw [partition, isDiskSupported, wp_bind]
  refine getDiskById_shows (quiet rfl) fun shown shows => ?_
  cases shows with
  | none gone =>
      have none : Refused s diskId := .inl fun disk found => by cases gone.symm.trans found
      exact refused none E_NOT_SUPPORT (by decide)
  | @some disk extraInfo found =>
      have id : disk.diskId = diskId := ids diskId disk found
      dsimp only
      rw [wp_pure]
      split
      next optical =>
        refine refused (.inl fun disk' found' => ?_) _ (by decide)
        cases found.symm.trans found'
        exact optical
      next optical =>
        rw [if_neg fun failed => failed rfl, isDiskNotReady, wp_bind]
        refine getDiskById_shows (quiet rfl) fun shown shows => ?_
        cases shows with
        | none gone => cases gone.symm.trans found
        | @some disk' extraInfo found' =>
            cases found.symm.trans found'
            dsimp only
            refine wp_bind.mp (anyVolumeNotUnmounted_bind fun busy found'' => ?_)
            have same : busy = true ↔ Refused s diskId := by
              rw [found'']
              constructor
              · rintro ⟨k, mem, vol, there, other⟩
                obtain ⟨vol', there', of⟩ := ManagerState.mem_keysOf.mp ((mem_volumeIds keys).mp mem)
                cases there.symm.trans there'
                exact .inr ⟨k, vol, there, of.trans id, other⟩
              · rintro (none | ⟨k, vol, there, of, other⟩)
                · exact absurd (none disk found) optical
                · have mem := ManagerState.mem_keysOf.mpr ⟨vol, there, of.trans id.symm⟩
                  exact ⟨k, (mem_volumeIds keys).mpr mem, vol, there, other⟩
            cases busy with
            | true => exact refused (same.mp rfl) E_VOL_STATE (by decide)
            | false => exact passed fun refused => by cases same.mpr refused

end Checks

/-! ## Purging -/

@[simp] theorem ManagerState.eraseVolumes_rest (s : ManagerState) (volIds : List CppString) :
    (s.eraseVolumes volIds).diskMap = s.diskMap ∧
      (s.eraseVolumes volIds).diskPartsSnapshot = s.diskPartsSnapshot ∧
      (s.eraseVolumes volIds).voldata = s.voldata := by
  unfold ManagerState.eraseVolumes
  induction volIds generalizing s with
  | nil => exact ⟨rfl, rfl, rfl⟩
  | cons v volIds ih => exact ih (s.eraseVolume v)

theorem ManagerState.get_eraseVolumes (s : ManagerState) (volIds : List CppString) (k : CppString) :
    (s.eraseVolumes volIds).volumeMap[k]? = if k ∈ volIds then none else s.volumeMap[k]? := by
  unfold ManagerState.eraseVolumes
  induction volIds generalizing s with
  | nil => rfl
  | cons v volIds ih =>
      rw [List.foldl_cons, ih, ManagerState.eraseVolume, StdMap.get_erase]
      by_cases same : v = k
      · simp [same]
      · simp [same, Ne.symm same]

theorem index_eraseVolumes (s : ManagerState) (volIds : List CppString) :
    (s.eraseVolumes volIds).index = s.index.eraseAll volIds := by
  unfold ManagerState.eraseVolumes Index.eraseAll
  induction volIds generalizing s with
  | nil => rfl
  | cons v volIds ih => rw [List.foldl_cons, List.foldl_cons, ih, index_eraseVolume]

section

variable [JsonLib] {W : Type} {env : Env ManagerState W Req Req.Resp} {s : ManagerState} {w : W}

theorem voldata_removeFsUuids (fsUuids : List CppString) (ret : ErrCode) :
    Within OnlyVoldata (removeFsUuids fsUuids ret) fun _ => True := by
  induction fsUuids generalizing ret with
  | nil => trivial
  | cons fsUuid fsUuids ih =>
      rw [removeFsUuids, onStore]
      exact within_seq (within_lift _ fun _ _ => rfl) fun _ _ => ih _

theorem asks_removeFsUuids (fsUuids : List CppString) (ret : ErrCode) :
    Asks (fun q => q.isPartitionCall = false) (removeFsUuids fsUuids ret) := by
  induction fsUuids generalizing ret with
  | nil => trivial
  | cons fsUuid fsUuids ih =>
      rw [removeFsUuids, onStore]
      exact asks_bind (asks_lift _ fun _ => rfl) fun _ => ih _

/-- The volumes of the disk go, and their uuids. -/
theorem purged (quiet : QuietButPartition env) {diskId : CppString}
    (there : s.diskMap[diskId]?.isSome) :
    wp (.ofEnv env) (purgeVolumesForDisk diskId) (fun ret s' w' =>
      OnlyVoldata (s.eraseVolumes (s.keysOf diskId)) s' ∧
        (s.keysOf diskId = [] → ret = E_OK ∧ s' = s) ∧ w' = w) s w := by
  rw [purgeVolumesForDisk]
  refine hasDisk_bind ?_
  rw [there, if_neg (by decide)]
  refine wp_look_bind ?_
  refine wp_bind.mpr ⟨trivial, ?_⟩
  change wp _ (removeFsUuids _ _) _ (s.eraseVolumes (s.keysOf diskId)) w
  by_cases none : s.keysOf diskId = []
  · have empty : (s.volumeMap.toList.filter fun kv => kv.2.diskId = diskId) = [] :=
      List.map_eq_nil_iff.mp none
    rw [none, empty]
    exact ⟨rfl, fun _ => ⟨rfl, rfl⟩, rfl⟩
  · have removed := wp_asks (C := .ofEnv env) (s := s.eraseVolumes (s.keysOf diskId)) (w := w)
      (voldata_removeFsUuids ((((s.volumeMap.toList.filter fun kv => kv.2.diskId = diskId)).map
        (·.2.fsUuid)).filter isUuidValid) E_OK) (asks_removeFsUuids _ _) OnlyVoldata.refl
      OnlyVoldata.trans (fun _ => trivial) quiet fun _ => trivial
    exact wp_mono (fun _ _ _ ended => ⟨ended.1, fun empty => absurd empty none, ended.2.2⟩) removed

end

/-! ## A call that fails -/

/-- The daemon partitioned the disk. -/
def Req.partitioned : (q : Req) → q.Resp → Bool
  | .partition .., err => err = E_OK
  | _, _ => false

/-- Any answers; the world says whether the daemon partitioned the disk. -/
def notesPartition (_ : ManagerState) (done : Bool) (q : Req) (r : q.Resp) (done' : Bool) : Prop :=
  done' = (done || q.partitioned r)

theorem notesPartition_quiet : QuietButPartition notesPartition := by
  intro s w q r w' other answered
  have no : q.partitioned r = false := by
    cases q with
    | partition => cases other
    | _ => rfl
  rw [answered, no, Bool.or_false]

/-- A call that failed left volumes, uuids and tables as they were, and no call leaves its mark. -/
def LeavesNothing (s : ManagerState) (diskId : CppString) (err : ErrCode) (s' : ManagerState)
    (done : Bool) : Prop :=
  (err ≠ E_OK → done = false → s'.volumeMap = s.volumeMap ∧ s'.voldata = s.voldata ∧
    s'.diskPartsSnapshot = s.diskPartsSnapshot) ∧
  (diskId ∈ s'.partitioningDiskIds → Refused s diskId ∧ diskId ∈ s.partitioningDiskIds)

/-- Every call succeeds but that of `Partition`. -/
def partitionFails : (q : Req) → q.Resp
  | .partition .. => DISK_MGR_ERR
  | q => okAnswer ∅ q

theorem partitionFails_obeys (s : ManagerState) (done : Bool) (q : Req) :
    notesPartition s done q (partitionFails q) done := by
  have no : q.partitioned (partitionFails q) = false := by
    cases q with
    | _ => rfl
  rw [notesPartition, no, Bool.or_false]

section

variable [JsonLib] {s : ManagerState}

/-- A call that is not refused and fails has purged the disk. -/
theorem partition_failed {diskId : CppString} (keys : KeyIds s) (ids : s.index.DiskIds) :
    wp (.ofEnv notesPartition) (partition diskId) (fun err s' done =>
      Refused s diskId ∧ s' = s ∨ ¬ Refused s diskId ∧ diskId ∉ s'.partitioningDiskIds ∧
        (done = false → err ≠ E_OK ∧
          s'.volumeMap = (s.eraseVolumes (s.keysOf diskId)).volumeMap ∧
          s'.diskPartsSnapshot = s.diskPartsSnapshot ∧
          (s.keysOf diskId = [] → s'.voldata = s.voldata))) s false := by
  refine partition_checks notesPartition_quiet keys ids (fun refused _ _ => .inl ⟨refused, rfl⟩)
    fun passed => ?_
  have there : s.diskMap[diskId]?.isSome := not_refused_isSome passed
  refine wp_bind.mpr ⟨trivial, ?_⟩
  have marked : wp (.ofEnv notesPartition) (partitionMarked diskId) (fun err s' done =>
      done = false → err ≠ E_OK ∧ s'.volumeMap = (s.eraseVolumes (s.keysOf diskId)).volumeMap ∧
        s'.diskPartsSnapshot = s.diskPartsSnapshot ∧
        (s.keysOf diskId = [] → s'.voldata = s.voldata))
      { s with partitioningDiskIds := s.partitioningDiskIds.insert diskId } false := by
    rw [partitionMarked]
    refine wp_seq (purged notesPartition_quiet there) fun ret s₁ w₁ purge => ?_
    obtain ⟨erased, none, rfl⟩ := purge
    -- Until the daemon is asked, only the purge has changed anything.
    have left : s₁.volumeMap = (s.eraseVolumes (s.keysOf diskId)).volumeMap ∧
        s₁.diskPartsSnapshot = s.diskPartsSnapshot ∧
        (s.keysOf diskId = [] → s₁.voldata = s.voldata) := by
      refine ⟨?_, ?_, fun empty => ?_⟩
      · apply StdMap.ext
        intro k
        rw [erased]
        change (ManagerState.eraseVolumes _ _).volumeMap[k]? = _
        rw [ManagerState.get_eraseVolumes, ManagerState.get_eraseVolumes]
        rfl
      · rw [erased]
        exact (ManagerState.eraseVolumes_rest _ _).2.1
      · rw [(none empty).2]
    split
    next failed => exact fun _ => ⟨failed, left⟩
    refine wp_called_bind fun ret w₂ answered => ?_
    split
    next failed => exact fun _ => ⟨failed, left⟩
    next ok =>
      have ok : ret = E_OK := not_not.mp ok
      have done : w₂ = true := by
        rw [show w₂ = _ from answered, ok]
        rfl
      refine wp_mono ?_ (wp_world_kept (· = true) ?_ done)
      · exact fun _ _ _ done fresh => absurd (done.symm.trans fresh) (by decide)
      · intro s w q r w' held answered
        rw [show w' = _ from answered, held, Bool.true_or]
  refine wp_seq marked fun err s₁ done ended => ?_
  refine ⟨trivial, .inr ⟨passed, ?_, ended⟩⟩
  exact fun left => absurd rfl (of_decide_eq_true (List.mem_filter.mp left).2)

/-- A call leaves nothing behind exactly where it is refused or the disk has no volumes. -/
theorem partition_atomic_iff (reachable : Reachable s) (diskId : CppString) :
    (∀ err s' done, Returns notesPartition (partition diskId) s false err s' done →
      LeavesNothing s diskId err s' done) ↔
      Refused s diskId ∨ ∀ (k : CppString) (vol : VolumeExternal), s.volumeMap[k]? = some vol →
        vol.diskId ≠ diskId := by
  have keys : KeyIds s := keyIds_index.mpr reachable.sound.keys
  have spec : wp (.ofEnv notesPartition) (partition diskId) _ s false :=
    partition_failed keys reachable.diskIds
  constructor
  · intro leaves
    by_contra bad
    obtain ⟨passed, some'⟩ := not_or.mp bad
    push Not at some'
    obtain ⟨k, vol, found, of⟩ := some'
    set ended := (partition diskId).exec (fun done q => (partitionFails q, done)) s false
    have fresh : ended.2.2 = false := Prog.exec_world partitionFails (partition diskId) s false
    have returned : Returns notesPartition (partition diskId) s false ended.1 ended.2.1 ended.2.2 :=
      Prog.exec_returns partitionFails_obeys (partition diskId) s false
    rcases wp_returns spec returned with ⟨refused, -⟩ | ⟨-, -, failed⟩
    · exact passed refused
    · obtain ⟨err, volumes, -⟩ := failed fresh
      have same := ((leaves _ _ _ returned).1 err fresh).1
      have gone : (s.eraseVolumes (s.keysOf diskId)).volumeMap[k]? = none := by
        rw [ManagerState.get_eraseVolumes, if_pos (ManagerState.mem_keysOf.mpr ⟨vol, found, of⟩)]
      rw [← volumes, same, found] at gone
      cases gone
  · intro good err s' done returned
    rcases wp_returns spec returned with ⟨refused, rfl⟩ | ⟨passed, free, failed⟩
    · exact ⟨fun _ _ => ⟨rfl, rfl, rfl⟩, fun left => ⟨refused, left⟩⟩
    · have none : s.keysOf diskId = [] := by
        refine List.eq_nil_iff_forall_not_mem.mpr fun k mem => ?_
        obtain ⟨vol, found, of⟩ := ManagerState.mem_keysOf.mp mem
        exact (good.resolve_left passed) k vol found of
      refine ⟨fun _ fresh => ?_, fun left => absurd left free⟩
      obtain ⟨-, volumes, snapshot, voldata⟩ := failed fresh
      rw [none] at volumes
      exact ⟨volumes, voldata none, snapshot⟩

end

/-- A stick with one partition and a file system on it. -/
def stickFs : (q : Req) → q.Resp
  | .readPartitionTable _ => (E_OK, stickDump)
  | .readMetadata _ => ⟨E_OK, "1234-ABCD", "vfat", []⟩
  | q => okAnswer ∅ q

def stickOp (action : UeventAction) : ServiceOp :=
  .uevent (stickEvent action) (stickEvent_fits action)

/-- The state after an operation. -/
def after (op : ServiceOp) (answer : (q : Req) → q.Resp) (s : ManagerState) : ManagerState :=
  letI := tableJson
  (op.prog.exec (fun _ q => (answer q, ())) s ()).2.1

/-- A blank disk is plugged in. -/
def blankPlugged : ManagerState := after (stickOp .add) blankAnswer .boot

/-- The stick is plugged in, and its volume unmounted. -/
def stickUnmounted : ManagerState :=
  after (.unmount "vol-8-1") stickFs (after (stickOp .add) stickFs .boot)

theorem settled_after (op : ServiceOp) (answer : (q : Req) → q.Resp) (s : ManagerState) :
    letI := tableJson
    Settled s → Settled (after op answer s) := by
  let _ := tableJson
  intro settled
  unfold after
  exact settled.exec op answer

theorem blankPlugged_settled : letI := tableJson; Settled blankPlugged := by
  let _ := tableJson
  unfold blankPlugged
  exact settled_after _ _ _ settled_boot

theorem stickUnmounted_settled : letI := tableJson; Settled stickUnmounted := by
  let _ := tableJson
  unfold stickUnmounted
  exact settled_after _ _ _ (settled_after _ _ _ settled_boot)

theorem blankPlugged_empty :
    (blankPlugged.volumeMap.toList.all fun kv => kv.2.diskId ≠ stick.diskId) = true := by
  decide +kernel

/-- The blank disk when the daemon fails to partition it. -/
def blankPartitionFailed : ErrCode × ManagerState × Bool :=
  letI := tableJson
  (partition stick.diskId).exec (fun done q => (partitionFails q, done)) blankPlugged false

/-- Repartitioning the blank disk leaves nothing behind where the daemon fails. -/
theorem partition_atomic_blank :
    LeavesNothing blankPlugged stick.diskId blankPartitionFailed.1 blankPartitionFailed.2.1
      blankPartitionFailed.2.2 := by
  let _ := tableJson
  refine (partition_atomic_iff blankPlugged_settled.reachable stick.diskId).mpr (.inr ?_) _ _ _
    (Prog.exec_returns partitionFails_obeys _ _ _)
  intro k vol found
  have none := List.all_eq_true.mp blankPlugged_empty (k, vol) (StdMap.mem_toList.mpr found)
  exact of_decide_eq_true none

/-- The stick when the daemon fails to partition it. -/
def stickPartitionFailed : ErrCode × ManagerState × Bool :=
  letI := tableJson
  (partition stick.diskId).exec (fun done q => (partitionFails q, done)) stickUnmounted false

theorem stickPartitionFailed_lost :
    stickPartitionFailed.1 ≠ E_OK ∧ stickPartitionFailed.2.2 = false ∧
      stickUnmounted.volumeMap["vol-8-1".toList]?.isSome = true ∧
      stickPartitionFailed.2.1.volumeMap["vol-8-1".toList]?.isSome = false := by
  decide +kernel

/-- The stick loses its volume though the daemon did not partition it. -/
theorem partition_loses_volume :
    letI := tableJson
    Reachable stickUnmounted ∧
      Returns notesPartition (partition stick.diskId) stickUnmounted false stickPartitionFailed.1
        stickPartitionFailed.2.1 stickPartitionFailed.2.2 ∧
      ¬ LeavesNothing stickUnmounted stick.diskId stickPartitionFailed.1 stickPartitionFailed.2.1
        stickPartitionFailed.2.2 := by
  let _ := tableJson
  refine ⟨stickUnmounted_settled.reachable, Prog.exec_returns partitionFails_obeys _ _ _, ?_⟩
  intro nothing
  obtain ⟨err, fresh, there, gone⟩ := stickPartitionFailed_lost
  rw [(nothing.1 err fresh).1, there] at gone
  cases gone

end DiskManager
