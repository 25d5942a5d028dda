import DiskManager.Manager.PublicEvents
import DiskManager.Uevent.Coverage

/-!
# What is told when a disk is pulled out

The events of `HandleDiskRemove`, while the daemon unmounts what it is asked to and removes the
device nodes: those of the volumes one after another, and last the one of the disk.
-/

namespace DiskManager

open Interact

/-- The daemon and the FUSE adapter do what a removal asks of them. -/
def Req.succeeds : (q : Req) → q.Resp → Prop
  | .unmount .., err => err = E_OK
  | .notifyUsbFuseUmount _, err => err = E_OK
  | .createBlockDeviceNode .., err => err = E_OK
  | .destroyBlockDeviceNode _, err => err = E_OK
  | _, _ => True

theorem nodesOk_succeeds : NodesOk (publishing Req.succeeds) where
  create answered := answered.1
  destroy answered := answered.1

/-- The events of one volume: it was ejected safely, or is unmounted now. -/
def VolumeExternal.removalEvents (vol : VolumeExternal) : List PublicEvent :=
  if vol.state = .unmounted then [.volume ⟨.removed, vol.id, []⟩]
  else [.volume ⟨.ejecting, vol.id, []⟩, .volume ⟨.unmounted, vol.id, []⟩,
    .volume ⟨.badRemoval, vol.id, []⟩]

/-- The records of the disk, in the order of the map. -/
def ManagerState.recordsOf (s : ManagerState) (diskId : CppString) : List VolumeExternal :=
  (s.volumeMap.toList.map (·.2)).filter fun vol => vol.diskId = diskId

section

variable {s : ManagerState} {log : List PublicEvent}

/-! ## Unmounting -/

theorem wp_unmountVolumeMountPoints_ok {vol : VolumeExternal} {force : Bool} :
    wp (.ofEnv (publishing Req.succeeds)) (unmountVolumeMountPoints vol force)
      (fun err s' _ => err = E_OK ∧ s' = s) s log := by
  have asked : ∀ {path fsType : CppString} {log' : List PublicEvent},
      wp (.ofEnv (publishing Req.succeeds)) (call (.unmount path fsType force))
        (fun err s' _ => err = E_OK ∧ s' = s) s log' :=
    ⟨trivial, fun _ _ answered => ⟨answered.1, rfl⟩⟩
  have notified : ∀ {log' : List PublicEvent},
      wp (.ofEnv (publishing Req.succeeds)) (call (.notifyUsbFuseUmount vol.id))
        (fun err s' _ => err = E_OK ∧ s' = s) s log' :=
    ⟨trivial, fun _ _ answered => ⟨answered.1, rfl⟩⟩
  rw [unmountVolumeMountPoints]
  dsimp only
  split
  · refine wp_called_bind fun err log' answered => ?_
    obtain rfl : err = E_OK := answered.1
    rw [if_neg (not_not.mpr rfl)]
    split
    · refine wp_called_bind fun err log' answered => ?_
      obtain rfl : err = E_OK := answered.1
      rw [if_neg (not_not.mpr rfl)]
      exact notified
    · exact notified
  split
  · exact asked
  split
  · split
    · exact ⟨rfl, rfl⟩
    · exact asked
  · exact ⟨rfl, rfl⟩

/-- Nobody asks whether a volume is in use that is not on an internal data disk. -/
theorem resolveUnmountForceFlag_external {W β : Type} {env : Env ManagerState W Req Req.Resp}
    {w : W} {post : β → ManagerState → W → Prop} {vol : VolumeExternal} {force : Bool}
    {f : ErrCode × Bool → ManagerProg β} (external : s.index.internal vol.diskId = false)
    (rest : wp (.ofEnv env) (f (E_OK, force)) post s w) :
    wp (.ofEnv env) (resolveUnmountForceFlag vol force >>= f) post s w := by
  rw [resolveUnmountForceFlag, wp_bind]
  apply wp_look_bind
  have external : s.diskMap[vol.diskId]?.any (·.isInternalDataDisk) = false := external
  rw [external]
  exact rest

variable [JsonLib]

/-- The unmount of such a volume. -/
theorem wp_doUnmountVolume_ok {vol : VolumeExternal} {force : Bool}
    (external : s.index.internal vol.diskId = false) (there : s.volumeMap[vol.id]?.isSome) :
    wp (.ofEnv (publishing Req.succeeds)) (doUnmountVolume vol force) (fun err _ _ => err = E_OK)
      s log := by
  rw [doUnmountVolume]
  dsimp only
  refine wp_silent_bind (reads_saveVolumeFreeSize vol)
    (asks_freeSize (fun _ => rfl) (fun _ => rfl) vol) fun copy saved => ?_
  obtain ⟨freeSize, rfl⟩ := saved
  refine wp_notifyVolumeEjecting_told ?_
  refine resolveUnmountForceFlag_external external ?_
  dsimp only
  rw [if_neg fun failed => failed rfl]
  refine wp_seq wp_unmountVolumeMountPoints_ok fun err s' log' ended => ?_
  obtain ⟨rfl, rfl⟩ := ended
  rw [if_neg fun failed => failed rfl]
  refine wp_called_bind fun _ log₂ _ => ?_
  obtain ⟨r, found⟩ := Option.isSome_iff_exists.mp there
  unfold unmountWriteBack
  apply wp_section
  rw [ManagerState.get_updateVolume_self, found]
  dsimp only [Option.map]
  split
  · rfl
  · rfl

/-- `ForceUnmount` of such a volume tells that it is ejected and then unmounted. -/
theorem wp_forceUnmount_removed {v : CppString} {r : VolumeExternal} (ids : KeyIds s)
    (found : s.volumeMap[v]? = some r) (external : s.index.internal r.diskId = false) :
    wp (.ofEnv (publishing Req.succeeds)) (forceUnmount v)
      (fun _ _ log' => log' = log ++ [.volume ⟨.ejecting, v, []⟩, .volume ⟨.unmounted, v, []⟩])
      s log := by
  have id := ids v r found
  subst id
  have there : s.volumeMap[r.id]?.isSome := Option.isSome_iff_exists.mpr ⟨r, found⟩
  rw [forceUnmount, findVolume]
  apply wp_look_bind
  rw [found]
  refine wp_mono ?_ (wp_and (wp_doUnmountVolume_told there) (wp_doUnmountVolume_ok external there))
  rintro err s' log' ⟨⟨events, rfl, told⟩, ok⟩
  cases told with
  | unmounted => rfl
  | failed bad => exact absurd ok bad

/-! ## One volume -/

/-- What is known of the volumes that are still to come. -/
structure StillThere (diskId : CppString) (vols : List VolumeExternal) (s : ManagerState) :
    Prop where
  ids : KeyIds s
  external : s.index.internal diskId = false
  places : ∀ vol ∈ vols, s.index.places vol.id = some vol.place
  onDisk : ∀ vol ∈ vols, vol.diskId = diskId
  loops : ∀ vol ∈ vols, vol.loopPath ≠ [] → cryptVolumeId vol.loopPath = vol.id
  distinct : (vols.map (·.id)).Nodup

omit [JsonLib] in
theorem silent_closeContainer (vol : VolumeExternal) : Asks Req.silent (closeContainer vol) := by
  rw [closeContainer]
  split
  · refine asks_bind ?_ fun _ => trivial
    rw [destroyDmCryptVolume]
    refine asks_call_bind rfl fun result => ?_
    dsimp only
    split
    · trivial
    · exact fun _ => trivial
  · trivial

omit [JsonLib] in
theorem silent_unbindContainer (vol : VolumeExternal) : Asks Req.silent (unbindContainer vol) := by
  rw [unbindContainer]
  split
  · refine asks_bind ?_ fun _ => trivial
    rw [unbindBlockLoopDev]
    refine asks_call_bind rfl fun result => ?_
    dsimp only
    split
    · trivial
    · exact asks_bind (fun _ => trivial) fun _ => trivial
  · trivial

omit [JsonLib] in
theorem wp_silent {α : Type} {p : ManagerProg α} (silent : Asks Req.silent p) :
    wp (.ofEnv (publishing Req.succeeds)) p (fun _ _ log' => log' = log) s log := by
  refine wp_asks_kept (fun log' => log' = log) silent ?_ rfl
  rintro s w q r w' quiet rfl answered
  rw [answered.2, quiet, List.append_nil]

/-- The volume is unmounted unless its copy says that it is. -/
theorem wp_unmountUnlessEjected_told {diskId : CppString} {vol : VolumeExternal}
    {vols : List VolumeExternal} (there : StillThere diskId (vol :: vols) s) :
    wp (.ofEnv (publishing Req.succeeds)) (unmountUnlessEjected vol)
      (fun _ _ log' => log' = log ++ if vol.state = .unmounted then [] else
        [.volume ⟨.ejecting, vol.id, []⟩, .volume ⟨.unmounted, vol.id, []⟩]) s log := by
  rw [unmountUnlessEjected]
  by_cases ejected : vol.state = .unmounted
  · rw [if_neg (not_not.mpr ejected), if_pos ejected]
    exact (List.append_nil log).symm
  · rw [if_pos ejected, if_neg ejected]
    obtain ⟨r, found, same⟩ := Option.map_eq_some_iff.mp (there.places vol List.mem_cons_self)
    have disk : r.diskId = diskId :=
      (congrArg Place.diskId same).trans (there.onDisk vol List.mem_cons_self)
    have external : s.index.internal r.diskId = false := disk ▸ there.external
    exact wp_seq (wp_forceUnmount_removed there.ids found external) fun _ s' log' told => told

omit [JsonLib] in
theorem wp_removeVolumeNode_told (vol : VolumeExternal) :
    wp (.ofEnv (publishing Req.succeeds)) (removeVolumeNode vol)
      (fun _ _ log' => log' = log ++
        [.volume ⟨if vol.state = .unmounted then .removed else .badRemoval, vol.id, []⟩])
      s log := by
  rw [removeVolumeNode]
  refine wp_called_bind fun ret log₁ answered => ?_
  obtain ⟨rfl, rfl⟩ : ret = E_OK ∧ log₁ = log :=
    ⟨answered.1, answered.2.trans (List.append_nil log)⟩
  rw [if_neg fun failed => failed rfl]
  refine wp_called_bind fun _ log₂ published => ?_
  refine wp_bind.mpr ⟨trivial, ?_⟩
  dsimp only [wp]
  rw [published.2]
  split
  · rfl
  · rfl

/-- One round of the loop tells the events of its volume, and leaves the other volumes. -/
theorem wp_destroyVolume_told {diskId : CppString} {vol : VolumeExternal}
    {vols : List VolumeExternal} (there : StillThere diskId (vol :: vols) s) :
    wp (.ofEnv (publishing Req.succeeds)) (destroyVolume vol)
      (fun _ s' log' => log' = log ++ vol.removalEvents ∧ StillThere diskId vols s') s log := by
  have told : wp (.ofEnv (publishing Req.succeeds)) (destroyVolume vol)
      (fun _ _ log' => log' = log ++ vol.removalEvents) s log := by
    rw [destroyVolume]
    refine wp_seq (wp_unmountUnlessEjected_told there) fun _ s₁ log₁ unmounted => ?_
    refine wp_seq (wp_silent (silent_closeContainer vol)) fun _ s₂ log₂ closed => ?_
    refine wp_seq (wp_silent (silent_unbindContainer vol)) fun _ s₃ log₃ unbound => ?_
    subst unbound closed unmounted
    refine wp_mono ?_ (wp_removeVolumeNode_told vol)
    rintro _ s₄ log₄ rfl
    rw [List.append_assoc]
    unfold VolumeExternal.removalEvents
    split
    · rfl
    · rfl
  have erased : wp (.ofEnv (publishing Req.succeeds)) (destroyVolume vol)
      (fun _ s' _ => s'.index = s.index.erase vol.id) s log :=
    index_destroyVolume nodesOk_succeeds there.ids (there.loops vol List.mem_cons_self)
  refine wp_mono ?_ (wp_and told erased)
  rintro _ s' log' ⟨rfl, erased⟩
  have apart := List.nodup_cons.mp there.distinct
  refine ⟨rfl, ?_, ?_, fun vol' mem => ?_, fun vol' mem => ?_, fun vol' mem => ?_, apart.2⟩
  · rw [keyIds_index, erased]
    exact (keyIds_index.mp there.ids).erase _
  · rw [erased]
    exact there.external
  · have ne : vol'.id ≠ vol.id := fun same => apart.1 (List.mem_map.mpr ⟨vol', mem, same⟩)
    rw [erased, Index.erase_places_ne ne]
    exact there.places vol' (List.mem_cons_of_mem vol mem)
  · exact there.onDisk vol' (List.mem_cons_of_mem vol mem)
  · exact there.loops vol' (List.mem_cons_of_mem vol mem)

/-! ## The whole disk -/

omit [JsonLib] in
/-- A record is found under its own id. -/
theorem get_of_mem_records (ids : KeyIds s) {vol : VolumeExternal}
    (mem : vol ∈ s.volumeMap.toList.map (·.2)) : s.volumeMap[vol.id]? = some vol := by
  obtain ⟨⟨k, r⟩, there, rfl⟩ := List.mem_map.mp mem
  have found := StdMap.mem_toList.mp there
  have id : r.id = k := ids k r found
  exact id ▸ found

omit [JsonLib] in
/-- The id of a record is its key, and no key comes twice. -/
theorem nodup_recordIds (ids : KeyIds s) :
    ((s.volumeMap.toList.map (·.2)).map (·.id)).Nodup := by
  have keys : (s.volumeMap.toList.map (·.2)).map (·.id) = s.volumeMap.keys := by
    rw [← Std.ExtTreeMap.map_fst_toList_eq_keys, List.map_map]
    exact List.map_congr_left fun kv mem => ids kv.1 kv.2 (StdMap.mem_toList.mp mem)
  rw [keys]
  exact Std.ExtTreeMap.nodup_keys

/-- `DestroyALLVolume` goes through records only. -/
theorem volumesOfDisk_allVolumes (s : ManagerState) (diskId : CppString) :
    volumesOfDisk diskId s.allVolumes =
      (s.volumeMap.toList.map (·.2)).filter fun vol : VolumeExternal =>
        vol.diskId = diskId && vol.id ≠ "0" := by
  have made : ∀ drives : List Disk, (drives.map syntheticVolume).filter
      (fun vol => decide (vol.diskId = diskId) && decide (vol.id ≠ "0".toList)) = [] := by
    intro drives
    refine List.filter_eq_nil_iff.mpr fun vol mem => ?_
    obtain ⟨disk, -, rfl⟩ := List.mem_map.mp mem
    have zero : (syntheticVolume disk).id = "0" := rfl
    rw [zero, decide_eq_false (not_not.mpr rfl), Bool.and_false]
    exact Bool.false_ne_true
  unfold volumesOfDisk ManagerState.allVolumes
  rw [List.filter_append, made, List.append_nil]

/-- The records of the disk are those `DestroyALLVolume` goes through. -/
theorem volumesOfDisk_eq_recordsOf (sound : s.index.Sound) {diskId : CppString}
    (some' : diskId ≠ []) : volumesOfDisk diskId s.allVolumes = s.recordsOf diskId := by
  rw [volumesOfDisk_allVolumes]
  unfold ManagerState.recordsOf
  refine List.filter_congr fun vol mem => ?_
  obtain ⟨⟨k, r⟩, there, rfl⟩ := List.mem_map.mp mem
  have place : s.index.places k = some r.place :=
    Option.map_eq_some_iff.mpr ⟨r, StdMap.mem_toList.mp there, rfl⟩
  by_cases of : r.diskId = diskId
  · have named : r.id ≠ "0" := (sound.keys k r.place place).trans_ne
      (sound.named place (of.trans_ne some'))
    rw [decide_eq_true of, decide_eq_true named]
    rfl
  · rw [decide_eq_false of]
    rfl

omit [JsonLib] in
theorem stillThere_recordsOf (sound : s.index.Sound) {diskId : CppString}
    (external : s.index.internal diskId = false) : StillThere diskId (s.recordsOf diskId) s := by
  have ids : KeyIds s := keyIds_index.mpr sound.keys
  have record : ∀ vol ∈ s.recordsOf diskId,
      s.volumeMap[vol.id]? = some vol ∧ vol.diskId = diskId := by
    intro vol mem
    obtain ⟨listed, of⟩ := List.mem_filter.mp mem
    exact ⟨get_of_mem_records ids listed, of_decide_eq_true of⟩
  have place : ∀ vol ∈ s.recordsOf diskId, s.index.places vol.id = some vol.place :=
    fun vol mem => Option.map_eq_some_iff.mpr ⟨vol, (record vol mem).1, rfl⟩
  refine ⟨ids, external, place, fun vol mem => (record vol mem).2,
    fun vol mem => sound.loops (place vol mem), ?_⟩
  exact (nodup_recordIds ids).sublist (List.filter_sublist.map _)

theorem wp_destroyALLVolume_told (sound : s.index.Sound) {diskId : CppString}
    (some' : diskId ≠ []) (external : s.index.internal diskId = false) :
    wp (.ofEnv (publishing Req.succeeds)) (destroyALLVolume diskId)
      (fun _ _ log' => log' = log ++ (s.recordsOf diskId).flatMap (·.removalEvents)) s log := by
  rw [destroyALLVolume, getAllVolumes]
  apply wp_look_bind
  rw [volumesOfDisk_eq_recordsOf sound some']
  refine wp_mono ?_ (wp_forM (fun vols s' log' => StillThere diskId vols s' ∧
    log' ++ vols.flatMap (·.removalEvents) =
      log ++ (s.recordsOf diskId).flatMap (·.removalEvents)) ?_ _
    ⟨stillThere_recordsOf sound external, rfl⟩)
  · rintro _ s' log' ⟨-, told⟩
    rw [List.flatMap_nil, List.append_nil] at told
    exact told
  · rintro vol vols s' log' ⟨there, told⟩
    refine wp_mono ?_ (wp_destroyVolume_told there)
    rintro _ s'' log'' ⟨rfl, rest⟩
    rw [List.flatMap_cons, ← List.append_assoc] at told
    exact ⟨rest, told⟩

omit [JsonLib] in
/-- The disk itself is told of last, when it was there. -/
theorem wp_destroyALLDisk_told {diskId : CppString} (ids : s.index.DiskIds) :
    wp (.ofEnv (publishing Req.succeeds)) (destroyALLDisk diskId)
      (fun err _ log' => err = E_OK ∧ log' = log ++
        if s.diskMap[diskId]?.isSome then [.diskRemoved diskId] else []) s log := by
  rw [destroyALLDisk]
  refine wp_called_bind fun ret log₁ answered => ?_
  obtain ⟨rfl, rfl⟩ : ret = E_OK ∧ log₁ = log :=
    ⟨answered.1, answered.2.trans (List.append_nil log)⟩
  rw [if_neg fun failed => failed rfl]
  refine getDiskById_shows (fun answered => answered.2.trans (List.append_nil _))
    fun shown shows => ?_
  refine wp_bind.mpr ⟨trivial, ?_⟩
  dsimp only [wp]
  cases shows with
  | none missing =>
      rw [missing]
      exact ⟨rfl, (List.append_nil log₁).symm⟩
  | @some disk extraInfo found =>
      rw [found]
      refine wp_called_bind fun _ log₂ published => ⟨rfl, ?_⟩
      have id : disk.diskId = diskId := ids diskId disk found
      rw [published.2, ← id]
      rfl

/-! ## The event -/

theorem wp_handleDiskRemove_told (sound : s.index.Sound) (ids : s.index.DiskIds)
    {uevent : UeventEnv} {diskId : CppString} (id : diskId = diskIdFrom uevent.major uevent.minor)
    (external : s.index.internal diskId = false) :
    wp (.ofEnv (publishing Req.succeeds)) (handleDiskRemove uevent)
      (fun err s' log' => (err = E_OK ∧
        log' = log ++ (s.recordsOf diskId).flatMap (·.removalEvents) ++
          if s.diskMap[diskId]?.isSome then [.diskRemoved diskId] else []) ∧
        s'.index = s.index.unplug diskId) s log := by
  have some' : diskId ≠ [] := id ▸ diskIdFrom_ne_nil _ _
  refine wp_and ?_ (index_handleDiskRemove nodesOk_succeeds sound uevent id)
  rw [handleDiskRemove, ← id]
  refine wp_seq (wp_and (wp_destroyALLVolume_told sound some' external)
    (index_destroyALLVolume nodesOk_succeeds sound some')) fun _ s₁ log₁ volumes => ?_
  obtain ⟨rfl, erased⟩ := volumes
  have disks : s₁.diskMap = s.diskMap := congrArg Index.diskMap erased
  have ids₁ : s₁.index.DiskIds := by
    intro diskId disk found
    have found : s₁.diskMap[diskId]? = some disk := found
    rw [disks] at found
    exact ids diskId disk found
  refine wp_seq (wp_destroyALLDisk_told ids₁) fun err s₂ log₂ told => ?_
  obtain ⟨rfl, rfl⟩ := told
  rw [if_neg fun failed => failed rfl, disks]
  exact ⟨trivial, rfl, rfl⟩

/-- Pulling a disk out tells of each of its volumes in turn, and then of the disk; nothing of it is
left in memory. -/
theorem handleDiskRemove_told (reachable : Reachable s) {uevent : UeventEnv} {diskId : CppString}
    (id : diskId = diskIdFrom uevent.major uevent.minor)
    (external : ∀ disk, s.diskMap[diskId]? = some disk → disk.isInternalDataDisk = false)
    {err : ErrCode} {s' : ManagerState} {log : List PublicEvent}
    (removed : Returns (publishing Req.succeeds) (handleDiskRemove uevent) s [] err s' log) :
    err = E_OK ∧
      log = (s.recordsOf diskId).flatMap (·.removalEvents) ++
        (if s.diskMap[diskId]?.isSome then [.diskRemoved diskId] else []) ∧
      (∀ (k : CppString) (vol : VolumeExternal), s'.volumeMap[k]? = some vol →
        vol.diskId ≠ diskId) ∧
      s'.diskMap[diskId]? = none ∧ s'.diskPartsSnapshot[diskId]? = none := by
  have external' : s.index.internal diskId = false := by
    change s.diskMap[diskId]?.any (·.isInternalDataDisk) = false
    cases found : s.diskMap[diskId]? with
    | none => rfl
    | some disk => exact external disk found
  obtain ⟨⟨ok, told⟩, index⟩ := wp_returns
    (wp_handleDiskRemove_told reachable.sound reachable.diskIds id external') removed
  refine ⟨ok, told, fun k vol found of => ?_, ?_, ?_⟩
  · have there : s'.index.places k = some vol.place := Option.map_eq_some_iff.mpr ⟨vol, found, rfl⟩
    rw [index] at there
    exact of_decide_eq_true (Option.filter_eq_some_iff.mp there).2 of
  · have disks : s'.diskMap = s.diskMap.erase diskId := congrArg Index.diskMap index
    rw [disks, StdMap.get_erase_self]
  · have parts : s'.diskPartsSnapshot = s.diskPartsSnapshot.erase diskId :=
      congrArg Index.diskPartsSnapshot index
    rw [parts, StdMap.get_erase_self]

end

/-- The stick is pulled out while its volume is mounted. -/
def stickRemoved : ErrCode × ManagerState × List PublicEvent :=
  letI := tableJson
  (handleDiskRemove (stickEvent .remove).uevent).exec
    (fun log q => (stickFs q, log ++ q.publicEvents)) stickPlugged []

theorem stickFs_succeeds (q : Req) : q.succeeds (stickFs q) := by
  cases q with
  | unmount => rfl
  | notifyUsbFuseUmount => rfl
  | createBlockDeviceNode => rfl
  | destroyBlockDeviceNode => rfl
  | _ => trivial

theorem stickRemoved_returns :
    letI := tableJson
    Returns (publishing Req.succeeds) (handleDiskRemove (stickEvent .remove).uevent) stickPlugged []
      stickRemoved.1 stickRemoved.2.1 stickRemoved.2.2 := by
  let _ := tableJson
  unfold stickRemoved
  exact Prog.exec_returns (fun _ _ q => ⟨stickFs_succeeds q, rfl⟩) _ _ _

theorem stickPlugged_external : stickPlugged.index.internal stick.diskId = false := by
  decide +kernel

theorem handleDiskRemove_told_stick :
    stickRemoved.2.2 = (stickPlugged.recordsOf stick.diskId).flatMap (·.removalEvents) ++
      if stickPlugged.diskMap[stick.diskId]?.isSome then [.diskRemoved stick.diskId] else [] := by
  let _ := tableJson
  have external : ∀ disk, stickPlugged.diskMap[stick.diskId]? = some disk →
      disk.isInternalDataDisk = false := by
    intro disk found
    have none := stickPlugged_external
    unfold Index.internal at none
    have there : stickPlugged.index.diskMap[stick.diskId]? = some disk := found
    rw [there] at none
    exact none
  have id : stick.diskId = diskIdFrom (stickEvent .remove).uevent.major
      (stickEvent .remove).uevent.minor := rfl
  exact (handleDiskRemove_told stickPlugged_settled.reachable id external
    stickRemoved_returns).2.1

end DiskManager
