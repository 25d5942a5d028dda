import DiskManager.Manager.ForcedUnmount
import DiskManager.Uevent.Removal

/-!
# Device nodes that go under a mount

`DestroyALLVolume` and `DestroyVolumeByDiskIdAndPartNum` unmount a volume by force, log it when that
fails, and destroy the device node all the same. A node goes under a live mount whenever the forced
unmount leaves one of the mounts of the volume behind.

* `DestroysUnmounted`: in every state of a call, a node that is destroyed and a record that is
  erased belong to a volume without a mount.
* `Released`: each volume, when its turn comes, is mounted only where the forced unmount takes the
  mount away.
-/

namespace DiskManager

open Interact

/-- The calls that take volumes down. -/
inductive DestroyCall : Type
  | all (diskId : CppString)
  | partition (diskId : CppString) (partNum : Int)

/-- Every mount of each volume, when its turn comes, is one that its forced unmount takes away. -/
def Released (answer : MountTable → (q : Req) → q.Resp) (s : ManagerState) :
    List VolumeExternal → MountTable → Prop
  | [], _ => True
  | vol :: vols, w =>
      (∀ dev path, vol.HasDevice dev → (dev, path) ∈ w → path ∈ s.letsGo answer vol w) ∧
        Released answer s vols (w.without (s.letsGo answer vol w))

section

variable [JsonLib]

def DestroyCall.prog : DestroyCall → ManagerProg Unit
  | .all diskId => destroyALLVolume diskId
  | .partition diskId partNum =>
      ManagerProg.run (destroyVolumeByDiskIdAndPartNum diskId partNum)

/-- The volumes the call takes down. -/
def DestroyCall.volumes (s : ManagerState) : DestroyCall → List VolumeExternal
  | .all diskId => volumesOfDisk diskId s.allVolumes
  | .partition diskId partNum =>
      if s.diskMap[diskId]?.isSome then
        ((s.recordsOf diskId).find? fun vol => vol.partitionNum = partNum).toList
      else []

/-- A node is destroyed, and a record erased, only where no device of the volume is mounted. -/
structure DestroysUnmounted (answer : MountTable → (q : Req) → q.Resp) (dc : DestroyCall)
    (s : ManagerState) (w : MountTable) : Prop where
  node {v dev : CppString} {vol : VolumeExternal} {s' : ManagerState} {w' : MountTable}
    {next : ErrCode → ManagerProg Unit} : s.volumeMap[v]? = some vol → vol.HasDevice dev →
    Reach (daemonEnv (.of answer)) ⟨dc.prog, s, w⟩
      ⟨.call (.destroyBlockDeviceNode (DEV_BLOCK_PREFIX ++ v)) next, s', w'⟩ → ¬ w'.mounted dev
  record {v dev : CppString} {vol : VolumeExternal} {s' : ManagerState} {w' : MountTable}
    {upd : ManagerState → ManagerState} {next : ManagerState → ManagerProg Unit} :
    s.volumeMap[v]? = some vol → vol.HasDevice dev →
    Reach (daemonEnv (.of answer)) ⟨dc.prog, s, w⟩ ⟨.atomic upd next, s', w'⟩ →
    s'.volumeMap[v]?.isSome → (upd s').volumeMap[v]? = none → ¬ w'.mounted dev

end

/-- The devices of the volumes on record. -/
def ManagerState.devices (s : ManagerState) (v dev : CppString) : Prop :=
  ∃ vol, s.volumeMap[v]? = some vol ∧ vol.HasDevice dev

/-- What is known of the volumes that are still to be taken down. -/
structure ToRemove (s₀ : ManagerState) (vols : List VolumeExternal) (s : ManagerState) : Prop where
  disks : s.diskMap = s₀.diskMap
  voldata : s.voldata = s₀.voldata
  listed : ∀ vol ∈ vols, s₀.volumeMap[vol.id]? = some vol
  records : ∀ vol ∈ vols, ∃ mapperPath, s.volumeMap[vol.id]? = some { vol with mapperPath }
  loops : ∀ vol ∈ vols, vol.loopPath ≠ [] → cryptVolumeId vol.loopPath = vol.id
  distinct : (vols.map (·.id)).Nodup

section

variable {answer : MountTable → (q : Req) → q.Resp} {nodes records : CppString → CppString → Prop}
  {s₀ s s' : ManagerState} {w : MountTable} {vol : VolumeExternal} {vols : List VolumeExternal}

theorem ToRemove.tail (there : ToRemove s₀ (vol :: vols) s) : ToRemove s₀ vols s where
  disks := there.disks
  voldata := there.voldata
  listed vol' mem := there.listed vol' (List.mem_cons_of_mem vol mem)
  records vol' mem := there.records vol' (List.mem_cons_of_mem vol mem)
  loops vol' mem := there.loops vol' (List.mem_cons_of_mem vol mem)
  distinct := (List.nodup_cons.mp there.distinct).2

/-- A step that only concerns another volume. -/
theorem ToRemove.beside {v : CppString} (there : ToRemove s₀ vols s) (beside : Beside v s s')
    (apart : v ∉ vols.map (·.id)) : ToRemove s₀ vols s' where
  disks := beside.disks.trans there.disks
  voldata := beside.voldata.trans there.voldata
  listed := there.listed
  records vol mem := by
    have ne : vol.id ≠ v := fun same => apart (List.mem_map.mpr ⟨vol, mem, same⟩)
    rw [beside.others ne]
    exact there.records vol mem
  loops := there.loops
  distinct := there.distinct

theorem isSome_clearMapperPath {k mapperPath : CppString} (held : s.volumeMap[k]?.isSome) :
    (s.clearMapperPath mapperPath).volumeMap[k]?.isSome := by
  unfold ManagerState.clearMapperPath
  split
  · exact held
  · exact isSome_updateVolume held

/-- The mapper of some record is forgotten. -/
theorem ToRemove.clearMapperPath (there : ToRemove s₀ vols s) (mapperPath : CppString) :
    ToRemove s₀ vols (s.clearMapperPath mapperPath) := by
  unfold ManagerState.clearMapperPath
  split
  · exact there
  next kv _ =>
    refine ⟨there.disks, there.voldata, there.listed, fun vol mem => ?_, there.loops, there.distinct⟩
    obtain ⟨mapper, found⟩ := there.records vol mem
    by_cases same : kv.1 = vol.id
    · refine ⟨[], ?_⟩
      rw [same, ManagerState.get_updateVolume_self, found]
      rfl
    · refine ⟨mapper, ?_⟩
      rw [ManagerState.get_updateVolume_ne same]
      exact found

/-- The record of a volume lets go of what it let go of at the start. -/
theorem ToRemove.takes (there : ToRemove s₀ vols s) (vol : VolumeExternal) (mapperPath : CppString)
    (w : MountTable) : s.takes answer { vol with mapperPath } w = s₀.takes answer vol w := by
  unfold ManagerState.takes ManagerState.mayUnmount ManagerState.onDataDisk ManagerState.inUsePath
  rw [there.disks, there.voldata]
  rfl

/-- No mount of the volume is left exactly when each of them is taken away. -/
theorem unmounted_iff {paths : List CppString} :
    (∀ dev, vol.HasDevice dev → ¬ MountTable.mounted (w.without paths) dev) ↔
      ∀ dev path, vol.HasDevice dev → (dev, path) ∈ w → path ∈ paths := by
  constructor
  · intro clean dev path device mem
    by_contra stays
    exact clean dev device ⟨path, MountTable.mem_without.mpr ⟨mem, stays⟩⟩
  · rintro gone dev device ⟨path, mem⟩
    obtain ⟨was, stays⟩ := MountTable.mem_without.mp mem
    exact stays (gone dev path device was)

theorem ToRemove.hasDevice (there : ToRemove s₀ (vol :: vols) s) {dev : CppString}
    (device : s₀.devices vol.id dev) : vol.HasDevice dev := by
  obtain ⟨vol', found, device⟩ := device
  rw [there.listed vol List.mem_cons_self] at found
  cases found
  exact device

theorem daemon_answerable (s : ManagerState) (w : MountTable) (q : Req) :
    ∃ r w', (watching answer nodes records).env s w q r w' := ⟨_, _, rfl, rfl⟩

/-! ## One volume -/

theorem wp_onVolumeDestroyed_watched {v : CppString}
    (clean : ∀ dev, records v dev → ¬ w.mounted dev) :
    wp (watching answer nodes records) (onVolumeDestroyed v)
      (fun _ s' w' => w' = w ∧ Beside v s s') s w := by
  unfold onVolumeDestroyed
  refine ⟨?_, rfl, ?_⟩
  · dsimp only
    split
    · exact guar_of_kept fun _ => id
    · exact guar_of_beside (beside_eraseVolume v s) clean
  · dsimp only
    split
    · exact .refl v s
    · exact beside_eraseVolume v s

theorem wp_closeContainer_watched (there : ToRemove s₀ vols s) :
    wp (watching answer nodes records) (closeContainer vol)
      (fun _ s' w' => w' = w ∧ ToRemove s₀ vols s') s w := by
  rw [closeContainer]
  split
  · rw [destroyDmCryptVolume, wp_bind]
    refine wp_watched_quiet_bind rfl ?_
    dsimp only
    split
    · exact ⟨rfl, there⟩
    · exact ⟨guar_of_kept fun _ => isSome_clearMapperPath, rfl, there.clearMapperPath _⟩
  · exact ⟨rfl, there⟩

theorem wp_unbindContainer_watched
    (loop : vol.loopPath ≠ [] → cryptVolumeId vol.loopPath = vol.id)
    (clean : ∀ dev, records vol.id dev → ¬ w.mounted dev) :
    wp (watching answer nodes records) (unbindContainer vol)
      (fun _ s' w' => w' = w ∧ Beside vol.id s s') s w := by
  rw [unbindContainer]
  split
  next some' =>
    rw [Bool.not_eq_true', List.isEmpty_eq_false_iff] at some'
    rw [unbindBlockLoopDev, loop some', wp_bind]
    refine wp_watched_quiet_bind rfl ?_
    dsimp only
    split
    · exact ⟨rfl, .refl vol.id s⟩
    · exact wp_seq (wp_onVolumeDestroyed_watched clean) fun _ _ _ ended => ended
  · exact ⟨rfl, .refl vol.id s⟩

/-- What follows the unmount: the node, the event, the record. -/
theorem wp_destroyNode_watched {α : Type} {state : VolumeState} {gone kept : α}
    (cleanNode : ∀ dev, nodes vol.id dev → ¬ w.mounted dev)
    (cleanRecord : ∀ dev, records vol.id dev → ¬ w.mounted dev) :
    wp (watching answer nodes records) (do
      let ret ← call (.destroyBlockDeviceNode (DEV_BLOCK_PREFIX ++ vol.id))
      if ret ≠ E_OK then
        return kept
      call (.publishVolumeChange state vol)
      let _ ← onVolumeDestroyed vol.id
      return gone) (fun _ s' w' => w' = w ∧ Beside vol.id s s') s w := by
  refine wp_bind.mpr ⟨?_, ?_⟩
  · rintro v dev device same
    obtain rfl : vol.id = v := List.append_cancel_left (Req.destroyBlockDeviceNode.inj same)
    exact cleanNode dev device
  · rintro ret _ ⟨-, rfl⟩
    rw [wp_done]
    split
    · exact ⟨rfl, .refl vol.id s⟩
    · refine wp_watched_quiet_bind rfl ?_
      exact wp_seq (wp_onVolumeDestroyed_watched cleanRecord) fun _ _ _ ended => ended

section

variable [JsonLib]

/-- The unmount before the node goes. -/
theorem wp_unmountUnlessEjected_watched (there : ToRemove s₀ (vol :: vols) s)
    (clean : ∀ dev, records vol.id dev →
      ¬ MountTable.mounted (w.without (s₀.letsGo answer vol w)) dev) :
    wp (watching answer nodes records) (unmountUnlessEjected vol)
      (fun _ s' w' => w' = w.without (s₀.letsGo answer vol w) ∧ Beside vol.id s s') s w := by
  rw [unmountUnlessEjected]
  unfold ManagerState.letsGo at clean ⊢
  by_cases ejected : vol.state = .unmounted
  · rw [if_neg (not_not.mpr ejected), if_pos ejected, MountTable.without_nil]
    exact ⟨rfl, .refl vol.id s⟩
  · rw [if_pos ejected]
    rw [if_neg ejected] at clean ⊢
    obtain ⟨mapperPath, found⟩ := there.records vol List.mem_cons_self
    rw [← there.takes vol mapperPath] at clean ⊢
    exact wp_seq (wp_forceUnmount_takes found rfl clean) fun _ _ _ ended => ended

/-- One round of `DestroyALLVolume`. -/
theorem wp_destroyVolume_watched (there : ToRemove s₀ (vol :: vols) s)
    (cleanNode : ∀ dev, nodes vol.id dev →
      ¬ MountTable.mounted (w.without (s₀.letsGo answer vol w)) dev)
    (cleanRecord : ∀ dev, records vol.id dev →
      ¬ MountTable.mounted (w.without (s₀.letsGo answer vol w)) dev) :
    wp (watching answer nodes records) (destroyVolume vol)
      (fun _ s' w' => w' = w.without (s₀.letsGo answer vol w) ∧ ToRemove s₀ vols s') s w := by
  have apart := (List.nodup_cons.mp there.distinct).1
  rw [destroyVolume]
  refine wp_seq (wp_unmountUnlessEjected_watched there cleanRecord) ?_
  rintro _ s₁ _ ⟨rfl, beside₁⟩
  refine wp_seq (wp_closeContainer_watched (there.tail.beside beside₁ apart)) ?_
  rintro _ s₂ _ ⟨rfl, there₂⟩
  have loop := there.loops vol List.mem_cons_self
  refine wp_seq (wp_unbindContainer_watched loop cleanRecord) ?_
  rintro _ s₃ _ ⟨rfl, beside₃⟩
  rw [removeVolumeNode]
  refine wp_mono ?_ (wp_destroyNode_watched cleanNode cleanRecord)
  rintro _ s₄ _ ⟨rfl, beside₄⟩
  exact ⟨rfl, (there₂.beside beside₃ apart).beside beside₄ apart⟩

/-- Where the request for a node is right, the volume of the node is not mounted any more. -/
theorem unmounted_of_destroyVolume (there : ToRemove s₀ (vol :: vols) s)
    {post : Unit → ManagerState → MountTable → Prop}
    (pre : wp (watching answer s₀.devices fun _ _ => False) (destroyVolume vol) post s w) :
    ∀ dev, vol.HasDevice dev → ¬ MountTable.mounted (w.without (s₀.letsGo answer vol w)) dev := by
  have nothing : ∀ {w : MountTable} (dev : CppString), False → ¬ w.mounted dev :=
    fun _ none => none.elim
  have apart := (List.nodup_cons.mp there.distinct).1
  have loop := there.loops vol List.mem_cons_self
  rw [destroyVolume] at pre
  obtain ⟨_, s₁, _, ⟨rfl, beside₁⟩, pre⟩ := wp_exists_bind daemon_answerable
    (wp_unmountUnlessEjected_watched there nothing) pre
  obtain ⟨_, s₂, _, ⟨rfl, -⟩, pre⟩ := wp_exists_bind daemon_answerable
    (wp_closeContainer_watched (there.tail.beside beside₁ apart)) pre
  obtain ⟨_, s₃, _, ⟨rfl, -⟩, pre⟩ := wp_exists_bind daemon_answerable
    (wp_unbindContainer_watched loop nothing) pre
  rw [removeVolumeNode] at pre
  intro dev device
  exact (wp_bind.mp pre).1 vol.id dev ⟨vol, there.listed vol List.mem_cons_self, device⟩ rfl

/-! ## All volumes of a disk -/

theorem wp_destroyVolumes (there : ToRemove s₀ vols s) (released : Released answer s₀ vols w) :
    wp (watching answer s₀.devices s₀.devices) (vols.forM destroyVolume) (fun _ _ _ => True)
      s w := by
  induction vols generalizing s w with
  | nil => trivial
  | cons vol vols ih =>
      have clean := fun dev (device : s₀.devices vol.id dev) =>
        unmounted_iff.mpr released.1 dev (there.hasDevice device)
      change wp _ (destroyVolume vol >>= fun _ => vols.forM destroyVolume) _ s w
      refine wp_seq (wp_destroyVolume_watched there clean clean) ?_
      rintro _ s' _ ⟨rfl, there'⟩
      exact ih there' released.2

theorem released_of_destroyVolumes (there : ToRemove s₀ vols s)
    (pre : wp (watching answer s₀.devices fun _ _ => False) (vols.forM destroyVolume)
      (fun _ _ _ => True) s w) : Released answer s₀ vols w := by
  induction vols generalizing s w with
  | nil => trivial
  | cons vol vols ih =>
      change wp _ (destroyVolume vol >>= fun _ => vols.forM destroyVolume) _ s w at pre
      have clean := unmounted_of_destroyVolume there (wp_bind.mp pre)
      obtain ⟨_, s', _, ⟨rfl, there'⟩, rest⟩ := wp_exists_bind daemon_answerable
        (wp_destroyVolume_watched there (fun dev device => clean dev (there.hasDevice device))
          fun _ none => none.elim) pre
      exact ⟨unmounted_iff.mp clean, ih there' rest⟩

/-! ## The volume of a partition -/

omit [JsonLib] in
/-- The disk that is shown has the volumes that name it. -/
theorem wp_getDiskById_watched (diskId : CppString) :
    wp (watching answer nodes records) (getDiskById diskId)
      (fun shown s' w' => s' = s ∧ w' = w ∧ shown.map (·.volumeIds) =
        s.diskMap[diskId]?.map fun disk => (attachVolumeIdsToDisk s.volumeMap disk).volumeIds)
      s w := by
  rw [getDiskById]
  apply wp_watched_read_bind
  cases s.diskMap[diskId]? with
  | none => exact ⟨rfl, rfl, rfl⟩
  | some disk =>
      dsimp only
      split
      · rw [queryAndAppendEncryptionStatusUnlocked, wp_bind]
        split
        · exact ⟨rfl, rfl, rfl⟩
        · refine wp_watched_quiet_bind rfl ?_
          split
          · exact ⟨rfl, rfl, rfl⟩
          · exact ⟨rfl, rfl, rfl⟩
      · exact ⟨rfl, rfl, rfl⟩

omit [JsonLib] in
theorem wp_findVolumeByPartNum_watched (partNum : Int) (volumeIds : List CppString) :
    wp (watching answer nodes records) (findVolumeByPartNum partNum volumeIds)
      (fun found s' w' => s' = s ∧ w' = w ∧ found =
        (volumeIds.filterMap fun v => s.volumeMap[v]?).find? fun vol => vol.partitionNum = partNum)
      s w := by
  induction volumeIds with
  | nil => exact ⟨rfl, rfl, rfl⟩
  | cons item volumeIds ih =>
      rw [findVolumeByPartNum, getVolumeById, findVolume]
      apply wp_watched_read_bind
      cases found : s.volumeMap[item]? with
      | none =>
          rw [List.filterMap_cons_none found]
          exact ih
      | some vol =>
          rw [List.filterMap_cons_some found, List.find?_cons]
          dsimp only
          split
          next same =>
            rw [decide_eq_true same]
            exact ⟨rfl, rfl, rfl⟩
          next other =>
            rw [decide_eq_false other]
            exact ih

omit [JsonLib] in
/-- The volumes a disk is shown with are its records. -/
theorem filterMap_attached (ids : KeyIds s) (disk : Disk) :
    ((attachVolumeIdsToDisk s.volumeMap disk).volumeIds.filterMap fun v => s.volumeMap[v]?) =
      s.recordsOf disk.diskId := by
  unfold attachVolumeIdsToDisk ManagerState.recordsOf
  rw [List.filter_map, List.filterMap_map, ← List.filterMap_eq_map]
  refine List.filterMap_congr fun kv mem => ?_
  have found := StdMap.mem_toList.mp (List.mem_of_mem_filter mem)
  have id : kv.2.id = kv.1 := ids kv.1 kv.2 found
  rw [Function.comp_apply, id]
  exact found

/-- The volume that is found is the one the call takes down. -/
theorem volumes_partition (sound : s.index.Sound) (diskIds : s.index.DiskIds) {diskId : CppString}
    {partNum : Int} {shown : Option Disk} (shows : shown.map (·.volumeIds) =
      s.diskMap[diskId]?.map fun disk => (attachVolumeIdsToDisk s.volumeMap disk).volumeIds) :
    (DestroyCall.partition diskId partNum).volumes s = (shown.bind fun disk =>
      (disk.volumeIds.filterMap fun v => s.volumeMap[v]?).find?
        fun vol => vol.partitionNum = partNum).toList := by
  unfold DestroyCall.volumes
  dsimp only
  cases found : s.diskMap[diskId]? with
  | none =>
      rw [found] at shows
      rw [Option.map_eq_none_iff.mp shows]
      rfl
  | some disk =>
      rw [found] at shows
      obtain ⟨copy, rfl, same⟩ := Option.map_eq_some_iff.mp shows
      have id : disk.diskId = diskId := diskIds diskId disk found
      rw [Option.isSome_some, if_pos rfl, Option.bind_some, same,
        filterMap_attached (keyIds_index.mpr sound.keys), id]

/-- What `DestroyVolumeByDiskIdAndPartNum` does after the unmount. -/
def destroyFoundNode (vol : VolumeExternal) : ManagerProg Bool := do
  let ret ← call (.destroyBlockDeviceNode (DEV_BLOCK_PREFIX ++ vol.id))
  if ret ≠ E_OK then
    return false
  call (.publishVolumeChange (if vol.state = .unmounted then .removed else .badRemoval) vol)
  let _ ← onVolumeDestroyed vol.id
  return true

theorem wp_destroyFoundVolume_iff {C : Contract ManagerState MountTable Req Req.Resp}
    {post : Bool → ManagerState → MountTable → Prop} :
    wp C (destroyFoundVolume vol) post s w ↔
      wp C (unmountUnlessEjected vol >>= fun _ => destroyFoundNode vol) post s w := by
  rw [destroyFoundVolume, unmountUnlessEjected]
  by_cases ejected : vol.state = .unmounted
  · rw [if_neg (not_not.mpr ejected), if_neg (not_not.mpr ejected)]
    exact Iff.rfl
  · rw [if_pos ejected, if_pos ejected, wp_bind, wp_bind, wp_bind]
    exact Iff.rfl

/-- The volume of a partition, from where it was found. -/
theorem wp_destroyFoundVolume (there : ToRemove s₀ [vol] s) (released : Released answer s₀ [vol] w) :
    wp (watching answer s₀.devices s₀.devices) (destroyFoundVolume vol) (fun _ _ _ => True) s w := by
  have clean := fun dev (device : s₀.devices vol.id dev) =>
    unmounted_iff.mpr released.1 dev (there.hasDevice device)
  refine wp_destroyFoundVolume_iff.mpr (wp_seq (wp_unmountUnlessEjected_watched there clean) ?_)
  rintro _ s' _ ⟨rfl, -⟩
  exact wp_mono (fun _ _ _ _ => trivial) (wp_destroyNode_watched clean clean)

theorem released_of_destroyFoundVolume (there : ToRemove s₀ [vol] s)
    (pre : wp (watching answer s₀.devices fun _ _ => False) (destroyFoundVolume vol)
      (fun _ _ _ => True) s w) : Released answer s₀ [vol] w := by
  obtain ⟨_, s', _, ⟨rfl, -⟩, pre⟩ := wp_exists_bind daemon_answerable
    (wp_unmountUnlessEjected_watched there fun _ none => none.elim)
    (wp_destroyFoundVolume_iff.mp pre)
  rw [destroyFoundNode] at pre
  refine ⟨unmounted_iff.mp fun dev device => ?_, trivial⟩
  exact (wp_bind.mp pre).1 vol.id dev ⟨vol, there.listed vol List.mem_cons_self, device⟩ rfl

/-! ## Either call -/

theorem volumes_sublist (dc : DestroyCall) :
    List.Sublist (dc.volumes s) (s.volumeMap.toList.map (·.2)) := by
  cases dc with
  | all diskId =>
      change List.Sublist (volumesOfDisk diskId s.allVolumes) _
      rw [volumesOfDisk_allVolumes]
      exact List.filter_sublist
  | partition diskId partNum =>
      unfold DestroyCall.volumes
      dsimp only
      split
      · cases found : (s.recordsOf diskId).find? fun vol => vol.partitionNum = partNum with
        | none => exact List.nil_sublist _
        | some vol =>
            refine List.singleton_sublist.mpr ?_
            exact List.mem_of_mem_filter (List.mem_of_find?_eq_some found)
      · exact List.nil_sublist _

/-- The volumes of a call are records, each under its own id. -/
theorem toRemove_volumes (sound : s.index.Sound) (dc : DestroyCall) :
    ToRemove s (dc.volumes s) s := by
  have ids : KeyIds s := keyIds_index.mpr sound.keys
  have record : ∀ vol ∈ dc.volumes s, s.volumeMap[vol.id]? = some vol :=
    fun vol mem => get_of_mem_records ids ((volumes_sublist dc).subset mem)
  refine ⟨rfl, rfl, record, fun vol mem => ⟨vol.mapperPath, record vol mem⟩, ?_, ?_⟩
  · exact fun vol mem => sound.loops (Option.map_eq_some_iff.mpr ⟨vol, record vol mem, rfl⟩)
  · exact (nodup_recordIds ids).sublist ((volumes_sublist dc).map _)

theorem wp_destroyCall (sound : s.index.Sound) (diskIds : s.index.DiskIds) {dc : DestroyCall}
    (released : Released answer s (dc.volumes s) w) :
    wp (watching answer s.devices s.devices) dc.prog (fun _ _ _ => True) s w := by
  have there := toRemove_volumes sound dc
  cases dc with
  | all diskId =>
      change wp _ (destroyALLVolume diskId) _ s w
      rw [destroyALLVolume, getAllVolumes]
      apply wp_watched_read_bind
      exact wp_destroyVolumes there released
  | partition diskId partNum =>
      suffices found : wp (watching answer s.devices s.devices)
          (destroyVolumeByDiskIdAndPartNum diskId partNum) (fun _ _ _ => True) s w from
        wp_bind.mpr found
      rw [destroyVolumeByDiskIdAndPartNum]
      refine wp_seq (wp_getDiskById_watched diskId) ?_
      rintro shown s' w' ⟨rfl, rfl, shows⟩
      rw [volumes_partition sound diskIds shows] at there released
      cases shown with
      | none => trivial
      | some disk =>
          refine wp_seq (wp_findVolumeByPartNum_watched partNum disk.volumeIds) ?_
          rintro found s' w' ⟨rfl, rfl, finds⟩
          rw [Option.bind_some, ← finds] at there released
          cases found with
          | none => trivial
          | some vol => exact wp_destroyFoundVolume there released

theorem released_of_destroyCall (sound : s.index.Sound) (diskIds : s.index.DiskIds)
    {dc : DestroyCall} (pre : wp (watching answer s.devices fun _ _ => False) dc.prog
      (fun _ _ _ => True) s w) : Released answer s (dc.volumes s) w := by
  have there := toRemove_volumes sound dc
  cases dc with
  | all diskId =>
      change wp _ (destroyALLVolume diskId) _ s w at pre
      rw [destroyALLVolume, getAllVolumes] at pre
      exact released_of_destroyVolumes there (wp_bind.mp pre).2
  | partition diskId partNum =>
      have pre := wp_bind.mp pre
      rw [destroyVolumeByDiskIdAndPartNum] at pre
      obtain ⟨shown, s', w', ⟨rfl, rfl, shows⟩, pre⟩ := wp_exists_bind daemon_answerable
        (wp_getDiskById_watched diskId) pre
      rw [volumes_partition sound diskIds shows] at there ⊢
      cases shown with
      | none => trivial
      | some disk =>
          obtain ⟨found, s', w', ⟨rfl, rfl, finds⟩, pre⟩ := wp_exists_bind daemon_answerable
            (wp_findVolumeByPartNum_watched partNum disk.volumeIds) pre
          rw [Option.bind_some, ← finds] at there ⊢
          cases found with
          | none => trivial
          | some vol => exact released_of_destroyFoundVolume there pre

theorem destroysUnmounted_of_released (reachable : Reachable s) {dc : DestroyCall}
    (released : Released answer s (dc.volumes s) w) : DestroysUnmounted answer dc s w := by
  have pre := wp_destroyCall reachable.sound reachable.diskIds released
  refine ⟨fun found device issued => ?_, fun found device run => ?_⟩
  · exact wp_issued pre issued _ _ ⟨_, found, device⟩ rfl
  · exact (wp_reach (c := ⟨dc.prog, s, w⟩) pre run).1 _ _ ⟨_, found, device⟩

theorem released_of_destroysUnmounted (reachable : Reachable s) {dc : DestroyCall}
    (held : DestroysUnmounted answer dc s w) : Released answer s (dc.volumes s) w := by
  refine released_of_destroyCall reachable.sound reachable.diskIds ?_
  refine wp_weaken (wp_iff_issued.mpr (fun s' w' q next issued => ?_)) (fun answered => answered)
    (fun ok => ok) fun _ _ _ none => none.elim
  rintro v dev ⟨vol, found, device⟩ rfl
  exact held.node found device issued

/-- In a reachable state a call destroys nodes, and erases records, without a mount exactly where
its forced unmounts take every mount of the volumes away. -/
theorem destroys_unmounted_iff (reachable : Reachable s) (dc : DestroyCall) :
    DestroysUnmounted answer dc s w ↔ Released answer s (dc.volumes s) w :=
  ⟨released_of_destroysUnmounted reachable, destroysUnmounted_of_released reachable⟩

end

end

/-! ## A stick that is pulled out -/

/-- A record that says MOUNTED is mounted. -/
def MountTable.Shows (w : MountTable) (s : ManagerState) : Prop :=
  ∀ (v : CppString) (vol : VolumeExternal), s.volumeMap[v]? = some vol → vol.state = .mounted →
    ∃ dev, vol.HasDevice dev ∧ (dev, vol.path) ∈ w

/-- The volume of the stick is mounted. -/
def stickMounts : MountTable := [("/dev/block/vol-8-1", "/mnt/data/external/1234-ABCD")]

/-- The stick, with a daemon that does not unmount it. -/
def stuckAnswer (_ : MountTable) : (q : Req) → q.Resp
  | .unmount .. => DISK_MGR_ERR
  | q => stickFs q

theorem letsGo_stuck (s : ManagerState) (vol : VolumeExternal) (w : MountTable) :
    s.letsGo stuckAnswer vol w = [] := by
  have none : ∀ force points, takenAway stuckAnswer force points w = [] := by
    intro force points
    cases points with
    | nil => rfl
    | cons point points => rfl
  unfold ManagerState.letsGo ManagerState.takes
  rw [none, ite_self, ite_self]

/-- The volume the call for the stick takes down. -/
theorem stickPlugged_volumes : letI := tableJson
    ∃ vol, (DestroyCall.all "disk-8-0").volumes stickPlugged = [vol] ∧ vol.id = "vol-8-1" := by
  let _ := tableJson
  have ids : ((DestroyCall.all "disk-8-0").volumes stickPlugged).map (·.id) = ["vol-8-1"] := by
    decide +kernel
  exact List.map_eq_singleton_iff.mp ids

theorem destroys_unmounted_stick : letI := tableJson
    DestroysUnmounted (fun _ => stickFs) (.all "disk-8-0") stickPlugged stickMounts := by
  let _ := tableJson
  refine (destroys_unmounted_iff stickPlugged_settled.reachable (.all "disk-8-0")).mpr ?_
  have lets : ((DestroyCall.all "disk-8-0").volumes stickPlugged).all (fun vol =>
      decide (("/mnt/data/external/1234-ABCD" : CppString) ∈
        stickPlugged.letsGo (fun _ => stickFs) vol stickMounts)) = true := by
    decide +kernel
  obtain ⟨vol, volumes, -⟩ := stickPlugged_volumes
  rw [volumes] at lets ⊢
  refine ⟨fun dev path _ mem => ?_, trivial⟩
  obtain ⟨rfl, rfl⟩ := Prod.mk.inj (List.mem_singleton.mp mem)
  exact of_decide_eq_true (List.all_eq_true.mp lets vol List.mem_cons_self)

theorem stickMounts_shows : stickMounts.Shows stickPlugged := by
  have listed : stickPlugged.volumeMap.toList.all fun kv =>
      kv.2.id = "vol-8-1" && kv.2.path = "/mnt/data/external/1234-ABCD" := by decide +kernel
  intro v vol found _
  have shown := List.all_eq_true.mp listed (v, vol) (StdMap.mem_toList.mpr found)
  obtain ⟨id, path⟩ := (Bool.and_eq_true _ _).mp shown
  refine ⟨"/dev/block/vol-8-1", .inl ?_, ?_⟩
  · rw [of_decide_eq_true id]
    rfl
  · rw [of_decide_eq_true path]
    exact List.mem_cons_self

/-- The daemon refuses the unmount, and the node of the mounted volume is destroyed. -/
theorem node_destroyed_under_mount : letI := tableJson
    ¬ ∀ s, Reachable s → ∀ (answer : MountTable → (q : Req) → q.Resp) (dc : DestroyCall)
      (w : MountTable), w.Shows s → DestroysUnmounted answer dc s w := by
  let _ := tableJson
  intro safe
  have held := safe stickPlugged stickPlugged_settled.reachable stuckAnswer (.all "disk-8-0")
    stickMounts stickMounts_shows
  have released := released_of_destroysUnmounted stickPlugged_settled.reachable held
  obtain ⟨vol, volumes, id⟩ := stickPlugged_volumes
  rw [volumes] at released
  have gone := released.1 "/dev/block/vol-8-1" _ (.inl (by rw [id]; rfl)) List.mem_cons_self
  rw [letsGo_stuck] at gone
  cases gone

end DiskManager
