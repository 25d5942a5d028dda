import DiskManager.Manager.Index

/-!
# What is filed where

An invariant of the index that says of each volume how it may stand under its key, of each disk how
it may stand under its id, and of the partition tables that were read what they may be, whatever
operations run side by side. An operation may write back a
copy that it read long before; the copy still stands where the invariant lets it.
-/

namespace DiskManager

open Interact

/-- Volumes stand under their keys as `G` says, disks under their ids as `D` says, and the partition
tables that were read are as `T` says. -/
structure Index.Filed (G : CppString → Place → Prop) (D : CppString → Disk → Prop)
    (T : StdMap PartitionTableInfo → Prop) (i : Index) : Prop where
  volumes : ∀ {k : CppString} {place : Place}, i.places k = some place → G k place
  disks : ∀ {diskId : CppString} {disk : Disk}, i.diskMap[diskId]? = some disk → D diskId disk
  tables : T i.partitionTableMap

/-- The volumes, disks and tables in memory are filed so. -/
def FiledAs (G : CppString → Place → Prop) (D : CppString → Disk → Prop)
    (T : StdMap PartitionTableInfo → Prop) (s : ManagerState) : Prop :=
  s.index.Filed G D T

theorem keyIds_eq_filed :
    KeyIds = FiledAs (fun k place => place.id = k) (fun _ _ => True) fun _ => True := by
  funext s
  refine propext (keyIds_index.trans ⟨fun ids => ?_, fun filed k place found => ?_⟩)
  · exact ⟨fun found => ids _ _ found, fun _ => trivial, trivial⟩
  · exact filed.volumes found

section

variable {G : CppString → Place → Prop} {D : CppString → Disk → Prop}
  {T : StdMap PartitionTableInfo → Prop} {α : Type}

/-! ## Sections -/

theorem FiledAs.volume {s : ManagerState} (filed : FiledAs G D T s) {k : CppString}
    {vol : VolumeExternal} (found : s.volumeMap[k]? = some vol) : G k vol.place :=
  filed.volumes (Option.map_eq_some_iff.mpr ⟨vol, found, rfl⟩)

theorem FiledAs.sameIndex {s s' : ManagerState} (filed : FiledAs G D T s) (same : SameIndex s s') :
    FiledAs G D T s' := by
  unfold FiledAs
  rw [same]
  exact filed

theorem filed_of_sameIndex {p : ManagerProg α} {post : α → Prop} (within : Within SameIndex p post) :
    Keeps (FiledAs G D T) p post :=
  keeps_of_within within fun _ _ same filed => filed.sameIndex same

theorem filed_of_core {p : ManagerProg α} {post : α → Prop} (within : Within CoreKept p post) :
    Keeps (FiledAs G D T) p post :=
  filed_of_sameIndex (sameIndex_of_within within)

/-- A copy is written back. -/
theorem FiledAs.writeBack {s : ManagerState} (filed : FiledAs G D T s) {v : CppString}
    {copy : VolumeExternal} (good : G v copy.place) : FiledAs G D T (s.updateVolume v fun _ => copy) := by
  refine ⟨fun {k place} found => ?_, filed.disks, filed.tables⟩
  obtain ⟨vol, there, rfl⟩ := Option.map_eq_some_iff.mp found
  by_cases same : v = k
  · subst same
    rw [ManagerState.get_updateVolume_self, Option.map_eq_some_iff] at there
    obtain ⟨-, -, rfl⟩ := there
    exact good
  · rw [ManagerState.get_updateVolume_ne same] at there
    exact filed.volume there

theorem FiledAs.eraseVolume {s : ManagerState} (filed : FiledAs G D T s) (v : CppString) :
    FiledAs G D T (s.eraseVolume v) := by
  unfold FiledAs
  rw [index_eraseVolume]
  refine ⟨fun {k place} found => ?_, filed.disks, filed.tables⟩
  by_cases same : k = v
  · subst same
    rw [Index.erase_places_self] at found
    cases found
  · rw [Index.erase_places_ne same] at found
    exact filed.volumes found

theorem FiledAs.insertVolume {s : ManagerState} (filed : FiledAs G D T s) {vol : VolumeExternal}
    (good : G vol.id vol.place) : FiledAs G D T (s.insertVolume vol) := by
  unfold FiledAs
  rw [index_insertVolume]
  refine ⟨fun {k place} found => ?_, filed.disks, filed.tables⟩
  rcases Index.insert_cases found with old | ⟨rfl, rfl⟩
  · exact filed.volumes old
  · exact good

theorem filed_updateVolumeExternal {copy : VolumeExternal} (good : G copy.id copy.place) :
    Keeps (FiledAs G D T) (updateVolumeExternal copy) fun _ => True := by
  have written : Keeps (FiledAs G D T) (updateVolumeIfFound copy.id fun _ => copy) fun _ => True :=
    fun s filed => ⟨filed.writeBack good, trivial⟩
  rw [updateVolumeExternal]
  refine keeps_seq written fun found _ => ?_
  split
  · trivial
  · trivial

theorem filed_onVolumeCreated {vol : VolumeExternal} (good : G vol.id vol.place) :
    Keeps (FiledAs G D T) (onVolumeCreated vol) fun _ => True := by
  rw [onVolumeCreated]
  refine keeps_read_bind fun s _ => ?_
  exact keeps_modify_bind (fun s filed => filed.insertVolume good) trivial

theorem filed_onVolumeDestroyed (v : CppString) :
    Keeps (FiledAs G D T) (onVolumeDestroyed v) fun _ => True := by
  intro s filed
  refine ⟨?_, trivial⟩
  dsimp only
  split
  · exact filed
  · exact filed.eraseVolume v

/-- The volume a lookup finds stands under its own id. -/
theorem FiledAs.lookup {s : ManagerState} (filed : FiledAs G D T s)
    (ids : ∀ k place, G k place → place.id = k) {keep : CppString × VolumeExternal → Bool}
    {vol : VolumeExternal} (found : (s.volumeMap.toList.find? keep).map (·.2) = some vol) :
    G vol.id vol.place := by
  obtain ⟨⟨k, r⟩, there, rfl⟩ := Option.map_eq_some_iff.mp found
  have good := filed.volume (StdMap.mem_toList.mp (List.mem_of_find?_eq_some there))
  have id : r.id = k := ids k r.place good
  rw [id]
  exact good

/-! ## Operations on a copy -/

theorem filed_mountVolumeByPath (ids : ∀ k place, G k place → place.id = k)
    (diskId volPath : CppString) (mountParam : MountParam) :
    Keeps (FiledAs G D T) (mountVolumeByPath diskId volPath mountParam) fun _ => True := by
  rw [mountVolumeByPath]
  refine keeps_seq (filed_of_core (within_getDiskById _)) fun disk _ => ?_
  split
  · trivial
  split
  · trivial
  rw [lookupVolumeByCryptPath]
  refine keeps_read_bind fun s filed => ?_
  split
  · trivial
  next vol found =>
    split
    · trivial
    refine keeps_seq (filed_of_core (within_readPersistUsbReadonlyMountFlagBits _)) fun flag _ => ?_
    dsimp only
    refine keeps_seq (filed_of_core (within_initAndMountVolume _ _ _)) fun result made => ?_
    obtain ⟨res, vol'⟩ := result
    obtain ⟨fsUuid, description, fsType, path, made⟩ := made
    have made : vol' = { vol with fsUuid, description, fsType, path } := made
    subst made
    dsimp only
    split
    · trivial
    have good : G vol.id vol.place := filed.lookup ids found
    refine keeps_seq (filed_updateVolumeExternal good) fun err _ => ?_
    split
    · trivial
    · exact fun _ => trivial

theorem filed_createDmCryptVolume (ids : ∀ k place, G k place → place.id = k) (param : CryptParam)
    (loopPath mapperName : CppString) :
    Keeps (FiledAs G D T) (createDmCryptVolume param loopPath mapperName) fun _ => True := by
  rw [createDmCryptVolume, getVolumeById, findVolume]
  refine keeps_read_bind fun s filed => ?_
  split
  · trivial
  next vol found =>
    split
    · trivial
    refine keeps_request_bind fun result => ?_
    obtain ⟨ret, output⟩ := result
    dsimp only
    split
    · trivial
    have good : G vol.id vol.place := by
      have here := filed.volume found
      have id : vol.id = cryptVolumeId loopPath := ids _ vol.place here
      rw [id]
      exact here
    refine keeps_seq (filed_updateVolumeExternal good) fun err _ => ?_
    split
    · trivial
    · trivial

theorem reads_isVolumeBind (offset sizeLimit : Nat) (volumeIds : List CppString) :
    Within Eq (isVolumeBind offset sizeLimit volumeIds) fun _ => True := by
  induction volumeIds with
  | nil => trivial
  | cons item volumeIds ih =>
      rw [isVolumeBind, getVolumeById, findVolume, within_bind]
      refine fun s => ⟨rfl, ?_⟩
      dsimp only [Within]
      split
      · exact ih
      split
      · trivial
      · exact ih

theorem filed_bindBlockLoopDev
    (crypt : ∀ diskId loopPath, G (cryptVolumeId loopPath) ⟨cryptVolumeId loopPath, diskId, 0, loopPath⟩)
    (diskId : CppString) (offset sizeLimit : Nat) :
    Keeps (FiledAs G D T) (bindBlockLoopDev diskId offset sizeLimit) fun _ => True := by
  rw [bindBlockLoopDev]
  refine keeps_seq (filed_of_core (within_getDiskById _)) fun disk _ => ?_
  split
  · trivial
  split
  · trivial
  refine keeps_seq (reads_isVolumeBind _ _ _).keeps fun bound _ => ?_
  split
  · trivial
  refine keeps_request_bind fun result => ?_
  obtain ⟨ret, output⟩ := result
  dsimp only
  split
  · trivial
  · exact keeps_seq (filed_onVolumeCreated (crypt _ _)) fun _ _ => trivial

theorem filed_unbindBlockLoopDev (loopPath : CppString) :
    Keeps (FiledAs G D T) (unbindBlockLoopDev loopPath) fun _ => True := by
  rw [unbindBlockLoopDev]
  refine keeps_request_bind fun result => ?_
  obtain ⟨ret, output⟩ := result
  dsimp only
  split
  · trivial
  · exact keeps_seq (filed_onVolumeDestroyed _) fun _ _ => trivial

theorem filed_notifyMtpMounted (mtp : ∀ id, G id ⟨id, [], 0, []⟩) (id path desc uuid fsType : CppString) :
    Keeps (FiledAs G D T) (notifyMtpMounted id path desc uuid fsType) fun _ => True := by
  rw [notifyMtpMounted]
  refine keeps_request_bind fun name => ?_
  dsimp only
  exact keeps_modify_bind (fun s filed => filed.insertVolume (mtp id)) fun _ => trivial

theorem filed_notifyMtpUnmounted (id : CppString) (isBadRemove : Bool) :
    Keeps (FiledAs G D T) (notifyMtpUnmounted id isBadRemove) fun _ => True := by
  rw [notifyMtpUnmounted]
  refine keeps_bind.mpr fun s filed => ⟨filed.eraseVolume id, ?_⟩
  dsimp only [Keeps]
  split
  · trivial
  · exact fun _ => trivial

theorem sameIndex_setVolumeDescription (fsUuid description : CppString) :
    Within SameIndex (setVolumeDescription fsUuid description) fun _ => True := by
  rw [setVolumeDescription]
  apply sameIndex_read_bind
  intro s
  split
  · trivial
  split
  · trivial
  dsimp only
  split
  · trivial
  refine within_seq (sameIndex_of_within (within_isDiskSupported _)) fun err _ => ?_
  split
  · trivial
  split
  · trivial
  refine within_seq (sameIndex_of_within (within_checkVolId _)) fun devPath _ => ?_
  split
  · trivial
  apply within_call_bind
  intro err
  split
  · trivial
  refine within_seq (sameIndex_updateVolumeIfFound fun _ => rfl) fun found _ => ?_
  split
  · trivial
  · trivial

section

variable [JsonLib]

theorem filed_mount (ids : ∀ k place, G k place → place.id = k) (v : CppString)
    (mountParam : MountParam) : Keeps (FiledAs G D T) (mount v mountParam) fun _ => True := by
  rw [mount]
  refine keeps_request_bind fun disabled => ?_
  split
  · trivial
  rw [findVolume]
  refine keeps_read_bind fun s filed => ?_
  split
  · trivial
  next vol found =>
    split
    · trivial
    refine keeps_seq (filed_of_core (within_checkVolId _)) fun devPath _ => ?_
    refine keeps_request_bind fun enabled => ?_
    split
    · trivial
    split
    · exact filed_mountVolumeByPath ids _ _ _
    refine keeps_seq (filed_of_sameIndex (sameIndex_mountVolumeEntry vol v _)) fun result same => ?_
    intro s' filed'
    refine ⟨?_, trivial⟩
    dsimp only
    split
    · exact filed'
    split
    · exact filed'
    · refine filed'.writeBack ?_
      have same : result.2.place = vol.place := same
      rw [same]
      exact filed.volume found

theorem filed_fixUnmounted {vol : VolumeExternal} {v : CppString} (good : G v vol.place) :
    Keeps (FiledAs G D T) (fixUnmounted vol v) fun _ => True := by
  rw [fixUnmounted]
  refine keeps_seq (filed_of_core (within_repairAndCheckVolume _ _)) fun result repaired => ?_
  obtain ⟨rcErr, vol'⟩ := result
  obtain ⟨state, repaired⟩ := repaired
  have repaired : vol' = { vol with state } := repaired
  subst repaired
  dsimp only
  split
  · trivial
  refine keeps_seq (filed_of_sameIndex (sameIndex_mountVolumeEntry _ v _)) fun result same => ?_
  have written : Keeps (FiledAs G D T) (updateVolumeIfFound v fun _ => result.2) fun _ => True := by
    refine fun s filed => ⟨filed.writeBack ?_, trivial⟩
    rw [same]
    exact good
  refine keeps_seq written fun found _ => ?_
  split
  · trivial
  · trivial

theorem filed_tryToFix (v : CppString) : Keeps (FiledAs G D T) (tryToFix v) fun _ => True := by
  rw [tryToFix, findVolume]
  refine keeps_read_bind fun s filed => ?_
  split
  · trivial
  next vol found =>
    have good : G v vol.place := filed.volume found
    split
    · dsimp only
      refine keeps_seq (filed_of_core (within_notifyVolumeEjecting _ _ _)) fun vol' copied => ?_
      subst copied
      refine keeps_seq (filed_of_core (within_unmountVolumeMountPoints _ _)) fun umErr _ => ?_
      split
      · exact keeps_modify_bind (fun s filed => filed.sameIndex (index_updateVolume fun _ _ => rfl))
          trivial
      refine keeps_modify_bind (fun s filed => filed.sameIndex (index_updateVolume fun _ _ => rfl)) ?_
      exact filed_fixUnmounted good
    · exact filed_fixUnmounted good

theorem filed_doUnmountVolume (vol : VolumeExternal) (force : Bool) :
    Keeps (FiledAs G D T) (doUnmountVolume vol force) fun _ => True := by
  have failed : ∀ (copy : VolumeExternal) (err : ErrCode), Keeps (FiledAs G D T) (do
      let volExternal ← notifyVolumeEjecting copy.id copy "umountFail"
      restoreVolumeState volExternal.id vol.state
      return err) fun _ => True := by
    intro copy err
    refine keeps_seq (filed_of_core (within_notifyVolumeEjecting _ _ _)) fun copy' _ => ?_
    exact keeps_modify_bind (fun s filed => filed.sameIndex (index_updateVolume fun _ _ => rfl)) trivial
  rw [doUnmountVolume]
  dsimp only
  refine keeps_seq (reads_saveVolumeFreeSize _).keeps fun copy _ => ?_
  refine keeps_seq (filed_of_core (within_notifyVolumeEjecting _ _ _)) fun copy' _ => ?_
  refine keeps_seq (reads_resolveUnmountForceFlag _ _).keeps fun result _ => ?_
  obtain ⟨prepErr, force'⟩ := result
  dsimp only
  split
  · exact failed _ _
  refine keeps_seq (filed_of_core (within_unmountVolumeMountPoints _ _)) fun err _ => ?_
  split
  · exact failed _ _
  refine keeps_request_bind fun _ => ?_
  intro s filed
  refine ⟨?_, trivial⟩
  dsimp only
  split
  · exact filed
  split
  · exact filed.eraseVolume _
  · exact filed.sameIndex (index_updateVolume fun _ _ => rfl)

theorem filed_unmount (v : CppString) : Keeps (FiledAs G D T) (unmount v) fun _ => True := by
  rw [unmount, findVolume]
  refine keeps_read_bind fun s _ => ?_
  split
  · trivial
  split
  · trivial
  · exact filed_doUnmountVolume _ _

theorem filed_forceUnmount (v : CppString) : Keeps (FiledAs G D T) (forceUnmount v) fun _ => True := by
  rw [forceUnmount, findVolume]
  refine keeps_read_bind fun s _ => ?_
  split
  · trivial
  · exact filed_doUnmountVolume _ _

theorem filed_umountVolumeByPath (diskId volPath : CppString) :
    Keeps (FiledAs G D T) (umountVolumeByPath diskId volPath) fun _ => True := by
  rw [umountVolumeByPath]
  refine keeps_seq (filed_of_core (within_getDiskById _)) fun disk _ => ?_
  split
  · trivial
  split
  · trivial
  rw [lookupVolumeByCryptPath]
  refine keeps_read_bind fun s _ => ?_
  split
  · trivial
  split
  · trivial
  · exact filed_doUnmountVolume _ _

theorem filed_destroyVolumeByDiskIdAndPartNum (diskId : CppString) (partNum : Int) :
    Keeps (FiledAs G D T) (destroyVolumeByDiskIdAndPartNum diskId partNum) fun _ => True := by
  have last : ∀ vol : VolumeExternal, Keeps (FiledAs G D T) (do
      let ret ← call (.destroyBlockDeviceNode (DEV_BLOCK_PREFIX ++ vol.id))
      if ret ≠ E_OK then
        return false
      call (.publishVolumeChange (if vol.state = .unmounted then .removed else .badRemoval) vol)
      let _ ← onVolumeDestroyed vol.id
      return true) fun _ => True := by
    intro vol
    refine keeps_request_bind fun ret => ?_
    split
    · trivial
    refine keeps_request_bind fun _ => ?_
    exact keeps_seq (filed_onVolumeDestroyed _) fun _ _ => trivial
  rw [destroyVolumeByDiskIdAndPartNum]
  refine keeps_seq (filed_of_core (within_getDiskById _)) fun disk _ => ?_
  split
  · trivial
  refine keeps_seq (filed_of_core (within_findVolumeByPartNum _ _)) fun found _ => ?_
  split
  · trivial
  next vol =>
    rw [destroyFoundVolume]
    dsimp only
    split
    · exact keeps_seq (filed_forceUnmount _) fun _ _ => last vol
    · exact last vol

theorem sameIndex_formatPartition (diskId : CppString) (partitionNum : Int) (params : FormatParams) :
    Within SameIndex (formatPartition diskId partitionNum params) fun _ => True := by
  have refreshed : ∀ fmtVol : VolumeExternal,
      Within SameIndex (refreshVolumeAfterFormatPartition fmtVol params.fsType diskId)
        fun _ => True := by
    intro fmtVol
    rw [refreshVolumeAfterFormatPartition]
    split
    · trivial
    refine within_seq (sameIndex_of_within (within_checkVolId _)) fun devPath _ => ?_
    split
    · trivial
    · exact within_seq (sameIndex_updateVolumeAfterFormat _ _ _ _ _) fun _ _ => trivial
  rw [formatPartition]
  refine within_seq (sameIndex_of_within (within_getDiskById _)) fun disk _ => ?_
  split
  · trivial
  split
  · trivial
  refine within_seq (sameIndex_of_within (within_isVolumeMounted _ _)) fun mounted _ => ?_
  split
  · trivial
  refine within_seq (sameIndex_of_within (within_findVolumeByPartNum _ _)) fun found _ => ?_
  apply sameIndex_read_bind
  intro s
  split
  · trivial
  dsimp only
  split
  · trivial
  split
  · trivial
  apply within_call_bind
  intro ret
  split
  · split
    · exact within_call_bind fun _ => trivial
    · trivial
  · exact within_seq (refreshed _) fun _ _ => trivial

end

end

end DiskManager
