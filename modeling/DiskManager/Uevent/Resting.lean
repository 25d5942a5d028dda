import DiskManager.Manager.Resting
import DiskManager.Uevent.Coverage

/-!
# The service leaves every volume at rest

Every request and every hot-plug event, run to its end, leaves each volume of the map in one of five
states, MOUNTED exactly when its record has a path, whatever the daemon answers.
-/

namespace DiskManager

open Interact

/-! ## Disks -/

theorem rested_onDiskCreated (disk : Disk) :
    Keeps ManagerState.Rested (onDiskCreated disk) fun _ => True := by
  intro s rested
  refine ⟨?_, trivial⟩
  dsimp only
  split
  · exact rested
  · exact rested.of_maps rfl rfl

theorem rested_onDiskDestroyed (diskId : CppString) :
    Keeps ManagerState.Rested (onDiskDestroyed diskId) fun _ => True := by
  intro s rested
  refine ⟨?_, trivial⟩
  dsimp only
  split
  · exact rested
  · exact rested.of_maps rfl rfl

theorem rested_updateDisk (disk : Disk) :
    Keeps ManagerState.Rested (updateDisk disk) fun _ => True := by
  intro s rested
  refine ⟨?_, trivial⟩
  dsimp only
  split
  · exact rested
  · exact rested.of_maps rfl rfl

theorem rested_upsertDiskAndPublishEvent (uevent : UeventEnv) (diskId : CppString)
    (publishNewDiskEvent : Bool) (tableType : CppString) :
    Keeps ManagerState.Rested
      (upsertDiskAndPublishEvent uevent diskId publishNewDiskEvent tableType) fun _ => True := by
  rw [upsertDiskAndPublishEvent]
  split
  · trivial
  refine keeps_seq (reads_resolveInitialDiskFlag uevent).keeps fun flag _ => ?_
  refine keeps_seq (reads_usbInfoForDisk uevent).keeps fun usbInfo _ => ?_
  refine keeps_seq (reads_loadBlockInfoForDisk _ _).keeps fun loaded _ => ?_
  obtain ⟨known, blockInfo⟩ := loaded
  dsimp only
  refine keeps_request_bind fun _ => ?_
  exact keeps_seq (rested_onDiskCreated _) fun _ _ => trivial

theorem rested_destroyALLDisk (diskId : CppString) :
    Keeps ManagerState.Rested (destroyALLDisk diskId) fun _ => True := by
  rw [destroyALLDisk]
  refine keeps_request_bind fun ret => ?_
  split
  · trivial
  refine keeps_seq (reads_getDiskById diskId).keeps fun shown _ => ?_
  refine keeps_seq (rested_onDiskDestroyed diskId) fun _ _ => ?_
  split
  · exact keeps_request_bind fun _ => trivial
  · trivial

theorem rested_refreshCdromState (diskId : CppString) (state : CdromState) :
    Keeps ManagerState.Rested (refreshCdromState diskId state) fun _ => True := by
  rw [refreshCdromState]
  refine keeps_seq (reads_getDiskById diskId).keeps fun shown _ => ?_
  split
  · trivial
  · exact keeps_seq (rested_updateDisk _) fun _ _ => trivial

theorem rested_clearPartitionSnapshot (diskId : CppString) :
    Keeps ManagerState.Rested (clearPartitionSnapshot diskId) fun _ => True :=
  fun _ rested => ⟨rested.of_maps rfl rfl, trivial⟩

theorem rested_computePartitionDiff (diskId : CppString) (parts : List PartitionRecord) :
    Keeps ManagerState.Rested (computePartitionDiff diskId parts) fun _ => True :=
  fun _ rested => ⟨rested.of_maps rfl rfl, trivial⟩

/-! ## Partition tables -/

theorem reads_findVolumeByPartNum (partNum : Int) (volumeIds : List CppString) :
    Within Eq (findVolumeByPartNum partNum volumeIds) fun _ => True := by
  induction volumeIds with
  | nil => trivial
  | cons item volumeIds ih =>
      rw [findVolumeByPartNum, getVolumeById, findVolume, within_bind]
      refine fun s => ⟨rfl, ?_⟩
      dsimp only [Within]
      split
      · exact ih
      split
      · trivial
      · exact ih

theorem reads_readPartitions (diskId : CppString) (sectorSize : Int) (lines : List CppString) :
    Within Eq (readPartitions diskId sectorSize lines) fun _ => True := by
  induction lines with
  | nil => trivial
  | cons buf lines ih =>
      rw [readPartitions]
      split
      · exact ih
      rw [getFsTypeByDiskIdAndPartNum]
      refine within_bind.mpr (within_seq (reads_getDiskById diskId) fun shown _ => ?_)
      split
      · exact within_seq ih fun _ _ => trivial
      refine within_seq (reads_findVolumeByPartNum _ _) fun found _ => ?_
      split
      · exact within_seq ih fun _ _ => trivial
      · exact within_seq ih fun _ _ => trivial

theorem rested_getPartitionTable (diskId : CppString) :
    Keeps ManagerState.Rested (getPartitionTable diskId) fun _ => True := by
  rw [getPartitionTable]
  refine keeps_seq (reads_hasDisk diskId).keeps fun known _ => ?_
  split
  · trivial
  refine keeps_request_bind fun result => ?_
  obtain ⟨ret, execRet⟩ := result
  dsimp only
  split
  · trivial
  split
  · trivial
  refine keeps_seq (reads_readPartitions _ _ _).keeps fun partitions _ => ?_
  exact keeps_modify_bind (fun s rested => rested.of_maps rfl rfl) trivial

/-! ## Making volumes -/

theorem rested_createAndSetupVolume (diskId : CppString) (pDev : Dev) (isUserData : Bool)
    (partitionNum : Int) :
    Keeps ManagerState.Rested (createAndSetupVolume diskId pDev isUserData partitionNum)
      fun _ => True := by
  rw [createAndSetupVolume]
  refine keeps_request_bind fun err => ?_
  split
  · trivial
  refine keeps_seq (reads_getDiskById diskId).keeps fun shown _ => ?_
  split
  · trivial
  refine keeps_seq (reads_tryLoadBlockInfoForVolume _).keeps fun blockInfo _ => ?_
  refine keeps_seq (rested_onVolumeCreated ?_) fun _ _ => trivial
  exact .of_free rfl rfl (by simp) rfl

theorem rested_readAndUpdateMetadata (volId volDevPath : CppString) :
    Keeps ManagerState.Rested (readAndUpdateMetadata volId volDevPath) fun _ => True := by
  rw [readAndUpdateMetadata]
  refine keeps_request_bind fun metadata => ?_
  split
  · exact keeps_seq (rested_updateVolumeMetadata _ _ _ _) fun _ _ => trivial
  · trivial

theorem rested_evaluateVolumeMetadataAbnormal (volId : CppString) (isUserData : Bool)
    (uuid type : CppString) (metadataErr : ErrCode) :
    Keeps ManagerState.Rested
      (evaluateVolumeMetadataAbnormal volId isUserData uuid type metadataErr) fun _ => True := by
  rw [evaluateVolumeMetadataAbnormal]
  dsimp only
  split
  · trivial
  split
  · trivial
  split
  · exact keeps_seq (rested_markVolumeAbnormal _ _) fun _ _ => trivial
  split
  · exact keeps_seq (rested_markVolumeAbnormal _ _) fun _ _ => trivial
  · trivial

section

variable [JsonLib]

theorem rested_setVolumeDiscState (v : CppString) (discState : CdromState) :
    Keeps ManagerState.Rested (setVolumeDiscState v discState) fun _ => True := by
  rw [setVolumeDiscState]
  refine keeps_seq (rested_updateIfFound (fun _ => rfl) (fun _ => rfl) fun _ => rfl) fun _ _ => ?_
  trivial

theorem restores_mountDiscoveredVolume (volId : CppString) (isUserData : Bool)
    (uuid type : CppString) :
    Restores ManagerState.Rested (mountDiscoveredVolume volId isUserData uuid type)
      fun _ => True := by
  rw [mountDiscoveredVolume]
  split
  · exact restores_pure trivial
  refine restores_seq (restores_mount volId {}) fun err _ => ?_
  split
  · split
    · exact restores_of_keeps (keeps_seq (rested_markVolumeAbnormal _ _) fun _ _ => trivial)
    · exact restores_pure trivial
  · exact restores_pure trivial

theorem restores_discoverSinglePartitionVolume (uevent : UeventEnv) (diskId : CppString)
    (p : PartitionRecord) (isUserData : Bool) :
    Restores ManagerState.Rested (discoverSinglePartitionVolume uevent diskId p isUserData)
      fun _ => True := by
  rw [discoverSinglePartitionVolume]
  refine restores_keeps_seq (reads_resolvePartitionDev uevent diskId p isUserData).keeps
    fun pDev _ => ?_
  rw [discoverPartitionOn, getVolumeById, findVolume]
  refine restores_read_bind fun s _ => ?_
  split
  · exact restores_pure trivial
  refine restores_keeps_seq (rested_createAndSetupVolume _ _ _ _) fun err _ => ?_
  split
  · exact restores_pure trivial
  refine restores_keeps_seq (rested_readAndUpdateMetadata _ _) fun metadata _ => ?_
  refine restores_keeps_seq (reads_isPartitioning diskId).keeps fun partitioning _ => ?_
  split
  · exact restores_seq (restores_format _ _) fun _ _ => restores_pure trivial
  refine restores_keeps_seq (rested_evaluateVolumeMetadataAbnormal _ _ _ _ _) fun abnormal _ => ?_
  split
  · exact restores_pure trivial
  · exact restores_mountDiscoveredVolume _ _ _ _

theorem restores_setupWholeDiskVolume (uevent : UeventEnv) (diskId : CppString)
    (metadata : Option Metadata) :
    Restores ManagerState.Rested (setupWholeDiskVolume uevent diskId metadata) fun _ => True := by
  unfold setupWholeDiskVolume
  refine restores_keeps_seq (rested_createAndSetupVolume _ _ _ _) fun err _ => ?_
  split
  · exact restores_pure trivial
  split
  · exact restores_seq (restores_format _ _) fun _ _ => restores_pure trivial
  refine restores_keeps_seq (rested_updateVolumeMetadata _ _ _ _) fun _ _ => ?_
  refine restores_keeps_seq (rested_evaluateVolumeMetadataAbnormal _ _ _ _ _) fun abnormal _ => ?_
  split
  · exact restores_pure trivial
  · exact restores_mountDiscoveredVolume _ _ _ _

theorem restores_discoverWholeDiskVolume (uevent : UeventEnv) (diskId : CppString)
    (isUserData : Bool) (tableType : CppString) :
    Restores ManagerState.Rested (discoverWholeDiskVolume uevent diskId isUserData tableType)
      fun _ => True := by
  rw [discoverWholeDiskVolume]
  refine restores_keeps_seq (reads_isPartitioning diskId).keeps fun partitioning _ => ?_
  split
  · exact restores_setupWholeDiskVolume _ _ _
  refine restores_request_bind fun metadata => ?_
  split
  · split
    · exact restores_pure trivial
    refine restores_keeps_seq (reads_isInternalDataDiskById diskId).keeps fun internal _ => ?_
    split
    · exact restores_pure trivial
    split
    · exact restores_pure trivial
    · exact restores_of_keeps fun _ => trivial
  · exact restores_setupWholeDiskVolume _ _ _

/-! ## Taking volumes down -/

theorem restores_destroyVolume (vol : VolumeExternal) :
    Restores ManagerState.Rested (destroyVolume vol) fun _ => True := by
  have removed : Keeps ManagerState.Rested (removeVolumeNode vol) fun _ => True := by
    rw [removeVolumeNode]
    refine keeps_request_bind fun ret => ?_
    split
    · trivial
    refine keeps_request_bind fun _ => ?_
    exact keeps_seq (rested_onVolumeDestroyed _) fun _ _ => trivial
  have unmounted : Restores ManagerState.Rested (unmountUnlessEjected vol) fun _ => True := by
    rw [unmountUnlessEjected]
    split
    · exact restores_seq (restores_forceUnmount _) fun _ _ => restores_pure trivial
    · exact restores_pure trivial
  have closed : Keeps ManagerState.Rested (closeContainer vol) fun _ => True := by
    rw [closeContainer]
    split
    · exact keeps_seq (rested_destroyDmCryptVolume _) fun _ _ => trivial
    · trivial
  have unbound : Keeps ManagerState.Rested (unbindContainer vol) fun _ => True := by
    rw [unbindContainer]
    split
    · exact keeps_seq (rested_unbindBlockLoopDev _) fun _ _ => trivial
    · trivial
  rw [destroyVolume]
  refine restores_seq unmounted fun _ _ => restores_keeps_seq closed fun _ _ => ?_
  exact restores_keeps_seq unbound fun _ _ => restores_of_keeps removed

theorem restores_destroyALLVolume (diskId : CppString) :
    Restores ManagerState.Rested (destroyALLVolume diskId) fun _ => True := by
  rw [destroyALLVolume, getAllVolumes]
  refine restores_read_bind fun s _ => ?_
  exact restores_forM _ restores_destroyVolume

theorem restores_destroyVolumeByDiskIdAndPartNum (diskId : CppString) (partNum : Int) :
    Restores ManagerState.Rested (destroyVolumeByDiskIdAndPartNum diskId partNum)
      fun _ => True := by
  have last : ∀ vol : VolumeExternal, Keeps ManagerState.Rested (do
      let ret ← call (.destroyBlockDeviceNode (DEV_BLOCK_PREFIX ++ vol.id))
      if ret ≠ E_OK then
        return false
      call (.publishVolumeChange (if vol.state = .unmounted then .removed else .badRemoval) vol)
      let _ ← onVolumeDestroyed vol.id
      return true) fun _ => True := by
    intro vol
    refine keeps_request_bind fun ret => ?_
    split
    · trivial
    refine keeps_request_bind fun _ => ?_
    exact keeps_seq (rested_onVolumeDestroyed _) fun _ _ => trivial
  rw [destroyVolumeByDiskIdAndPartNum]
  refine restores_keeps_seq (reads_getDiskById diskId).keeps fun disk _ => ?_
  split
  · exact restores_pure trivial
  refine restores_keeps_seq (reads_findVolumeByPartNum _ _).keeps fun found _ => ?_
  split
  · exact restores_pure trivial
  next vol =>
    rw [destroyFoundVolume]
    dsimp only
    split
    · exact restores_seq (restores_forceUnmount _) fun _ _ => restores_of_keeps (last vol)
    · exact restores_of_keeps (last vol)

/-! ## Optical drives -/

theorem rested_discMetadata (diskId volId : CppString) (state : CdromState) :
    Keeps ManagerState.Rested (discMetadata diskId volId state) fun _ => True := by
  rw [discMetadata]
  split
  · rw [emptyDiscMetadata, getVolumeById, findVolume]
    refine keeps_request_bind fun uuid => ?_
    exact keeps_read_bind fun s _ => trivial
  · exact rested_readAndUpdateMetadata _ _

theorem restores_handleAddCD (uevent : UeventEnv) (diskId : CppString) (state : CdromState) :
    Restores ManagerState.Rested (handleAddCD uevent diskId state) fun _ => True := by
  rw [handleAddCD]
  refine restores_keeps_seq (rested_createAndSetupVolume _ _ _ _) fun err _ => ?_
  split
  · exact restores_pure trivial
  refine restores_keeps_seq (rested_discMetadata _ _ _) fun metadata _ => ?_
  refine restores_keeps_seq (rested_updateVolumeMetadata _ _ _ _) fun _ _ => ?_
  refine restores_keeps_seq (rested_setVolumeDiscState _ _) fun _ _ => ?_
  split
  · exact restores_pure trivial
  · exact restores_seq (restores_mount _ _) fun _ _ => restores_pure trivial

theorem restores_ejectAndDestroyCdrom (diskId : CppString) :
    Restores ManagerState.Rested (ejectAndDestroyCdrom diskId) fun _ => True := by
  rw [ejectAndDestroyCdrom]
  refine restores_keeps_seq (reads_eject diskId).keeps fun ret _ => ?_
  split
  · exact restores_pure trivial
  · exact restores_seq (restores_destroyALLVolume diskId) fun _ _ => restores_pure trivial

theorem restores_tryEjectCdrom (diskId : CppString) :
    Restores ManagerState.Rested (tryEjectCdrom diskId) fun _ => True := by
  have ejected : Restores ManagerState.Rested (do
      let _ ← ejectAndDestroyCdrom diskId) fun _ => True :=
    restores_seq (restores_ejectAndDestroyCdrom diskId) fun _ _ => restores_pure trivial
  rw [tryEjectCdrom]
  refine restores_keeps_seq (reads_getDiskById diskId).keeps fun shown _ => ?_
  split
  · exact restores_pure trivial
  split
  · exact ejected
  rw [findMountedVolumePath, getAllVolumes]
  refine restores_bind (restores_read_bind fun s _ => ?_)
  change Restores ManagerState.Rested (if _ then _ else _) _
  split
  · rw [canEjectMountedCdrom]
    refine restores_bind (restores_request_bind fun answer => ?_)
    change Restores ManagerState.Rested (if _ then _ else _) _
    split
    · refine restores_keeps_seq (reads_queryCdromState _).keeps fun state _ => ?_
      exact restores_of_keeps (keeps_seq (rested_refreshCdromState diskId state) fun _ _ => trivial)
    · exact ejected
  · exact ejected

theorem restores_discoverSinglePartitionVolume4CD (uevent : UeventEnv) (diskId : CppString) :
    Restores ManagerState.Rested (discoverSinglePartitionVolume4CD uevent diskId)
      fun _ => True := by
  rw [discoverSinglePartitionVolume4CD]
  split
  · exact restores_seq (restores_tryEjectCdrom _) fun _ _ => restores_pure trivial
  refine restores_keeps_seq (reads_discState _ _).keeps fun state _ => ?_
  split
  · exact restores_seq (restores_destroyALLVolume _) fun _ _ => restores_pure trivial
  refine restores_keeps_seq (rested_refreshCdromState _ _) fun _ _ => ?_
  exact restores_handleAddCD _ _ _

theorem restores_discoverCdromVolumes (uevent : UeventEnv) (diskId : CppString)
    (publishNewDiskEvent : Bool) :
    Restores ManagerState.Rested (discoverCdromVolumes uevent diskId publishNewDiskEvent)
      fun _ => True := by
  have asked : Within Eq (isNewDisk diskId publishNewDiskEvent) fun _ => True := by
    rw [isNewDisk]
    split
    · trivial
    · exact within_seq (reads_hasDisk _) fun _ _ => trivial
  rw [discoverCdromVolumes]
  refine restores_request_bind fun err => ?_
  split
  · exact restores_pure trivial
  refine restores_keeps_seq asked.keeps fun publishNew _ => ?_
  refine restores_keeps_seq (rested_upsertDiskAndPublishEvent _ _ _ _) fun _ _ => ?_
  refine restores_seq (restores_discoverSinglePartitionVolume4CD _ _) fun _ _ => ?_
  exact restores_pure trivial

/-! ## Block disks -/

theorem restores_syncVolumes (uevent : UeventEnv) (diskId : CppString) (publishNewDiskEvent : Bool)
    (parts : List PartitionRecord) (isUserData : Bool) (tableType : CppString) :
    Restores ManagerState.Rested
      (syncVolumes uevent diskId publishNewDiskEvent parts isUserData tableType)
      fun _ => True := by
  rw [syncVolumes]
  refine restores_keeps_seq (rested_computePartitionDiff diskId parts) fun diff _ => ?_
  obtain ⟨addedParts, removedParts⟩ := diff
  dsimp only
  refine restores_seq (restores_forM removedParts fun rp => ?_) fun _ _ => ?_
  · exact restores_seq (restores_destroyVolumeByDiskIdAndPartNum _ _) fun _ _ =>
      restores_pure trivial
  refine restores_seq (restores_forM addedParts fun p => ?_) fun _ _ => ?_
  · exact restores_discoverSinglePartitionVolume _ _ _ _
  split
  · exact restores_discoverWholeDiskVolume _ _ _ _
  · exact restores_pure trivial

theorem restores_discoverPartitionsAndVolumes (uevent : UeventEnv) (publishNewDiskEvent : Bool) :
    Restores ManagerState.Rested (discoverPartitionsAndVolumes uevent publishNewDiskEvent)
      fun _ => True := by
  rw [discoverPartitionsAndVolumes]
  dsimp only
  split
  · exact restores_discoverCdromVolumes _ _ _
  refine restores_keeps_seq (reads_buildAndSyncPartitions _ _ _).keeps fun result _ => ?_
  obtain ⟨err, parts, isUserData, tableType⟩ := result
  dsimp only
  split
  · rw [discoverUnreadableDisk]
    refine restores_of_keeps (keeps_bind.mpr ?_)
    refine keeps_seq (rested_upsertDiskAndPublishEvent _ _ _ _) fun _ _ => ?_
    refine keeps_seq (reads_isInternalDataDiskById _).keeps fun internal _ => ?_
    split
    · trivial
    refine keeps_seq (reads_isPartitioning _).keeps fun partitioning _ => ?_
    split
    · trivial
    · exact fun _ => trivial
  split
  · split
    · refine restores_seq (restores_destroyALLVolume _) fun _ _ => ?_
      exact restores_keeps_seq (rested_clearPartitionSnapshot _) fun _ _ => restores_pure trivial
    · exact restores_pure trivial
  rw [discoverReadDisk]
  refine restores_bind (restores_keeps_seq (rested_upsertDiskAndPublishEvent _ _ _ _) ?_)
  intro _ _
  refine restores_bind (restores_keeps_seq (reads_isPartitioningInternal _).keeps ?_)
  intro partitioning _
  split
  · refine restores_seq (restores_forM parts fun p => ?_) fun _ _ => restores_pure trivial
    exact restores_discoverSinglePartitionVolume _ _ _ _
  · exact restores_seq (restores_syncVolumes _ _ _ _ _ _) fun _ _ => restores_pure trivial

theorem restores_diskEvent (e : DiskEvent) :
    Restores ManagerState.Rested e.prog fun _ => True := by
  unfold DiskEvent.prog
  split
  · rw [handleDiskAdd]
    refine restores_keeps_seq (reads_hasDisk _).keeps fun known _ => ?_
    exact restores_discoverPartitionsAndVolumes _ _
  · rw [handleDiskChange]
    refine restores_keeps_seq (reads_isPartitioningInternal _).keeps fun partitioning _ => ?_
    split
    · exact restores_pure trivial
    refine restores_keeps_seq (reads_hasDisk _).keeps fun known _ => ?_
    exact restores_discoverPartitionsAndVolumes _ _
  · rw [handleDiskRemove]
    refine restores_seq (restores_destroyALLVolume _) fun _ _ => ?_
    refine restores_keeps_seq (rested_destroyALLDisk _) fun ret _ => ?_
    split
    · exact restores_pure trivial
    · exact restores_keeps_seq (rested_clearPartitionSnapshot _) fun _ _ => restores_pure trivial

/-! ## Partition requests -/

theorem restores_deletePartition (diskId : CppString) (partitionNum : Int) :
    Restores ManagerState.Rested (deletePartition diskId partitionNum) fun _ => True := by
  rw [deletePartition]
  refine restores_keeps_seq (reads_getDiskById diskId).keeps fun shown _ => ?_
  split
  · exact restores_pure trivial
  split
  · exact restores_pure trivial
  refine restores_keeps_seq (reads_isDiskNotReady diskId).keeps fun notReady _ => ?_
  split
  · exact restores_pure trivial
  refine restores_read_bind fun s _ => ?_
  split
  · exact restores_pure trivial
  split
  · exact restores_pure trivial
  refine restores_request_bind fun ret => ?_
  split
  · exact restores_pure trivial
  · exact restores_seq (restores_destroyVolumeByDiskIdAndPartNum _ _) fun _ _ =>
      restores_pure trivial

/-- The mappings of file systems that are gone. -/
theorem ends_removeFsUuids {s : ManagerState} (rested : s.Rested) (fsUuids : List CppString)
    (ret : ErrCode) : EndsRested (removeFsUuids fsUuids ret) s := by
  induction fsUuids generalizing s ret with
  | nil => exact ⟨rested, trivial⟩
  | cons fsUuid fsUuids ih =>
      rw [removeFsUuids]
      have removed : wp Contract.free (onStore (removeByFsUuid fsUuid))
          (fun _ s' _ => s'.Rested) s () := by
        refine wp_free_of_daemon (wp_mono ?_
          (wp_onStore_keeps (keepsPaths_removeByFsUuid fsUuid) rested.paths))
        intro _ s' _ ended
        obtain ⟨⟨t, paths, rfl⟩, -⟩ := ended
        exact ⟨rested.volume, paths⟩
      exact wp_seq removed fun _ s' _ rested' => ih rested' _

omit [JsonLib] in
theorem rested_eraseVolumes {s : ManagerState} (rested : s.Rested) (volIds : List CppString) :
    (s.eraseVolumes volIds).Rested := by
  unfold ManagerState.eraseVolumes
  induction volIds generalizing s with
  | nil => exact rested
  | cons v volIds ih => exact ih (rested.eraseVolume v)

theorem restores_partition (diskId : CppString) :
    Restores ManagerState.Rested (partition diskId) fun _ => True := by
  have purged : Restores ManagerState.Rested (purgeVolumesForDisk diskId) fun _ => True := by
    rw [purgeVolumesForDisk]
    refine restores_keeps_seq (reads_hasDisk diskId).keeps fun known _ => ?_
    split
    · exact restores_pure trivial
    refine restores_read_bind fun s _ => ?_
    refine restores_modify_bind (fun s rested => rested_eraseVolumes rested _) ?_
    exact fun s rested => ends_removeFsUuids rested _ _
  have marked : Restores ManagerState.Rested (partitionMarked diskId) fun _ => True := by
    rw [partitionMarked]
    refine restores_seq purged fun ret _ => ?_
    split
    · exact restores_pure trivial
    refine restores_request_bind fun ret => ?_
    split
    · exact restores_pure trivial
    · exact restores_discoverPartitionsAndVolumes _ _
  rw [partition]
  refine restores_keeps_seq (reads_isDiskSupported diskId).keeps fun ret _ => ?_
  split
  · exact restores_pure trivial
  refine restores_keeps_seq (reads_isDiskNotReady diskId).keeps fun notReady _ => ?_
  split
  · exact restores_pure trivial
  refine restores_modify_bind (fun s rested => rested.of_maps rfl rfl) ?_
  refine restores_seq marked fun ret _ => ?_
  exact restores_modify_bind (fun s rested => rested.of_maps rfl rfl) (restores_pure trivial)

/-! ### Formatting a partition -/

section

variable {s : ManagerState} {w : Unit} {β : Type} {post : β → ManagerState → Unit → Prop}

omit [JsonLib] in
/-- When no volume of the partition is mounted, each of them is UNMOUNTED. -/
theorem anyVolumeMounted_bind {partNum : Int} {volIds : List CppString}
    {f : Bool → ManagerProg β} (mounted : wp Contract.free (f true) post s w)
    (free : (∀ item ∈ volIds, ∀ vol, s.volumeMap[item]? = some vol → vol.partitionNum = partNum →
      vol.state = .unmounted) → wp Contract.free (f false) post s w) :
    wp Contract.free (anyVolumeMounted partNum volIds >>= f) post s w := by
  induction volIds with
  | nil => exact free fun item mem => absurd mem List.not_mem_nil
  | cons item volIds ih =>
      rw [anyVolumeMounted, getVolumeById, findVolume, wp_bind]
      refine wp_look_bind ?_
      have later : (∀ vol, s.volumeMap[item]? = some vol → vol.partitionNum = partNum →
          vol.state = .unmounted) →
          wp Contract.free (anyVolumeMounted partNum volIds >>= f) post s w := by
        intro first
        refine ih fun rest => free fun item' mem => ?_
        rcases List.mem_cons.mp mem with rfl | mem
        · exact first
        · exact rest item' mem
      cases found : s.volumeMap[item]? with
      | none =>
          rw [found] at later
          exact wp_bind.mp (later fun vol there => by cases there)
      | some vol =>
          dsimp only
          split
          · exact mounted
          next other =>
            refine wp_bind.mp (later fun vol' there number => ?_)
            rw [found] at there
            cases there
            by_contra ne
            exact other ⟨number, ne⟩

omit [JsonLib] in
theorem wp_findVolumeByPartNum {partNum : Int} {volumeIds : List CppString}
    {post : Option VolumeExternal → ManagerState → Unit → Prop} (none : post none s w)
    (some : ∀ item ∈ volumeIds, ∀ vol, s.volumeMap[item]? = some vol →
      vol.partitionNum = partNum → post (some vol) s w) :
    wp Contract.free (findVolumeByPartNum partNum volumeIds) post s w :=
  wp_bind.mp (findVolumeByPartNum_bind (f := fun found => .done found) (fun _ => none) some)

omit [JsonLib] in
theorem isVolumeMounted_bind {diskId : CppString} {disk : Disk} {partNum : Int}
    {f : Bool → ManagerProg β} (there : s.diskMap[diskId]? = some disk)
    (mounted : wp Contract.free (f true) post s ())
    (free : (∀ item ∈ (attachVolumeIdsToDisk s.volumeMap disk).volumeIds, ∀ vol,
      s.volumeMap[item]? = some vol → vol.partitionNum = partNum → vol.state = .unmounted) →
      wp Contract.free (f false) post s ()) :
    wp Contract.free (isVolumeMounted diskId partNum >>= f) post s () := by
  rw [isVolumeMounted, wp_bind]
  refine getDiskById_bind_some there fun extraInfo w' => ?_
  dsimp only
  split
  · exact mounted
  · exact wp_bind.mp (anyVolumeMounted_bind mounted free)

/-- The volume that is formatted is UNMOUNTED, so it has no path. -/
theorem moves_formatPartition (rested : s.Rested) (diskId : CppString) (partitionNum : Int)
    (params : FormatParams) :
    MovesOne (fun a b => a = .unmounted ∧ b = some .unmounted)
      (formatPartition diskId partitionNum params) s := by
  have same : ∃ v, MovedTo v (fun a b => a = .unmounted ∧ b = some .unmounted) s s :=
    ⟨[], .refl rested⟩
  have refreshed : ∀ fmtVol : VolumeExternal,
      (∀ r, s.volumeMap[fmtVol.id]? = some r → r.state = .unmounted) →
      MovesOne (fun a b => a = .unmounted ∧ b = some .unmounted)
        (refreshVolumeAfterFormatPartition fmtVol params.fsType diskId) s := by
    intro fmtVol unmounted
    rw [refreshVolumeAfterFormatPartition]
    split
    · exact same
    refine wp_reads_bind (reads_checkVolId _) fun devPath _ => ?_
    split
    · exact same
    · refine wp_seq (moves_updateVolumeAfterFormat rested fun r found => ?_) ?_
      · refine (rested.volume found).path_nil ?_
        rw [unmounted r found]
        decide
      · intro _ _ _ moved
        exact ⟨fmtVol.id, moved.mono fun r found b ended => ⟨unmounted r found, ended⟩⟩
  have unfound : MovesOne (fun a b => a = .unmounted ∧ b = some .unmounted)
      (refreshVolumeAfterFormatPartition .empty params.fsType diskId) s := by
    rw [refreshVolumeAfterFormatPartition]
    exact same
  rw [formatPartition]
  cases there : s.diskMap[diskId]? with
  | none => exact getDiskById_bind_none there same
  | some disk =>
      refine getDiskById_bind_some there fun extraInfo _ => ?_
      dsimp only
      split
      · exact same
      refine isVolumeMounted_bind there same fun unmounted => ?_
      have searched : wp Contract.free (findVolumeByPartNum partitionNum
          (attachVolumeIdsToDisk s.volumeMap disk).volumeIds) (fun found s' _ => s' = s ∧
            ∀ vol ∈ found, ∀ r, s.volumeMap[vol.id]? = some r → r.state = .unmounted) s () := by
        refine wp_findVolumeByPartNum ⟨rfl, fun vol mem => by cases mem⟩ ?_
        intro item mem vol found number
        refine ⟨rfl, fun vol' same r here => ?_⟩
        cases same
        rw [(rested.volume found).id, found] at here
        cases here
        exact unmounted item mem vol found number
      refine wp_seq searched ?_
      rintro found _ _ ⟨rfl, free⟩
      refine wp_look_bind ?_
      split
      · exact same
      split
      · exact same
      split
      · exact same
      refine wp_called_bind fun ret _ _ => ?_
      split
      · split
        · exact wp_called_bind fun _ _ _ => same
        · exact same
      cases found with
      | none => exact wp_seq unfound fun _ _ _ ended => ended
      | some vol => exact wp_seq (refreshed vol (free vol rfl)) fun _ _ _ ended => ended

theorem restores_formatPartition (diskId : CppString) (partitionNum : Int) (params : FormatParams) :
    Restores ManagerState.Rested (formatPartition diskId partitionNum params) fun _ => True :=
  fun _ rested => (moves_formatPartition rested diskId partitionNum params).ends rested

end

/-! ## The service -/

/-- An MTP device is reported with a path. `realpath` gives the path that is reported. -/
def ServiceOp.HasPath : ServiceOp → Prop
  | .notifyMtpMounted _ path _ _ _ => path ≠ []
  | _ => True

theorem ServiceOp.restores (op : ServiceOp) (path : op.HasPath) :
    Restores ManagerState.Rested op.prog fun _ => True := by
  have ran : ∀ {α : Type} {p : ManagerProg α}, Restores ManagerState.Rested p (fun _ => True) →
      Restores ManagerState.Rested (ManagerProg.run p) fun _ => True :=
    fun restores => restores_seq restores fun _ _ => restores_pure trivial
  cases op with
  | uevent e => exact ran (restores_diskEvent e)
  | mount => exact ran (restores_mount _ _)
  | unmount => exact ran (restores_unmount _)
  | forceUnmount => exact ran (restores_forceUnmount _)
  | tryToFix => exact ran (restores_tryToFix _)
  | format => exact ran (restores_format _ _)
  | setVolumeDescription => exact ran (restores_of_keeps (rested_setVolumeDescription _ _))
  | partition => exact ran (restores_partition _)
  | getPartitionTable => exact ran (restores_of_keeps (rested_getPartitionTable _))
  | createPartition => exact ran (restores_of_keeps (reads_createPartition _ _).keeps)
  | deletePartition => exact ran (restores_deletePartition _ _)
  | formatPartition => exact ran (restores_formatPartition _ _ _)
  | eject => exact ran (restores_of_keeps (reads_eject _).keeps)
  | notifyMtpMounted => exact ran (restores_of_keeps (rested_notifyMtpMounted path _ _ _ _))
  | notifyMtpUnmounted => exact ran (restores_of_keeps (rested_notifyMtpUnmounted _ _))
  | bindBlockLoopDev => exact ran (restores_of_keeps (rested_bindBlockLoopDev _ _ _))
  | unbindBlockLoopDev => exact ran (restores_of_keeps (rested_unbindBlockLoopDev _))
  | createDmCryptVolume => exact ran (restores_of_keeps (rested_createDmCryptVolume _ _ _))
  | destroyDmCryptVolume => exact ran (restores_of_keeps (rested_destroyDmCryptVolume _))
  | mountVolumeByPath => exact ran (restores_mountVolumeByPath _ _ _)
  | umountVolumeByPath => exact ran (restores_umountVolumeByPath _ _)

/-- Between operations every volume is in one of five states, and it is MOUNTED exactly when its
record has a path: nothing is left half ejected, checked or repaired. -/
theorem volumes_rest_between_operations {ops : List ServiceOp} {s : ManagerState}
    (paths : ∀ op ∈ ops, op.HasPath)
    (run : Runs ServiceOp.prog (fun _ => anyAnswer) .boot () ops s ()) {k : CppString}
    {r : VolumeExternal} (found : s.volumeMap[k]? = some r) :
    r.id = k ∧ (r.state = .unmounted ∨ r.state = .mounted ∨ r.state = .damaged ∨
      r.state = .repairFinishFail ∨ r.state = .formatFinishFail) ∧
      (r.state = .mounted ↔ r.path ≠ []) := by
  have rested : s.Rested :=
    run.restored (fun op mem => op.restores (paths op mem)) rested_boot
  have calm := rested.volume found
  refine ⟨calm.id, ?_, calm.path⟩
  have resting := calm.resting
  revert resting
  cases r.state <;> simp [VolumeState.resting]

end

/-! ## A stick that cannot be repaired -/

def brokenAnswer : (q : Req) → q.Resp
  | .repair _ _ => DISK_MGR_ERR
  | q => stickFs q

def stickRepair : List ServiceOp := [stickOp .add, .tryToFix "vol-8-1"]

/-- The stick is plugged in and mounted, and its repair fails. -/
def stickUnrepaired : ManagerState × Unit :=
  letI := tableJson
  execAll ServiceOp.prog (fun _ q => (brokenAnswer q, ())) stickRepair (.boot, ())

theorem hasPath_stickRepair : ∀ op ∈ stickRepair, op.HasPath := by
  intro op mem
  simp only [stickRepair, List.mem_cons, List.not_mem_nil, or_false] at mem
  rcases mem with rfl | rfl
  · trivial
  · trivial

theorem runs_stickRepair :
    letI := tableJson
    Runs ServiceOp.prog (fun _ => anyAnswer) .boot () stickRepair stickUnrepaired.1 () := by
  let _ := tableJson
  have obeys : ∀ (s : ManagerState) (w : Unit) (q : Req), anyAnswer s w q (brokenAnswer q) () :=
    fun _ _ _ => trivial
  have run : Runs ServiceOp.prog (fun _ => anyAnswer) .boot () stickRepair stickUnrepaired.1
      stickUnrepaired.2 := Runs.execAll (fun _ => obeys) _ _ _
  exact run

theorem volumes_rest_between_operations_stick :
    letI := tableJson
    Runs ServiceOp.prog (fun _ => anyAnswer) .boot () stickRepair stickUnrepaired.1 () ∧
      ∃ r, stickUnrepaired.1.volumeMap["vol-8-1".toList]? = some r ∧
        r.state = .repairFinishFail ∧ r.id = "vol-8-1".toList ∧
        (r.state = .unmounted ∨ r.state = .mounted ∨ r.state = .damaged ∨
          r.state = .repairFinishFail ∨ r.state = .formatFinishFail) ∧
        (r.state = .mounted ↔ r.path ≠ []) := by
  let _ := tableJson
  have state : stickUnrepaired.1.volumeMap["vol-8-1".toList]?.map (·.state) =
      some .repairFinishFail := by decide +kernel
  obtain ⟨r, found, broken⟩ := Option.map_eq_some_iff.mp state
  refine ⟨runs_stickRepair, r, found, broken, ?_⟩
  exact volumes_rest_between_operations hasPath_stickRepair runs_stickRepair found

end DiskManager
