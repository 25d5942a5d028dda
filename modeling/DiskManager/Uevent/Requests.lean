import DiskManager.Interact.Built
import DiskManager.Manager.Requests
import DiskManager.Uevent.Events

/-!
# What an event asks for

The functions of `uevent_bootstrap.cpp` make mild requests, read metadata, and mount or format the
volumes they find.
-/

namespace DiskManager

open Interact

section

variable {P : Req → Prop} {α : Type}

/-! ## Disks -/

theorem asks_upsertDiskAndPublishEvent (config : ∀ devPath, P (.configFlag devPath))
    (usb : ∀ sysPath devName, P (.readUsbInfo sysPath devName))
    (cached : ∀ diskId, P (.tryCopyBlockInfo diskId))
    (read : ∀ devName, P (.readExtDiskInfo devName)) (publish : ∀ disk, P (.publishDiskMounted disk))
    (uevent : UeventEnv) (diskId : CppString) (publishNewDiskEvent : Bool) (tableType : CppString) :
    Asks P (upsertDiskAndPublishEvent uevent diskId publishNewDiskEvent tableType) := by
  have flag : Asks P (resolveInitialDiskFlag uevent) := by
    rw [resolveInitialDiskFlag, matchConfig]
    refine asks_bind (asks_call_bind (config _) fun config => ?_) fun _ => trivial
    split
    · trivial
    split
    · trivial
    split
    · trivial
    split
    · trivial
    · trivial
  have usb : Asks P (usbInfoForDisk uevent) := by
    rw [usbInfoForDisk]
    split
    · exact asks_call (usb _ _)
    · trivial
  have block : Asks P (loadBlockInfoForDisk uevent diskId) := by
    rw [loadBlockInfoForDisk]
    refine asks_call_bind (cached _) fun cached => ?_
    split
    · trivial
    refine asks_call_bind (read _) fun read => ?_
    split
    · trivial
    · trivial
  rw [upsertDiskAndPublishEvent]
  split
  · trivial
  refine asks_bind flag fun flag => ?_
  refine asks_bind usb fun usbInfo => ?_
  refine asks_bind block fun loaded => ?_
  refine asks_call_bind (publish _) fun _ => ?_
  exact asks_bind (fun _ => trivial) fun _ => trivial

variable (mild : ∀ q : Req, q.mild = true → P q)

include mild

theorem asks_isInternalDataDiskById (diskId : CppString) :
    Asks P (isInternalDataDiskById diskId) := by
  rw [isInternalDataDiskById]
  refine asks_bind (asks_getDiskById (fun _ _ => mild _ rfl) _) fun disk => ?_
  split
  · trivial
  · trivial

theorem asks_isPartitioningInternal (diskId : CppString) :
    Asks P (isPartitioningInternal diskId) := by
  rw [isPartitioningInternal, isPartitioning]
  refine asks_read_bind fun s => ?_
  split
  · exact asks_isInternalDataDiskById mild _
  · trivial

theorem asks_upsertDisk (uevent : UeventEnv) (diskId : CppString) (publishNewDiskEvent : Bool)
    (tableType : CppString) :
    Asks P (upsertDiskAndPublishEvent uevent diskId publishNewDiskEvent tableType) :=
  asks_upsertDiskAndPublishEvent (fun _ => mild _ rfl) (fun _ _ => mild _ rfl)
    (fun _ => mild _ rfl) (fun _ => mild _ rfl) (fun _ => mild _ rfl) _ _ _ _

/-! ## Volumes -/

theorem asks_destroyVolume [JsonLib] (vol : VolumeExternal) : Asks P (destroyVolume vol) := by
  rw [destroyVolume]
  refine asks_bind ?_ fun _ => asks_bind ?_ fun _ => asks_bind ?_ fun _ => ?_
  · rw [unmountUnlessEjected]
    split
    · exact asks_bind (asks_forceUnmount mild _) fun _ => trivial
    · trivial
  · rw [closeContainer]
    split
    · exact asks_bind (asks_destroyDmCryptVolume mild _) fun _ => trivial
    · trivial
  · rw [unbindContainer]
    split
    · exact asks_bind (asks_unbindBlockLoopDev mild _) fun _ => trivial
    · trivial
  · rw [removeVolumeNode]
    refine asks_call_bind (mild _ rfl) fun ret => ?_
    split
    · trivial
    · exact asks_call_bind (mild _ rfl) fun _ => asks_bind (fun _ => trivial) fun _ => trivial

theorem asks_destroyALLVolume [JsonLib] (diskId : CppString) : Asks P (destroyALLVolume diskId) := by
  rw [destroyALLVolume, getAllVolumes]
  exact asks_read_bind fun s => asks_forM _ fun vol => asks_destroyVolume mild vol

theorem asks_destroyALLDisk (diskId : CppString) : Asks P (destroyALLDisk diskId) := by
  rw [destroyALLDisk]
  refine asks_call_bind (mild _ rfl) fun ret => ?_
  split
  · trivial
  refine asks_bind (asks_getDiskById (fun _ _ => mild _ rfl) _) fun disk => ?_
  refine asks_bind (fun _ => trivial) fun _ => ?_
  split
  · exact asks_call_bind (mild _ rfl) fun _ => trivial
  · trivial

theorem asks_createAndSetupVolume (diskId : CppString) (pDev : Dev) (isUserData : Bool)
    (partitionNum : Int) : Asks P (createAndSetupVolume diskId pDev isUserData partitionNum) := by
  rw [createAndSetupVolume]
  refine asks_call_bind (mild _ rfl) fun err => ?_
  split
  · trivial
  refine asks_bind (asks_getDiskById (fun _ _ => mild _ rfl) _) fun disk => ?_
  split
  · trivial
  refine asks_bind ?_ fun blockInfo => ?_
  · rw [tryLoadBlockInfoForVolume]
    split
    · exact asks_call (mild _ rfl)
    · exact asks_call (mild _ rfl)
  · exact asks_bind (fun _ _ => trivial) fun _ => trivial

theorem asks_markVolumeAbnormal (volId : CppString) (reason : AbnormalReason) :
    Asks P (markVolumeAbnormal volId reason) := by
  rw [markVolumeAbnormal]
  refine asks_bind (fun _ => trivial) fun found => ?_
  split
  · trivial
  split
  · trivial
  split
  · trivial
  · exact asks_call_bind (mild _ rfl) fun _ => trivial

theorem asks_evaluateVolumeMetadataAbnormal (volId : CppString) (isUserData : Bool)
    (uuid type : CppString) (metadataErr : ErrCode) :
    Asks P (evaluateVolumeMetadataAbnormal volId isUserData uuid type metadataErr) := by
  have marked : ∀ reason, Asks P (do
      let _ ← markVolumeAbnormal volId reason
      return true : ManagerProg Bool) :=
    fun reason => asks_bind (asks_markVolumeAbnormal mild _ _) fun _ => trivial
  rw [evaluateVolumeMetadataAbnormal]
  dsimp only
  split
  · trivial
  split
  · trivial
  split
  · exact marked _
  split
  · exact marked _
  · trivial

theorem asks_resolvePartitionDev (uevent : UeventEnv) (diskId : CppString) (p : PartitionRecord)
    (isUserData : Bool) : Asks P (resolvePartitionDev uevent diskId p isUserData) := by
  have plain : Asks P (do
      if isUserData then
        return userDataDev (← getMaxMinor MAJORID_BLKEXT) p.partitionNumber
      return partitionDev uevent.major uevent.minor p.partitionNumber : ManagerProg Dev) := by
    split
    · rw [getMaxMinor]
      refine asks_bind (asks_call_bind (mild _ rfl) fun nodes => ?_) fun _ => trivial
      split
      · trivial
      · trivial
    · trivial
  have linear : Asks P (createDmLinearForPartition uevent.devName p.partitionNumber) := by
    rw [createDmLinearForPartition]
    refine asks_call_bind (mild _ rfl) fun size => ?_
    dsimp only
    split
    · trivial
    split
    · trivial
    refine asks_call_bind (mild _ rfl) fun made => ?_
    split
    · trivial
    · trivial
  rw [resolvePartitionDev]
  refine asks_bind (asks_isInternalDataDiskById mild _) fun internal => ?_
  split
  · refine asks_bind linear fun dmDev => ?_
    split
    · trivial
    · exact plain
  · exact plain

end

/-! ## What an event ends with -/

/-- The operations an event does to a volume it found. -/
inductive Discovered [JsonLib] : {β : Type} → ManagerProg β → Prop
  | mount (volId : CppString) : Discovered (mount volId {})
  | format (volId : CppString) : Discovered (format volId PARTITION_TARGET_FS_TYPE)

section

variable [JsonLib] {P : Req → Prop} (mild : ∀ q : Req, q.mild = true → P q)
  (reads : ∀ devPath, P (.readMetadata devPath))

include mild reads

omit reads in
theorem built_mountDiscoveredVolume (volId : CppString) (isUserData : Bool)
    (uuid type : CppString) :
    Built P Discovered (mountDiscoveredVolume volId isUserData uuid type) := by
  rw [mountDiscoveredVolume]
  split
  · exact .done _
  refine built_part_bind (.mount _) fun err => ?_
  split
  · split
    · exact built_asks_bind (asks_markVolumeAbnormal mild _ _) fun _ => .done _
    · exact .done _
  · exact .done _

omit [JsonLib] mild in
theorem asks_readAndUpdateMetadata (volId volDevPath : CppString) :
    Asks P (readAndUpdateMetadata volId volDevPath) := by
  rw [readAndUpdateMetadata]
  refine asks_call_bind (reads _) fun metadata => ?_
  split
  · exact asks_bind (fun _ => trivial) fun _ => trivial
  · trivial

theorem built_discoverPartitionOn (pDev : Dev) (diskId : CppString) (p : PartitionRecord)
    (isUserData : Bool) : Built P Discovered (discoverPartitionOn pDev diskId p isUserData) := by
  rw [discoverPartitionOn, getVolumeById, findVolume]
  refine built_read_bind fun s => ?_
  split
  · exact .done _
  refine built_asks_bind (asks_createAndSetupVolume mild _ _ _ _) fun err => ?_
  split
  · exact .done _
  refine built_asks_bind (asks_readAndUpdateMetadata reads _ _) fun metadata => ?_
  rw [isPartitioning]
  refine built_read_bind fun s' => ?_
  split
  · exact built_part_bind (.format _) fun _ => .done _
  refine built_asks_bind (asks_evaluateVolumeMetadataAbnormal mild _ _ _ _ _) fun abnormal => ?_
  split
  · exact .done _
  · exact built_mountDiscoveredVolume mild _ _ _ _

theorem built_discoverSinglePartitionVolume (uevent : UeventEnv) (diskId : CppString)
    (p : PartitionRecord) (isUserData : Bool) :
    Built P Discovered (discoverSinglePartitionVolume uevent diskId p isUserData) := by
  rw [discoverSinglePartitionVolume]
  refine built_asks_bind (asks_resolvePartitionDev mild _ _ _ _) fun pDev => ?_
  exact built_discoverPartitionOn mild reads _ _ _ _

theorem built_discoverWholeDiskVolume (uevent : UeventEnv) (diskId : CppString) (isUserData : Bool)
    (tableType : CppString) :
    Built P Discovered (discoverWholeDiskVolume uevent diskId isUserData tableType) := by
  have setup : ∀ metadata, Built P Discovered (setupWholeDiskVolume uevent diskId metadata) := by
    intro metadata
    unfold setupWholeDiskVolume
    refine built_asks_bind (asks_createAndSetupVolume mild _ _ _ _) fun err => ?_
    split
    · exact .done _
    split
    · exact built_part_bind (.format _) fun _ => .done _
    refine built_bind (.atomic fun _ => .done _) fun _ => ?_
    refine built_asks_bind (asks_evaluateVolumeMetadataAbnormal mild _ _ _ _ _) fun abnormal => ?_
    split
    · exact .done _
    · exact built_mountDiscoveredVolume mild _ _ _ _
  rw [discoverWholeDiskVolume, isPartitioning]
  refine built_read_bind fun s => ?_
  split
  · exact setup _
  refine .call (reads _) fun metadata => ?_
  change Built P Discovered (if _ then _ else _)
  split
  · split
    · exact .done _
    refine built_asks_bind (asks_isInternalDataDiskById mild _) fun internal => ?_
    split
    · exact .done _
    split
    · exact .done _
    · exact .call (mild _ rfl) fun _ => .done _
  · exact setup _

/-! ## Discs -/

theorem built_handleAddCD (uevent : UeventEnv) (diskId : CppString) (state : CdromState) :
    Built P Discovered (handleAddCD uevent diskId state) := by
  have metadata : ∀ volId, Asks P (discMetadata diskId volId state) := by
    intro volId
    rw [discMetadata]
    split
    · rw [emptyDiscMetadata, getVolumeById, findVolume]
      exact asks_call_bind (mild _ rfl) fun uuid => asks_read_bind fun s => trivial
    · exact asks_readAndUpdateMetadata reads _ _
  rw [handleAddCD]
  refine built_asks_bind (asks_createAndSetupVolume mild _ _ _ _) fun err => ?_
  split
  · exact .done _
  refine built_asks_bind (metadata _) fun metadata => ?_
  refine built_bind (.atomic fun _ => .done _) fun _ => ?_
  refine built_bind (.atomic fun _ => .done _) fun _ => ?_
  split
  · exact .done _
  · exact built_part_bind (.mount _) fun _ => .done _

omit [JsonLib] reads in
theorem asks_queryCdromState (devPath : CppString) : Asks P (queryCdromState devPath) := by
  rw [queryCdromState]
  refine asks_call_bind (mild _ rfl) fun result => ?_
  dsimp only
  split
  · trivial
  split
  · trivial
  split
  · trivial
  · trivial

omit [JsonLib] reads in
theorem asks_refreshCdromState (diskId : CppString) (state : CdromState) :
    Asks P (refreshCdromState diskId state) := by
  rw [refreshCdromState]
  refine asks_bind (asks_getDiskById (fun _ _ => mild _ rfl) _) fun disk => ?_
  split
  · trivial
  · exact asks_bind (fun _ => trivial) fun _ => trivial

omit [JsonLib] reads in
theorem asks_eject (diskId : CppString) : Asks P (eject diskId) := by
  rw [eject]
  refine asks_bind (asks_getDiskById (fun _ _ => mild _ rfl) _) fun disk => ?_
  split
  · trivial
  split
  · trivial
  · exact asks_call_bind (mild _ rfl) fun err => trivial

omit reads in
theorem asks_tryEjectCdrom (diskId : CppString) : Asks P (tryEjectCdrom diskId) := by
  have eject : Asks P (do
      let _ ← ejectAndDestroyCdrom diskId
      return : ManagerProg Unit) := by
    rw [ejectAndDestroyCdrom]
    refine asks_bind (asks_bind (asks_eject mild _) fun ret => ?_) fun _ => trivial
    split
    · trivial
    · exact asks_bind (asks_destroyALLVolume mild _) fun _ => trivial
  rw [tryEjectCdrom]
  refine asks_bind (asks_getDiskById (fun _ _ => mild _ rfl) _) fun disk => ?_
  split
  · trivial
  split
  · exact eject
  rw [findMountedVolumePath, getAllVolumes]
  refine asks_bind (asks_read_bind fun s => trivial) fun mountPath => ?_
  dsimp only
  split
  · rw [canEjectMountedCdrom]
    refine asks_bind (asks_call_bind (mild _ rfl) fun result => trivial) fun may => ?_
    split
    · refine asks_bind (asks_queryCdromState mild _) fun state => ?_
      exact asks_bind (asks_refreshCdromState mild _ _) fun _ => trivial
    · exact eject
  · exact eject

theorem built_discoverCdromVolumes (uevent : UeventEnv) (diskId : CppString)
    (publishNewDiskEvent : Bool) :
    Built P Discovered (discoverCdromVolumes uevent diskId publishNewDiskEvent) := by
  have state : Asks P (discState uevent diskId) := by
    rw [discState]
    refine asks_bind (asks_queryCdromState mild _) fun state => ?_
    split
    · exact asks_call_bind (reads _) fun metadata => trivial
    · trivial
  have new : Asks P (isNewDisk diskId publishNewDiskEvent) := by
    rw [isNewDisk, hasDisk]
    split
    · trivial
    · exact asks_read_bind fun s => trivial
  rw [discoverCdromVolumes]
  refine .call (mild _ rfl) fun err => ?_
  change Built P Discovered (if _ then _ else _)
  split
  · exact .done _
  refine built_asks_bind new fun publishNew => ?_
  refine built_asks_bind (asks_upsertDisk mild _ _ _ _) fun _ => ?_
  refine built_bind ?_ fun _ => .done _
  rw [discoverSinglePartitionVolume4CD]
  split
  · exact built_asks_bind (asks_tryEjectCdrom mild _) fun _ => .done _
  refine built_asks_bind state fun state => ?_
  split
  · exact built_asks_bind (asks_destroyALLVolume mild _) fun _ => .done _
  · exact built_asks_bind (asks_refreshCdromState mild _ _) fun _ =>
      built_handleAddCD mild reads _ _ _

/-! ## Events -/

theorem built_syncVolumes (uevent : UeventEnv) (diskId : CppString) (publishNewDiskEvent : Bool)
    (parts : List PartitionRecord) (isUserData : Bool) (tableType : CppString) :
    Built P Discovered
      (syncVolumes uevent diskId publishNewDiskEvent parts isUserData tableType) := by
  have removed : ∀ rp : PartitionRecord, Asks P (do
      let _ ← destroyVolumeByDiskIdAndPartNum diskId (toInt32 rp.partitionNumber)
      return : ManagerProg PUnit) :=
    fun rp => asks_bind (asks_destroyVolumeByDiskIdAndPartNum mild _ _) fun _ => trivial
  rw [syncVolumes, computePartitionDiff]
  refine built_bind (.atomic fun _ => .done _) fun diff => ?_
  refine built_asks_bind (asks_forM _ removed) fun _ => ?_
  refine built_bind ?_ fun _ => ?_
  · exact built_forM _ fun p => built_discoverSinglePartitionVolume mild reads _ _ _ _
  · split
    · exact built_discoverWholeDiskVolume mild reads _ _ _ _
    · exact .done _

omit [JsonLib] reads in
theorem asks_buildAndSyncPartitions (uevent : UeventEnv) (diskId diskDevPath : CppString) :
    Asks P (buildAndSyncPartitions uevent diskId diskDevPath) := by
  rw [buildAndSyncPartitions]
  refine asks_call_bind (mild _ rfl) fun err => ?_
  split
  · trivial
  refine asks_call_bind (mild _ rfl) fun result => ?_
  dsimp only
  split
  · refine asks_call_bind (mild _ rfl) fun size => ?_
    split
    · trivial
    · exact asks_call_bind (mild _ rfl) fun _ => trivial
  split
  · exact asks_call_bind (mild _ rfl) fun _ => trivial
  · trivial

theorem built_discoverPartitionsAndVolumes (uevent : UeventEnv) (publishNewDiskEvent : Bool) :
    Built P Discovered (discoverPartitionsAndVolumes uevent publishNewDiskEvent) := by
  rw [discoverPartitionsAndVolumes]
  dsimp only
  split
  · exact built_discoverCdromVolumes mild reads _ _ _
  refine built_asks_bind (asks_buildAndSyncPartitions mild _ _ _) fun read => ?_
  obtain ⟨err, parts, isUserData, tableType⟩ := read
  dsimp only
  split
  · refine built_asks_bind ?_ fun _ => .done _
    rw [discoverUnreadableDisk]
    refine asks_bind (asks_upsertDisk mild _ _ _ _) fun _ => ?_
    refine asks_bind (asks_isInternalDataDiskById mild _) fun internal => ?_
    split
    · trivial
    rw [isPartitioning]
    refine asks_read_bind fun s => ?_
    split
    · trivial
    · exact asks_call (mild _ rfl)
  split
  · split
    · exact built_asks_bind (asks_destroyALLVolume mild _) fun _ =>
        built_bind (.atomic fun _ => .done _) fun _ => .done _
    · exact .done _
  · refine built_bind ?_ fun _ => .done _
    rw [discoverReadDisk]
    refine built_asks_bind (asks_upsertDisk mild _ _ _ _) fun _ => ?_
    refine built_asks_bind (asks_isPartitioningInternal mild _) fun marked => ?_
    split
    · exact built_forM _ fun p => built_discoverSinglePartitionVolume mild reads _ _ _ _
    · exact built_syncVolumes mild reads _ _ _ _ _ _

omit reads in
theorem built_handleDiskRemove (uevent : UeventEnv) :
    Built P Discovered (handleDiskRemove uevent) := by
  rw [handleDiskRemove]
  refine built_asks_bind (asks_destroyALLVolume mild _) fun _ => ?_
  refine built_asks_bind (asks_destroyALLDisk mild _) fun ret => ?_
  split
  · exact .done _
  · exact built_bind (.atomic fun _ => .done _) fun _ => .done _

theorem built_handleDiskAdd (uevent : UeventEnv) : Built P Discovered (handleDiskAdd uevent) := by
  rw [handleDiskAdd, hasDisk]
  exact built_read_bind fun s => built_discoverPartitionsAndVolumes mild reads _ _

theorem built_handleDiskChange (uevent : UeventEnv) :
    Built P Discovered (handleDiskChange uevent) := by
  rw [handleDiskChange]
  refine built_asks_bind (asks_isPartitioningInternal mild _) fun marked => ?_
  split
  · exact .done _
  · rw [hasDisk]
    exact built_read_bind fun s => built_discoverPartitionsAndVolumes mild reads _ _

theorem built_partition (partitions : ∀ diskPath partitionType,
    P (.partition diskPath partitionType)) (diskId : CppString) :
    Built P Discovered (partition diskId) := by
  have removes : ∀ fsUuids ret, Asks P (removeFsUuids fsUuids ret) := by
    intro fsUuids
    induction fsUuids with
    | nil => exact fun ret => trivial
    | cons fsUuid fsUuids ih =>
        intro ret
        rw [removeFsUuids]
        exact asks_bind (asks_onStore (calm_of_mild mild)) fun _ => ih _
  rw [partition]
  refine built_asks_bind (asks_isDiskSupported (fun _ _ => mild _ rfl) _) fun ret => ?_
  split
  · exact .done _
  refine built_asks_bind (asks_isDiskNotReady (fun _ _ => mild _ rfl) _) fun notReady => ?_
  split
  · exact .done _
  refine built_bind (.atomic fun _ => .done _) fun _ => ?_
  refine built_bind ?_ fun ret => built_bind (.atomic fun _ => .done _) fun _ => .done _
  rw [partitionMarked, purgeVolumesForDisk, hasDisk]
  refine built_bind (built_read_bind fun s => ?_) fun ret => ?_
  · split
    · exact .done _
    refine built_read_bind fun s' => ?_
    exact built_bind (.atomic fun _ => .done _) fun _ => built_of_asks (removes _ _)
  split
  · exact .done _
  refine .call (partitions _ _) fun ret => ?_
  change Built P Discovered (if _ then _ else _)
  split
  · exact .done _
  · exact built_discoverPartitionsAndVolumes mild reads _ _

end

end DiskManager
