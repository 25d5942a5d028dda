import DiskManager.Manager.Repair
import DiskManager.Uevent.Table

/-!
# Volumes of a disk

The helpers of `uevent_bootstrap.cpp`: how disks and volumes are named, how a disk is recorded, how
the volume of a partition is made, read, formatted or mounted, and how the volumes of a disk are
taken down. Reports to the radar are left out.
-/

namespace DiskManager

open Interact

def PARTITION_TARGET_FS_TYPE : CppString := "f2fs"
def K_DISK_BLOCK_DEVICE_NODE_MODE : Nat := 0o660 ||| 0o60000
def K_VOLUME_BLOCK_DEVICE_NODE_MODE : Nat := 0o60000
abbrev DISK_MMC_MAJOR : Nat := 179
abbrev DISK_CD_MAJOR : Nat := 11
abbrev MAJORID_BLKEXT : Nat := 259
abbrev MAX_PARTITION : Nat := 16
abbrev MAX_INTERVAL_PARTITION : Nat := 15
abbrev MAX_SCSI_VOLUMES : Nat := 15
def BYTES_PER_MB : Nat := 1024 * 1024
def MIN_DISK_SIZE_MB : Nat := 4
def SECTOR_SIZE : Nat := 512

/-! ## Names -/

def diskIdFrom (maj min : Nat) : CppString :=
  ("disk-" : CppString) ++ CppString.ofNat maj ++ "-" ++ CppString.ofNat min

/-- `ParseDiskIdToMajMin`. Without a dash past the prefix, `substr` takes what is there. -/
def parseDiskIdToMajMin (diskId : CppString) : Nat × Nat :=
  let lastDash := (CppString.rfind "-" diskId).getD diskId.length
  let majStr := (diskId.drop 5).take (lastDash - 5)
  let minStr := diskId.drop (lastDash + 1)
  (CppString.strtoul 10 majStr % 2 ^ 32, CppString.strtoul 10 minStr % 2 ^ 32)

def volIdFromDev (d : Dev) : CppString :=
  ("vol-" : CppString) ++ CppString.ofNat d.major ++ "-" ++ CppString.ofNat d.minor

def blockPathForId (id : CppString) : CppString := DEV_BLOCK_PREFIX ++ id

/-- `PartitionDev`, in `unsigned int`. -/
def partitionDev (diskMaj diskMin partIndex : Nat) : Dev :=
  if partIndex > MAX_SCSI_VOLUMES then makedev MAJORID_BLKEXT (partIndex - MAX_PARTITION)
  else makedev diskMaj (diskMin + partIndex)

/-! ## Disks -/

def legacyDiskFlagFromDevPath (env : UeventEnv) : DiskType :=
  if env.major = DISK_CD_MAJOR then CD_FLAG
  else if CppString.contains "usb" env.devPath then USB_FLAG
  else SD_FLAG

/-- `MatchConfig`: the flag of the first entry of the disk configuration that matches. -/
def matchConfig (env : UeventEnv) : ManagerProg DiskType := do
  match ← call (.configFlag env.devPath) with
  | none => return 0
  | some flag =>
      if env.major = DISK_MMC_MAJOR then return flag ||| SD_FLAG
      else if env.major = DISK_CD_MAJOR then return flag ||| CD_FLAG
      else return if flag ≠ DVR_USB then flag ||| USB_FLAG else flag

def resolveInitialDiskFlag (env : UeventEnv) : ManagerProg DiskType := do
  let matchedFlag ← matchConfig env
  return if matchedFlag ≠ 0 then matchedFlag else legacyDiskFlagFromDevPath env

def sysPathHas (patterns : List CppString) (sysPath : CppString) : Bool :=
  patterns.any fun pattern => CppString.contains pattern sysPath

def sysPathHasOpticalBlock : CppString → Bool := sysPathHas ["/block/sr"]

def sysPathHasNvme : CppString → Bool := sysPathHas ["/nvme"]

def sysPathHasDirectSata : CppString → Bool := sysPathHas ["/ata/", ".sata/"]

def sysPathHasUsbTopology : CppString → Bool :=
  sysPathHas ["/usb", "usbhost", "/hiusb/", "platform/hiusb", ".ehci", "/ehci", "ehci/", "xhci",
    ".dwc3", "/dwc3/"]

def sysPathHasMmcHost : CppString → Bool := sysPathHas ["mmc_host", "dwmmc", "hi_mci", "dw_mmc"]

/-- `UpdateRemovableFromDiskType`. -/
def Disk.updateRemovableFromDiskType (disk : Disk) : Disk :=
  { disk with removable := !isInternalDataDiskType disk.diskType }

/-- `RefreshClassificationFromSysfs`. -/
def Disk.refreshClassificationFromSysfs (disk : Disk) (sysfsPath : CppString) (rotational : Int) :
    Disk :=
  if disk.diskType = DVR_USB then disk.updateRemovableFromDiskType
  else
    let isUsbBus := if sysfsPath.isEmpty then disk.isUsbBus else sysPathHasUsbTopology sysfsPath
    let classifiedType :=
      if sysfsPath.isEmpty then DISK_TYPE_UNKNOWN
      else if disk.diskType = CD_FLAG || sysPathHasOpticalBlock sysfsPath then CD_FLAG
      else if sysPathHasNvme sysfsPath || (sysPathHasDirectSata sysfsPath && rotational = 0) then
        DATA_DISK_SSD
      else if sysPathHasDirectSata sysfsPath then DATA_DISK_HDD
      else if isUsbBus then USB_FLAG
      else if sysPathHasMmcHost sysfsPath then SD_FLAG
      else DISK_TYPE_UNKNOWN
    let classifiedType :=
      if classifiedType = DISK_TYPE_UNKNOWN then
        if disk.diskType = SD_FLAG ∨ disk.diskType = USB_FLAG ∨ disk.diskType = CD_FLAG then
          disk.diskType
        else DISK_TYPE_UNKNOWN
      else classifiedType
    { disk with isUsbBus, diskType := classifiedType }.updateRemovableFromDiskType

/-- The block information of a new disk: from the cache, else from the daemon. The flag says
whether it is the disk's own; without it, `blockInfo` is the empty record. -/
def loadBlockInfoForDisk (env : UeventEnv) (diskId : CppString) :
    ManagerProg (Bool × BlockInfo) := do
  match ← call (.tryCopyBlockInfo diskId) with
  | some blockInfo => return (true, blockInfo)
  | none =>
      match ← call (.readExtDiskInfo env.devName) with
      | some blockInfo => return (true, blockInfo)
      | none => return (false, { sizeBytes := 0, vendor := [], rotational := 0, extraInfo := [] })

/-- The disk `UpsertDiskAndPublishEvent` records. -/
def newDisk (env : UeventEnv) (diskId tableType : CppString) (flag : DiskType) (usbInfo : UsbInfo)
    (known : Bool) (blockInfo : BlockInfo) : Disk :=
  let disk := Disk.create diskId (if known then blockInfo.sizeBytes else 0) env.devName flag
  { disk with
    extraInfo := if known then blockInfo.extraInfo else []
    vendor := blockInfo.vendor
    partitionType := tableType
    vendorId := usbInfo.vendorId
    productId := usbInfo.productId
    serialNumber := usbInfo.serialNumber
    busnum := usbInfo.busnum
    devAddress := usbInfo.devnum }.refreshClassificationFromSysfs env.sysPath blockInfo.rotational

/-- The USB attributes of the disk; only where the device path is one of a USB device. -/
def usbInfoForDisk (env : UeventEnv) : ManagerProg UsbInfo :=
  if CppString.contains "usb" env.devPath then call (.readUsbInfo env.sysPath env.devName)
  else return {}

/-- The order of the reads is that of the source but for the cache, which is asked before the
configuration there. -/
def upsertDiskAndPublishEvent (env : UeventEnv) (diskId : CppString) (publishNewDiskEvent : Bool)
    (tableType : CppString) : ManagerProg Unit := do
  if !publishNewDiskEvent then
    return
  let flag ← resolveInitialDiskFlag env
  let usbInfo ← usbInfoForDisk env
  let (known, blockInfo) ← loadBlockInfoForDisk env diskId
  let disk := newDisk env diskId tableType flag usbInfo known blockInfo
  call (.publishDiskMounted disk)
  let _ ← onDiskCreated disk

def isInternalDataDiskById (diskId : CppString) : ManagerProg Bool := do
  match ← getDiskById diskId with
  | none => return false
  | some disk => return disk.isInternalDataDisk

def isPartitioning (diskId : CppString) : ManagerProg Bool :=
  Prog.read fun s => s.partitioningDiskIds.contains diskId

/-! ## Taking volumes down -/

section

variable [JsonLib]

/-- The volume `GetAllVolumes` makes up for an optical drive without a volume. -/
def syntheticVolume (disk : Disk) : VolumeExternal :=
  let discType := getDriverType disk.extraInfo
  { id := "0", type := CD_FLAG, diskId := disk.diskId, state := .mounted
    extraInfo := disk.extraInfo, fsType := .udf
    description := if discType.isEmpty then "DVD RW" else discType }

/-- `GetAllVolumes`. -/
def ManagerState.allVolumes (s : ManagerState) : List VolumeExternal :=
  let vols := s.volumeMap.toList.map (·.2)
  let dvdDiskIds :=
    (vols.filter fun vol => vol.fsType = .udf || vol.fsType = .iso9660).map (·.diskId)
  let drives := (s.diskMap.toList.map (·.2)).filter fun disk =>
    disk.diskType = CD_FLAG && !dvdDiskIds.contains disk.diskId
  vols ++ drives.map syntheticVolume

def getAllVolumes : ManagerProg (List VolumeExternal) := Prog.read (·.allVolumes)

/-- A volume that was ejected safely is not unmounted again. -/
def unmountUnlessEjected (vol : VolumeExternal) : ManagerProg Unit := do
  if vol.state ≠ .unmounted then
    let _ ← forceUnmount vol.id

/-- The dm-crypt volume of a container is closed. -/
def closeContainer (vol : VolumeExternal) : ManagerProg Unit := do
  if !vol.mapperPath.isEmpty then
    let _ ← destroyDmCryptVolume (CppString.afterLast '/' vol.mapperPath)

/-- The loop device of a container is given back. -/
def unbindContainer (vol : VolumeExternal) : ManagerProg Unit := do
  if !vol.loopPath.isEmpty then
    let _ ← unbindBlockLoopDev vol.loopPath

/-- The device node goes, and with it the record. -/
def removeVolumeNode (vol : VolumeExternal) : ManagerProg Unit := do
  let ret ← call (.destroyBlockDeviceNode (blockPathForId vol.id))
  if ret ≠ E_OK then
    return
  call (.publishVolumeChange (if vol.state = .unmounted then .removed else .badRemoval) vol)
  let _ ← onVolumeDestroyed vol.id

/-- One round of the loop of `DestroyALLVolume`. -/
def destroyVolume (vol : VolumeExternal) : ManagerProg Unit := do
  unmountUnlessEjected vol
  closeContainer vol
  unbindContainer vol
  removeVolumeNode vol

/-- The volumes `DestroyALLVolume` takes down: the one made up for a drive is left out. -/
def volumesOfDisk (diskId : CppString) (vols : List VolumeExternal) : List VolumeExternal :=
  vols.filter fun vol => vol.diskId = diskId && vol.id ≠ "0"

def destroyALLVolume (diskId : CppString) : ManagerProg Unit := do
  let vols ← getAllVolumes
  (volumesOfDisk diskId vols).forM destroyVolume

def destroyALLDisk (diskId : CppString) : ManagerProg ErrCode := do
  let ret ← call (.destroyBlockDeviceNode (blockPathForId diskId))
  if ret ≠ E_OK then
    return E_DESTROY_DEVICE_NODE
  let diskSnap ← getDiskById diskId
  let _ ← onDiskDestroyed diskId
  if let some disk := diskSnap then
    call (.publishDiskRemoved disk)
  return E_OK

end

/-! ## Making volumes -/

/-- `TryLoadBlockInfoForVolume`, with the text it gives the volume. -/
def tryLoadBlockInfoForVolume (disk : Disk) : ManagerProg (Option BlockInfo) :=
  if disk.isInternalDataDisk then call (.tryCopyBlockInfo disk.diskId)
  else call (.readExtDiskInfo disk.devName)

def createAndSetupVolume (diskId : CppString) (pDev : Dev) (isUserData : Bool)
    (partitionNum : Int) : ManagerProg ErrCode := do
  let volId := volIdFromDev pDev
  let err ← call (.createBlockDeviceNode (blockPathForId volId) K_VOLUME_BLOCK_DEVICE_NODE_MODE
    (toInt32 pDev.major) (toInt32 pDev.minor))
  if err ≠ E_OK then
    return err
  match ← getDiskById diskId with
  | none => return E_NON_EXIST
  | some disk =>
      let blockInfo ← tryLoadBlockInfoForVolume disk
      let _ ← onVolumeCreated
        { id := volId, type := EXTERNAL, diskId, isUserData, partitionNum
          extraInfo := (blockInfo.map (·.extraInfo)).getD [] }
      return E_OK

/-- `ReadAndUpdateMetadata`. An invalid uuid is not recorded, and its result is still that of
`ReadMetadata`. -/
def readAndUpdateMetadata (volId volDevPath : CppString) : ManagerProg Metadata := do
  let metadata ← call (.readMetadata volDevPath)
  if metadata.err = E_OK ∧ isUuidValid metadata.uuid = true then
    let _ ← updateVolumeMetadata volId metadata.uuid metadata.type metadata.label
  return metadata

/-- `IsAbnormalDetectableFsType`. -/
def isAbnormalDetectableFsType (fsType : FsType) : Bool :=
  fsType ≠ .mtp && fsType ≠ .udf && fsType ≠ .iso9660 && fsType ≠ .ptp

/-- `EvaluateVolumeMetadataAbnormal`: whether the volume was marked. -/
def evaluateVolumeMetadataAbnormal (volId : CppString) (isUserData : Bool)
    (uuid type : CppString) (metadataErr : ErrCode) : ManagerProg Bool := do
  if isUserData then
    return false
  let fsType := getFsTypeByStr type
  if !isAbnormalDetectableFsType fsType then
    return false
  if metadataErr ≠ E_OK || uuid.isEmpty || type.isEmpty then
    let _ ← markVolumeAbnormal volId .metadataReadFailed
    return true
  if fsType = .undefined then
    let _ ← markVolumeAbnormal volId .fstypeUnsupported
    return true
  return false

section

variable [JsonLib]

/-- `MountDiscoveredVolume`. `AUTO_MOUNT_EXTERNAL_VOLUMES` is true. -/
def mountDiscoveredVolume (volId : CppString) (isUserData : Bool) (uuid type : CppString) :
    ManagerProg Unit := do
  if type.isEmpty || uuid.isEmpty then
    return
  let err ← mount volId {}
  if err ≠ E_OK then
    if !isUserData && isAbnormalDetectableFsType (getFsTypeByStr type) then
      let _ ← markVolumeAbnormal volId .mountFailed

/-! ## Partitions -/

def buildPartitionDevName (devName : CppString) (partitionNumber : Nat) : CppString :=
  if devName.isEmpty then []
  else
    let partDevName := if CppString.startsWith devName "nvme" then devName ++ "p" else devName
    partDevName ++ CppString.ofNat partitionNumber

def dmReservedSectors : Nat := 20 * BYTES_PER_MB / SECTOR_SIZE

/-- `CreateDmLinearForPartition`: the device, `makedev(0, 0)` when there is none. -/
def createDmLinearForPartition (devName : CppString) (partitionNumber : Nat) :
    ManagerProg Dev := do
  let partDevName := buildPartitionDevName devName partitionNumber
  let partDevPath := DEV_BLOCK_PREFIX ++ partDevName
  let (sizeErr, totalBytes) ← call (.getDiskSize (devName ++ "/" ++ partDevName))
  if sizeErr ≠ E_OK ∨ totalBytes = 0 then
    return makedev 0 0
  let totalSectors := totalBytes / SECTOR_SIZE
  if totalSectors ≤ dmReservedSectors then
    return makedev 0 0
  let (err, dmDev) ← call (.createDmLinear partDevPath 0 (totalSectors - dmReservedSectors))
  if err ≠ E_OK ∨ dmDev = makedev 0 0 then
    return makedev 0 0
  return dmDev

/-- The loop of `GetMaxMinor` over the entries of the directory. -/
def maxMinorOf (major : Int) (nodes : List (CppString × Option Dev)) : Int :=
  nodes.foldl (fun maxMinor node =>
    match node.2 with
    | some dev =>
        if CppString.startsWith node.1 "vol" ∧ toInt32 dev.major = major then
          if toInt32 dev.minor > maxMinor then toInt32 dev.minor else maxMinor
        else maxMinor
    | none => maxMinor) (-1)

def getMaxMinor (major : Int) : ManagerProg Int := do
  match ← call .blockNodes with
  | none => return -1
  | some nodes => return maxMinorOf major nodes

/-- The device of a userdata partition, in `uint32_t`. -/
def userDataDev (maxMinor : Int) (partitionNumber : Nat) : Dev :=
  if maxMinor = -1 then
    makedev MAJORID_BLKEXT ((partitionNumber + 2 ^ 32 - MAX_PARTITION) % 2 ^ 32)
  else
    makedev MAJORID_BLKEXT
      (((maxMinor % 2 ^ 32).toNat + partitionNumber + 2 ^ 32 - MAX_INTERVAL_PARTITION) % 2 ^ 32)

def resolvePartitionDev (env : UeventEnv) (diskId : CppString) (p : PartitionRecord)
    (isUserData : Bool) : ManagerProg Dev := do
  let plain : ManagerProg Dev := do
    if isUserData then
      return userDataDev (← getMaxMinor MAJORID_BLKEXT) p.partitionNumber
    return partitionDev env.major env.minor p.partitionNumber
  if (← isInternalDataDiskById diskId) then
    let dmDev ← createDmLinearForPartition env.devName p.partitionNumber
    if dmDev ≠ makedev 0 0 then
      return dmDev
    plain
  else
    plain

/-- `DiscoverSinglePartitionVolume` from the device on. -/
def discoverPartitionOn (pDev : Dev) (diskId : CppString) (p : PartitionRecord)
    (isUserData : Bool) : ManagerProg Unit := do
  let volId := volIdFromDev pDev
  let known ← getVolumeById volId
  if known.any fun vol => vol.state = .mounted then
    return
  if (← createAndSetupVolume diskId pDev isUserData (toInt32 p.partitionNumber)) ≠ E_OK then
    return
  let metadata ← readAndUpdateMetadata volId (blockPathForId volId)
  if (← isPartitioning diskId) then
    let _ ← format volId PARTITION_TARGET_FS_TYPE
    return
  if (← evaluateVolumeMetadataAbnormal volId isUserData metadata.uuid metadata.type
      metadata.err) then
    return
  mountDiscoveredVolume volId isUserData metadata.uuid metadata.type

def discoverSinglePartitionVolume (env : UeventEnv) (diskId : CppString) (p : PartitionRecord)
    (isUserData : Bool) : ManagerProg Unit := do
  let pDev ← resolvePartitionDev env diskId p isUserData
  discoverPartitionOn pDev diskId p isUserData

/-- `DiscoverWholeDiskVolume` from the creation of the volume on, with the metadata read before;
there is none while the disk is partitioned. -/
def setupWholeDiskVolume (env : UeventEnv) (diskId : CppString) (metadata : Option Metadata) :
    ManagerProg Unit := do
  let wholeDev := makedev env.major env.minor
  let volId := volIdFromDev wholeDev
  if (← createAndSetupVolume diskId wholeDev false 0) ≠ E_OK then
    return
  match metadata with
  | none => let _ ← format volId PARTITION_TARGET_FS_TYPE
  | some metadata =>
      let _ ← updateVolumeMetadata volId metadata.uuid metadata.type metadata.label
      if (← evaluateVolumeMetadataAbnormal volId false metadata.uuid metadata.type E_OK) then
        return
      mountDiscoveredVolume volId false metadata.uuid metadata.type

def discoverWholeDiskVolume (env : UeventEnv) (diskId : CppString) (isUserData : Bool)
    (tableType : CppString) : ManagerProg Unit := do
  if (← isPartitioning diskId) then
    setupWholeDiskVolume env diskId none
  else
    let metadata ← call (.readMetadata (blockPathForId diskId))
    if metadata.err ≠ E_OK then
      if isUserData then
        return
      if (← isInternalDataDiskById diskId) then
        return
      if tableType = "gpt" then
        return
      call (.publishDiskAbnormal diskId .partitionTableReadFailed)
    else
      setupWholeDiskVolume env diskId (some metadata)

end

end DiskManager
