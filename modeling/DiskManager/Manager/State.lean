import DiskManager.Types
import DiskManager.Voldata.Store

/-!
# The manager and its surroundings

What `DiskManager` and `UeventBootstrap` keep in memory, and the requests they make: calls to
storage_daemon, to the FUSE policy library and the other adapters, reads of system parameters and
of the file system, published events. A request carries the arguments of the call it stands for.
Telemetry (`IpcDfxScope`, `DiskManagerRadar`, logging) and the one-second wait before the unmount
of a data disk are left out: nothing depends on them.
-/

namespace DiskManager

open Interact

/-- What the block-information cache knows of a disk. `extraInfo` is the text
`BlockInfoToVolumeExtraInfo` makes of it. -/
structure BlockInfo : Type where
  sizeBytes : Nat
  vendor : CppString
  rotational : Int
  extraInfo : CppString

/-- `UsbSysfsInfo`, with the numbers as `ParseSysfsInt` reads them. -/
structure UsbInfo : Type where
  vendorId : Int := 0
  productId : Int := 0
  serialNumber : CppString := []
  busnum : Int := 0
  devnum : Int := 0

/-- `blockNodes` reads `/dev/block`: the names with their devices, where `stat` gives one; nothing
when the directory cannot be opened. -/
inductive Req : Type
  -- storage_daemon
  | mount (devPath mountPath fsType : CppString) (mountFlag : Nat) (mountData : CppString)
  | unmount (mountPath fsType : CppString) (force : Bool)
  | formatVolume (devPath fsType diskPath partitionType : CppString) (partitionNum : Int)
  | check (devPath fsType : CppString)
  | repair (devPath fsType : CppString)
  | setLabel (devPath fsType label : CppString)
  | readMetadata (devPath : CppString)
  | queryUsbIsInUse (mountPath : CppString)
  | mountFuseDevice (mountPath : CppString)
  | getCapacity (devPath : CppString)
  | createBlockDeviceNode (devPath : CppString) (mode : Nat) (major minor : Int)
  | destroyBlockDeviceNode (devPath : CppString)
  | readPartitionTable (devPath : CppString)
  | getDiskSize (devName : CppString)
  | createDmLinear (sourceDevPath : CppString) (startSector sectorCount : Nat)
  | partition (diskPath partitionType : CppString)
  | formatPartition (devPath fsType volumeName : CppString) (cmd : List CppString)
      (quickFormat : Bool)
  | getPartitionTableInfo (devPath : CppString)
  | createPartition (devPath : CppString) (partitionNum startSector endSector : Int)
      (typeCode : CppString)
  | deletePartition (devPath diskId : CppString) (partitionNum : Int)
  | executeCommand (cmd : List CppString)
  | queryCDStatus (devPath : CppString)
  | eject (devName : CppString)
  | burn (devPath burnOptions fsType : CppString)
  -- adapters
  | isUsbFuseEnabledForFsType (fsType : CppString)
  | notifyUsbFuseMount (fuseFd : Int) (volumeId fsUuid : CppString)
  | notifyUsbFuseUmount (volumeId : CppString)
  | notifyVolumeMounted (diskId volumeId mountPath : CppString)
  | queryEncryptionExtraInfo (diskId volPath : CppString)
  | isEdmControlMountEnabled (volExternal : VolumeExternal) (mountParam : MountParam)
  | isEdmEnableOddBurn (diskId : CppString) (callerUserId : Int)
  | reportBurnSecurityInfo (userId : Int) (appId fsType : CppString) (eventId : Int)
  | tryCopyBlockInfo (diskId : CppString)
  | readExtDiskInfo (devName : CppString)
  -- system
  | getParameter (key : CppString)
  | usbReadonly
  | isPathMounted (path : CppString)
  | statvfs (path : CppString)
  | friendlyName (path : CppString)
  | readUsbInfo (sysPath devName : CppString)
  | configFlag (devPath : CppString)
  | blockNodes
  | randomUuid (diskId : CppString)
  -- events
  | publishVolumeChange (notifyCode : VolumeState) (volume : VolumeExternal)
  | publishVolumeResult (notifyCode : VolumeState) (volume : VolumeExternal)
  | publishVolumeAbnormal (volume : VolumeExternal) (reason : AbnormalReason)
  | publishDiskMounted (disk : Disk)
  | publishDiskRemoved (disk : Disk)
  | publishDiskAbnormal (diskId : CppString) (reason : AbnormalReason)
  -- the voldata store
  | file (q : FileReq)

@[reducible] def Req.Resp : Req → Type
  | .mount .. => ErrCode
  | .unmount .. => ErrCode
  | .formatVolume .. => ErrCode
  | .check .. => ErrCode
  | .repair .. => ErrCode
  | .setLabel .. => ErrCode
  | .readMetadata _ => Metadata
  | .queryUsbIsInUse _ => ErrCode × Bool
  | .mountFuseDevice _ => ErrCode × Int
  | .getCapacity _ => ErrCode × Int × Int
  | .createBlockDeviceNode .. => ErrCode
  | .destroyBlockDeviceNode _ => ErrCode
  | .readPartitionTable _ => ErrCode × CppString
  | .getDiskSize _ => ErrCode × Nat
  | .createDmLinear .. => ErrCode × Dev
  | .partition .. => ErrCode
  | .formatPartition .. => ErrCode
  | .getPartitionTableInfo _ => ErrCode × CppString
  | .createPartition .. => ErrCode
  | .deletePartition .. => ErrCode
  | .executeCommand _ => ErrCode × List CppString
  | .queryCDStatus _ => ErrCode × Nat
  | .eject _ => ErrCode
  | .burn .. => ErrCode
  | .isUsbFuseEnabledForFsType _ => Bool
  | .notifyUsbFuseMount .. => ErrCode
  | .notifyUsbFuseUmount _ => ErrCode
  | .notifyVolumeMounted .. => Unit
  | .queryEncryptionExtraInfo .. => Option CppString
  | .isEdmControlMountEnabled .. => Bool
  | .isEdmEnableOddBurn .. => Bool
  | .reportBurnSecurityInfo .. => ErrCode
  | .tryCopyBlockInfo _ => Option BlockInfo
  | .readExtDiskInfo _ => Option BlockInfo
  | .getParameter _ => CppString
  | .usbReadonly => Bool
  | .isPathMounted _ => Bool
  | .statvfs _ => Option StatVfs
  | .friendlyName _ => Option CppString
  | .readUsbInfo .. => UsbInfo
  | .configFlag _ => Option Nat
  | .blockNodes => Option (List (CppString × Option Dev))
  | .randomUuid _ => CppString
  | .publishVolumeChange .. => Unit
  | .publishVolumeResult .. => Unit
  | .publishVolumeAbnormal .. => Unit
  | .publishDiskMounted _ => Unit
  | .publishDiskRemoved _ => Unit
  | .publishDiskAbnormal .. => Unit
  | .file q => q.Resp

/-- The members of the `DiskManager` singleton, the partition snapshot of `UeventBootstrap` and the
voldata store. -/
structure ManagerState : Type where
  diskMap : StdMap Disk
  volumeMap : StdMap VolumeExternal
  partitioningDiskIds : List CppString
  partitionTableMap : StdMap PartitionTableInfo
  diskPartsSnapshot : StdMap (List PartitionRecord)
  voldata : StoreState

def ManagerState.boot : ManagerState := ⟨∅, ∅, [], ∅, ∅, .boot⟩

abbrev ManagerProg (α : Type) : Type := Prog ManagerState Req Req.Resp α

def call (q : Req) : ManagerProg q.Resp := Prog.request q

/-- Run an operation of the voldata store. -/
def onStore {α : Type} (p : StoreProg α) : ManagerProg α :=
  p.lift (·.voldata) (fun store s => { s with voldata := store }) .file fun _ r => r

/-- `const auto it = volumeMap_.find(volumeId)` under the lock, for reading. -/
def findVolume (volumeId : CppString) : ManagerProg (Option VolumeExternal) :=
  Prog.read fun s => s.volumeMap[volumeId]?

/-- `it->second` is changed when there is an entry, under the lock. -/
def ManagerState.updateVolume (s : ManagerState) (volumeId : CppString)
    (f : VolumeExternal → VolumeExternal) : ManagerState :=
  { s with volumeMap := s.volumeMap.update volumeId f }

@[simp] theorem ManagerState.updateVolume_updateVolume (s : ManagerState) (volumeId : CppString)
    (f g : VolumeExternal → VolumeExternal) :
    (s.updateVolume volumeId f).updateVolume volumeId g =
      s.updateVolume volumeId fun vol => g (f vol) := by
  simp only [ManagerState.updateVolume, StdMap.update_update]

@[simp] theorem ManagerState.get_updateVolume_self (s : ManagerState) (volumeId : CppString)
    (f : VolumeExternal → VolumeExternal) :
    (s.updateVolume volumeId f).volumeMap[volumeId]? = s.volumeMap[volumeId]?.map f :=
  StdMap.get_update_self _ _ _

theorem ManagerState.get_updateVolume_ne {s : ManagerState} {volumeId k : CppString}
    {f : VolumeExternal → VolumeExternal} (ne : volumeId ≠ k) :
    (s.updateVolume volumeId f).volumeMap[k]? = s.volumeMap[k]? :=
  StdMap.get_update_ne ne

def updateVolume (volumeId : CppString) (f : VolumeExternal → VolumeExternal) : ManagerProg Unit :=
  Prog.modify fun s => s.updateVolume volumeId f

/-- The same, with the answer whether there is an entry. -/
def updateVolumeIfFound (volumeId : CppString) (f : VolumeExternal → VolumeExternal) :
    ManagerProg Bool :=
  Prog.atomically fun s => (s.volumeMap[volumeId]?.isSome, s.updateVolume volumeId f)

end DiskManager
