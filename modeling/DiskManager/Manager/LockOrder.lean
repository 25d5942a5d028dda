import Mathlib.Data.Fintype.EquivFin
import DiskManager.Interact.Locks
import DiskManager.Manager.Repair

/-!
# The two map locks

`diskMapMutex_` and `volumeMapMutex_`, and which of them every operation of the manager takes,
in what nesting, on every branch. Each function of the source that takes one of them, or calls one
that does, is here under its own name with everything else left out.

The declaration of the locks asks for one order, the disk map before the volume map. `Format`
calls `IsDiskSupported` under the lock of its lookup, and that takes both again: it breaks the order
exactly when its lookup gets that far. Without such a `Format` the order holds on every path of every
operation, and threads that run them never deadlock.
-/

namespace DiskManager.LockCode

open Locks Interact

/-- The locks of the two maps. -/
inductive Mutex : Type
  | diskMap
  | volumeMap
deriving DecidableEq

instance Mutex.fintype : Fintype Mutex where
  elems := {.diskMap, .volumeMap}
  complete m := by cases m <;> decide

/-- First the disk map, then the volume map. -/
def Mutex.rank : Mutex → Nat
  | .diskMap => 0
  | .volumeMap => 1

instance Mutex.preorder : Preorder Mutex := Preorder.lift Mutex.rank

instance Mutex.decidableLT : DecidableLT Mutex :=
  fun m n => inferInstanceAs (Decidable (m.rank < n.rank))

/-- What `Format` finds under its first lock. -/
inductive Lookup : Type
  | absent
  | mtp
  | other
deriving DecidableEq

instance Lookup.fintype : Fintype Lookup where
  elems := {.absent, .mtp, .other}
  complete found := by cases found <;> decide

/-- The lookup in a state of the manager. -/
def formatLookup (s : ManagerState) (volumeId : CppString) : Lookup :=
  match s.volumeMap[volumeId]? with
  | none => .absent
  | some vol => if vol.fsType = .mtp then .mtp else .other

/-- `Format` is over with its lookup when that finds no volume or an MTP device. -/
theorem formatLookup_refuses [JsonLib] {W : Type} {env : Env ManagerState W Req Req.Resp}
    {s s' : ManagerState} {w w' : W} {volumeId fsType : CppString} {err : ErrCode}
    (refused : formatLookup s volumeId ≠ .other)
    (run : Returns env (DiskManager.format volumeId fsType) s w err s' w') :
    err ≠ E_OK ∧ s' = s ∧ w' = w := by
  have pre : wp (.ofEnv env) (DiskManager.format volumeId fsType)
      (fun err s' w' => err ≠ E_OK ∧ s' = s ∧ w' = w) s w := by
    unfold DiskManager.format findVolume
    rw [wp_bind, wp_read]
    refine ⟨trivial, ?_⟩
    unfold formatLookup at refused
    cases known : s.volumeMap[volumeId]? with
    | none => exact ⟨by decide, rfl, rfl⟩
    | some vol =>
        rw [known] at refused
        dsimp only at refused ⊢
        by_cases mtp : vol.fsType = .mtp
        · rw [if_pos mtp]
          exact ⟨by decide, rfl, rfl⟩
        · rw [if_neg mtp] at refused
          exact absurd rfl refused
  exact wp_returns pre run

abbrev Code := Locks.Code Mutex Lookup

abbrev Event := Locks.Event Mutex Lookup

def diskMap (mode : Mode) (body : Code := .skip) : Code := .hold .diskMap mode body

def volumeMap (mode : Mode) (body : Code := .skip) : Code := .hold .volumeMap mode body

/-! ## Lookups and small updates -/

def hasDisk : Code := diskMap .read

/-- `QueryAndAppendEncryptionStatusUnlocked` takes neither lock. -/
def getDiskById : Code := diskMap .read (volumeMap .read)

def getAllDisks : Code := diskMap .read (volumeMap .read)

def getAllVolumes : Code := diskMap .read (volumeMap .read)

def hasManagedResources : Code := diskMap .read (volumeMap .read)

def getExternalDiskInfos : Code := diskMap .read (volumeMap .read)

def isDiskSupported : Code := getDiskById

def onDiskCreated : Code := diskMap .write

def onDiskDestroyed : Code := diskMap .write

def updateDisk : Code := diskMap .write

def getVolumeById : Code := volumeMap .read

def getVolumeByUuid : Code := volumeMap .read

def lookupVolumeByCryptPath : Code := volumeMap .read

def onVolumeCreated : Code := diskMap .read ++ volumeMap .write

def onVolumeDestroyed : Code := volumeMap .write

def updateVolumeMetadata : Code := volumeMap .write

def setVolumeDiscState : Code := volumeMap .write

def updateVolumeExternal : Code := volumeMap .write

def setVolumeStateLocked : Code := volumeMap .write

/-- An empty id is refused before the lookup. -/
def checkVolId : Code := getVolumeById.maybe

def getFreeSizeOfVolume : Code := volumeMap .read

def getTotalSizeOfVolume : Code := volumeMap .read

def getExternalVolumeInfos : Code :=
  diskMap .read ++ volumeMap .read ++
    .loop (getTotalSizeOfVolume ++ getFreeSizeOfVolume).maybe

/-- `CommonEventPublisher::PublishVolumeChange`: of a mounted volume that is not an MTP device the
event tells the free size, which is looked up by `SetMountedEventParams`. The other publishers
take neither lock. -/
def publishVolumeChange : VolumeState → Code
  | .mounted => getFreeSizeOfVolume.maybe
  | _ => .skip

def markVolumeAbnormal : Code := volumeMap .write

/-! ## Mounting -/

def computeVolumeMountPolicy : Code := diskMap .read (volumeMap .read)

def ensureFsUuidReady : Code := (volumeMap .write).maybe

def mountVolumeSetPath : Code := volumeMap .write

def executeVolumeDataMount : Code :=
  (mountVolumeSetPath ++ (publishVolumeChange .mounted).maybe).maybe

def mountVolumeFilesystem : Code :=
  computeVolumeMountPolicy ++ (diskMap .read ++ executeVolumeDataMount).maybe

/-- The check of `MountVolumeEntry`: the volume needs a repair, which fails or not, or the check has
failed or passed. -/
def checkBeforeMount : Code :=
  setVolumeStateLocked ++
    (setVolumeStateLocked ++ setVolumeStateLocked ++ setVolumeStateLocked <|> setVolumeStateLocked)

def mountVolumeEntry : Code :=
  ensureFsUuidReady ++
    (computeVolumeMountPolicy ++ checkBeforeMount.maybe ++ mountVolumeFilesystem.maybe).maybe

def mountVolumeByPath : Code :=
  getDiskById ++ (lookupVolumeByCryptPath ++
    (updateVolumeExternal ++ (publishVolumeChange .mounted).maybe).maybe).maybe

/-- `EdmAdapter::IsEdmControlMountEnabled`, in builds that have it. -/
def isEdmControlMountEnabled : Code := getDiskById.maybe

def mount : Code :=
  (volumeMap .write ++ (checkVolId ++ isEdmControlMountEnabled ++
    (mountVolumeByPath <|> mountVolumeEntry ++ volumeMap .write).maybe).maybe).maybe

/-! ## Unmounting -/

def saveVolumeFreeSize : Code := getFreeSizeOfVolume

def notifyVolumeEjecting : Code := volumeMap .write ++ publishVolumeChange .ejecting

def restoreVolumeState : Code := volumeMap .write

def resolveUnmountForceFlag : Code := diskMap .read

/-- `UnmountVolumeMountPoints` takes neither lock. -/
def doUnmountVolume : Code :=
  saveVolumeFreeSize ++ notifyVolumeEjecting ++ diskMap .read ++ resolveUnmountForceFlag ++
    (notifyVolumeEjecting ++ restoreVolumeState <|>
      publishVolumeChange .unmounted ++ volumeMap .write)

def unmount : Code := volumeMap .read ++ doUnmountVolume.maybe

def forceUnmount : Code := volumeMap .read ++ doUnmountVolume.maybe

def umountVolumeByPath : Code :=
  getDiskById ++ (lookupVolumeByCryptPath ++ doUnmountVolume.maybe).maybe

def destroyVolumeByDiskIdAndPartNum : Code :=
  getDiskById ++ .loop getVolumeById ++
    (forceUnmount.maybe ++
      ((publishVolumeChange .removed <|> publishVolumeChange .badRemoval) ++
        onVolumeDestroyed).maybe).maybe

/-- The change is published under the lock. -/
def notifyMtpUnmounted : Code :=
  volumeMap .write (publishVolumeChange .unmounted <|> publishVolumeChange .badRemoval).maybe

def notifyMtpMounted : Code := volumeMap .write ++ publishVolumeChange .mounted

/-! ## Formatting and repair -/

def updateVoldataMappingAfterFormat : Code := diskMap .read (volumeMap .read)

def updateVolumeAfterFormat : Code :=
  (volumeMap .read ++ updateVoldataMappingAfterFormat ++ volumeMap .write).maybe

def publishFormatFailEvent : Code := setVolumeStateLocked ++ volumeMap .read

/-- `Format` goes on by what it finds under its first lock. -/
def format : Code :=
  .finds fun
    | .absent => volumeMap .read
    | .mtp => volumeMap .read
    | .other =>
        volumeMap .read isDiskSupported ++
          (diskMap .read ++ checkVolId ++
            (publishFormatFailEvent <|> updateVolumeAfterFormat).maybe).maybe

def repairAndCheckVolume : Code :=
  setVolumeStateLocked ++
    (setVolumeStateLocked <|> computeVolumeMountPolicy ++ setVolumeStateLocked)

/-- A mounted volume is unmounted first, and is left when that fails. -/
def tryToFix : Code :=
  volumeMap .read ++
    (notifyVolumeEjecting ++ restoreVolumeState <|>
      (notifyVolumeEjecting ++ volumeMap .write).maybe ++ repairAndCheckVolume ++
        (mountVolumeEntry ++ volumeMap .write).maybe).maybe

def setVolumeDescription : Code :=
  volumeMap .read ++ (isDiskSupported ++ (checkVolId ++ (volumeMap .write).maybe).maybe).maybe

/-! ## Discs -/

def eject : Code := getDiskById

def erase : Code := volumeMap .read ++ eject.maybe

def createIsoImage : Code := volumeMap .read ++ getDiskById.maybe

/-- `EdmAdapter::IsEdmEnableOddBurn`, in builds that have it. -/
def isEdmEnableOddBurn : Code := getDiskById.maybe

def prepareBurn : Code := volumeMap .read ++ isEdmEnableOddBurn.maybe

def burn : Code := prepareBurn

def getVolumeOpProcess : Code := volumeMap .read

/-! ## Crypt volumes -/

def isVolumeBind : Code := .loop getVolumeById

def bindBlockLoopDev : Code := getDiskById ++ (isVolumeBind ++ onVolumeCreated.maybe).maybe

def createDmCryptVolume : Code := getVolumeById ++ updateVolumeExternal.maybe

def destroyDmCryptVolume : Code := (volumeMap .write).maybe

def unbindBlockLoopDev : Code := onVolumeDestroyed.maybe

/-! ## Partitions

`partitionLock_` is another lock; what runs under it is here as everything else. -/

def isDiskNotReady : Code := getDiskById ++ .loop getVolumeById

def isVolumeMounted : Code := getDiskById ++ .loop getVolumeById

def getFsTypeByDiskIdAndPartNum : Code := getDiskById ++ .loop getVolumeById

def findVolumeForPartition : Code := .loop getVolumeById

def getPartitionTable : Code := hasDisk ++ (.loop getFsTypeByDiskIdAndPartNum : Code).maybe

def createPartition : Code := getDiskById ++ isDiskNotReady.maybe

def deletePartition : Code :=
  getDiskById ++ (isDiskNotReady ++ destroyVolumeByDiskIdAndPartNum.maybe).maybe

def refreshVolumeAfterFormatPartition : Code := (checkVolId ++ updateVolumeAfterFormat.maybe).maybe

def formatPartition : Code :=
  getDiskById ++ (isVolumeMounted ++
    (findVolumeForPartition ++ refreshVolumeAfterFormatPartition.maybe).maybe).maybe

def purgeVolumesForDisk : Code := hasDisk ++ (volumeMap .read ++ volumeMap .write).maybe

/-! ## Discovery

`Partition` ends in `RediscoverDiskVolumes`, which comes back to the manager. -/

def isInternalDataDiskById : Code := getDiskById

def createAndSetupVolume : Code := (getDiskById ++ onVolumeCreated.maybe).maybe

def readAndUpdateMetadata : Code := updateVolumeMetadata.maybe

def evaluateVolumeMetadataAbnormal : Code := markVolumeAbnormal.maybe

def mountDiscoveredVolume : Code := (mount ++ markVolumeAbnormal.maybe).maybe

/-- A volume of a disk that is being partitioned is formatted, any other one mounted. -/
def discoverSinglePartitionVolume : Code :=
  getVolumeById ++ (createAndSetupVolume ++
    (readAndUpdateMetadata ++
      (format <|> evaluateVolumeMetadataAbnormal ++ mountDiscoveredVolume.maybe)).maybe).maybe

def discoverWholeDiskVolume : Code :=
  isInternalDataDiskById.maybe <|>
    createAndSetupVolume ++
      (format <|> updateVolumeMetadata ++ evaluateVolumeMetadataAbnormal ++
        mountDiscoveredVolume.maybe).maybe

def destroyALLVolume : Code :=
  getAllVolumes ++ .loop
    (forceUnmount.maybe ++ destroyDmCryptVolume.maybe ++ unbindBlockLoopDev.maybe ++
      ((publishVolumeChange .removed <|> publishVolumeChange .badRemoval) ++
        onVolumeDestroyed).maybe)

def handleAddCD : Code :=
  createAndSetupVolume ++
    ((getVolumeById <|> readAndUpdateMetadata) ++ updateVolumeMetadata ++ setVolumeDiscState ++
      mount.maybe).maybe

def ejectAndDestroyCdrom : Code := eject ++ destroyALLVolume.maybe

def findMountedVolumePath : Code := getAllVolumes

def tryEjectCdrom : Code :=
  getDiskById ++
    (ejectAndDestroyCdrom <|>
      findMountedVolumePath ++ (getDiskById ++ updateDisk.maybe <|> ejectAndDestroyCdrom)).maybe

def discoverSinglePartitionVolume4CD : Code :=
  tryEjectCdrom <|> destroyALLVolume <|> getDiskById ++ updateDisk.maybe ++ handleAddCD

def upsertDiskAndPublishEvent : Code := onDiskCreated.maybe

def discoverCdromVolumes : Code :=
  (hasDisk.maybe ++ upsertDiskAndPublishEvent ++ discoverSinglePartitionVolume4CD).maybe

/-- The partition table is not readable, or names no disk, or lists partitions: all of them are
discovered again, or those that have come and gone are brought up to date. -/
def discoverPartitionsAndVolumes : Code :=
  discoverCdromVolumes <|>
    upsertDiskAndPublishEvent ++ isInternalDataDiskById <|>
    destroyALLVolume.maybe <|>
    upsertDiskAndPublishEvent ++ isInternalDataDiskById.maybe ++
      (.loop discoverSinglePartitionVolume <|>
        .loop destroyVolumeByDiskIdAndPartNum ++ .loop discoverSinglePartitionVolume ++
          discoverWholeDiskVolume.maybe)

def rediscoverDiskVolumes : Code := discoverPartitionsAndVolumes

def partition : Code :=
  isDiskSupported ++ (isDiskNotReady ++
    (purgeVolumesForDisk ++ rediscoverDiskVolumes.maybe).maybe).maybe

/-! ## The public operations -/

/-- The public operations of the manager, in the order of its header. -/
inductive PublicOp : Type
  | mount | unmount | forceUnmount | format | tryToFix | markVolumeAbnormal
  | setVolumeDescription | partition | purgeVolumesForDisk | isPartitioning | onDiskCreated
  | hasDisk | hasManagedResources | onDiskDestroyed | onVolumeCreated | onVolumeDestroyed
  | replacePartitionsForDisk | getAllDisks | getDiskById | updateDisk | getAllVolumes
  | getVolumeById | getVolumeByUuid | getExternalDiskInfos | getExternalVolumeInfos
  | updateVolumeMetadata | setVolumeDiscState | getFreeSizeOfVolume | getTotalSizeOfVolume | erase
  | eject | createIsoImage | burn | getVolumeOpProcess | notifyMtpMounted | notifyMtpUnmounted
  | getPartitionTable | createPartition | deletePartition | formatPartition | notifyPartitionDone
  | getDiscType | getDriverType | destroyVolumeByDiskIdAndPartNum | bindBlockLoopDev
  | createDmCryptVolume | destroyDmCryptVolume | unbindBlockLoopDev | mountVolumeByPath
  | umountVolumeByPath

/-- What an operation does with the two locks; `.skip` is for those that leave both alone. -/
def PublicOp.code : PublicOp → Code
  | .mount => LockCode.mount
  | .unmount => LockCode.unmount
  | .forceUnmount => LockCode.forceUnmount
  | .format => LockCode.format
  | .tryToFix => LockCode.tryToFix
  | .markVolumeAbnormal => LockCode.markVolumeAbnormal
  | .setVolumeDescription => LockCode.setVolumeDescription
  | .partition => LockCode.partition
  | .purgeVolumesForDisk => LockCode.purgeVolumesForDisk
  | .isPartitioning => .skip
  | .onDiskCreated => LockCode.onDiskCreated
  | .hasDisk => LockCode.hasDisk
  | .hasManagedResources => LockCode.hasManagedResources
  | .onDiskDestroyed => LockCode.onDiskDestroyed
  | .onVolumeCreated => LockCode.onVolumeCreated
  | .onVolumeDestroyed => LockCode.onVolumeDestroyed
  | .replacePartitionsForDisk => .skip
  | .getAllDisks => LockCode.getAllDisks
  | .getDiskById => LockCode.getDiskById
  | .updateDisk => LockCode.updateDisk
  | .getAllVolumes => LockCode.getAllVolumes
  | .getVolumeById => LockCode.getVolumeById
  | .getVolumeByUuid => LockCode.getVolumeByUuid
  | .getExternalDiskInfos => LockCode.getExternalDiskInfos
  | .getExternalVolumeInfos => LockCode.getExternalVolumeInfos
  | .updateVolumeMetadata => LockCode.updateVolumeMetadata
  | .setVolumeDiscState => LockCode.setVolumeDiscState
  | .getFreeSizeOfVolume => LockCode.getFreeSizeOfVolume
  | .getTotalSizeOfVolume => LockCode.getTotalSizeOfVolume
  | .erase => LockCode.erase
  | .eject => LockCode.eject
  | .createIsoImage => LockCode.createIsoImage
  | .burn => LockCode.burn
  | .getVolumeOpProcess => LockCode.getVolumeOpProcess
  | .notifyMtpMounted => LockCode.notifyMtpMounted
  | .notifyMtpUnmounted => LockCode.notifyMtpUnmounted
  | .getPartitionTable => LockCode.getPartitionTable
  | .createPartition => LockCode.createPartition
  | .deletePartition => LockCode.deletePartition
  | .formatPartition => LockCode.formatPartition
  | .notifyPartitionDone => .skip
  | .getDiscType => .skip
  | .getDriverType => .skip
  | .destroyVolumeByDiskIdAndPartNum => LockCode.destroyVolumeByDiskIdAndPartNum
  | .bindBlockLoopDev => LockCode.bindBlockLoopDev
  | .createDmCryptVolume => LockCode.createDmCryptVolume
  | .destroyDmCryptVolume => LockCode.destroyDmCryptVolume
  | .unbindBlockLoopDev => LockCode.unbindBlockLoopDev
  | .mountVolumeByPath => LockCode.mountVolumeByPath
  | .umountVolumeByPath => LockCode.umountVolumeByPath

/-- `IsDiskSupported` is reached under the lock of the lookup. -/
def Lookup.nests (found : Lookup) : Bool := found == .other

theorem PublicOp.keeps (op : PublicOp) : op.code.keeps Lookup.nests [] = true := by
  cases op <;> decide

/-! ## The order -/

/-- The order that the declaration of the locks asks for: the disk map is not locked under the
volume map, and no lock is taken again by its holder. -/
def LockOrder (p : List Event) : Prop :=
  ∀ before m mode after, p = before ++ .acquire m mode :: after →
    (∀ h ∈ heldAfter [] before, h.1 ≠ m) ∧
      (m = .diskMap → ∀ h ∈ heldAfter [] before, h.1 ≠ .volumeMap)

theorem Mutex.lt_iff {n m : Mutex} : n < m ↔ n ≠ m ∧ (m = .diskMap → n ≠ .volumeMap) := by
  cases n <;> cases m <;> decide

theorem lockOrder_iff {p : List Event} : LockOrder p ↔ InOrder [] p := by
  rw [inOrder_iff_acquires]
  constructor
  · intro ordered before m mode after split h held
    obtain ⟨apart, under⟩ := ordered before m mode after split
    exact Mutex.lt_iff.mpr ⟨apart h held, fun disk => under disk h held⟩
  · intro ordered before m mode after split
    have below := fun h held => Mutex.lt_iff.mp (ordered before m mode after split h held)
    exact ⟨fun h held => (below h held).1, fun disk h held => (below h held).2 disk⟩

theorem PublicOp.inOrder_iff {op : PublicOp} {p : List Event} (path : Path op.code p) :
    InOrder [] p ↔ .finds .other ∉ p := by
  rw [path.inOrder_iff op.keeps]
  constructor
  · intro fine mem
    have := fine .other mem
    rw [Lookup.nests] at this
    exact absurd this (by decide)
  · intro fine found mem
    cases found with
    | absent => rfl
    | mtp => rfl
    | other => exact absurd mem fine

/-- A path keeps the order exactly when no `Format` on it finds a volume that is not an MTP device,
and threads on such paths never deadlock on the two locks. -/
theorem locks_in_order_iff {ι : Type} [DecidableEq ι] (ops : ι → PublicOp) {paths : ι → List Event}
    (each : ∀ i, Path (ops i).code (paths i)) :
    (∀ i, LockOrder (paths i) ↔ .finds .other ∉ paths i) ∧
      ((∀ i, .finds .other ∉ paths i) → ∀ c : ι → Thread Mutex Lookup,
        Reaches (starting paths) c → ¬ ∃ D, Deadlocked c D) := by
  constructor
  · intro i
    rw [lockOrder_iff, PublicOp.inOrder_iff (each i)]
  · rintro fine c run ⟨D, deadlocked⟩
    have ordered : ∀ i, InOrder (c i).held (c i).rest :=
      run.inOrder fun i => (PublicOp.inOrder_iff (each i)).mpr (fine i)
    exact no_deadlock ordered deadlocked

/-- The execution of `OnVolumeDestroyed`. -/
def destroyPath : List Event := [.acquire .volumeMap .write, .release .volumeMap .write]

theorem destroyPath_path : Path PublicOp.onVolumeDestroyed.code destroyPath := .hold .skip

/-- A volume destroyed twice at once. -/
theorem destroyed_twice : LockOrder destroyPath ∧
    ¬ ∃ D, Deadlocked (starting fun _ : Bool => destroyPath) D := by
  have settled := locks_in_order_iff (fun _ : Bool => .onVolumeDestroyed) fun _ => destroyPath_path
  have plain : Event.finds .other ∉ destroyPath := by decide
  exact ⟨(settled.1 true).mpr plain, settled.2 (fun _ => plain) _ .refl⟩

/-! ## The nested lookup of Format -/

/-- A volume on a USB stick. -/
def stickVolume : VolumeExternal := { id := "vol-8-1", diskId := "disk-8-0", fsType := .vfat }

/-- The execution of a `Format` whose disk is refused by `IsDiskSupported`. -/
def formatPath : List Event :=
  [.finds .other, .acquire .volumeMap .read, .acquire .diskMap .read, .acquire .volumeMap .read,
    .release .volumeMap .read, .release .diskMap .read, .release .volumeMap .read]

theorem formatPath_path : Path PublicOp.format.code formatPath := by
  have found : Path (volumeMap .read isDiskSupported) (formatPath.drop 1) :=
    .hold (.hold (.hold .skip))
  have refused := found.seq (.left .skip : Path (Code.maybe (diskMap .read ++ checkVolId ++
    (publishFormatFailEvent <|> updateVolumeAfterFormat).maybe)) [])
  unfold PublicOp.code LockCode.format
  exact .finds refused

/-- `Format` after `n` events, beside a volume that is about to be destroyed. -/
def against (held : List (Mutex × Mode)) (n : Nat) : Bool → Thread Mutex Lookup
  | false => ⟨held, formatPath.drop n⟩
  | true => ⟨[], destroyPath⟩

theorem against_moved {held held' : List (Mutex × Mode)} {n : Nat} :
    Function.update (against held n) false ⟨held', formatPath.drop (n + 1)⟩ =
      against held' (n + 1) := by
  funext i
  cases i <;> rfl

theorem against_finds : Step (against [] 0) (against [] 1) := by
  rw [← against_moved]
  exact .finds false rfl

/-- `Format` only reads, and the writer holds nothing yet. -/
theorem against_acquire {held : List (Mutex × Mode)} {n : Nat} {m : Mutex}
    (next : formatPath.drop n = .acquire m .read :: formatPath.drop (n + 1))
    (reads : ∀ h ∈ held, h.2 = .read) :
    Step (against held n) (against ((m, .read) :: held) (n + 1)) := by
  rw [← against_moved]
  refine .acquire false next fun j h mem _ => ?_
  cases j with
  | false => rw [reads h mem]; rfl
  | true => cases mem

/-- `Format` in the middle of `IsDiskSupported`. -/
def nested : Bool → Thread Mutex Lookup := against [(.diskMap, .read), (.volumeMap, .read)] 3

theorem reaches_nested :
    Reaches (starting fun i => bif i then destroyPath else formatPath) nested := by
  have start : (starting fun i => bif i then destroyPath else formatPath) = against [] 0 := by
    funext i
    cases i <;> rfl
  have volume : Step (against [] 1) (against [(.volumeMap, .read)] 2) :=
    against_acquire rfl (by decide)
  have disk : Step (against [(.volumeMap, .read)] 2) nested := against_acquire rfl (by decide)
  rw [start]
  exact ((Relation.ReflTransGen.single against_finds).tail volume).tail disk

theorem nested_deadlocked : Deadlocked nested Set.univ := by
  refine ⟨Set.univ_nonempty, fun i _ => ?_⟩
  cases i with
  | false => exact ⟨true, trivial, .volumeMap, .read, rfl, .inr ⟨rfl, rfl⟩⟩
  | true =>
      exact ⟨false, trivial, .volumeMap, .write, rfl, .inl ⟨(.volumeMap, .read), by decide, rfl, rfl⟩⟩

/-- `Format` of a known volume locks the disk map under the volume map, and the volume map again.
The two deadlock when a volume is about to be destroyed: `Format` waits for the writer, the
writer for the lock that `Format` holds. -/
theorem format_deadlocks :
    formatLookup { ManagerState.boot with
      volumeMap := (∅ : VolumeMap).insert "vol-8-1" stickVolume } "vol-8-1" = .other ∧
    (¬ ∀ (op : PublicOp) (p : List Event), Path op.code p → LockOrder p) ∧
    Path PublicOp.format.code formatPath ∧ Path PublicOp.onVolumeDestroyed.code destroyPath ∧
    Reaches (starting fun i => bif i then destroyPath else formatPath) nested ∧
    Deadlocked nested Set.univ := by
  refine ⟨by decide, fun ordered => ?_, formatPath_path, destroyPath_path, reaches_nested,
    nested_deadlocked⟩
  have ordered := lockOrder_iff.mp (ordered .format formatPath formatPath_path)
  have := ordered.2.1 (.volumeMap, .read) List.mem_cons_self
  exact absurd this (by decide)

end DiskManager.LockCode
