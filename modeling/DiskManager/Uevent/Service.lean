import DiskManager.Interact.Undisturbed
import DiskManager.Uevent.Filing

/-!
# The service as a whole

All operations of the service that change its memory, the requests of clients and the uevents, and
the states it can reach when any number of them run side by side against a daemon that answers
anything. In each such state the volumes and disks are filed as the operations expect.
-/

namespace DiskManager

open Interact

inductive ServiceOp : Type
  | uevent (e : DiskEvent) (fits : e.uevent.Fits)
  | mount (volumeId : CppString) (mountParam : MountParam)
  | unmount (volumeId : CppString)
  | forceUnmount (volumeId : CppString)
  | tryToFix (volumeId : CppString)
  | format (volumeId fsType : CppString)
  | setVolumeDescription (fsUuid description : CppString)
  | partition (diskId : CppString)
  | getPartitionTable (diskId : CppString)
  | createPartition (diskId : CppString) (params : PartitionParams)
  | deletePartition (diskId : CppString) (partitionNum : Int)
  | formatPartition (diskId : CppString) (partitionNum : Int) (params : FormatParams)
  | eject (diskId : CppString)
  | notifyMtpMounted (id path desc uuid fsType : CppString)
  | notifyMtpUnmounted (id : CppString) (isBadRemove : Bool)
  | bindBlockLoopDev (diskId : CppString) (offset sizeLimit : Nat)
  | unbindBlockLoopDev (loopPath : CppString)
  | createDmCryptVolume (param : CryptParam) (loopPath mapperName : CppString)
  | destroyDmCryptVolume (mapperName : CppString)
  | mountVolumeByPath (diskId volPath : CppString) (mountParam : MountParam)
  | umountVolumeByPath (diskId volPath : CppString)

/-- The operation, without its result. -/
def ManagerProg.run {α : Type} (p : ManagerProg α) : ManagerProg Unit := p >>= fun _ => pure ()

def ServiceOp.prog [JsonLib] : ServiceOp → ManagerProg Unit
  | .uevent e _ => ManagerProg.run e.prog
  | .mount volumeId mountParam => ManagerProg.run (DiskManager.mount volumeId mountParam)
  | .unmount volumeId => ManagerProg.run (DiskManager.unmount volumeId)
  | .forceUnmount volumeId => ManagerProg.run (DiskManager.forceUnmount volumeId)
  | .tryToFix volumeId => ManagerProg.run (DiskManager.tryToFix volumeId)
  | .format volumeId fsType => ManagerProg.run (DiskManager.format volumeId fsType)
  | .setVolumeDescription fsUuid description =>
      ManagerProg.run (DiskManager.setVolumeDescription fsUuid description)
  | .partition diskId => ManagerProg.run (DiskManager.partition diskId)
  | .getPartitionTable diskId => ManagerProg.run (DiskManager.getPartitionTable diskId)
  | .createPartition diskId params => ManagerProg.run (DiskManager.createPartition diskId params)
  | .deletePartition diskId partitionNum =>
      ManagerProg.run (DiskManager.deletePartition diskId partitionNum)
  | .formatPartition diskId partitionNum params =>
      ManagerProg.run (DiskManager.formatPartition diskId partitionNum params)
  | .eject diskId => ManagerProg.run (DiskManager.eject diskId)
  | .notifyMtpMounted id path desc uuid fsType =>
      ManagerProg.run (DiskManager.notifyMtpMounted id path desc uuid fsType)
  | .notifyMtpUnmounted id isBadRemove =>
      ManagerProg.run (DiskManager.notifyMtpUnmounted id isBadRemove)
  | .bindBlockLoopDev diskId offset sizeLimit =>
      ManagerProg.run (DiskManager.bindBlockLoopDev diskId offset sizeLimit)
  | .unbindBlockLoopDev loopPath => ManagerProg.run (DiskManager.unbindBlockLoopDev loopPath)
  | .createDmCryptVolume param loopPath mapperName =>
      ManagerProg.run (DiskManager.createDmCryptVolume param loopPath mapperName)
  | .destroyDmCryptVolume mapperName =>
      ManagerProg.run (DiskManager.destroyDmCryptVolume mapperName)
  | .mountVolumeByPath diskId volPath mountParam =>
      ManagerProg.run (DiskManager.mountVolumeByPath diskId volPath mountParam)
  | .umountVolumeByPath diskId volPath =>
      ManagerProg.run (DiskManager.umountVolumeByPath diskId volPath)

/-- Any answer. -/
def anyAnswer (_ : ManagerState) (_ : Unit) (q : Req) (_ : q.Resp) (_ : Unit) : Prop := True

/-- The service after a start, with nothing under way. -/
def startedService : Sys ℕ ManagerState Unit Req Req.Resp Unit := ⟨fun _ => none, .boot, ()⟩

/-- The service can get into this state. -/
def Reachable [JsonLib] (s : ManagerState) : Prop :=
  ∃ c log, PoolRun (fun _ => True) ServiceOp.prog anyAnswer startedService c log ∧ c.s = s

/-- The service is in this state with nothing under way. -/
def Settled [JsonLib] (s : ManagerState) : Prop :=
  ∃ log, PoolRun (fun _ => True) ServiceOp.prog anyAnswer startedService ⟨fun _ => none, s, ()⟩ log

theorem Settled.reachable [JsonLib] {s : ManagerState} (settled : Settled s) : Reachable s := by
  obtain ⟨log, run⟩ := settled
  exact ⟨_, log, run, rfl⟩

theorem settled_boot [JsonLib] : Settled .boot := ⟨[], .start⟩

/-- One more operation, with a handler for its requests. -/
theorem Settled.exec [JsonLib] {s : ManagerState} (settled : Settled s) (op : ServiceOp)
    (answer : (q : Req) → q.Resp) :
    Settled (op.prog.exec (fun _ q => (answer q, ())) s ()).2.1 := by
  obtain ⟨log, run⟩ := settled
  let handle : Unit → (q : Req) → q.Resp × Unit := fun _ q => (answer q, ())
  have returned : Returns anyAnswer op.prog s () () (op.prog.exec handle s ()).2.1 () :=
    Prog.exec_returns (fun _ _ _ => trivial) op.prog s ()
  exact run.operation (i := 0) trivial op returned

/-! ## How things are filed -/

/-- A volume under its own id, the volume of a container under the name of its loop device, and
under the id of the made-up volume none with a disk. -/
structure WellPlaced (k : CppString) (place : Place) : Prop where
  id : place.id = k
  loop : place.loopPath ≠ [] → cryptVolumeId place.loopPath = k
  named : place.diskId ≠ [] → k ≠ "0"

/-- A disk under its own id, which is the one of a device. -/
structure WellNamed (diskId : CppString) (disk : Disk) : Prop where
  id : disk.diskId = diskId
  device : ∃ uevent : UeventEnv, uevent.Fits ∧ diskId = diskIdFrom uevent.major uevent.minor

theorem accepts_wellPlaced : Accepts WellPlaced WellNamed where
  ids _ _ placed := placed.id
  volume _ _ _ := ⟨rfl, fun loop => absurd rfl loop, fun _ eq => by cases eq⟩
  crypt _ _ := ⟨rfl, fun _ => rfl, fun _ eq => by cases eq⟩
  mtp _ := ⟨rfl, fun loop => absurd rfl loop, fun of => absurd rfl of⟩
  keyed _ _ named := named.id
  copy _ _ _ named copied := ⟨copied.diskId.trans named.id, named.device⟩
  record uevent _ fits id _ := ⟨rfl, uevent, fits, id⟩

theorem sound_of_filed {s : ManagerState}
    (filed : FiledAs WellPlaced WellNamed (fun _ => True) s) : s.index.Sound :=
  ⟨fun _ _ found => (filed.volumes found).id, fun found => (filed.volumes found).loop,
    fun found => (filed.volumes found).named⟩

theorem diskIds_of_filed {s : ManagerState}
    (filed : FiledAs WellPlaced WellNamed (fun _ => True) s) : s.index.DiskIds :=
  fun _ _ found => (filed.disks found).id

section

variable [JsonLib]

theorem ServiceOp.filed {G : CppString → Place → Prop} {D : CppString → Disk → Prop}
    (accepts : Accepts G D) (op : ServiceOp) :
    Keeps (FiledAs G D fun _ => True) op.prog fun _ => True := by
  have ran : ∀ {α : Type} {p : ManagerProg α},
      Keeps (FiledAs G D fun _ => True) p (fun _ => True) →
      Keeps (FiledAs G D fun _ => True) (ManagerProg.run p) fun _ => True :=
    fun keeps => keeps_seq keeps fun _ _ => trivial
  cases op with
  | uevent e fits => exact ran (filed_diskEvent accepts fits)
  | mount => exact ran (filed_mount accepts.ids _ _)
  | unmount => exact ran (filed_unmount _)
  | forceUnmount => exact ran (filed_forceUnmount _)
  | tryToFix => exact ran (filed_tryToFix _)
  | format => exact ran (filed_of_sameIndex (sameIndex_format _ _))
  | setVolumeDescription => exact ran (filed_of_sameIndex (sameIndex_setVolumeDescription _ _))
  | partition => exact ran (filed_partition accepts _)
  | getPartitionTable => exact ran (filed_getPartitionTable (fun _ _ _ _ => trivial) _)
  | createPartition => exact ran (reads_createPartition _ _).keeps
  | deletePartition => exact ran (filed_deletePartition _ _)
  | formatPartition => exact ran (filed_of_sameIndex (sameIndex_formatPartition _ _ _))
  | eject => exact ran (reads_eject _).keeps
  | notifyMtpMounted => exact ran (filed_notifyMtpMounted accepts.mtp _ _ _ _ _)
  | notifyMtpUnmounted => exact ran (filed_notifyMtpUnmounted _ _)
  | bindBlockLoopDev => exact ran (filed_bindBlockLoopDev accepts.crypt _ _ _)
  | unbindBlockLoopDev => exact ran (filed_unbindBlockLoopDev _)
  | createDmCryptVolume => exact ran (filed_createDmCryptVolume accepts.ids _ _ _)
  | destroyDmCryptVolume => exact ran (filed_of_sameIndex (sameIndex_destroyDmCryptVolume _))
  | mountVolumeByPath => exact ran (filed_mountVolumeByPath accepts.ids _ _ _)
  | umountVolumeByPath => exact ran (filed_umountVolumeByPath _ _)

/-- Whatever the operations file as, everything in a reachable state is filed as. -/
theorem Reachable.filedAs {G : CppString → Place → Prop} {D : CppString → Disk → Prop}
    (accepts : Accepts G D) {s : ManagerState} (reachable : Reachable s) :
    FiledAs G D (fun _ => True) s := by
  obtain ⟨c, log, run, rfl⟩ := reachable
  have empty : FiledAs G D (fun _ => True) ManagerState.boot := by
    refine ⟨fun {k place} found => ?_, fun {diskId disk} found => ?_, trivial⟩
    · exact absurd found (by simp [ManagerState.index, ManagerState.boot])
    · exact absurd found (by simp [ManagerState.index, ManagerState.boot])
  exact run.keeps (ServiceOp.filed accepts) (fun j p there => by cases there) empty

/-- What is filed in a reachable state. -/
theorem Reachable.filed {s : ManagerState} (reachable : Reachable s) :
    FiledAs WellPlaced WellNamed (fun _ => True) s := reachable.filedAs accepts_wellPlaced

theorem Reachable.sound {s : ManagerState} (reachable : Reachable s) : s.index.Sound :=
  sound_of_filed reachable.filed

theorem Reachable.diskIds {s : ManagerState} (reachable : Reachable s) : s.index.DiskIds :=
  diskIds_of_filed reachable.filed

/-- Operations one after another keep things filed. -/
theorem filed_of_runs {s s' : ManagerState} {ops : List ServiceOp}
    (filed : FiledAs WellPlaced WellNamed (fun _ => True) s)
    (run : Runs ServiceOp.prog (fun _ => anyAnswer) s () ops s' ()) :
    FiledAs WellPlaced WellNamed (fun _ => True) s' := by
  refine Runs.invariant (C := fun _ => Contract.free)
    (fun s _ => FiledAs WellPlaced WellNamed (fun _ => True) s) (fun op s _ held => ?_) filed run
  exact wp_mono (fun _ _ _ kept => kept.1) (wp_of_keeps (op.filed accepts_wellPlaced) held)

/-- A disk in memory has the id of a device. -/
theorem Reachable.device {s : ManagerState} (reachable : Reachable s) {diskId : CppString}
    (there : s.diskMap[diskId]?.isSome) :
    ∃ uevent : UeventEnv, uevent.Fits ∧ diskId = diskIdFrom uevent.major uevent.minor := by
  obtain ⟨disk, found⟩ := Option.isSome_iff_exists.mp there
  exact (reachable.filed.getDisk found).device

end

end DiskManager
