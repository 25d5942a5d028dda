import DiskManager.Interact.Frame
import DiskManager.Manager.Repair
import DiskManager.Voldata.Reservation

/-!
# The daemon and the mount table

What is assumed of storage_daemon: a successful `Mount` makes the device mounted at the path, a
successful `Unmount` removes what is mounted at the path, and nothing else changes the table.
`Answers` says which results the outside gives; `daemonContract answers` runs an operation against
all of them and asks that a request which works on a device finds it without a mount.
-/

namespace DiskManager

open Interact

/-- What is mounted: device and mount point. -/
abbrev MountTable : Type := List (CppString × CppString)

namespace MountTable

def mounted (w : MountTable) (dev : CppString) : Prop := ∃ path, (dev, path) ∈ w

/-- The device is mounted at `path` and nowhere else. -/
def mountedAt (w : MountTable) (dev path : CppString) : Prop :=
  (dev, path) ∈ w ∧ ∀ other, (dev, other) ∈ w → other = path

/-- The table after request `q` was answered with `r`. -/
def after (w : MountTable) : (q : Req) → q.Resp → MountTable
  | .mount devPath mountPath _ _ _, err => if err = E_OK then (devPath, mountPath) :: w else w
  | .unmount mountPath _ _, err => if err = E_OK then w.filter fun m => m.2 ≠ mountPath else w
  | _, _ => w

section

variable {w : MountTable} {devPath mountPath fsType mountData : CppString} {mountFlag : Nat}
  {force : Bool} {err : ErrCode}

theorem after_mount :
    w.after (.mount devPath mountPath fsType mountFlag mountData) E_OK = (devPath, mountPath) :: w :=
  rfl

theorem after_mount_failed (failed : err ≠ E_OK) :
    w.after (.mount devPath mountPath fsType mountFlag mountData) err = w := if_neg failed

theorem after_unmount :
    w.after (.unmount mountPath fsType force) E_OK = w.filter fun m => m.2 ≠ mountPath := rfl

theorem after_unmount_failed (failed : err ≠ E_OK) :
    w.after (.unmount mountPath fsType force) err = w := if_neg failed

end

theorem mounted_of_mountedAt {w : MountTable} {dev path : CppString}
    (at' : w.mountedAt dev path) : w.mounted dev := ⟨path, at'.1⟩

/-- A mount of a device that is not mounted. -/
theorem mountedAt_cons {w : MountTable} {dev path : CppString} (free : ¬ w.mounted dev) :
    mountedAt ((dev, path) :: w) dev path := by
  refine ⟨List.mem_cons_self, fun other mem => ?_⟩
  rcases List.mem_cons.mp mem with same | old
  · cases same
    rfl
  · exact absurd ⟨other, old⟩ free

/-- An unmount only removes entries. -/
theorem mounted_of_after_unmount {w : MountTable} {path fsType dev : CppString} {force : Bool}
    {err : ErrCode} (still : (w.after (.unmount path fsType force) err).mounted dev) :
    w.mounted dev := by
  obtain ⟨p, mem⟩ := still
  simp only [after] at mem
  split at mem
  · exact ⟨p, (List.mem_filter.mp mem).1⟩
  · exact ⟨p, mem⟩

/-- The unmount of its only mount point leaves a device without a mount. -/
theorem not_mounted_filter {w : MountTable} {dev path : CppString} (at' : w.mountedAt dev path) :
    ¬ mounted (w.filter fun m => m.2 ≠ path) dev := by
  rintro ⟨p, mem⟩
  have kept := List.mem_filter.mp mem
  have same := at'.2 p kept.1
  simp [same] at kept

end MountTable

/-- The device a request works on and that must not be mounted meanwhile. -/
def Req.device : Req → Option CppString
  | .mount devPath _ _ _ _ => some devPath
  | .formatVolume devPath _ _ _ _ => some devPath
  | .check devPath _ => some devPath
  | .repair devPath _ => some devPath
  | .destroyBlockDeviceNode devPath => some devPath
  | _ => none

/-- A request that neither works on a device nor changes the table. -/
def Req.quiet : Req → Bool
  | .mount _ _ _ _ _ => false
  | .unmount _ _ _ => false
  | .formatVolume _ _ _ _ _ => false
  | .check _ _ => false
  | .repair _ _ => false
  | .destroyBlockDeviceNode _ => false
  | _ => true

/-- The results the outside may give. -/
abbrev Answers : Type := MountTable → (q : Req) → q.Resp → Prop

def daemonEnv (answers : Answers) : Env ManagerState MountTable Req Req.Resp :=
  fun _ w q r w' => answers w q r ∧ w' = w.after q r

/-- The device a request works on has no mount. -/
def Req.idle (q : Req) (w : MountTable) : Prop := ∀ dev ∈ q.device, ¬ w.mounted dev

def daemonContract (answers : Answers) : Contract ManagerState MountTable Req Req.Resp :=
  ⟨daemonEnv answers, fun _ w q => q.idle w, fun _ _ _ => True⟩

theorem Req.quiet_device {q : Req} (quiet : q.quiet = true) : q.device = none := by
  cases q <;> first | rfl | cases quiet

theorem MountTable.after_quiet {w : MountTable} {q : Req} (quiet : q.quiet = true) (r : q.Resp) :
    w.after q r = w := by
  cases q <;> first | rfl | cases quiet

theorem Req.idle_of_quiet {q : Req} (quiet : q.quiet = true) (w : MountTable) : q.idle w := by
  rw [Req.idle, Req.quiet_device quiet]
  exact fun _ mem => by cases mem

theorem Req.idle_unmount {mountPath fsType : CppString} {force : Bool} {w : MountTable} :
    (Req.unmount mountPath fsType force).idle w := fun _ mem => by cases mem

/-! ## Rules -/

section Rules

variable {answers : Answers} {s : ManagerState} {w : MountTable} {α : Type}
  {post : α → ManagerState → MountTable → Prop}

theorem wp_call {q : Req} {post : q.Resp → ManagerState → MountTable → Prop} :
    wp (daemonContract answers) (call q) post s w ↔
      q.idle w ∧ ∀ r, answers w q r → post r s (w.after q r) := by
  rw [call, wp_request]
  refine and_congr_right fun _ => ⟨fun all r ans => all r _ ⟨ans, rfl⟩, fun all => ?_⟩
  rintro r _ ⟨ans, rfl⟩
  exact all r ans

theorem wp_quiet {q : Req} {post : q.Resp → ManagerState → MountTable → Prop}
    (quiet : q.quiet = true) :
    wp (daemonContract answers) (call q) post s w ↔ ∀ r, answers w q r → post r s w := by
  rw [wp_call]
  simp only [Req.idle_of_quiet quiet w, MountTable.after_quiet quiet, true_and]

/-- A request whose result nothing depends on. -/
theorem wp_quiet_bind {q : Req} {f : q.Resp → ManagerProg α} (quiet : q.quiet = true)
    (rest : ∀ r, answers w q r → wp (daemonContract answers) (f r) post s w) :
    wp (daemonContract answers) (call q >>= f) post s w :=
  wp_bind.mpr ((wp_quiet quiet).mpr rest)

/-- A request that works on a device without a mount and leaves the table as it is. -/
theorem wp_device_bind {q : Req} {f : q.Resp → ManagerProg α} {dev : CppString}
    (works : q.device = some dev) (keeps : ∀ r, w.after q r = w) (free : ¬ w.mounted dev)
    (rest : ∀ r, answers w q r → wp (daemonContract answers) (f r) post s w) :
    wp (daemonContract answers) (call q >>= f) post s w := by
  rw [wp_bind, wp_call]
  refine ⟨fun d mem => ?_, fun r ans => ?_⟩
  · rw [works] at mem
    cases mem
    exact free
  · rw [keeps]
    exact rest r ans

theorem wp_updateVolume_bind {volumeId : CppString} {g : VolumeExternal → VolumeExternal}
    {f : Unit → ManagerProg α}
    (rest : wp (daemonContract answers) (f ()) post (s.updateVolume volumeId g) w) :
    wp (daemonContract answers) (updateVolume volumeId g >>= f) post s w :=
  wp_bind.mpr ⟨trivial, rest⟩

theorem wp_read_bind {β : Type} {g : ManagerState → β} {f : β → ManagerProg α}
    (rest : wp (daemonContract answers) (f (g s)) post s w) :
    wp (daemonContract answers) (Prog.read g >>= f) post s w :=
  wp_bind.mpr ⟨trivial, rest⟩

/-- An operation of the store changes nothing but the store. -/
theorem wp_onStore {p : StoreProg α} {mid : α → StoreState → Prop}
    (inner : wp Contract.free p (fun a t _ => mid a t) s.voldata ())
    (done : ∀ a t, mid a t → post a { s with voldata := t } w) :
    wp (daemonContract answers) (onStore p) post s w := by
  refine wp_lift (fun _ _ => rfl) (fun _ _ _ => rfl) (fun _ => rfl) ?_ ?_ ?_ inner done
  · rintro s w q r w' ⟨-, rfl⟩
    rfl
  · intro s w q
    exact Req.idle_of_quiet rfl w
  · exact trivial

end Rules

/-! ## Deterministic daemons -/

/-- A daemon whose results depend on the table and the request. -/
def daemon (answer : MountTable → (q : Req) → q.Resp) (w : MountTable) (q : Req) :
    q.Resp × MountTable :=
  (answer w q, w.after q (answer w q))

/-- The results of such a daemon. -/
def Answers.of (answer : MountTable → (q : Req) → q.Resp) : Answers := fun w q r => r = answer w q

theorem daemon_obeys (answer : MountTable → (q : Req) → q.Resp) (s : ManagerState)
    (w : MountTable) (q : Req) :
    daemonEnv (.of answer) s w q (daemon answer w q).1 (daemon answer w q).2 := ⟨rfl, rfl⟩

/-- A file system that holds nothing and takes every write. -/
def emptyFileAnswer : (q : FileReq) → q.Resp
  | .exists _ => false
  | .read _ => none
  | .createDirectories _ => true
  | .openTrunc _ => true
  | .writeClose _ _ => true
  | .fsync _ => ()
  | .rename _ _ => true
  | .remove _ => ()
  | .iterate m => m.toList

theorem emptyFileAnswer_answered (q : FileReq) : q.answered true (emptyFileAnswer q) := by
  cases q with
  | iterate m => exact List.Perm.refl _
  | createDirectories | openTrunc | writeClose | rename => exact fun _ => rfl
  | _ => trivial

/-- Every call succeeds, and there is nothing to know. -/
def okAnswer (_ : MountTable) : (q : Req) → q.Resp
  | .mount .. => E_OK
  | .unmount .. => E_OK
  | .formatVolume .. => E_OK
  | .check .. => E_OK
  | .repair .. => E_OK
  | .setLabel .. => E_OK
  | .readMetadata _ => ⟨E_OK, [], [], []⟩
  | .queryUsbIsInUse _ => (E_OK, false)
  | .mountFuseDevice _ => (E_OK, 0)
  | .getCapacity _ => (E_OK, 0, 0)
  | .createBlockDeviceNode .. => E_OK
  | .destroyBlockDeviceNode _ => E_OK
  | .readPartitionTable _ => (E_OK, [])
  | .getDiskSize _ => (E_OK, 0)
  | .createDmLinear .. => (E_OK, ⟨0, 0⟩)
  | .partition .. => E_OK
  | .formatPartition .. => E_OK
  | .getPartitionTableInfo _ => (E_OK, [])
  | .createPartition .. => E_OK
  | .deletePartition .. => E_OK
  | .executeCommand _ => (E_OK, [])
  | .queryCDStatus _ => (E_OK, 0)
  | .eject _ => E_OK
  | .burn .. => E_OK
  | .isUsbFuseEnabledForFsType _ => false
  | .notifyUsbFuseMount .. => E_OK
  | .notifyUsbFuseUmount _ => E_OK
  | .notifyVolumeMounted .. => ()
  | .queryEncryptionExtraInfo .. => none
  | .isEdmControlMountEnabled .. => false
  | .isEdmEnableOddBurn .. => true
  | .reportBurnSecurityInfo .. => E_OK
  | .tryCopyBlockInfo _ => none
  | .readExtDiskInfo _ => none
  | .getParameter _ => []
  | .usbReadonly => false
  | .isPathMounted _ => false
  | .statvfs _ => none
  | .friendlyName _ => none
  | .readUsbInfo .. => {}
  | .configFlag _ => none
  | .blockNodes => none
  | .randomUuid _ => []
  | .publishVolumeChange .. => ()
  | .publishVolumeResult .. => ()
  | .publishVolumeAbnormal .. => ()
  | .publishDiskMounted _ => ()
  | .publishDiskRemoved _ => ()
  | .publishDiskAbnormal .. => ()
  | .file q => emptyFileAnswer q

/-! ## Block volumes and plain answers -/

/-- The type of a volume on a block device. -/
def FsType.block (fsType : FsType) : Prop := fsType ≠ .mtp ∧ fsType ≠ .ptp

instance (fsType : FsType) : Decidable fsType.block :=
  inferInstanceAs (Decidable (fsType ≠ .mtp ∧ fsType ≠ .ptp))

/-- FUSE is switched off and block devices hold no MTP or PTP file system. -/
structure PlainAnswers (answers : Answers) : Prop where
  fuse {w : MountTable} {fsType : CppString} {r : Bool} :
    answers w (.isUsbFuseEnabledForFsType fsType) r → r = false
  metadata {w : MountTable} {devPath : CppString} {r : Metadata} :
    answers w (.readMetadata devPath) r → (getFsTypeByStr r.type).block

/-- A mount path that is not a FUSE data path. -/
def PlainPath (path : CppString) : Prop :=
  path ≠ [] ∧ CppString.startsWith path EXTERNAL_FUSE_DATA_ROOT = false

/-- Which root a path is under is decided by the bytes the two roots share. -/
theorem startsWith_append_eq_false {root other suffix : CppString}
    (long : root.length ≤ other.length) (apart : root.isPrefixOf other = false) :
    CppString.startsWith (root ++ suffix) other = false := by
  rw [CppString.startsWith, ← Bool.not_eq_true, List.isPrefixOf_iff_prefix]
  intro under
  have shared := List.prefix_of_prefix_length_le (List.prefix_append root suffix) under long
  rw [List.isPrefixOf_iff_prefix.mpr shared] at apart
  cases apart

theorem plainPath_append {root suffix : CppString} (some' : root ≠ [])
    (long : root.length ≤ EXTERNAL_FUSE_DATA_ROOT.length)
    (apart : root.isPrefixOf EXTERNAL_FUSE_DATA_ROOT = false) : PlainPath (root ++ suffix) :=
  ⟨by simp [some'], startsWith_append_eq_false long apart⟩

theorem plainPath_external (suffix : CppString) : PlainPath (EXTERNAL_MOUNT_ROOT ++ suffix) :=
  plainPath_append (by decide) (by decide) (by decide)

theorem plainPath_dvr (suffix : CppString) : PlainPath (EXTERNAL_DVR_ROOT ++ suffix) :=
  plainPath_append (by decide) (by decide) (by decide)

theorem plainPath_voldata {path : CppString}
    (under : CppString.startsWith path VOLDATA_MOUNT_PREFIX = true) : PlainPath path := by
  obtain ⟨suffix, rfl⟩ := List.isPrefixOf_iff_prefix.mp under
  exact plainPath_append (by decide) (by decide) (by decide)

end DiskManager
