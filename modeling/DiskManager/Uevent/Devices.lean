import DiskManager.Manager.Daemon
import DiskManager.Uevent.Sync

/-!
# Devices of partitions

Which block device stands for a partition. Device numbers come from three formulas: the minors after
that of the disk, the extended major for partitions from 16 on, and, for a userdata partition, an
offset from the largest minor in use. An internal data disk has a dm-linear device in front of each
partition, unless the daemon cannot make one.
-/

namespace DiskManager

open Interact

/-! ## Names -/

theorem volIdFromDev_injective : Function.Injective volIdFromDev := by
  intro dev dev' same
  unfold volIdFromDev at same
  simp only [List.append_assoc, List.append_cancel_left_eq] at same
  have dash : '-'.isDigit = false := rfl
  obtain ⟨major, rest⟩ := CppString.ofNat_append_inj dash same
  have minor := CppString.ofNat_injective rest
  cases dev
  cases dev'
  cases major
  cases minor
  rfl

theorem diskIdFrom_inj {major minor major' minor' : Nat}
    (same : diskIdFrom major minor = diskIdFrom major' minor') : major = major' ∧ minor = minor' := by
  unfold diskIdFrom at same
  simp only [List.append_assoc, List.append_cancel_left_eq] at same
  have dash : '-'.isDigit = false := rfl
  obtain ⟨rfl, rest⟩ := CppString.ofNat_append_inj dash same
  exact ⟨rfl, CppString.ofNat_injective rest⟩

/-- The numbers of a uevent are `unsigned int`s. -/
structure UeventEnv.Fits (uevent : UeventEnv) : Prop where
  major : uevent.major < 2 ^ 32
  minor : uevent.minor < 2 ^ 32

/-- `ParseDiskIdToMajMin` reads back what `DiskIdFrom` wrote. -/
theorem parseDiskIdToMajMin_diskIdFrom {uevent : UeventEnv} (fits : uevent.Fits) :
    parseDiskIdToMajMin (diskIdFrom uevent.major uevent.minor) = (uevent.major, uevent.minor) := by
  set head : CppString := ("disk-" : CppString) ++ CppString.ofNat uevent.major with headEq
  have shape : diskIdFrom uevent.major uevent.minor = head ++ '-' :: CppString.ofNat uevent.minor := by
    unfold diskIdFrom
    rw [List.append_assoc]
    rfl
  have dash := CppString.rfind_dash_ofNat head uevent.minor
  have major : ((head ++ '-' :: CppString.ofNat uevent.minor).drop 5).take (head.length - 5) =
      CppString.ofNat uevent.major := by
    have long : head.length - 5 = (CppString.ofNat uevent.major).length := by
      rw [headEq, List.length_append]
      exact Nat.add_sub_cancel_left 5 _
    have rest : (head ++ '-' :: CppString.ofNat uevent.minor).drop 5 =
        CppString.ofNat uevent.major ++ '-' :: CppString.ofNat uevent.minor := by
      rw [headEq, List.append_assoc]
      rfl
    rw [long, rest, List.take_left]
  have minor : (head ++ '-' :: CppString.ofNat uevent.minor).drop (head.length + 1) =
      CppString.ofNat uevent.minor := by
    rw [List.drop_length_add_append]
    rfl
  have wide : ∀ {n : Nat}, n < 2 ^ 32 → CppString.strtoul 10 (CppString.ofNat n) % 2 ^ 32 = n := by
    intro n small
    rw [CppString.strtoul_ofNat (Nat.lt_trans small (by decide)), Nat.mod_eq_of_lt small]
  unfold parseDiskIdToMajMin
  rw [shape, dash]
  dsimp only [Option.getD_some]
  rw [major, minor, wide fits.major, wide fits.minor]

/-! ## Different partitions -/

/-- The number of a disk with room for its partitions after it. -/
structure DiskNumber : Type where
  major : Nat
  minor : Nat
  scsi : major ≠ MAJORID_BLKEXT
  aligned : minor % MAX_PARTITION = 0
  majorFits : major < 2 ^ 32
  minorFits : minor < 2 ^ 32
deriving DecidableEq

def DiskNumber.diskId (d : DiskNumber) : CppString := diskIdFrom d.major d.minor

def DiskNumber.partitionDev (d : DiskNumber) (p : PartitionRecord) : Dev :=
  DiskManager.partitionDev d.major d.minor p.partitionNumber

theorem of_mem_dumpParts {dump diskId : CppString} {p : PartitionRecord}
    (mem : p ∈ dumpParts dump diskId) : p.Of diskId := of_parseSgdiskDump mem

/-- The extended numbers forget the disk. -/
theorem DiskNumber.partitionDev_eq_iff (d d' : DiskNumber) {p q : PartitionRecord}
    {diskId diskId' : CppString} (ofDisk : p.Of diskId) (ofDisk' : q.Of diskId') :
    d.partitionDev p = d'.partitionDev q ↔
      p.partitionNumber = q.partitionNumber ∧ (d = d' ∨ 15 < p.partitionNumber) := by
  obtain ⟨-, pos, small⟩ := ofDisk
  obtain ⟨-, pos', small'⟩ := ofDisk'
  obtain ⟨major, minor, scsi, aligned, majorFits, minorFits⟩ := d
  obtain ⟨major', minor', scsi', aligned', majorFits', minorFits'⟩ := d'
  unfold MAJORID_BLKEXT at scsi scsi'
  unfold MAX_PARTITION at aligned aligned'
  simp only [DiskNumber.partitionDev, DiskManager.partitionDev, makedev, DiskNumber.mk.injEq]
  unfold MAX_SCSI_VOLUMES MAX_PARTITION MAJORID_BLKEXT
  split
  next extended =>
    split
    next extended' =>
      simp only [Dev.mk.injEq, true_and]
      omega
    next plain' =>
      simp only [Dev.mk.injEq]
      omega
  next plain =>
    split
    next extended' =>
      simp only [Dev.mk.injEq]
      omega
    next plain' =>
      simp only [Dev.mk.injEq]
      omega

/-! ## Answers -/

/-- One answer for each request. -/
abbrev Replies : Type := (q : Req) → q.Resp

/-- The environment that replies so. -/
def Replies.env (replies : Replies) : Env ManagerState Unit Req Req.Resp :=
  fun _ _ q r _ => r = replies q

/-- The value the program returns. -/
def Replies.result {α : Type} (replies : Replies) (p : ManagerProg α) (s : ManagerState) : α :=
  (p.exec (fun _ q => (replies q, ())) s ()).1

theorem Replies.result_of_wp {α : Type} {replies : Replies} {p : ManagerProg α} {s : ManagerState}
    {P : α → Prop} (pre : wp (.ofEnv replies.env) p (fun a _ _ => P a) s ()) :
    P (replies.result p s) :=
  wp_returns pre (Prog.exec_returns (fun _ _ _ => rfl) p s ())

/-- The dm-linear device of a partition. -/
def Replies.linearDev (replies : Replies) (devName : CppString) (n : Nat) : Option Dev :=
  let partDevName := buildPartitionDevName devName n
  let size := replies (.getDiskSize (devName ++ "/" ++ partDevName))
  let made := replies (.createDmLinear (DEV_BLOCK_PREFIX ++ partDevName) 0
    (size.2 / SECTOR_SIZE - dmReservedSectors))
  if size.1 ≠ E_OK ∨ size.2 / SECTOR_SIZE ≤ dmReservedSectors ∨ made.1 ≠ E_OK ∨
    made.2 = makedev 0 0 then none
  else some made.2

/-- The device `ResolvePartitionDev` gives. -/
def Replies.selects (replies : Replies) (s : ManagerState) (uevent : UeventEnv) (diskId : CppString)
    (p : PartitionRecord) (isUserData : Bool) : Dev :=
  replies.result (resolvePartitionDev uevent diskId p isUserData) s

/-- The largest minor number of a volume with an extended number. -/
def Replies.maxMinor (replies : Replies) : Int :=
  maxMinorAmong MAJORID_BLKEXT (replies .blockNodes)

section Wp

variable {replies : Replies} {s : ManagerState} {β : Type} {post : β → ManagerState → Unit → Prop}

theorem Replies.createDmLinearForPartition_bind {devName : CppString} {n : Nat}
    {f : Dev → ManagerProg β}
    (rest : wp (.ofEnv replies.env) (f ((replies.linearDev devName n).getD (makedev 0 0))) post s ()) :
    wp (.ofEnv replies.env) (createDmLinearForPartition devName n >>= f) post s () := by
  unfold Replies.linearDev at rest
  dsimp only at rest
  rw [createDmLinearForPartition, wp_bind]
  refine wp_called_bind fun size _ answered => ?_
  cases answered
  dsimp only
  split
  next failed =>
    rw [if_pos ?_] at rest
    · exact rest
    · rcases failed with failed | empty
      · exact .inl failed
      · rw [empty]
        exact .inr (.inl (Nat.zero_le _))
  next read =>
    have read := not_or.mp read
    split
    next small =>
      rw [if_pos (.inr (.inl small))] at rest
      exact rest
    next large =>
      refine wp_called_bind fun made _ answered => ?_
      cases answered
      split
      next failed =>
        rw [if_pos (.inr (.inr failed))] at rest
        exact rest
      next ok =>
        rw [if_neg ?_] at rest
        · exact rest
        · rintro (failed | small | failed)
          · exact read.1 failed
          · exact large small
          · exact ok failed

end Wp

theorem Replies.linearDev_ne {replies : Replies} {devName : CppString} {n : Nat} {dev : Dev}
    (made : replies.linearDev devName n = some dev) : dev ≠ makedev 0 0 := by
  unfold Replies.linearDev at made
  dsimp only at made
  split at made
  · cases made
  next ok =>
    cases made
    exact fun zero => ok (.inr (.inr (.inr zero)))

/-- The dm-linear device of an internal data disk, else the plain one. -/
theorem Replies.selects_eq (replies : Replies) (s : ManagerState) (uevent : UeventEnv)
    (diskId : CppString) (p : PartitionRecord) (isUserData : Bool) :
    replies.selects s uevent diskId p isUserData =
      (if s.index.internal diskId then replies.linearDev uevent.devName p.partitionNumber
        else none).getD (plainDev uevent replies.maxMinor isUserData p) := by
  have plain : wp (.ofEnv replies.env) (do
      if isUserData then
        return userDataDev (← getMaxMinor MAJORID_BLKEXT) p.partitionNumber
      return partitionDev uevent.major uevent.minor p.partitionNumber)
      (fun dev _ _ => dev = plainDev uevent replies.maxMinor isUserData p) s () := by
    cases isUserData with
    | true =>
        refine getMaxMinor_bind fun nodes _ answered => ?_
        cases answered
        exact rfl
    | false => exact rfl
  refine Replies.result_of_wp (P := fun dev => dev = Option.getD _ _) ?_
  rw [resolvePartitionDev]
  refine isInternalDataDiskById_bind fun _ => ?_
  cases internal : s.diskMap[diskId]?.any (·.isInternalDataDisk) with
  | false =>
      have external : s.index.internal diskId = false := internal
      rw [external]
      exact plain
  | true =>
      have internal : s.index.internal diskId = true := internal
      rw [if_pos internal]
      refine Replies.createDmLinearForPartition_bind ?_
      cases made : replies.linearDev uevent.devName p.partitionNumber with
      | none =>
          rw [Option.getD_none, if_neg fun some' => some' rfl]
          exact plain
      | some dev =>
          rw [Option.getD_some, if_pos (Replies.linearDev_ne made)]
          exact rfl

/-! ## The minor is computed -/

/-- What 16 or 15 is taken from in the computation of the minor, as an `unsigned int`; the minor
itself where nothing is. -/
def minuend (uevent : UeventEnv) (maxMinor : Int) (isUserData : Bool) (p : PartitionRecord) : Nat :=
  if isUserData then
    if maxMinor = -1 then p.partitionNumber
    else ((maxMinor % 2 ^ 32).toNat + p.partitionNumber) % 2 ^ 32
  else if p.partitionNumber > MAX_SCSI_VOLUMES then p.partitionNumber
  else (uevent.minor + p.partitionNumber) % 2 ^ 32

/-- There is enough to take it from, for a userdata partition. -/
def UserDataRoom (maxMinor : Int) (p : PartitionRecord) : Prop :=
  if maxMinor = -1 then 16 ≤ p.partitionNumber else 15 ≤ (maxMinor + p.partitionNumber) % 2 ^ 32

/-- An unsigned subtraction wraps when its result is larger than what it started from. -/
theorem plainDev_minor_le_iff {uevent : UeventEnv} {maxMinor : Int} {isUserData : Bool}
    {p : PartitionRecord} {diskId : CppString} (ofDisk : p.Of diskId) :
    (plainDev uevent maxMinor isUserData p).minor ≤ minuend uevent maxMinor isUserData p ↔
      (isUserData = true → UserDataRoom maxMinor p) := by
  obtain ⟨-, pos, small⟩ := ofDisk
  cases isUserData with
  | false =>
      refine ⟨fun _ user => absurd user (by decide), fun _ => ?_⟩
      simp only [plainDev, partitionDev, makedev, minuend, Bool.false_eq_true, if_false]
      split
      · exact Nat.le_trans (Nat.mod_le _ _) (Nat.sub_le _ _)
      · exact Nat.le_refl _
  | true =>
      simp only [plainDev, userDataDev, makedev, minuend, UserDataRoom, if_true, true_implies]
      unfold MAX_PARTITION MAX_INTERVAL_PARTITION
      split
      next first =>
        dsimp only
        omega
      next later =>
        dsimp only
        omega

/-- The device of the partition is computed: there is no dm-linear device. -/
def Replies.Computes (replies : Replies) (s : ManagerState) (uevent : UeventEnv)
    (diskId : CppString) (p : PartitionRecord) : Prop :=
  s.index.internal diskId = true → replies.linearDev uevent.devName p.partitionNumber = none

theorem Replies.selects_of_computes {replies : Replies} {s : ManagerState} {uevent : UeventEnv}
    {diskId : CppString} {p : PartitionRecord} (computes : replies.Computes s uevent diskId p)
    (isUserData : Bool) : replies.selects s uevent diskId p isUserData =
      plainDev uevent replies.maxMinor isUserData p := by
  rw [replies.selects_eq]
  split
  next internal =>
    rw [computes internal]
    rfl
  · rfl

/-- Two partitions have different devices unless they have the same number above 15 on two disks, and
the minor of a partition does not wrap unless it is a userdata partition with too small a number. -/
theorem partition_devices_iff (d d' : DiskNumber) {dump dump' : CppString} {p q : PartitionRecord}
    (mem : p ∈ dumpParts dump d.diskId) (mem' : q ∈ dumpParts dump' d'.diskId) (replies : Replies)
    (s : ManagerState) (uevent : UeventEnv) (isUserData : Bool) :
    (((d, p.partitionNumber) ≠ (d', q.partitionNumber) → d.partitionDev p ≠ d'.partitionDev q ∧
        volIdFromDev (d.partitionDev p) ≠ volIdFromDev (d'.partitionDev q)) ↔
      ¬ (d ≠ d' ∧ p.partitionNumber = q.partitionNumber ∧ 15 < p.partitionNumber)) ∧
    ((replies.Computes s uevent d.diskId p →
        (replies.selects s uevent d.diskId p isUserData).minor ≤
          minuend uevent replies.maxMinor isUserData p) ↔
      (replies.Computes s uevent d.diskId p → isUserData = true →
        UserDataRoom replies.maxMinor p)) := by
  have ofDisk := of_mem_dumpParts mem
  have same := d.partitionDev_eq_iff d' ofDisk (of_mem_dumpParts mem')
  refine ⟨⟨fun distinct bad => ?_, fun good differ => ?_⟩, forall_congr' fun computes => ?_⟩
  · have differ : (d, p.partitionNumber) ≠ (d', q.partitionNumber) :=
      fun eq => bad.1 (Prod.mk.inj eq).1
    exact (distinct differ).1 (same.mpr ⟨bad.2.1, .inr bad.2.2⟩)
  · have devs : d.partitionDev p ≠ d'.partitionDev q := by
      intro eq
      obtain ⟨number, disk⟩ := same.mp eq
      rcases Classical.em (d = d') with eqDisk | ne
      · exact differ (Prod.ext eqDisk number)
      · exact good ⟨ne, number, disk.resolve_left ne⟩
    exact ⟨devs, fun ids => devs (volIdFromDev_injective ids)⟩
  · rw [replies.selects_of_computes computes]
    exact plainDev_minor_le_iff ofDisk

/-- `/dev/sda`. -/
def sda : DiskNumber := ⟨8, 0, by decide, by decide, by decide, by decide⟩

/-- `/dev/sdb`. -/
def sdb : DiskNumber := ⟨8, 16, by decide, by decide, by decide, by decide⟩

theorem partition_devices_first : sda.partitionDev ⟨sda.diskId, 1, "gpt", []⟩ ≠
      sdb.partitionDev ⟨sdb.diskId, 1, "gpt", []⟩ ∧
    volIdFromDev (sda.partitionDev ⟨sda.diskId, 1, "gpt", []⟩) ≠
      volIdFromDev (sdb.partitionDev ⟨sdb.diskId, 1, "gpt", []⟩) := by
  have listed : (⟨sda.diskId, 1, "gpt", []⟩ : PartitionRecord) ∈
      dumpParts "DISK gpt\nPART 1" sda.diskId := by decide +kernel
  have listed' : (⟨sdb.diskId, 1, "gpt", []⟩ : PartitionRecord) ∈
      dumpParts "DISK gpt\nPART 1" sdb.diskId := by decide +kernel
  refine (partition_devices_iff sda sdb listed listed' (okAnswer ∅) .boot {} false).1.mpr ?_ ?_
  · exact fun bad => absurd bad.2.2 (by decide)
  · decide +kernel

/-- The partitions 16 of two disks are one device. -/
theorem partition_devices_collide : sda ≠ sdb ∧
    (⟨sda.diskId, 16, "gpt", []⟩ : PartitionRecord) ∈ dumpParts "DISK gpt\nPART 16" sda.diskId ∧
    (⟨sdb.diskId, 16, "gpt", []⟩ : PartitionRecord) ∈ dumpParts "DISK gpt\nPART 16" sdb.diskId ∧
    sda.partitionDev ⟨sda.diskId, 16, "gpt", []⟩ = sdb.partitionDev ⟨sdb.diskId, 16, "gpt", []⟩ ∧
    volIdFromDev (sda.partitionDev ⟨sda.diskId, 16, "gpt", []⟩) =
      volIdFromDev (sdb.partitionDev ⟨sdb.diskId, 16, "gpt", []⟩) := by
  decide +kernel

/-! ## Rediscovery -/

/-- The daemon has no device in front of the partition but the plain one: its size cannot be read or
leaves nothing after the reserve, or no mapping can be made, or the mapping is that device. -/
def Replies.PlainOnly (replies : Replies) (devName : CppString) (n : Nat) (plain : Dev) : Prop :=
  let partDevName := buildPartitionDevName devName n
  let size := replies (.getDiskSize (devName ++ "/" ++ partDevName))
  let made := replies (.createDmLinear (DEV_BLOCK_PREFIX ++ partDevName) 0
    (size.2 / SECTOR_SIZE - dmReservedSectors))
  size.1 ≠ E_OK ∨ size.2 / SECTOR_SIZE ≤ dmReservedSectors ∨ made.1 ≠ E_OK ∨
    made.2 = makedev 0 0 ∨ made.2 = plain

theorem Replies.linearDev_getD_eq_iff (replies : Replies) (devName : CppString) (n : Nat)
    (plain : Dev) :
    (replies.linearDev devName n).getD plain = plain ↔ replies.PlainOnly devName n plain := by
  unfold Replies.linearDev Replies.PlainOnly
  dsimp only
  split
  next none =>
    refine ⟨fun _ => ?_, fun _ => rfl⟩
    rcases none with unread | small | failed | zero
    · exact .inl unread
    · exact .inr (.inl small)
    · exact .inr (.inr (.inl failed))
    · exact .inr (.inr (.inr (.inl zero)))
  next made =>
    simp only [not_or] at made
    refine ⟨fun same => .inr (.inr (.inr (.inr same))), ?_⟩
    rintro (unread | small | failed | zero | same)
    · exact absurd unread made.1
    · exact absurd small made.2.1
    · exact absurd failed made.2.2.1
    · exact absurd zero made.2.2.2
    · exact same

/-- Without the name of the disk there is no size to read. -/
def Replies.NamelessUnsized (replies : Replies) : Prop :=
  (replies (.getDiskSize "/")).1 ≠ E_OK ∨ (replies (.getDiskSize "/")).2 = 0

theorem Replies.linearDev_nameless {replies : Replies} (unsized : replies.NamelessUnsized) (n : Nat) :
    replies.linearDev [] n = none := by
  unfold Replies.linearDev
  refine if_pos ?_
  rcases unsized with unread | empty
  · exact .inl unread
  · refine .inr (.inl ?_)
    change (replies (.getDiskSize "/")).2 / SECTOR_SIZE ≤ dmReservedSectors
    rw [empty]
    exact Nat.zero_le _

/-- The uevent made up for the rediscovery has the numbers of the disk and no name. -/
theorem rediscoverEnv_diskIdFrom {uevent : UeventEnv} (fits : uevent.Fits) :
    rediscoverEnv (diskIdFrom uevent.major uevent.minor) =
      { action := "change", major := uevent.major, minor := uevent.minor } := by
  rw [rediscoverEnv, parseDiskIdToMajMin_diskIdFrom fits]

/-- Rediscovery selects the device an event of the disk selects where that is the plain one. -/
theorem rediscovery_selects_iff (replies : Replies) (unsized : replies.NamelessUnsized)
    {s s' : ManagerState} {uevent : UeventEnv} (fits : uevent.Fits) {diskId : CppString}
    (id : diskId = diskIdFrom uevent.major uevent.minor) (internal : s.index.internal diskId = true)
    (internal' : s'.index.internal diskId = true) (p : PartitionRecord) (isUserData : Bool) :
    (replies.selects s (rediscoverEnv diskId) diskId p isUserData =
        replies.selects s' uevent diskId p isUserData ∧
      volIdFromDev (replies.selects s (rediscoverEnv diskId) diskId p isUserData) =
        volIdFromDev (replies.selects s' uevent diskId p isUserData)) ↔
      replies.PlainOnly uevent.devName p.partitionNumber
        (plainDev uevent replies.maxMinor isUserData p) := by
  have rediscovered : replies.selects s (rediscoverEnv diskId) diskId p isUserData =
      plainDev uevent replies.maxMinor isUserData p := by
    rw [replies.selects_eq, if_pos internal, id, rediscoverEnv_diskIdFrom fits]
    dsimp only
    rw [Replies.linearDev_nameless unsized]
    rfl
  rw [rediscovered, replies.selects_eq, if_pos internal', ← replies.linearDev_getD_eq_iff]
  refine ⟨fun same => same.1.symm, fun same => ?_⟩
  rw [same]
  exact ⟨rfl, rfl⟩

/-- The event of an NVMe disk. -/
def nvmeEvent : UeventEnv :=
  { action := "change", major := 259, minor := 0, sysPath := "/sys/block/nvme0n1"
    devName := "nvme0n1" }

/-- The NVMe disk is recorded as an internal data disk. -/
def nvmeState : ManagerState :=
  { ManagerState.boot with
    diskMap := (∅ : StdMap Disk).insert "disk-259-0"
      (.create "disk-259-0" 0 "nvme0n1" DATA_DISK_SSD) }

/-- Its first partition has this size, and a mapping can be made for every device. -/
def nvmeReplies (bytes : Nat) : Replies
  | .getDiskSize name => if name = "nvme0n1/nvme0n1p1" then (E_OK, bytes) else (E_DISK_NOT_FOUND, 0)
  | .createDmLinear .. => (E_OK, makedev 252 0)
  | q => okAnswer ∅ q

/-- A partition of 16 MB has no room for the reserve, so both paths take the plain device. -/
theorem rediscovery_selects_small :
    (nvmeReplies (16 * BYTES_PER_MB)).selects nvmeState (rediscoverEnv "disk-259-0") "disk-259-0"
        ⟨"disk-259-0", 1, "gpt", []⟩ false =
      (nvmeReplies (16 * BYTES_PER_MB)).selects nvmeState nvmeEvent "disk-259-0"
        ⟨"disk-259-0", 1, "gpt", []⟩ false := by
  have fits : nvmeEvent.Fits := ⟨by decide, by decide⟩
  have internal : nvmeState.index.internal "disk-259-0" = true := by decide +kernel
  have unsized : (nvmeReplies (16 * BYTES_PER_MB)).NamelessUnsized := .inl (by decide +kernel)
  have small : (nvmeReplies (16 * BYTES_PER_MB)).PlainOnly "nvme0n1" 1
      (plainDev nvmeEvent (nvmeReplies (16 * BYTES_PER_MB)).maxMinor false
        ⟨"disk-259-0", 1, "gpt", []⟩) := .inr (.inl (by decide +kernel))
  exact ((rediscovery_selects_iff _ unsized fits (by decide +kernel) internal internal
    ⟨"disk-259-0", 1, "gpt", []⟩ false).mpr small).1

/-- A partition of 1 GB is formatted on its plain device and mounted on the mapped one later. -/
theorem rediscovery_selects_other :
    (nvmeReplies (1024 * BYTES_PER_MB)).selects nvmeState (rediscoverEnv "disk-259-0") "disk-259-0"
        ⟨"disk-259-0", 1, "gpt", []⟩ false = makedev 259 1 ∧
      (nvmeReplies (1024 * BYTES_PER_MB)).selects nvmeState nvmeEvent "disk-259-0"
        ⟨"disk-259-0", 1, "gpt", []⟩ false = makedev 252 0 ∧
      volIdFromDev (makedev 259 1) ≠ volIdFromDev (makedev 252 0) := by
  decide +kernel

end DiskManager
