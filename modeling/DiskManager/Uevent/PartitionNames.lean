import DiskManager.Manager.TableReport
import DiskManager.Uevent.Repartition

/-!
# Names of partition nodes

`FormatPartition` appends the number of a partition to the path of the disk; discovery builds the
name with `BuildPartitionDevName`, which puts a `p` between for the disks of one kind.

* `namesPartition_iff`: for which names of disks the two agree and follow the kernel.
* `format_names_partition_iff`: from any reachable state, what is formatted is the node of the
  partition exactly for these.
-/

namespace DiskManager

open Interact CppString

/-! ## Names -/

/-- A path is that of partition `p` of a disk, as discovery builds it and as the kernel names it:
the number after a letter, a `p` and the number after a digit. -/
structure NamesPartition (devName : CppString) (p : Nat) (path : CppString) : Prop where
  discovered : path = DEV_BLOCK_PREFIX ++ buildPartitionDevName devName p
  letter : ∀ c ∈ devName.getLast?, c.isAlpha = true →
    path = ("/dev/block/" : CppString) ++ devName ++ ofNat p
  digit : ∀ c ∈ devName.getLast?, c.isDigit = true →
    path = ("/dev/block/" : CppString) ++ devName ++ ("p" : CppString) ++ ofNat p

/-- The name of a disk whose partitions have no `p` before their numbers. -/
structure PlainDevName (devName : CppString) : Prop where
  named : devName ≠ []
  noNvme : startsWith devName "nvme" = false
  noDigit : ∀ c ∈ devName.getLast?, c.isDigit = false

theorem separated_ne (front digits : CppString) :
    front ++ digits ≠ front ++ ("p" : CppString) ++ digits := by
  intro same
  have size := congrArg List.length same
  simp at size

theorem buildPartitionDevName_nvme {devName : CppString} (nvme : startsWith devName "nvme" = true)
    (p : Nat) : buildPartitionDevName devName p = devName ++ ("p" : CppString) ++ ofNat p := by
  cases devName with
  | nil => cases nvme
  | cons c cs =>
      unfold buildPartitionDevName
      rw [List.isEmpty_cons, if_neg Bool.false_ne_true]
      dsimp only
      rw [if_pos nvme]

theorem buildPartitionDevName_plain {devName : CppString} (named : devName ≠ [])
    (noNvme : startsWith devName "nvme" = false) (p : Nat) :
    buildPartitionDevName devName p = devName ++ ofNat p := by
  cases devName with
  | nil => exact absurd rfl named
  | cons c cs =>
      unfold buildPartitionDevName
      rw [List.isEmpty_cons, if_neg Bool.false_ne_true]
      dsimp only
      rw [noNvme, if_neg Bool.false_ne_true]

/-- The number appended to the path of the disk makes the node of the partition exactly for these
names. -/
theorem namesPartition_iff (devName : CppString) (p : Nat) :
    NamesPartition devName p (("/dev/block/" : CppString) ++ devName ++ ofNat p) ↔
      PlainDevName devName := by
  constructor
  · rintro ⟨discovered, -, digit⟩
    refine ⟨?_, ?_, fun c last => ?_⟩
    · rintro rfl
      have alone : buildPartitionDevName [] p = [] := rfl
      rw [alone, List.append_nil, List.append_nil] at discovered
      have size := congrArg List.length discovered
      have pos := List.length_pos_iff.mpr (ofNat_ne_nil p)
      have same : ("/dev/block/" : CppString).length = DEV_BLOCK_PREFIX.length := rfl
      rw [List.length_append] at size
      omega
    · rw [Bool.eq_false_iff]
      intro nvme
      rw [buildPartitionDevName_nvme nvme] at discovered
      refine separated_ne (("/dev/block/" : CppString) ++ devName) (ofNat p) (discovered.trans ?_)
      rw [List.append_assoc, List.append_assoc, List.append_assoc]
      rfl
    · rw [Bool.eq_false_iff]
      exact fun isDigit => separated_ne _ _ (digit c last isDigit)
  · rintro ⟨named, noNvme, noDigit⟩
    refine ⟨?_, fun _ _ _ => rfl, fun c last isDigit => ?_⟩
    · rw [buildPartitionDevName_plain named noNvme, List.append_assoc]
      rfl
    · rw [noDigit c last] at isDigit
      cases isDigit

/-! ## The request -/

/-- The device a request formats a partition on. -/
def Req.formats : Req → Option CppString
  | .formatPartition devPath _ _ _ _ => some devPath
  | _ => none

theorem mild_formats (q : Req) (mild : q.mild = true) : q.formats = none := by
  cases q with
  | formatPartition => cases mild
  | _ => rfl

/-- The disks that operations record have their nodes under the names of their devices. -/
theorem accepts_hasNode :
    Accepts WellPlaced fun diskId disk => disk.diskId = diskId ∧ disk.HasNode where
  ids := accepts_wellPlaced.ids
  volume := accepts_wellPlaced.volume
  crypt := accepts_wellPlaced.crypt
  mtp := accepts_wellPlaced.mtp
  keyed _ _ known := known.1
  copy diskId disk copy known copied := by
    refine ⟨copied.diskId.trans known.1, ?_⟩
    unfold Disk.HasNode
    rw [copied.sysPath, copied.devName]
    exact known.2
  record _ _ _ _ hasNode := ⟨rfl, hasNode⟩

section

variable [JsonLib] {s : ManagerState}

theorem Reachable.hasNode (reachable : Reachable s) {diskId : CppString} {disk : Disk}
    (found : s.diskMap[diskId]? = some disk) : disk.HasNode :=
  ((reachable.filedAs accepts_hasNode).getDisk found).2

/-- A partition is formatted at the path of the disk that is in memory. -/
theorem formats_at_sysPath (diskId : CppString) (partitionNum : Int) (params : FormatParams) :
    wp ⟨anyAnswer, fun _ _ q => ∀ path ∈ q.formats, ∃ disk, s.diskMap[diskId]? = some disk ∧
        path = disk.sysPath ++ ofInt partitionNum, fun _ _ _ => True⟩
      (formatPartition diskId partitionNum params) (fun _ _ _ => True) s () := by
  have shown : wp (.ofEnv anyAnswer) (getDiskById diskId)
      (fun shown s' _ => s' = s ∧ Shows s diskId shown) s () := by
    have looked : wp (.ofEnv anyAnswer) (getDiskById diskId >>= pure)
        (fun shown s' _ => s' = s ∧ Shows s diskId shown) s () :=
      getDiskById_shows (fun _ => rfl) fun _ shows => ⟨rfl, shows⟩
    exact wp_mono (fun _ _ _ ended => ended) (wp_bind.mp looked)
  have other : ∀ {q : Req}, q.formats = none → ∀ path ∈ q.formats, ∃ disk,
      s.diskMap[diskId]? = some disk ∧ path = disk.sysPath ++ ofInt partitionNum := by
    intro q none path formats
    rw [none] at formats
    cases formats
  rw [formatPartition_eq]
  refine wp_seq (wp_with_asks shown (asks_getDiskById (fun _ _ => rfl) diskId) other) ?_
  rintro shown s' w ⟨rfl, shows⟩
  refine wp_with_asks (wp_trivial trivial trivial) (asks_formatShownPartition
    (fun q mild => other (mild_formats q mild)) diskId partitionNum params ?_
    fun _ => other rfl) fun held => held
  intro disk known fsType volumeName cmd quickFormat path formats
  cases formats
  cases shows with
  | none => cases known
  | some extraInfo found =>
      cases known
      exact ⟨_, found, rfl⟩

/-- The node that is formatted is the one discovery uses and the kernel makes exactly for a disk
whose name is plain. -/
theorem format_names_partition_iff (reachable : Reachable s) {diskId : CppString} {p : Nat}
    {params : FormatParams} {q : Req} {next : q.Resp → ManagerProg ErrCode} {s' : ManagerState}
    {w : Unit} {path : CppString}
    (issued : Reach anyAnswer ⟨formatPartition diskId p params, s, ()⟩ ⟨.call q next, s', w⟩)
    (formats : q.formats = some path) :
    ∃ disk, s.diskMap[diskId]? = some disk ∧
      (NamesPartition disk.devName p path ↔ PlainDevName disk.devName) := by
  obtain ⟨disk, found, rfl⟩ := wp_issued (formats_at_sysPath diskId p params) issued path formats
  refine ⟨disk, found, ?_⟩
  have node : disk.sysPath = ("/dev/block/" : CppString) ++ disk.devName := reachable.hasNode found
  have number : ofInt (p : Int) = ofNat p := rfl
  rw [node, number]
  exact namesPartition_iff disk.devName p

end

/-! ## A stick and a card -/

/-- A disk with one partition, and the table that is printed of it. -/
def partitionedAnswer : (q : Req) → q.Resp
  | .getPartitionTableInfo _ => (E_OK, (['\n'] : CppString).intercalate stickLines)
  | q => stickFs q

/-- The card in its slot. -/
def cardUevent : UeventEnv :=
  { action := "add", major := 179, minor := 0
    sysPath := "/sys/devices/mmc_host/mmc0/mmc0:0001/block/mmcblk0", devName := "mmcblk0" }

theorem cardUevent_fits : cardUevent.Fits := ⟨by decide, by decide⟩

/-- A disk is plugged in, its table is read and its volume unmounted. -/
def readyToFormat (plugged : ServiceOp) (diskId volId : CppString) : ManagerState :=
  after (.unmount volId) partitionedAnswer (after (.getPartitionTable diskId) partitionedAnswer
    (after plugged partitionedAnswer .boot))

theorem readyToFormat_settled (plugged : ServiceOp) (diskId volId : CppString) :
    letI := tableJson
    Settled (readyToFormat plugged diskId volId) := by
  let _ := tableJson
  unfold readyToFormat
  exact settled_after _ _ _ (settled_after _ _ _ (settled_after _ _ _ settled_boot))

def stickToFormat : ManagerState := readyToFormat (stickOp .add) "disk-8-0" "vol-8-1"

def cardToFormat : ManagerState :=
  readyToFormat (.uevent ⟨.add, cardUevent, stickDump⟩ cardUevent_fits) "disk-179-0" "vol-179-1"

def vfatParams : FormatParams := { fsType := "vfat", volumeName := "DATA", quickFormat := true }

/-- Formatting the first partition, up to the request. -/
def formatFirst (diskId : CppString) (s : ManagerState) :
    Conf ManagerState Unit Req Req.Resp ErrCode :=
  letI := tableJson
  (formatPartition diskId (1 : Nat) vfatParams).runTo (fun _ q => (partitionedAnswer q, ()))
    (fun q => q.formats.isSome) s ()

def formatsNext (c : Conf ManagerState Unit Req Req.Resp ErrCode) : Option CppString :=
  match c.prog with
  | .call q _ => q.formats
  | _ => none

theorem formatFirst_issues {diskId path : CppString} {s : ManagerState}
    (formats : formatsNext (formatFirst diskId s) = some path) :
    letI := tableJson
    ∃ (q : Req) (next : q.Resp → ManagerProg ErrCode) (s' : ManagerState) (w : Unit),
      Reach anyAnswer ⟨formatPartition diskId (1 : Nat) vfatParams, s, ()⟩ ⟨.call q next, s', w⟩ ∧
        q.formats = some path := by
  let _ := tableJson
  have reach : Reach anyAnswer ⟨formatPartition diskId (1 : Nat) vfatParams, s, ()⟩
      (formatFirst diskId s) := Prog.runTo_reach (fun _ _ _ => trivial) _ _ _ _
  generalize formatFirst diskId s = c at formats reach
  obtain ⟨rest, s', w⟩ := c
  cases rest with
  | done a => cases formats
  | atomic upd next => cases formats
  | call q next => exact ⟨q, next, s', w, reach, formats⟩

theorem stickToFormat_formats :
    formatsNext (formatFirst "disk-8-0" stickToFormat) = some ("/dev/block/sda1" : CppString) := by
  decide +kernel

theorem cardToFormat_formats :
    formatsNext (formatFirst "disk-179-0" cardToFormat) =
        some ("/dev/block/mmcblk01" : CppString) ∧
      cardToFormat.diskMap[("disk-179-0" : CppString)]?.map (·.devName) =
        some ("mmcblk0" : CppString) := by
  decide +kernel

theorem format_names_partition_stick :
    ∃ disk, stickToFormat.diskMap[("disk-8-0" : CppString)]? = some disk ∧
      (NamesPartition disk.devName 1 "/dev/block/sda1" ↔ PlainDevName disk.devName) := by
  let _ := tableJson
  obtain ⟨q, next, s', w, issued, formats⟩ := formatFirst_issues stickToFormat_formats
  exact format_names_partition_iff (readyToFormat_settled _ _ _).reachable issued formats

/-- The partition of the card is formatted at a node that is not there. -/
theorem format_misnames_card :
    letI := tableJson
    ¬ ∀ s, Reachable s → ∀ (diskId : CppString) (p : Nat) (params : FormatParams) (q : Req)
      (next : q.Resp → ManagerProg ErrCode) (s' : ManagerState) (w : Unit) (path : CppString),
      Reach anyAnswer ⟨formatPartition diskId p params, s, ()⟩ ⟨.call q next, s', w⟩ →
      q.formats = some path →
      ∃ disk, s.diskMap[diskId]? = some disk ∧ NamesPartition disk.devName p path := by
  let _ := tableJson
  intro named
  obtain ⟨q, next, s', w, issued, formats⟩ := formatFirst_issues cardToFormat_formats.1
  obtain ⟨disk, found, names⟩ := named cardToFormat (readyToFormat_settled _ _ _).reachable
    "disk-179-0" 1 vfatParams q next s' w _ issued formats
  have devName := cardToFormat_formats.2
  rw [found, Option.map_some, Option.some.injEq] at devName
  rw [devName] at names
  have conventional := names.digit '0' (by decide) (by decide)
  exact absurd conventional (by decide)

end DiskManager
