import DiskManager.Innerkits.Parcelable
import DiskManager.Uevent.Repartition

/-!
# What the queries send

`GetAllDisks`, `GetDiskById`, `GetAllVolumes` and `GetExternalDiskInfos` copy the records into
objects, and the objects are written for the client. The reading refuses long strings and long
lists, and the writing of these classes writes them.

* `ManagerState.WithinLimits`: no record is over what a client accepts.
* `sent_is_received_iff`: in every state the service can reach, every object the queries send is
  accepted if the records are within the limits, and only then.
-/

namespace DiskManager

open Interact Parcels Innerkits

/-! ## Objects of the records -/

/-- `static_cast<int32_t>(state)`. The enumerators are in the order of their values. -/
def VolumeState.value (state : VolumeState) : Int32 := Int32.ofNat state.ctorIdx

/-- `static_cast<int32_t>(fsType)`; `UNDEFINED` is -1. -/
def FsType.value (fsType : FsType) : Int32 := Int32.ofNat fsType.ctorIdx - 1

def Disk.object (disk : Disk) : Innerkits.Disk where
  diskId := disk.diskId
  sizeBytes := Int64.ofInt disk.sizeBytes
  diskType := Int32.ofNat disk.diskType
  removable := disk.removable
  volumeIds := disk.volumeIds
  extraInfo := disk.extraInfo
  cdromState := disk.cdromState
  isUsbBus := disk.isUsbBus
  sysPath := disk.sysPath
  devName := disk.devName
  vendor := disk.vendor
  partitionType := disk.partitionType
  vendorId := Int32.ofInt disk.vendorId
  productId := Int32.ofInt disk.productId
  serialNumber := disk.serialNumber
  busnum := Int32.ofInt disk.busnum
  devAddress := Int32.ofInt disk.devAddress

/-- The records have no text for the file system of `VolumeCore`; only `GetAllVolumes` gives one. -/
def VolumeExternal.object (vol : VolumeExternal) (coreFsType : CppString := []) :
    Innerkits.VolumeExternal where
  core :=
    { id := vol.id, type := Int32.ofInt vol.type, diskId := vol.diskId, state := vol.state.value
      fsType := coreFsType, extraInfo := vol.extraInfo }
  fsType := vol.fsType.value
  flags := Int32.ofNat vol.flags
  fsUuid := vol.fsUuid
  path := vol.path
  description := vol.description
  isUserData := vol.isUserData
  umountResult := vol.umountResult
  partitionNum := Int32.ofInt vol.partitionNum
  freeSize := Int64.ofInt vol.freeSize
  mountFlag := vol.mountFlag
  loopPath := vol.loopPath
  mapperPath := vol.mapperPath
  offset := UInt64.ofNat vol.offset
  sizeLimit := UInt64.ofNat vol.sizeLimit

/-! ## Queries -/

/-- What `GetAllDisks` adds to its copy of a disk. -/
def completeDisk (volumeMap : VolumeMap) (disk : Disk) : ManagerProg Disk := do
  let disk := attachVolumeIdsToDisk volumeMap disk
  if disk.isInternalDataDisk then
    queryAndAppendEncryptionStatusUnlocked volumeMap disk
  else return disk

/-- The loop of `GetAllDisks`. -/
def completeDisks (volumeMap : VolumeMap) : List Disk → ManagerProg (List Disk)
  | [] => return []
  | disk :: disks => do
      let disk ← completeDisk volumeMap disk
      let disks ← completeDisks volumeMap disks
      return disk :: disks

def getAllDisks : ManagerProg (List Disk) := do
  let (snaps, volumeMap) ← Prog.read fun s => (s.diskMap.toList.map (·.2), s.volumeMap)
  completeDisks volumeMap snaps

/-- The optical drives `GetAllVolumes` makes a volume up for. -/
def ManagerState.bareDrives (s : ManagerState) : List Disk :=
  let vols := s.volumeMap.toList.map (·.2)
  let dvdDiskIds :=
    (vols.filter fun vol => vol.fsType = .udf || vol.fsType = .iso9660).map (·.diskId)
  (s.diskMap.toList.map (·.2)).filter fun disk =>
    disk.diskType = CD_FLAG && !dvdDiskIds.contains disk.diskId

/-- The objects of `GetAllVolumes`. -/
def ManagerState.volumeObjects [JsonLib] (s : ManagerState) : List Innerkits.VolumeExternal :=
  (s.volumeMap.toList.map fun kv => kv.2.object) ++
    s.bareDrives.map fun disk => (syntheticVolume disk).object "udf"

theorem ManagerState.allVolumes_eq [JsonLib] (s : ManagerState) :
    s.allVolumes = s.volumeMap.toList.map (·.2) ++ s.bareDrives.map syntheticVolume := rfl

/-- `GetExternalDiskInfos`. -/
def ManagerState.externalDiskInfos (s : ManagerState) : List ExternalDiskInfo :=
  ((s.diskMap.toList.map (·.2)).filter fun disk => !disk.isInternalDataDisk).map fun disk =>
    { diskId := disk.diskId
      diskType := Int32.ofNat disk.diskType
      volumeIds := (attachVolumeIdsToDisk s.volumeMap disk).volumeIds
      vendorId := Int32.ofInt disk.vendorId
      productId := Int32.ofInt disk.productId }

inductive Query : Type
  | getAllDisks
  | getDiskById (diskId : CppString)
  | getAllVolumes
  | getExternalDiskInfos

/-- Whatever the writing of an object leaves in a parcel, the reading of it gives an object. -/
def Accepted {α : Type} (marshalling : ∀ B, Fields B → OnParcel B Unit)
    (unmarshalling : ∀ B, Fields B → OnParcel B α) : Prop :=
  ∀ (B : Type) (fields : Fields B) (p bytes rest : List B),
    (marshalling B fields).run p = some ((), p ++ bytes) →
    ((unmarshalling B fields).run (bytes ++ rest)).isSome

def Innerkits.Disk.Accepted (disk : Innerkits.Disk) : Prop :=
  DiskManager.Accepted (fun _ fields => disk.marshalling fields)
    fun _ fields => Disk.unmarshalling fields

def Innerkits.VolumeExternal.Accepted (volExternal : Innerkits.VolumeExternal) : Prop :=
  DiskManager.Accepted (fun _ fields => volExternal.marshalling fields)
    fun _ fields => VolumeExternal.unmarshalling fields

def Innerkits.ExternalDiskInfo.Accepted (info : ExternalDiskInfo) : Prop :=
  DiskManager.Accepted (fun _ fields => info.marshalling fields)
    fun _ fields => ExternalDiskInfo.unmarshalling fields

/-- Every object the query sends from the state is accepted. -/
def Query.Received [JsonLib] (answer : (q : Req) → q.Resp) (s : ManagerState) : Query → Prop
  | .getAllDisks =>
      ∀ disk ∈ (DiskManager.getAllDisks.exec (fun _ q => (answer q, ())) s ()).1,
        disk.object.Accepted
  | .getDiskById diskId =>
      ∀ disk, ((DiskManager.getDiskById diskId).exec (fun _ q => (answer q, ())) s ()).1 =
        some disk → disk.object.Accepted
  | .getAllVolumes => ∀ volExternal ∈ s.volumeObjects, volExternal.Accepted
  | .getExternalDiskInfos => ∀ info ∈ s.externalDiskInfos, info.Accepted

/-! ## Limits -/

/-- The extra information of a disk as it is sent: an internal disk with a mounted volume has the
one with the encryption status, when there is one. -/
def sentExtraInfo (answer : (q : Req) → q.Resp) (volumeMap : VolumeMap) (disk : Disk) : CppString :=
  if disk.isInternalDataDisk then
    match encryptionVolPath volumeMap (attachVolumeIdsToDisk volumeMap disk) with
    | none => disk.extraInfo
    | some volPath => (answer (.queryEncryptionExtraInfo disk.diskId volPath)).getD disk.extraInfo
  else disk.extraInfo

/-- The volumes of a disk. -/
def idsOfDisk (volumeMap : VolumeMap) (diskId : CppString) : List CppString :=
  (volumeMap.toList.filter fun kv => kv.2.diskId = diskId).map (·.2.id)

/-- No record is over what a client accepts: 4096 bytes in a string, 256 volumes on a disk. -/
structure ManagerState.WithinLimits (answer : (q : Req) → q.Resp) (s : ManagerState) : Prop where
  volumes {k : CppString} {vol : VolumeExternal} : s.volumeMap[k]? = some vol →
    vol.id.length ≤ PARCEL_STRING_MAX_LEN ∧ vol.diskId.length ≤ PARCEL_STRING_MAX_LEN ∧
      vol.extraInfo.length ≤ PARCEL_STRING_MAX_LEN
  disks {k : CppString} {disk : Disk} : s.diskMap[k]? = some disk →
    (idsOfDisk s.volumeMap disk.diskId).length ≤ DISK_VOLUME_IDS_PARCEL_MAX.toNat ∧
      (sentExtraInfo answer s.volumeMap disk).length ≤ PARCEL_STRING_MAX_LEN ∧
      disk.serialNumber.length ≤ PARCEL_STRING_MAX_LEN

/-! ## What is sent -/

/-- A disk as it is sent. -/
def sentDisk (answer : (q : Req) → q.Resp) (volumeMap : VolumeMap) (disk : Disk) : Disk :=
  { attachVolumeIdsToDisk volumeMap disk with extraInfo := sentExtraInfo answer volumeMap disk }

section

variable {answer : (q : Req) → q.Resp} {volumeMap : VolumeMap} {s : ManagerState}

theorem exec_encryptionStatus {disk : Disk} (internal : disk.isInternalDataDisk = true) :
    (queryAndAppendEncryptionStatusUnlocked volumeMap (attachVolumeIdsToDisk volumeMap disk)).exec
      (fun _ q => (answer q, ())) s () = (sentDisk answer volumeMap disk, s, ()) := by
  rw [queryAndAppendEncryptionStatusUnlocked, sentDisk, sentExtraInfo, if_pos internal]
  cases encryptionVolPath volumeMap (attachVolumeIdsToDisk volumeMap disk) with
  | none => rfl
  | some volPath =>
      have asked : (attachVolumeIdsToDisk volumeMap disk).diskId = disk.diskId := rfl
      dsimp only
      rw [Prog.exec_bind, call, Prog.exec_request, asked]
      cases answer (.queryEncryptionExtraInfo disk.diskId volPath) with
      | none => rfl
      | some extraInfo => rfl

theorem exec_completeDisk {disk : Disk} :
    (completeDisk volumeMap disk).exec (fun _ q => (answer q, ())) s () =
      (sentDisk answer volumeMap disk, s, ()) := by
  have type : (attachVolumeIdsToDisk volumeMap disk).isInternalDataDisk =
    disk.isInternalDataDisk := rfl
  rw [completeDisk, type]
  by_cases internal : disk.isInternalDataDisk = true
  · rw [if_pos internal]
    exact exec_encryptionStatus internal
  · rw [if_neg internal, Prog.exec_pure, sentDisk, sentExtraInfo, if_neg internal]
    rfl

theorem exec_completeDisks (disks : List Disk) :
    (completeDisks volumeMap disks).exec (fun _ q => (answer q, ())) s () =
      (disks.map (sentDisk answer volumeMap), s, ()) := by
  induction disks with
  | nil => rfl
  | cons disk disks ih =>
      rw [completeDisks, Prog.exec_bind, exec_completeDisk]
      dsimp only
      rw [Prog.exec_bind, ih]
      rfl

theorem mem_getAllDisks {sent : Disk} :
    sent ∈ (getAllDisks.exec (fun _ q => (answer q, ())) s ()).1 ↔
      ∃ (k : CppString) (disk : Disk), s.diskMap[k]? = some disk ∧
        sentDisk answer s.volumeMap disk = sent := by
  rw [getAllDisks, Prog.exec_bind, Prog.exec_read]
  dsimp only
  rw [exec_completeDisks]
  simp only [List.mem_map, Prod.exists, StdMap.mem_toList, exists_eq_right]
  constructor
  · rintro ⟨disk, ⟨k, found⟩, same⟩
    exact ⟨k, disk, found, same⟩
  · rintro ⟨k, disk, found, same⟩
    exact ⟨disk, ⟨k, found⟩, same⟩

theorem exec_getDiskById {diskId : CppString} :
    ((getDiskById diskId).exec (fun _ q => (answer q, ())) s ()).1 =
      s.diskMap[diskId]?.map (sentDisk answer s.volumeMap) := by
  rw [getDiskById, Prog.exec_bind, Prog.exec_read]
  dsimp only
  cases s.diskMap[diskId]? with
  | none => rfl
  | some disk =>
      have type : (attachVolumeIdsToDisk s.volumeMap disk).isInternalDataDisk =
        disk.isInternalDataDisk := rfl
      dsimp only
      rw [type]
      by_cases internal : disk.isInternalDataDisk = true
      · rw [if_pos internal, Prog.exec_bind, exec_encryptionStatus internal]
        rfl
      · rw [if_neg internal, Prog.exec_pure, Option.map_some, sentDisk, sentExtraInfo,
          if_neg internal]
        rfl

end

/-! ## What is accepted -/

theorem accepted_of_reads {α : Type} {marshalling : ∀ B, Fields B → OnParcel B Unit}
    {unmarshalling : ∀ B, Fields B → OnParcel B α} {c : Prop} {a : α}
    (reads : ∀ B fields, ReadsIf (marshalling B fields) (unmarshalling B fields) c a) (held : c) :
    Accepted marshalling unmarshalling := by
  intro B fields p bytes rest wrote
  obtain ⟨bytes', same, read⟩ := reads B fields _ _ wrote
  obtain rfl := List.append_cancel_left same
  rw [(read rest).1 held]
  rfl

/-- In a parcel of bytes every writing succeeds. -/
theorem of_accepted {α : Type} {marshalling : ∀ B, Fields B → OnParcel B Unit}
    {unmarshalling : ∀ B, Fields B → OnParcel B α} {c : Prop} {a : α}
    (reads : ∀ B fields, ReadsIf (marshalling B fields) (unmarshalling B fields) c a)
    (writes : Writes (marshalling Nat flatFields)) (accepted : Accepted marshalling unmarshalling) :
    c := by
  by_contra failed
  obtain ⟨⟨⟨⟩, p'⟩, wrote⟩ := Option.isSome_iff_exists.mp (writes [])
  obtain ⟨bytes, rfl, read⟩ := reads _ _ _ _ wrote
  have some' := accepted Nat flatFields [] _ [] wrote
  rw [(read []).2 failed] at some'
  cases some'

theorem Innerkits.Disk.accepted_of_fits {disk : Innerkits.Disk} (fits : disk.Fits) :
    disk.Accepted := by
  have small : disk.volumeIds.length < 2 ^ 32 := by
    have count := fits.count
    have bound : DISK_VOLUME_IDS_PARCEL_MAX.toNat = 256 := rfl
    omega
  exact accepted_of_reads (fun _ fields => Disk.reads fields small) fits

/-! ### A list whose length is cut

The length of a list is written in 32 bits. A reader that believes a shorter length takes the rest
of the list for the fields that follow.
-/

/-- A parcel of marked fields: a read of another kind of field finds nothing. -/
def markedNumber {α : Type} (enc : α → Nat) (dec : Nat → α) (undone : ∀ a, dec (enc a) = a) :
    Primitive (CppString ⊕ Nat) α where
  write a := fun p => some ((), p ++ [.inr (enc a)])
  read
    | .inr n :: rest => (dec n, rest)
    | _ => (dec 0, [])
  undone {a p p'} wrote := by
    cases wrote
    exact ⟨_, rfl, fun rest => congrArg (·, rest) (undone a)⟩

/-- A string no object may have. -/
def longString : CppString := List.replicate 4097 ' '

theorem length_longString : longString.length = 4097 := List.length_replicate

def markedString : Primitive (CppString ⊕ Nat) CppString where
  write s := fun p => some ((), p ++ [.inl s])
  read
    | .inl s :: rest => (s, rest)
    | _ => (longString, [])
  undone {a p p'} wrote := by
    cases wrote
    exact ⟨_, rfl, fun rest => rfl⟩

theorem bool_unmarked : ∀ b : Bool, (b.toNat == 1) = b := by decide

theorem int32_unmarked (n : Int32) : (UInt32.ofNat n.toUInt32.toNat).toInt32 = n := by simp

theorem uint32_unmarked (n : UInt32) : UInt32.ofNat n.toNat = n := by simp

theorem int64_unmarked (n : Int64) : (UInt64.ofNat n.toUInt64.toNat).toInt64 = n := by simp

theorem uint64_unmarked (n : UInt64) : UInt64.ofNat n.toNat = n := by simp

def markedFields : Fields (CppString ⊕ Nat) where
  string := markedString
  bool := markedNumber Bool.toNat (· == 1) bool_unmarked
  int32 := markedNumber (fun n => n.toUInt32.toNat) (fun n => (UInt32.ofNat n).toInt32)
    int32_unmarked
  uint32 := markedNumber UInt32.toNat UInt32.ofNat uint32_unmarked
  int64 := markedNumber (fun n => n.toUInt64.toNat) (fun n => (UInt64.ofNat n).toInt64)
    int64_unmarked
  uint64 := markedNumber UInt64.toNat UInt64.ofNat uint64_unmarked

theorem run_forM_string (ids : List CppString) (p : List (CppString ⊕ Nat)) :
    (ids.forM markedFields.string.write).run p = some ((), p ++ ids.map .inl) := by
  induction ids generalizing p with
  | nil => exact congrArg (fun q => some ((), q)) (List.append_nil p).symm
  | cons vid ids ih =>
      rw [List.forM_eq_forM, List.forM_cons, StateT.run_bind]
      change (ids.forM markedFields.string.write).run (p ++ [.inl vid]) = _
      rw [ih, List.append_assoc]
      rfl

theorem run_seq {B β : Type} {m : OnParcel B Unit} {m' : OnParcel B β} {p p' : List B}
    (ran : m.run p = some ((), p')) : (do m; m').run p = m'.run p' := by
  rw [StateT.run_bind, ran]
  rfl

theorem run_bind_eq_none {B α β : Type} {r : OnParcel B α} {f : α → OnParcel B β} {p : List B}
    (rest : ∀ a p', r.run p = some (a, p') → (f a).run p' = none) : (r >>= f).run p = none := by
  rw [StateT.run_bind]
  cases ran : r.run p with
  | none => rfl
  | some result => exact rest _ _ ran

/-- A read that gives a string has taken it. -/
theorem run_shortString {vid s : CppString} {p p' : List (CppString ⊕ Nat)}
    (ran : markedFields.shortString.run (.inl vid :: p) = some (s, p')) : p' = p := by
  rw [Fields.shortString, Primitive.run_takeIf] at ran
  split at ran
  · cases ran
    rfl
  · cases ran

theorem run_shortString_nil : markedFields.shortString.run [] = none := by
  have long : ¬ longString.length ≤ PARCEL_STRING_MAX_LEN := by
    rw [length_longString]
    decide
  rw [Fields.shortString, Primitive.run_takeIf]
  exact if_neg fun short => long (of_decide_eq_true short)

theorem run_readMany {n : Nat} {ids xs : List CppString} {p p' : List (CppString ⊕ Nat)}
    (enough : n ≤ ids.length)
    (ran : (readMany markedFields.shortString n).run (ids.map .inl ++ p) = some (xs, p')) :
    p' = (ids.drop n).map .inl ++ p := by
  induction n generalizing ids xs p' with
  | zero =>
      cases ran
      rfl
  | succ n ih =>
      cases ids with
      | nil => exact absurd enough (Nat.not_succ_le_zero n)
      | cons vid ids =>
          rw [readMany, StateT.run_bind, Option.bind_eq_bind, Option.bind_eq_some_iff] at ran
          obtain ⟨⟨x, p₁⟩, first, ran⟩ := ran
          rw [run_shortString first, StateT.run_bind, Option.bind_eq_bind,
            Option.bind_eq_some_iff] at ran
          obtain ⟨⟨ys, p₂⟩, others, ran⟩ := ran
          cases ran
          exact ih (Nat.le_of_succ_le_succ enough) others

/-- A count over the limit is refused; otherwise as many strings are taken as it says. -/
theorem run_readCounted {count max : UInt32} {ids xs : List CppString}
    {p p' : List (CppString ⊕ Nat)} (enough : count.toNat ≤ ids.length)
    (ran : (readCounted markedFields.uint32 max markedFields.shortString).run
      (.inr count.toNat :: (ids.map .inl ++ p)) = some (xs, p')) :
    count ≤ max ∧ p' = (ids.drop count.toNat).map .inl ++ p := by
  have back : UInt32.ofNat count.toNat = count := UInt32.ofNat_toNat
  rw [readCounted, StateT.run_bind, Option.bind_eq_bind, Option.bind_eq_some_iff] at ran
  obtain ⟨⟨n, p₁⟩, first, ran⟩ := ran
  have read : markedFields.uint32.read (.inr count.toNat :: (ids.map .inl ++ p)) =
      (count, ids.map .inl ++ p) := congrArg (·, _) back
  rw [Primitive.run_takeIf, read] at first
  split at first
  next le =>
    cases first
    exact ⟨of_decide_eq_true le, run_readMany enough ran⟩
  next => cases first

theorem Innerkits.Disk.volumeIds_small {disk : Innerkits.Disk} (accepted : disk.Accepted) :
    disk.volumeIds.length < 2 ^ 32 := by
  by_contra many
  set count := UInt32.ofNat disk.volumeIds.length
  have enough : count.toNat ≤ disk.volumeIds.length := by
    have below := count.toNat_lt
    omega
  have left : 1 < (disk.volumeIds.drop count.toNat).length ∨
      ¬ count ≤ DISK_VOLUME_IDS_PARCEL_MAX := by
    have bound : DISK_VOLUME_IDS_PARCEL_MAX.toNat = 256 := rfl
    rw [List.length_drop, UInt32.le_iff_toNat_le, bound]
    omega
  let written : List (CppString ⊕ Nat) :=
    .inl disk.diskId :: .inr disk.sizeBytes.toUInt64.toNat :: .inr disk.diskType.toUInt32.toNat ::
      .inr disk.removable.toNat :: .inr count.toNat :: (disk.volumeIds.map .inl ++
      [.inl disk.extraInfo, .inr disk.vendorId.toUInt32.toNat, .inr disk.productId.toUInt32.toNat,
        .inl disk.serialNumber, .inr disk.busnum.toUInt32.toNat,
        .inr disk.devAddress.toUInt32.toNat])
  have wrote : (disk.marshalling markedFields).run [] = some ((), [] ++ written) := by
    have ids := run_forM_string disk.volumeIds
      [.inl disk.diskId, .inr disk.sizeBytes.toUInt64.toNat, .inr disk.diskType.toUInt32.toNat,
        .inr disk.removable.toNat, .inr count.toNat]
    have list : (writeCounted markedFields.uint32 markedFields.string.write disk.volumeIds).run
        [.inl disk.diskId, .inr disk.sizeBytes.toUInt64.toNat, .inr disk.diskType.toUInt32.toNat,
          .inr disk.removable.toNat] = _ := (run_seq rfl).trans ids
    rw [Disk.marshalling]
    refine (run_seq rfl).trans <| (run_seq rfl).trans <| (run_seq rfl).trans <|
      (run_seq rfl).trans <| (run_seq list).trans ?_
    refine (run_seq rfl).trans <| (run_seq rfl).trans <| (run_seq rfl).trans <|
      (run_seq rfl).trans <| (run_seq rfl).trans ?_
    change some ((), _) = _
    simp only [written, List.append_assoc, List.cons_append, List.nil_append]
  have refused : (Disk.unmarshalling markedFields).run (written ++ []) = none := by
    rw [List.append_nil]
    refine run_bind_eq_none fun _ _ ran => ?_
    obtain rfl := run_shortString ran
    refine run_bind_eq_none fun _ _ ran => ?_
    cases ran
    refine run_bind_eq_none fun _ _ ran => ?_
    cases ran
    refine run_bind_eq_none fun _ _ ran => ?_
    cases ran
    refine run_bind_eq_none fun _ _ ran => ?_
    obtain ⟨le, rfl⟩ := run_readCounted enough ran
    -- The next two volumes are taken for the extra information and the vendor.
    rcases dropped : disk.volumeIds.drop count.toNat with _ | ⟨vid, _ | ⟨vid', ids⟩⟩
    · rw [dropped] at left
      exact absurd le (left.resolve_left (by decide))
    · rw [dropped] at left
      exact absurd le (left.resolve_left (lt_irrefl 1))
    refine run_bind_eq_none fun _ _ ran => ?_
    obtain rfl := run_shortString ran
    refine run_bind_eq_none fun _ _ ran => ?_
    cases ran
    refine run_bind_eq_none fun _ _ ran => ?_
    cases ran
    exact run_bind_eq_none fun _ _ ran => by cases run_shortString_nil.symm.trans ran
  have some' := accepted _ markedFields [] written [] wrote
  rw [refused] at some'
  cases some'

theorem Innerkits.Disk.accepted_iff {disk : Innerkits.Disk} : disk.Accepted ↔ disk.Fits := by
  refine ⟨fun accepted => ?_, accepted_of_fits⟩
  exact of_accepted (fun _ fields => Disk.reads fields (volumeIds_small accepted))
    (Disk.writes _ flatFields_accept disk) accepted

theorem Innerkits.VolumeExternal.accepted_iff {volExternal : Innerkits.VolumeExternal} :
    volExternal.Accepted ↔ volExternal.core.Fits :=
  ⟨of_accepted (fun _ fields => volExternal.reads fields)
    (VolumeExternal.writes _ flatFields_accept volExternal),
    accepted_of_reads fun _ fields => volExternal.reads fields⟩

theorem Innerkits.ExternalDiskInfo.accepted_of_fits {info : ExternalDiskInfo} (fits : info.Fits) :
    info.Accepted := by
  have small : info.volumeIds.length < 2 ^ 32 := by
    have count := fits.count
    have bound : EXTERNAL_DISK_VOLUME_IDS_PARCEL_MAX.toNat = 256 := rfl
    omega
  exact accepted_of_reads (fun _ fields => ExternalDiskInfo.reads fields small) fits

/-! ## Every state the service can reach -/

theorem length_diskIdFrom_le {uevent : UeventEnv} (fits : uevent.Fits) :
    (diskIdFrom uevent.major uevent.minor).length ≤ PARCEL_STRING_MAX_LEN := by
  have digits : ∀ n < 2 ^ 32, (CppString.ofNat n).length ≤ 10 := by
    intro n small
    rw [CppString.ofNat, Nat.length_toDigits_le_iff (by decide) (by decide)]
    omega
  have major := digits _ fits.major
  have minor := digits _ fits.minor
  have long : PARCEL_STRING_MAX_LEN = 4096 := rfl
  unfold diskIdFrom
  rw [List.length_append, List.length_append, List.length_append]
  have names : ("disk-" : CppString).length = 5 ∧ ("-" : CppString).length = 1 := by decide
  omega

theorem Reachable.length_diskId_le [JsonLib] {s : ManagerState} (reachable : Reachable s)
    {k : CppString} {disk : Disk} (found : s.diskMap[k]? = some disk) :
    disk.diskId.length ≤ PARCEL_STRING_MAX_LEN := by
  obtain ⟨same, uevent, fits, rfl⟩ := reachable.filed.getDisk found
  rw [same]
  exact length_diskIdFrom_le fits

section

variable {answer : (q : Req) → q.Resp} {s : ManagerState}

theorem mem_values {α : Type} {m : StdMap α} {a : α} :
    a ∈ m.toList.map (·.2) ↔ ∃ k : CppString, m[k]? = some a := by
  simp only [List.mem_map, Prod.exists, StdMap.mem_toList, exists_eq_right]

theorem mem_idsOfDisk {diskId vid : CppString} :
    vid ∈ idsOfDisk s.volumeMap diskId ↔
      ∃ (k : CppString) (vol : VolumeExternal), s.volumeMap[k]? = some vol ∧
        vol.diskId = diskId ∧ vol.id = vid := by
  simp only [idsOfDisk, List.mem_map, List.mem_filter, Prod.exists, StdMap.mem_toList,
    decide_eq_true_eq, and_assoc]

variable [JsonLib]

theorem sentDisk_accepted (reachable : Reachable s) (within : s.WithinLimits answer)
    {k : CppString} {disk : Disk} (found : s.diskMap[k]? = some disk) :
    (sentDisk answer s.volumeMap disk).object.Accepted := by
  obtain ⟨count, extraInfo, serialNumber⟩ := within.disks found
  have diskId := reachable.length_diskId_le found
  refine Disk.accepted_of_fits ⟨diskId, count, fun vid mem => ?_, extraInfo, serialNumber⟩
  obtain ⟨k', vol, there, -, rfl⟩ := mem_idsOfDisk.mp mem
  exact (within.volumes there).1

theorem externalDiskInfo_accepted (reachable : Reachable s) (within : s.WithinLimits answer)
    {info : ExternalDiskInfo} (mem : info ∈ s.externalDiskInfos) : info.Accepted := by
  obtain ⟨disk, there, rfl⟩ := List.mem_map.mp mem
  obtain ⟨k, found⟩ := mem_values.mp (List.mem_filter.mp there).1
  have diskId := reachable.length_diskId_le found
  refine ExternalDiskInfo.accepted_of_fits ⟨diskId, (within.disks found).1, fun vid mem => ?_⟩
  obtain ⟨k', vol, there, -, rfl⟩ := mem_idsOfDisk.mp mem
  exact (within.volumes there).1

theorem volumeObject_accepted (reachable : Reachable s) (within : s.WithinLimits answer)
    {volExternal : Innerkits.VolumeExternal} (mem : volExternal ∈ s.volumeObjects) :
    volExternal.Accepted := by
  rw [VolumeExternal.accepted_iff]
  rcases List.mem_append.mp mem with recorded | made
  · obtain ⟨⟨k, vol⟩, there, rfl⟩ := List.mem_map.mp recorded
    obtain ⟨id, diskId, extraInfo⟩ := within.volumes (StdMap.mem_toList.mp there)
    exact ⟨id, diskId, Nat.zero_le _, extraInfo⟩
  · obtain ⟨disk, drive, rfl⟩ := List.mem_map.mp made
    obtain ⟨there, optical⟩ := List.mem_filter.mp drive
    obtain ⟨k, found⟩ := mem_values.mp there
    -- A drive is not an internal disk, so its extra information is sent as it is.
    have type : disk.diskType = CD_FLAG := of_decide_eq_true (Bool.and_eq_true_iff.mp optical).1
    have external : ¬ disk.isInternalDataDisk = true := by
      rw [Disk.isInternalDataDisk, type]
      decide
    have extraInfo := (within.disks found).2.1
    rw [sentExtraInfo, if_neg external] at extraInfo
    have short : ("0" : CppString).length ≤ PARCEL_STRING_MAX_LEN ∧
        ("udf" : CppString).length ≤ PARCEL_STRING_MAX_LEN := by decide
    exact ⟨short.1, reachable.length_diskId_le found, short.2, extraInfo⟩

/-- Every object a query sends is accepted by the client that gets it, if and only if the records
are within the limits of the reading. -/
theorem sent_is_received_iff (reachable : Reachable s) (answer : (q : Req) → q.Resp) :
    (∀ query : Query, query.Received answer s) ↔ s.WithinLimits answer := by
  constructor
  · intro received
    refine ⟨fun {k vol} found => ?_, fun {k disk} found => ?_⟩
    · have mem : vol.object ∈ s.volumeObjects :=
        List.mem_append_left _ (List.mem_map_of_mem (StdMap.mem_toList.mpr found))
      have fits := VolumeExternal.accepted_iff.mp (received .getAllVolumes _ mem)
      exact ⟨fits.id, fits.diskId, fits.extraInfo⟩
    · have accepted := received .getAllDisks _ (mem_getAllDisks.mpr ⟨k, disk, found, rfl⟩)
      have fits := Disk.accepted_iff.mp accepted
      exact ⟨fits.count, fits.extraInfo, fits.serialNumber⟩
  · intro within query
    cases query with
    | getAllDisks =>
        intro sent mem
        obtain ⟨k, disk, found, rfl⟩ := mem_getAllDisks.mp mem
        exact sentDisk_accepted reachable within found
    | getDiskById diskId =>
        intro sent returned
        rw [exec_getDiskById, Option.map_eq_some_iff] at returned
        obtain ⟨disk, found, rfl⟩ := returned
        exact sentDisk_accepted reachable within found
    | getAllVolumes => exact fun _ mem => volumeObject_accepted reachable within mem
    | getExternalDiskInfos => exact fun _ mem => externalDiskInfo_accepted reachable within mem

end

/-! ## A stick with much to say -/

/-- The stick, with 4097 bytes of extra information. -/
def talkativeAnswer : (q : Req) → q.Resp
  | .tryCopyBlockInfo _ =>
      some { sizeBytes := 0, vendor := [], rotational := 0, extraInfo := longString }
  | q => stickFs q

def talkativePlugged : ManagerState := after (stickOp .add) talkativeAnswer .boot

theorem talkativePlugged_long :
    (talkativePlugged.diskMap[stick.diskId]?.any fun disk =>
      4096 < (sentExtraInfo talkativeAnswer talkativePlugged.volumeMap disk).length) = true := by
  decide +kernel

/-- The list of disks is lost on the client that asks for it. -/
theorem long_extra_info_is_refused :
    letI := tableJson
    Settled talkativePlugged ∧ ¬ Query.getAllDisks.Received talkativeAnswer talkativePlugged := by
  let _ := tableJson
  refine ⟨settled_after _ _ _ settled_boot, fun received => ?_⟩
  obtain ⟨disk, found, long⟩ := (Option.any_eq_true _ _).mp talkativePlugged_long
  have fits := Disk.accepted_iff.mp (received _ (mem_getAllDisks.mpr ⟨_, disk, found, rfl⟩))
  exact absurd fits.extraInfo (Nat.not_le.mpr (of_decide_eq_true long))

/-- The queries of the stick with its volume unmounted. -/
theorem sent_is_received_stick :
    letI := tableJson
    (∀ query : Query, query.Received stickFs stickUnmounted) ↔
      stickUnmounted.WithinLimits stickFs := by
  let _ := tableJson
  exact sent_is_received_iff stickUnmounted_settled.reachable stickFs

end DiskManager
