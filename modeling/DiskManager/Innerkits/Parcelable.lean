import DiskManager.Parcel
import DiskManager.Types

/-!
# The objects that cross to a client

`Marshalling` and `Unmarshalling` of the classes a client gets from the service. Members have the
widths of the classes; the ones that are not written are those of a new object after the reading.

* `Fits`: the checks of the reading hold of an object. The writing makes none of them, but for the
  number of partitions.
* `Disk.reads` and its siblings: what is written of an object is read back as its `received` if it
  fits, and refused otherwise.
* `parcel_round_trip`: every object that fits crosses.
-/

namespace DiskManager.Innerkits

open Parcels

def PARCEL_STRING_MAX_LEN : Nat := 4096
def DISK_VOLUME_IDS_PARCEL_MAX : UInt32 := 256
def EXTERNAL_DISK_VOLUME_IDS_PARCEL_MAX : UInt32 := 256
def PARTITION_COUNT_MAX : UInt32 := 256

/-- The fields of a parcel. -/
structure Fields (B : Type) : Type where
  string : Primitive B CppString
  bool : Primitive B Bool
  int32 : Primitive B Int32
  uint32 : Primitive B UInt32
  int64 : Primitive B Int64
  uint64 : Primitive B UInt64

/-- Every write succeeds. -/
structure Fields.Accept {B : Type} (fields : Fields B) : Prop where
  string : fields.string.Accepts
  bool : fields.bool.Accepts
  int32 : fields.int32.Accepts
  uint32 : fields.uint32.Accepts
  int64 : fields.int64.Accepts
  uint64 : fields.uint64.Accepts

section

variable {B : Type} (fields : Fields B)

/-- `ReadString`, and the check of its length. -/
def Fields.shortString : OnParcel B CppString :=
  fields.string.takeIf fun s => s.length ≤ PARCEL_STRING_MAX_LEN

/-! ## Disks -/

structure Disk : Type where
  diskId : CppString := []
  sizeBytes : Int64 := 0
  diskType : Int32 := 255
  removable : Bool := true
  volumeIds : List CppString := []
  extraInfo : CppString := []
  cdromState : CdromState := .noDisc
  isUsbBus : Bool := false
  sysPath : CppString := []
  devName : CppString := []
  vendor : CppString := []
  partitionType : CppString := []
  vendorId : Int32 := 0
  productId : Int32 := 0
  serialNumber : CppString := []
  busnum : Int32 := 0
  devAddress : Int32 := 0

def Disk.marshalling (disk : Disk) : OnParcel B Unit := do
  fields.string.write disk.diskId
  fields.int64.write disk.sizeBytes
  fields.int32.write disk.diskType
  fields.bool.write disk.removable
  writeCounted fields.uint32 fields.string.write disk.volumeIds
  fields.string.write disk.extraInfo
  fields.int32.write disk.vendorId
  fields.int32.write disk.productId
  fields.string.write disk.serialNumber
  fields.int32.write disk.busnum
  fields.int32.write disk.devAddress

def Disk.unmarshalling : OnParcel B Disk := do
  let diskId ← fields.shortString
  let sizeBytes ← fields.int64.take
  let diskType ← fields.int32.take
  let removable ← fields.bool.take
  let volumeIds ← readCounted fields.uint32 DISK_VOLUME_IDS_PARCEL_MAX fields.shortString
  let extraInfo ← fields.shortString
  let vendorId ← fields.int32.take
  let productId ← fields.int32.take
  let serialNumber ← fields.shortString
  let busnum ← fields.int32.take
  let devAddress ← fields.int32.take
  pure
    { diskId, sizeBytes, diskType, removable, volumeIds, extraInfo, vendorId, productId
      serialNumber, busnum, devAddress }

/-- What the receiver has of a disk. -/
def Disk.received (disk : Disk) : Disk where
  diskId := disk.diskId
  sizeBytes := disk.sizeBytes
  diskType := disk.diskType
  removable := disk.removable
  volumeIds := disk.volumeIds
  extraInfo := disk.extraInfo
  vendorId := disk.vendorId
  productId := disk.productId
  serialNumber := disk.serialNumber
  busnum := disk.busnum
  devAddress := disk.devAddress

structure Disk.Fits (disk : Disk) : Prop where
  diskId : disk.diskId.length ≤ PARCEL_STRING_MAX_LEN
  count : disk.volumeIds.length ≤ DISK_VOLUME_IDS_PARCEL_MAX.toNat
  volumeIds : ∀ vid ∈ disk.volumeIds, vid.length ≤ PARCEL_STRING_MAX_LEN
  extraInfo : disk.extraInfo.length ≤ PARCEL_STRING_MAX_LEN
  serialNumber : disk.serialNumber.length ≤ PARCEL_STRING_MAX_LEN

theorem Fields.reads_shortString (s : CppString) :
    ReadsIf (fields.string.write s) fields.shortString (s.length ≤ PARCEL_STRING_MAX_LEN) s :=
  (ReadsIf.fieldIf fields.string _ s).congr decide_eq_true_iff

theorem Disk.reads {disk : Disk} (small : disk.volumeIds.length < 2 ^ 32) :
    ReadsIf (disk.marshalling fields) (Disk.unmarshalling fields) disk.Fits disk.received := by
  apply ReadsIf.congr
  · rw [Disk.marshalling, Disk.unmarshalling]
    exact .bind (fields.reads_shortString _) (.bind (.field fields.int64 _)
      (.bind (.field fields.int32 _) (.bind (.field fields.bool _)
      (.bind (.counted fields.reads_shortString small) (.bind (fields.reads_shortString _)
      (.bind (.field fields.int32 _) (.bind (.field fields.int32 _)
      (.bind (fields.reads_shortString _) (.bind (.field fields.int32 _)
      (.last _ (.field fields.int32 _)))))))))))
  · constructor
    · rintro ⟨diskId, -, -, -, ⟨count, volumeIds⟩, extraInfo, -, -, serialNumber, -, -⟩
      exact ⟨diskId, count, volumeIds, extraInfo, serialNumber⟩
    · intro fits
      exact ⟨fits.diskId, trivial, trivial, trivial, ⟨fits.count, fits.volumeIds⟩, fits.extraInfo,
        trivial, trivial, fits.serialNumber, trivial, trivial⟩

theorem Disk.writes (accept : fields.Accept) (disk : Disk) : Writes (disk.marshalling fields) := by
  have volumeIds : Writes (writeCounted fields.uint32 fields.string.write disk.volumeIds) :=
    .bind (accept.uint32 _) (.forM fun vid _ => accept.string vid)
  rw [Disk.marshalling]
  exact .bind (accept.string _) (.bind (accept.int64 _) (.bind (accept.int32 _)
    (.bind (accept.bool _) (.bind volumeIds (.bind (accept.string _) (.bind (accept.int32 _)
    (.bind (accept.int32 _) (.bind (accept.string _) (.bind (accept.int32 _)
    (accept.int32 _))))))))))

/-! ## Volumes -/

structure VolumeCore : Type where
  id : CppString := []
  type : Int32 := 0
  diskId : CppString := []
  state : Int32 := 0
  errorFlag : Bool := false
  fsType : CppString := []
  extraInfo : CppString := []

def VolumeCore.marshalling (core : VolumeCore) : OnParcel B Unit := do
  fields.string.write core.id
  fields.int32.write core.type
  fields.string.write core.diskId
  fields.int32.write core.state
  fields.bool.write core.errorFlag
  fields.string.write core.fsType
  fields.string.write core.extraInfo

def VolumeCore.unmarshalling : OnParcel B VolumeCore := do
  let id ← fields.shortString
  let type ← fields.int32.take
  let diskId ← fields.shortString
  let state ← fields.int32.take
  let errorFlag ← fields.bool.take
  let fsType ← fields.shortString
  let extraInfo ← fields.shortString
  pure { id, type, diskId, state, errorFlag, fsType, extraInfo }

structure VolumeCore.Fits (core : VolumeCore) : Prop where
  id : core.id.length ≤ PARCEL_STRING_MAX_LEN
  diskId : core.diskId.length ≤ PARCEL_STRING_MAX_LEN
  fsType : core.fsType.length ≤ PARCEL_STRING_MAX_LEN
  extraInfo : core.extraInfo.length ≤ PARCEL_STRING_MAX_LEN

theorem VolumeCore.reads (core : VolumeCore) :
    ReadsIf (core.marshalling fields) (VolumeCore.unmarshalling fields) core.Fits core := by
  apply ReadsIf.congr
  · rw [VolumeCore.marshalling, VolumeCore.unmarshalling]
    exact .bind (fields.reads_shortString _) (.bind (.field fields.int32 _)
      (.bind (fields.reads_shortString _) (.bind (.field fields.int32 _)
      (.bind (.field fields.bool _) (.bind (fields.reads_shortString _)
      (.last _ (fields.reads_shortString _)))))))
  · constructor
    · rintro ⟨id, -, diskId, -, -, fsType, extraInfo⟩
      exact ⟨id, diskId, fsType, extraInfo⟩
    · intro fits
      exact ⟨fits.id, trivial, fits.diskId, trivial, trivial, fits.fsType, fits.extraInfo⟩

theorem VolumeCore.writes (accept : fields.Accept) (core : VolumeCore) :
    Writes (core.marshalling fields) := by
  rw [VolumeCore.marshalling]
  exact .bind (accept.string _) (.bind (accept.int32 _) (.bind (accept.string _)
    (.bind (accept.int32 _) (.bind (accept.bool _) (.bind (accept.string _)
    (accept.string _))))))

/-- The class derives from `VolumeCore` and has an `fsType_` of its own. No member function sets the
private `errorFlag_`, and the constructor from a `VolumeCore` leaves it unset. -/
structure VolumeExternal : Type where
  core : VolumeCore := {}
  fsType : Int32 := -1
  flags : Int32 := 255
  fsUuid : CppString := []
  path : CppString := []
  description : CppString := []
  isUserData : Bool := false
  umountResult : CppString := []
  partitionNum : Int32 := 0
  freeSize : Int64 := 0
  mountFlag : Bool := false
  loopPath : CppString := []
  mapperPath : CppString := []
  offset : UInt64 := 0
  sizeLimit : UInt64 := 0
  unset : core.errorFlag = false := by rfl

/-- The constructor from a `VolumeCore`. -/
def VolumeExternal.ofCore (vc : VolumeCore) : VolumeExternal where
  core :=
    { id := vc.id, type := vc.type, diskId := vc.diskId, state := vc.state, fsType := vc.fsType
      extraInfo := vc.extraInfo }

def VolumeExternal.marshalling (volExternal : VolumeExternal) : OnParcel B Unit := do
  volExternal.core.marshalling fields
  fields.int32.write volExternal.flags
  fields.int32.write volExternal.fsType
  fields.string.write volExternal.fsUuid
  fields.string.write volExternal.path
  fields.string.write volExternal.description
  fields.int32.write volExternal.partitionNum
  fields.string.write volExternal.loopPath
  fields.string.write volExternal.mapperPath
  fields.bool.write volExternal.mountFlag
  fields.uint64.write volExternal.offset
  fields.uint64.write volExternal.sizeLimit

def VolumeExternal.unmarshalling : OnParcel B VolumeExternal := do
  let volumeCore ← VolumeCore.unmarshalling fields
  let flags ← fields.int32.take
  let fsType ← fields.int32.take
  let fsUuid ← fields.string.take
  let path ← fields.string.take
  let description ← fields.string.take
  let partitionNum ← fields.int32.take
  let loopPath ← fields.string.take
  let mapperPath ← fields.string.take
  let mountFlag ← fields.bool.take
  let offset ← fields.uint64.take
  let sizeLimit ← fields.uint64.take
  pure
    { VolumeExternal.ofCore volumeCore with
      flags, fsType, fsUuid, path, description, partitionNum, loopPath, mapperPath, mountFlag
      offset, sizeLimit }

/-- What the receiver has of a volume. -/
def VolumeExternal.received (volExternal : VolumeExternal) : VolumeExternal where
  core := volExternal.core
  flags := volExternal.flags
  fsType := volExternal.fsType
  fsUuid := volExternal.fsUuid
  path := volExternal.path
  description := volExternal.description
  partitionNum := volExternal.partitionNum
  loopPath := volExternal.loopPath
  mapperPath := volExternal.mapperPath
  mountFlag := volExternal.mountFlag
  offset := volExternal.offset
  sizeLimit := volExternal.sizeLimit
  unset := volExternal.unset

theorem VolumeExternal.reads (volExternal : VolumeExternal) :
    ReadsIf (volExternal.marshalling fields) (VolumeExternal.unmarshalling fields)
      volExternal.core.Fits volExternal.received := by
  -- The core is copied without its flag, which is not set.
  have same : volExternal.received = { VolumeExternal.ofCore volExternal.core with
      flags := volExternal.flags, fsType := volExternal.fsType, fsUuid := volExternal.fsUuid
      path := volExternal.path, description := volExternal.description
      partitionNum := volExternal.partitionNum, loopPath := volExternal.loopPath
      mapperPath := volExternal.mapperPath, mountFlag := volExternal.mountFlag
      offset := volExternal.offset, sizeLimit := volExternal.sizeLimit } := by
    rcases volExternal with ⟨⟨id, type, diskId, state, errorFlag, fsType, extraInfo⟩,
      _, _, _, _, _, _, _, _, _, _, _, _, _, _, unset⟩
    obtain rfl : errorFlag = false := unset
    rfl
  rw [same]
  apply ReadsIf.congr
  · rw [VolumeExternal.marshalling, VolumeExternal.unmarshalling]
    exact .bind (VolumeCore.reads fields _) (.bind (.field fields.int32 _)
      (.bind (.field fields.int32 _) (.bind (.field fields.string _)
      (.bind (.field fields.string _) (.bind (.field fields.string _)
      (.bind (.field fields.int32 _) (.bind (.field fields.string _)
      (.bind (.field fields.string _) (.bind (.field fields.bool _)
      (.bind (.field fields.uint64 _) (.last _ (.field fields.uint64 _))))))))))))
  · simp only [and_true]

theorem VolumeExternal.writes (accept : fields.Accept) (volExternal : VolumeExternal) :
    Writes (volExternal.marshalling fields) := by
  rw [VolumeExternal.marshalling]
  exact .bind (VolumeCore.writes fields accept _) (.bind (accept.int32 _) (.bind (accept.int32 _)
    (.bind (accept.string _) (.bind (accept.string _) (.bind (accept.string _)
    (.bind (accept.int32 _) (.bind (accept.string _) (.bind (accept.string _)
    (.bind (accept.bool _) (.bind (accept.uint64 _) (accept.uint64 _)))))))))))

/-! ## Partition tables -/

structure PartitionInfo : Type where
  partitionNum : Int32 := 0
  diskId : CppString := []
  startSector : Int64 := 0
  endSector : Int64 := 0
  sizeBytes : Int64 := 0
  fsType : CppString := []

def PartitionInfo.marshalling (part : PartitionInfo) : OnParcel B Unit := do
  fields.int32.write part.partitionNum
  fields.string.write part.diskId
  fields.int64.write part.startSector
  fields.int64.write part.endSector
  fields.int64.write part.sizeBytes
  fields.string.write part.fsType

def PartitionInfo.unmarshalling : OnParcel B PartitionInfo := do
  let partitionNum ← fields.int32.take
  let diskId ← fields.shortString
  let startSector ← fields.int64.take
  let endSector ← fields.int64.take
  let sizeBytes ← fields.int64.take
  let fsType ← fields.shortString
  pure { partitionNum, diskId, startSector, endSector, sizeBytes, fsType }

structure PartitionInfo.Fits (part : PartitionInfo) : Prop where
  diskId : part.diskId.length ≤ PARCEL_STRING_MAX_LEN
  fsType : part.fsType.length ≤ PARCEL_STRING_MAX_LEN

theorem PartitionInfo.reads (part : PartitionInfo) :
    ReadsIf (part.marshalling fields) (PartitionInfo.unmarshalling fields) part.Fits part := by
  apply ReadsIf.congr
  · rw [PartitionInfo.marshalling, PartitionInfo.unmarshalling]
    exact .bind (.field fields.int32 _) (.bind (fields.reads_shortString _)
      (.bind (.field fields.int64 _) (.bind (.field fields.int64 _)
      (.bind (.field fields.int64 _) (.last _ (fields.reads_shortString _))))))
  · constructor
    · rintro ⟨-, diskId, -, -, -, fsType⟩
      exact ⟨diskId, fsType⟩
    · intro fits
      exact ⟨trivial, fits.diskId, trivial, trivial, trivial, fits.fsType⟩

theorem PartitionInfo.writes (accept : fields.Accept) (part : PartitionInfo) :
    Writes (part.marshalling fields) := by
  rw [PartitionInfo.marshalling]
  exact .bind (accept.int32 _) (.bind (accept.string _) (.bind (accept.int64 _)
    (.bind (accept.int64 _) (.bind (accept.int64 _) (accept.string _)))))

structure PartitionTableInfo : Type where
  diskId : CppString := []
  tableType : CppString := []
  partitionCount : Int32 := 0
  totalSector : Int64 := 0
  sectorSize : Int32 := 512
  alignSector : Int32 := 2048
  lastUsableSector : Int64 := 0
  partitions : List PartitionInfo := []

/-- The list of partitions, whose number is checked before it is written. -/
def writePartitions (partitions : List PartitionInfo) : OnParcel B Unit :=
  if PARTITION_COUNT_MAX < UInt32.ofNat partitions.length then failure
  else writeCounted fields.uint32 (PartitionInfo.marshalling fields) partitions

def PartitionTableInfo.marshalling (info : PartitionTableInfo) : OnParcel B Unit := do
  fields.string.write info.diskId
  fields.string.write info.tableType
  fields.int32.write info.partitionCount
  fields.int64.write info.totalSector
  fields.int32.write info.sectorSize
  fields.int32.write info.alignSector
  writePartitions fields info.partitions

def PartitionTableInfo.unmarshalling : OnParcel B PartitionTableInfo := do
  let diskId ← fields.shortString
  let tableType ← fields.shortString
  let partitionCount ← fields.int32.take
  let totalSector ← fields.int64.take
  let sectorSize ← fields.int32.take
  let alignSector ← fields.int32.take
  let partitions ← readCounted fields.uint32 PARTITION_COUNT_MAX
    (PartitionInfo.unmarshalling fields)
  pure { diskId, tableType, partitionCount, totalSector, sectorSize, alignSector, partitions }

/-- What the receiver has of a partition table. -/
def PartitionTableInfo.received (info : PartitionTableInfo) : PartitionTableInfo where
  diskId := info.diskId
  tableType := info.tableType
  partitionCount := info.partitionCount
  totalSector := info.totalSector
  sectorSize := info.sectorSize
  alignSector := info.alignSector
  partitions := info.partitions

structure PartitionTableInfo.Fits (info : PartitionTableInfo) : Prop where
  diskId : info.diskId.length ≤ PARCEL_STRING_MAX_LEN
  tableType : info.tableType.length ≤ PARCEL_STRING_MAX_LEN
  count : info.partitions.length ≤ PARTITION_COUNT_MAX.toNat
  partitions : ∀ part ∈ info.partitions, part.Fits

theorem reads_writePartitions {partitions : List PartitionInfo}
    (small : partitions.length < 2 ^ 32) :
    ReadsIf (writePartitions fields partitions)
      (readCounted fields.uint32 PARTITION_COUNT_MAX (PartitionInfo.unmarshalling fields))
      (partitions.length ≤ PARTITION_COUNT_MAX.toNat ∧ ∀ part ∈ partitions, part.Fits)
      partitions := by
  intro p p' wrote
  rw [writePartitions] at wrote
  split at wrote
  · cases wrote
  · exact ReadsIf.counted (PartitionInfo.reads fields) small p p' wrote

theorem PartitionTableInfo.reads {info : PartitionTableInfo}
    (small : info.partitions.length < 2 ^ 32) :
    ReadsIf (info.marshalling fields) (PartitionTableInfo.unmarshalling fields) info.Fits
      info.received := by
  apply ReadsIf.congr
  · rw [PartitionTableInfo.marshalling, PartitionTableInfo.unmarshalling]
    exact .bind (fields.reads_shortString _) (.bind (fields.reads_shortString _)
      (.bind (.field fields.int32 _) (.bind (.field fields.int64 _)
      (.bind (.field fields.int32 _) (.bind (.field fields.int32 _)
      (.last _ (reads_writePartitions fields small)))))))
  · constructor
    · rintro ⟨diskId, tableType, -, -, -, -, count, partitions⟩
      exact ⟨diskId, tableType, count, partitions⟩
    · intro fits
      exact ⟨fits.diskId, fits.tableType, trivial, trivial, trivial, trivial, fits.count,
        fits.partitions⟩

theorem PartitionTableInfo.writes (accept : fields.Accept) {info : PartitionTableInfo}
    (count : info.partitions.length ≤ PARTITION_COUNT_MAX.toNat) :
    Writes (info.marshalling fields) := by
  have small : ¬ PARTITION_COUNT_MAX < UInt32.ofNat info.partitions.length := by
    have bound : PARTITION_COUNT_MAX.toNat = 256 := rfl
    have size : UInt32.size = 4294967296 := rfl
    rw [UInt32.lt_iff_toNat_lt, UInt32.toNat_ofNat_of_lt' (by omega)]
    omega
  have partitions : Writes (writePartitions fields info.partitions) := by
    rw [writePartitions, if_neg small]
    exact .bind (accept.uint32 _) (.forM fun part _ => PartitionInfo.writes fields accept part)
  rw [PartitionTableInfo.marshalling]
  exact .bind (accept.string _) (.bind (accept.string _) (.bind (accept.int32 _)
    (.bind (accept.int64 _) (.bind (accept.int32 _) (.bind (accept.int32 _) partitions)))))

/-! ## External disks -/

structure ExternalDiskInfo : Type where
  diskId : CppString := []
  diskType : Int32 := 0
  volumeIds : List CppString := []
  vendorId : Int32 := 0
  productId : Int32 := 0

def ExternalDiskInfo.marshalling (info : ExternalDiskInfo) : OnParcel B Unit := do
  fields.string.write info.diskId
  fields.int32.write info.diskType
  writeCounted fields.uint32 fields.string.write info.volumeIds
  fields.int32.write info.vendorId
  fields.int32.write info.productId

def ExternalDiskInfo.unmarshalling : OnParcel B ExternalDiskInfo := do
  let diskId ← fields.shortString
  let diskType ← fields.int32.take
  let volumeIds ← readCounted fields.uint32 EXTERNAL_DISK_VOLUME_IDS_PARCEL_MAX fields.shortString
  let vendorId ← fields.int32.take
  let productId ← fields.int32.take
  pure { diskId, diskType, volumeIds, vendorId, productId }

structure ExternalDiskInfo.Fits (info : ExternalDiskInfo) : Prop where
  diskId : info.diskId.length ≤ PARCEL_STRING_MAX_LEN
  count : info.volumeIds.length ≤ EXTERNAL_DISK_VOLUME_IDS_PARCEL_MAX.toNat
  volumeIds : ∀ vid ∈ info.volumeIds, vid.length ≤ PARCEL_STRING_MAX_LEN

theorem ExternalDiskInfo.reads {info : ExternalDiskInfo} (small : info.volumeIds.length < 2 ^ 32) :
    ReadsIf (info.marshalling fields) (ExternalDiskInfo.unmarshalling fields) info.Fits info := by
  apply ReadsIf.congr
  · rw [ExternalDiskInfo.marshalling, ExternalDiskInfo.unmarshalling]
    exact .bind (fields.reads_shortString _) (.bind (.field fields.int32 _)
      (.bind (.counted fields.reads_shortString small) (.bind (.field fields.int32 _)
      (.last _ (.field fields.int32 _)))))
  · constructor
    · rintro ⟨diskId, -, ⟨count, volumeIds⟩, -, -⟩
      exact ⟨diskId, count, volumeIds⟩
    · intro fits
      exact ⟨fits.diskId, trivial, ⟨fits.count, fits.volumeIds⟩, trivial, trivial⟩

theorem ExternalDiskInfo.writes (accept : fields.Accept) (info : ExternalDiskInfo) :
    Writes (info.marshalling fields) := by
  have volumeIds : Writes (writeCounted fields.uint32 fields.string.write info.volumeIds) :=
    .bind (accept.uint32 _) (.forM fun vid _ => accept.string vid)
  rw [ExternalDiskInfo.marshalling]
  exact .bind (accept.string _) (.bind (accept.int32 _) (.bind volumeIds
    (.bind (accept.int32 _) (accept.int32 _))))

end

/-! ## A parcel of bytes -/

/-- A field with an encoding that can be read off the front. -/
def codedField {α : Type} (enc : α → List Nat) (dec : List Nat → α × List Nat)
    (undone : ∀ a rest, dec (enc a ++ rest) = (a, rest)) : Primitive Nat α where
  write a := fun p => some ((), p ++ enc a)
  read := dec
  undone {a p p'} wrote := by
    cases wrote
    exact ⟨enc a, rfl, undone a⟩

/-- Four bytes, the low one first. -/
def word (n : Nat) : List Nat :=
  [n % 256, n / 256 % 256, n / 65536 % 256, n / 16777216 % 256]

def readWord : List Nat → Nat × List Nat
  | b₀ :: b₁ :: b₂ :: b₃ :: rest => (b₀ + 256 * b₁ + 65536 * b₂ + 16777216 * b₃, rest)
  | _ => (0, [])

theorem readWord_word {n : Nat} (small : n < 2 ^ 32) (rest : List Nat) :
    readWord (word n ++ rest) = (n, rest) := by
  have value : n % 256 + 256 * (n / 256 % 256) + 65536 * (n / 65536 % 256) +
      16777216 * (n / 16777216 % 256) = n := by omega
  rw [word, List.cons_append, List.cons_append, List.cons_append, List.cons_append,
    List.nil_append, readWord, value]

/-- A number of four bytes. -/
def wordField {α : Type} (enc : α → Nat) (dec : Nat → α) (small : ∀ a, enc a < 2 ^ 32)
    (undone : ∀ a, dec (enc a) = a) : Primitive Nat α :=
  codedField (fun a => word (enc a)) (fun p => (readWord p).map dec id) <| by
    intro a rest
    rw [readWord_word (small a), Prod.map_apply, undone, id]

/-- A number of eight bytes, the low four first. -/
def longField {α : Type} (enc : α → Nat) (dec : Nat → α) (small : ∀ a, enc a < 2 ^ 64)
    (undone : ∀ a, dec (enc a) = a) : Primitive Nat α :=
  codedField (fun a => word (enc a % 2 ^ 32) ++ word (enc a / 2 ^ 32))
    (fun p =>
      let (low, rest) := readWord p
      let (high, rest) := readWord rest
      (dec (low + 2 ^ 32 * high), rest)) <| by
    intro a rest
    have high : enc a / 2 ^ 32 < 2 ^ 32 := by
      have bound := small a
      omega
    rw [List.append_assoc, readWord_word (Nat.mod_lt _ (by decide))]
    dsimp only
    rw [readWord_word high, Nat.mod_add_div, undone]

/-- A string: its length, its bytes, and zeros up to a multiple of four. A length that four bytes do
not hold stands after them. -/
def flatString (s : CppString) : List Nat :=
  (if s.length < 2 ^ 32 - 1 then word s.length else word (2 ^ 32 - 1) ++ [s.length]) ++
    (s.map Char.toNat ++ List.replicate (4 - s.length % 4) 0)

def readFlatString (p : List Nat) : CppString × List Nat :=
  let (n, rest) := readWord p
  let (n, rest) := if n < 2 ^ 32 - 1 then (n, rest) else (rest.headD 0, rest.tail)
  ((rest.take n).map Char.ofNat, rest.drop (n + (4 - n % 4)))

theorem readFlatString_flatString (s : CppString) (rest : List Nat) :
    readFlatString (flatString s ++ rest) = (s, rest) := by
  have body : ∀ p, p = s.map Char.toNat ++ List.replicate (4 - s.length % 4) 0 ++ rest →
      ((p.take s.length).map Char.ofNat, p.drop (s.length + (4 - s.length % 4))) = (s, rest) := by
    rintro p rfl
    have taken : (s.map Char.toNat ++ List.replicate (4 - s.length % 4) 0 ++ rest).take s.length =
        s.map Char.toNat := by
      rw [List.append_assoc, List.take_left' (List.length_map _)]
    have dropped : (s.map Char.toNat ++ List.replicate (4 - s.length % 4) 0 ++ rest).drop
        (s.length + (4 - s.length % 4)) = rest := by
      rw [List.drop_left']
      rw [List.length_append, List.length_map, List.length_replicate]
    rw [taken, dropped, List.map_map]
    have same : Char.ofNat ∘ Char.toNat = id := funext Char.ofNat_toNat
    rw [same, List.map_id]
  by_cases short : s.length < 2 ^ 32 - 1
  · rw [flatString, if_pos short, List.append_assoc, readFlatString, readWord_word (by omega)]
    dsimp only
    rw [if_pos short]
    exact body _ rfl
  · rw [flatString, if_neg short, List.append_assoc, List.append_assoc, readFlatString,
      readWord_word (by decide)]
    dsimp only
    rw [if_neg (Nat.lt_irrefl _)]
    exact body _ rfl

/-- A parcel as bytes. -/
def flatFields : Fields Nat where
  string := codedField flatString readFlatString readFlatString_flatString
  bool := wordField Bool.toNat (· == 1) (by decide) (by decide)
  int32 := wordField (fun n => n.toUInt32.toNat) (fun n => (UInt32.ofNat n).toInt32)
    (fun n => n.toUInt32.toNat_lt) (fun n => by simp)
  uint32 := wordField UInt32.toNat UInt32.ofNat UInt32.toNat_lt (fun n => by simp)
  int64 := longField (fun n => n.toUInt64.toNat) (fun n => (UInt64.ofNat n).toInt64)
    (fun n => n.toUInt64.toNat_lt) (fun n => by simp)
  uint64 := longField UInt64.toNat UInt64.ofNat UInt64.toNat_lt (fun n => by simp)

theorem flatFields_accept : flatFields.Accept where
  string _ _ := rfl
  bool _ _ := rfl
  int32 _ _ := rfl
  uint32 _ _ := rfl
  int64 _ _ := rfl
  uint64 _ _ := rfl

/-! ## The round trip -/

section

variable {B : Type} (fields : Fields B)

/-- An object is written, and read back from what was written, with what follows left over. -/
def Crosses {α : Type} (m : OnParcel B Unit) (r : OnParcel B α) (a : α) : Prop :=
  ∀ p, ∃ bytes, m.run p = some ((), p ++ bytes) ∧ ∀ rest, r.run (bytes ++ rest) = some (a, rest)

/-- Every object that fits crosses, with every field that is written. -/
theorem parcel_round_trip (accept : fields.Accept) :
    (∀ disk : Disk, disk.Fits →
      Crosses (disk.marshalling fields) (Disk.unmarshalling fields) disk.received) ∧
    (∀ volExternal : VolumeExternal, volExternal.core.Fits →
      Crosses (volExternal.marshalling fields) (VolumeExternal.unmarshalling fields)
        volExternal.received) ∧
    (∀ info : PartitionTableInfo, info.Fits →
      Crosses (info.marshalling fields) (PartitionTableInfo.unmarshalling fields) info.received) ∧
    (∀ part : PartitionInfo, part.Fits →
      Crosses (part.marshalling fields) (PartitionInfo.unmarshalling fields) part) ∧
    (∀ info : ExternalDiskInfo, info.Fits →
      Crosses (info.marshalling fields) (ExternalDiskInfo.unmarshalling fields) info) := by
  have small : ∀ {n : Nat}, n ≤ (256 : UInt32).toNat → n < 2 ^ 32 := by
    intro n le
    have bound : (256 : UInt32).toNat = 256 := rfl
    omega
  refine ⟨fun disk fits => ?_, fun volExternal fits => ?_, fun info fits => ?_,
    fun part fits => ?_, fun info fits => ?_⟩
  · exact (Disk.reads fields (small fits.count)).crosses (disk.writes fields accept) fits
  · exact (volExternal.reads fields).crosses (volExternal.writes fields accept) fits
  · exact (PartitionTableInfo.reads fields (small fits.count)).crosses
      (PartitionTableInfo.writes fields accept fits.count) fits
  · exact (part.reads fields).crosses (part.writes fields accept) fits
  · exact (ExternalDiskInfo.reads fields (small fits.count)).crosses (info.writes fields accept)
      fits

end

/-- A disk with one volume, in a parcel of bytes. -/
theorem parcel_round_trip_flat :
    let disk : Disk :=
      { diskId := "disk-8-0", sizeBytes := 4096, volumeIds := ["vol-8-1"], extraInfo := "\x7b\x7d" }
    Crosses (disk.marshalling flatFields) (Disk.unmarshalling flatFields) disk.received :=
  (parcel_round_trip flatFields flatFields_accept).1 _
    ⟨by decide, by decide, by decide, by decide, by decide⟩

end DiskManager.Innerkits
