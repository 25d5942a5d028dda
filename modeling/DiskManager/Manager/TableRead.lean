import DiskManager.Manager.Core
import DiskManager.Manager.PartitionLine

/-!
# What `GetPartitionTable` returns

* `TableOutcome`, `wp_getPartitionTable`: the result is decided by whether the disk is known and by
  what the daemon prints; only the file systems are looked up.
* `parseTableInfo_bounds`: a table that is read has positive 32-bit sizes and a last sector that an
  `int64_t` holds.
-/

namespace DiskManager

open Interact CppString

/-! ## Numbers in lines -/

theorem takeDigits_digits {s number rest : CppString} (taken : takeDigits s = some (number, rest)) :
    Digits number := by
  unfold takeDigits at taken
  split at taken
  next => cases taken
  next some' =>
    cases taken
    refine ⟨fun empty => some' (by rw [empty]; rfl), fun c mem => ?_⟩
    exact List.mem_takeWhile_imp mem

/-- What a pattern is searched for is what it matches somewhere. -/
theorem regexSearch_of {P : CppString → Prop} {pattern : CppString → Option CppString}
    (matched : ∀ s number, pattern s = some number → P number) {s number : CppString}
    (found : regexSearch pattern s = some number) : P number := by
  induction s with
  | nil => exact matched [] number found
  | cons c cs ih =>
      rw [regexSearch] at found
      cases here : pattern (c :: cs) with
      | some first =>
          rw [here] at found
          cases found
          exact matched _ _ here
      | none =>
          rw [here] at found
          exact ih found

theorem usableSectorPattern_digits {s number : CppString}
    (matched : usableSectorPattern s = some number) : Digits number := by
  simp only [usableSectorPattern, Option.bind_eq_bind, Option.bind_eq_some_iff] at matched
  obtain ⟨after, -, ⟨digits, rest⟩, taken, same⟩ := matched
  cases same
  exact takeDigits_digits taken

/-- The number in the first line that starts as it should. -/
theorem numberInLine_eq_some_iff {pre : CppString} {pattern : CppString → Option CppString}
    {convert : CppString → Option Int} {content : List CppString} {value : Int} :
    numberInLine pre pattern convert content = some value ↔
      ∃ target number, content.find? (fun buf => startsWith buf pre) = some target ∧
        regexSearch pattern target = some number ∧ convert number = some value := by
  simp only [numberInLine, Option.bind_eq_bind, Option.bind_eq_some_iff, exists_and_left]

/-- The result of `GetPartitionTable` before the partitions are read. -/
structure TableBounds (info : PartitionTableInfo) : Prop where
  sectorSize_pos : 0 < info.sectorSize
  sectorSize_lt : info.sectorSize < 2 ^ 31 - 1
  alignSector_pos : 0 < info.alignSector
  alignSector_lt : info.alignSector < 2 ^ 31 - 1
  lastUsableSector_nonneg : 0 ≤ info.lastUsableSector
  lastUsableSector_lt : info.lastUsableSector < 2 ^ 63

theorem PositiveInt32.pos {token : CppString} {value : Int} (number : PositiveInt32 token value) :
    0 < value := by
  obtain ⟨⟨nonempty, digits⟩, plain, rfl, -⟩ := number
  have written := ofNat_digitsValue digits nonempty plain
  have notZero : digitsValue token ≠ 0 := by
    intro zero
    rw [zero] at written
    rw [← written] at plain
    exact plain rfl
  omega

theorem parseTableInfo_eq_some_iff {content : List CppString} {info : PartitionTableInfo} :
    parseTableInfo content = some info ↔
      ∃ sectorSize alignSector lastUsableSector,
        numberInLine "Sector size " sectorSizePattern convertStringToInt32 content =
          some sectorSize ∧
        numberInLine "Partitions will be aligned on" alignSectorPattern convertStringToInt32
          content = some alignSector ∧
        numberInLine "First usable sector is" usableSectorPattern convertStringToInt content =
          some lastUsableSector ∧
        info = { sectorSize, alignSector, lastUsableSector, totalSector := lastUsableSector } := by
  simp only [parseTableInfo, setSectorSize, setAlignSector, setUsableSector, Option.bind_eq_bind,
    Option.bind_eq_some_iff, Option.pure_def, Option.some.injEq]
  constructor
  · rintro ⟨_, ⟨sectorSize, sized, rfl⟩, _, ⟨alignSector, aligned, rfl⟩, last, usable, rfl⟩
    exact ⟨sectorSize, alignSector, last, sized, aligned, usable, rfl⟩
  · rintro ⟨sectorSize, alignSector, last, sized, aligned, usable, rfl⟩
    exact ⟨_, ⟨sectorSize, sized, rfl⟩, _, ⟨alignSector, aligned, rfl⟩, last, usable, rfl⟩

theorem parseTableInfo_bounds {content : List CppString} {info : PartitionTableInfo}
    (parsed : parseTableInfo content = some info) : TableBounds info := by
  obtain ⟨sectorSize, alignSector, last, sized, aligned, usable, rfl⟩ :=
    parseTableInfo_eq_some_iff.mp parsed
  obtain ⟨_, _, -, -, size⟩ := numberInLine_eq_some_iff.mp sized
  obtain ⟨_, _, -, -, alignment⟩ := numberInLine_eq_some_iff.mp aligned
  obtain ⟨target, number, -, found, converted⟩ := numberInLine_eq_some_iff.mp usable
  have size := convertStringToInt32_iff.mp size
  have alignment := convertStringToInt32_iff.mp alignment
  have digits := regexSearch_of (fun _ _ => usableSectorPattern_digits) found
  have nonneg : 0 ≤ last := by
    have isDigit := digits.digits
    rw [convertStringToInt_iff fun c mem => isSpace_of_isDigit (isDigit c mem),
      cString_of_not_mem (digits_not_nul isDigit)] at converted
    cases converted.decimal with
    | plain _ => omega
    | plus _ => exact absurd (isDigit _ List.mem_cons_self) (by decide)
    | minus _ => exact absurd (isDigit _ List.mem_cons_self) (by decide)
  have upper : last < 2 ^ 63 := by
    have isDigit := digits.digits
    exact ((convertStringToInt_iff fun c mem => isSpace_of_isDigit (isDigit c mem)).mp
      converted).upper
  exact ⟨size.pos, size.upper, alignment.pos, alignment.upper, nonneg, upper⟩

/-! ## The partitions -/

/-- A partition as it is listed, with its size and the file system that was looked up. -/
def ListedAs (sectorSize : Int) (read listed : PartitionInfo) : Prop :=
  ∃ fsType, listed = { read with
    sizeBytes := int64 ((read.endSector - read.startSector + 1) * sectorSize), fsType }

theorem within_getFsType (diskId : CppString) (partitionNum : Int) :
    Within CoreKept (getFsTypeByDiskIdAndPartNum diskId partitionNum) fun _ => True := by
  rw [getFsTypeByDiskIdAndPartNum]
  refine within_seq (within_getDiskById diskId) fun shown _ => ?_
  split
  · trivial
  refine within_seq (within_findVolumeByPartNum _ _) fun found _ => ?_
  split
  · trivial
  · trivial

theorem within_readPartitions (diskId : CppString) (sectorSize : Int) (lines : List CppString) :
    Within CoreKept (readPartitions diskId sectorSize lines) fun partitions =>
      List.Forall₂ (ListedAs sectorSize) (lines.filterMap parsePartitionInfo) partitions := by
  induction lines with
  | nil => exact .nil
  | cons buf lines ih =>
      rw [readPartitions]
      split
      next unread =>
        rw [List.filterMap_cons_none unread]
        exact ih
      next info read =>
        rw [List.filterMap_cons_some read]
        refine within_seq (within_getFsType _ _) fun fsType _ => ?_
        exact within_seq ih fun partitions listed => .cons ⟨fsType, rfl⟩ listed

/-- The table that is returned and remembered. -/
def tableOf (diskId : CppString) (content : List CppString) (head : PartitionTableInfo)
    (partitions : List PartitionInfo) : PartitionTableInfo :=
  { setTableType content { head with diskId } with
    partitions, partitionCount := partitions.length }

section

variable {W : Type} {env : Env ManagerState W Req Req.Resp} {s : ManagerState} {w : W}
  {diskId : CppString}

/-- The daemon may answer the request for the table of the disk so. -/
def TablePrinted (env : Env ManagerState W Req Req.Resp) (s : ManagerState) (diskId : CppString)
    (answer : ErrCode × CppString) : Prop :=
  ∃ w w', env s w (.getPartitionTableInfo (DEV_BLOCK_PREFIX ++ diskId)) answer w'

/-- What `GetPartitionTable` returns. -/
inductive TableOutcome (env : Env ManagerState W Req Req.Resp) (s : ManagerState)
    (diskId : CppString) : ErrCode × Option PartitionTableInfo → Prop
  | unknown : s.diskMap[diskId]? = none → TableOutcome env s diskId (E_NON_EXIST, none)
  | failed {answer : ErrCode × CppString} : TablePrinted env s diskId answer →
    answer.1 ≠ E_OK ∨ answer.2.isEmpty = true →
    TableOutcome env s diskId (E_GET_PARTITION_ERROR, none)
  | unreadable {raw : CppString} : TablePrinted env s diskId (E_OK, raw) →
    parseTableInfo (splitRawDumpToLines raw) = none →
    TableOutcome env s diskId (E_GET_PARTITION_ERROR, none)
  | read {raw : CppString} {head : PartitionTableInfo} {partitions : List PartitionInfo} :
    TablePrinted env s diskId (E_OK, raw) → parseTableInfo (splitRawDumpToLines raw) = some head →
    List.Forall₂ (ListedAs head.sectorSize)
      ((partitionLines (splitRawDumpToLines raw)).filterMap parsePartitionInfo) partitions →
    TableOutcome env s diskId
      (E_OK, some (tableOf diskId (splitRawDumpToLines raw) head partitions))

theorem wp_getPartitionTable :
    wp (.ofEnv env) (getPartitionTable diskId) (fun result _ _ =>
      TableOutcome env s diskId result) s w := by
  rw [getPartitionTable]
  refine wp_look_bind ?_
  split
  next unknown =>
    rw [Bool.not_eq_true', Option.isSome_eq_false_iff] at unknown
    exact .unknown (Option.isNone_iff_eq_none.mp unknown)
  refine wp_called_bind fun result w' answered => ?_
  obtain ⟨ret, execRet⟩ := result
  dsimp only
  split
  next failed => exact .failed ⟨w, w', answered⟩ failed
  next ok =>
  rw [not_or, not_not] at ok
  obtain ⟨rfl, -⟩ := ok
  split
  next unreadable => exact .unreadable ⟨w, w', answered⟩ unreadable
  next head parsed =>
    refine wp_core_bind (within_readPartitions _ _ _) fun partitions s' w'' kept listed => ?_
    exact ⟨trivial, .read ⟨w, w', answered⟩ parsed listed⟩

end

end DiskManager
