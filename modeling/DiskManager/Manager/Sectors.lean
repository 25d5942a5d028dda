import DiskManager.Manager.Daemon
import DiskManager.Manager.TableReport

/-!
# Sectors and bytes

`IsParamsValid` checks a new partition against the table that was read, and `SetPartitions` computes
the sizes of the listed ones.

* `params_usable_iff`: accepted parameters are usable unless their first sector is not aligned while
  its offset in bytes is a multiple of the alignment in sectors, which is what is tested.
* `sector_arithmetic_iff`: the computations stay in range exactly when every listed partition ends
  where it starts or later and all sizes and offsets in bytes fit an `int64_t`.
-/

namespace DiskManager

open Interact CppString

/-- The checks of `DiskManagerProvider::CreatePartition` on the parameters. -/
def createPartitionChecks (params : PartitionParams) : ErrCode :=
  if params.partitionNum ≤ 0 then E_PARAMS_INVALID
  else if params.startSector ≤ 0 ∨ params.endSector ≤ 0 ∨ params.startSector ≥ params.endSector then
    E_PARAMS_INVALID
  else if params.typeCode.isEmpty then E_PARAMS_INVALID
  else E_OK

theorem ordered_of_checks {params : PartitionParams}
    (checked : createPartitionChecks params = E_OK) : 0 < params.startSector ∧ params.startSector < params.endSector := by
  unfold createPartitionChecks at checked
  split at checked
  · cases checked
  split at checked
  · cases checked
  next sectors => omega

/-- What the table holds that `GetPartitionTable` returns. -/
structure TableOf (raw : CppString) (info : PartitionTableInfo) : Prop where
  bounds : TableBounds info
  listed : List.Forall₂ (ListedAs info.sectorSize)
    ((partitionLines (splitRawDumpToLines raw)).filterMap parsePartitionInfo) info.partitions

section

variable {W : Type} {env : Env ManagerState W Req Req.Resp} {s s' : ManagerState} {w w' : W}
  {diskId : CppString} {info : PartitionTableInfo} {params : PartitionParams}

theorem tableOf_returns
    (run : Returns env (getPartitionTable diskId) s w (E_OK, some info) s' w') :
    ∃ raw, TablePrinted env s diskId (E_OK, raw) ∧ TableOf raw info := by
  have outcome := wp_returns (C := .ofEnv env) wp_getPartitionTable run
  cases outcome with
  | @read raw head partitions printed parsed listed =>
      obtain ⟨sizePos, sizeLt, alignPos, alignLt, lastNonneg, lastLt⟩ := parseTableInfo_bounds parsed
      exact ⟨raw, printed, ⟨sizePos, sizeLt, alignPos, alignLt, lastNonneg, lastLt⟩, listed⟩

/-! ## Reading the table of a stick -/

def printedAnswer (text : CppString) : (q : Req) → q.Resp
  | .getPartitionTableInfo _ => (E_OK, text)
  | q => okAnswer ∅ q

theorem printedAnswer_obeys (text : CppString) (s : ManagerState) (w : Unit) (q : Req) :
    printsTable text s w q (printedAnswer text q) w := by
  cases q
  all_goals trivial

/-- What `GetPartitionTable` does when the daemon prints these lines. -/
def tableRun (lines : List CppString) :
    (ErrCode × Option PartitionTableInfo) × ManagerState × Unit :=
  (getPartitionTable "disk-8-0").exec
    (fun w q => (printedAnswer ((['\n'] : CppString).intercalate lines) q, w)) stickPresent ()

theorem tableRun_returns (lines : List CppString) :
    Returns (printsTable ((['\n'] : CppString).intercalate lines)) (getPartitionTable "disk-8-0")
      stickPresent () (tableRun lines).1 (tableRun lines).2.1 (tableRun lines).2.2 :=
  Prog.exec_returns (fun s w q => printedAnswer_obeys _ s w q) _ _ _

/-- A table with one partition. -/
def onePartition (p : PartitionInfo) : PartitionTableInfo :=
  { diskId := "disk-8-0", tableType := "GPT", partitionCount := 1, totalSector := 15728606
    sectorSize := 512, alignSector := 2048, lastUsableSector := 15728606, partitions := [p] }

def stickTable : PartitionTableInfo :=
  onePartition
    { partitionNum := 1, startSector := 2048, endSector := 15728606, sizeBytes := 8051998208 }

theorem stickTable_returns :
    Returns (printsTable ((['\n'] : CppString).intercalate stickLines))
      (getPartitionTable "disk-8-0") stickPresent () (E_OK, some stickTable) (tableRun stickLines).2.1 () := by
  have read : (tableRun stickLines).1 = (E_OK, some stickTable) := by decide +kernel
  rw [← read]
  exact tableRun_returns stickLines

/-! ## New partitions -/

/-- What a new partition should be, in exact arithmetic. -/
structure Usable (params : PartitionParams) (info : PartitionTableInfo) : Prop where
  alignSector_le : info.alignSector ≤ params.startSector
  ordered : params.startSector < params.endSector
  le_lastUsableSector : params.endSector ≤ info.lastUsableSector
  aligned : info.alignSector ∣ params.startSector
  size : ∀ minSize ∈ minPartitionSize params.typeCode,
    minSize ≤ (params.endSector - params.startSector + 1) * info.sectorSize

/-- The first sector is not aligned, but its offset in bytes is a multiple of the alignment. -/
def AlignedInBytes (params : PartitionParams) (info : PartitionTableInfo) : Prop :=
  ¬ info.alignSector ∣ params.startSector ∧
    info.alignSector ∣ int64 (params.startSector * info.sectorSize)

/-- The sectors are in range and the size, as it is computed, is not too small. -/
def FitsTable (params : PartitionParams) (info : PartitionTableInfo) : Prop :=
  info.inRange params.startSector = true ∧ info.inRange params.endSector = true ∧
    ∀ minSize ∈ minPartitionSize params.typeCode,
      minSize ≤ int64 ((params.endSector - params.startSector + 1) * info.sectorSize)

theorem inRange_iff {sector : Int} : info.inRange sector = true ↔
    sector ≤ info.lastUsableSector ∧ info.alignSector ≤ sector := decide_eq_true_iff

theorem isParamsValid_iff : isParamsValid params info = true ↔
    FitsTable params info ∧ info.alignSector ∣ int64 (params.startSector * info.sectorSize) := by
  have size : ((minPartitionSize params.typeCode).all fun minSize => decide
      (minSize ≤ int64 ((params.endSector - params.startSector + 1) * info.sectorSize))) = true ↔
      ∀ minSize ∈ minPartitionSize params.typeCode,
        minSize ≤ int64 ((params.endSector - params.startSector + 1) * info.sectorSize) := by
    cases minPartitionSize params.typeCode with
    | none => simp
    | some n => simp
  rw [isParamsValid, Bool.and_eq_true, Bool.and_eq_true, Bool.and_eq_true, size, decide_eq_true_iff,
    ← Int.dvd_iff_tmod_eq_zero, FitsTable]
  constructor
  · rintro ⟨⟨⟨first, aligned⟩, last⟩, size⟩
    exact ⟨⟨first, last, size⟩, aligned⟩
  · rintro ⟨⟨first, last, size⟩, aligned⟩
    exact ⟨⟨⟨first, aligned⟩, last⟩, size⟩

/-- What overflows only gets smaller. -/
theorem int64_le {n : Int} (nonneg : 0 ≤ n) : int64 n ≤ n := by
  unfold int64 Int.bmod
  dsimp only
  split
  · omega
  · omega

/-- Parameters that pass the checks are accepted only when they are usable, except that the first
sector is aligned in bytes. -/
theorem params_usable_iff
    (run : Returns env (getPartitionTable diskId) s w (E_OK, some info) s' w')
    (checked : createPartitionChecks params = E_OK) :
    (isParamsValid params info = true → Usable params info) ↔
      ¬ (FitsTable params info ∧ AlignedInBytes params info) := by
  obtain ⟨pos, ordered⟩ := ordered_of_checks checked
  obtain ⟨raw, -, table⟩ := tableOf_returns run
  have sizePos := table.bounds.sectorSize_pos
  rw [isParamsValid_iff]
  constructor
  · rintro usable ⟨fits, unaligned, bytes⟩
    exact unaligned (usable ⟨fits, bytes⟩).aligned
  · rintro notBytes ⟨fits, bytes⟩
    have aligned : info.alignSector ∣ params.startSector :=
      not_not.mp fun unaligned => notBytes ⟨fits, unaligned, bytes⟩
    obtain ⟨first, last, size⟩ := fits
    refine ⟨(inRange_iff.mp first).2, ordered, (inRange_iff.mp last).1, aligned, ?_⟩
    intro minSize min
    have exact : 0 ≤ (params.endSector - params.startSector + 1) * info.sectorSize :=
      Int.mul_nonneg (by omega) (by omega)
    exact Int.le_trans (size minSize min) (int64_le exact)

def alignedParams : PartitionParams := ⟨2, 4096, 8191999, "vfat"⟩

theorem params_usable_aligned :
    (isParamsValid alignedParams stickTable = true → Usable alignedParams stickTable) ↔
      ¬ (FitsTable alignedParams stickTable ∧ AlignedInBytes alignedParams stickTable) :=
  params_usable_iff stickTable_returns (by decide)

/-- The first sector is a multiple of 4. -/
def shiftedParams : PartitionParams := ⟨2, 2052, 8191999, "vfat"⟩

/-- A first sector that is aligned in bytes only is accepted. -/
theorem params_not_aligned :
    Returns (printsTable ((['\n'] : CppString).intercalate stickLines))
        (getPartitionTable "disk-8-0") stickPresent () (E_OK, some stickTable)
        (tableRun stickLines).2.1 () ∧
      createPartitionChecks shiftedParams = E_OK ∧ isParamsValid shiftedParams stickTable = true ∧
      ¬ Usable shiftedParams stickTable := by
  refine ⟨stickTable_returns, by decide, by decide, fun usable => ?_⟩
  exact absurd usable.aligned (by decide)

/-! ## Overflow -/

/-- What the size of a listed partition is computed with. -/
def sizeOperations (sectorSize : Int) (p : PartitionInfo) : List Int :=
  [p.endSector - p.startSector, p.endSector - p.startSector + 1,
    (p.endSector - p.startSector + 1) * sectorSize]

/-- The results of the operations of `IsParamsValid`, as far as it gets. -/
def paramsOperations (params : PartitionParams) (info : PartitionTableInfo) : List Int :=
  if !info.inRange params.startSector then []
  else if (int64 (params.startSector * info.sectorSize)).tmod info.alignSector ≠ 0 ∨
      info.inRange params.endSector = false then
    [params.startSector * info.sectorSize]
  else
    [params.startSector * info.sectorSize, params.endSector - params.startSector,
      params.endSector - params.startSector + 1,
      (params.endSector - params.startSector + 1) * info.sectorSize]

/-- Nothing overflows, nothing is divided by zero, and the sizes are positive. -/
structure SectorsSafe (raw : CppString) (info : PartitionTableInfo) (params : PartitionParams) :
    Prop where
  listed : ∀ line ∈ partitionLines (splitRawDumpToLines raw), ∀ p ∈ parsePartitionInfo line,
    ∀ n ∈ sizeOperations info.sectorSize p, FitsInt64 n
  params : ∀ n ∈ paramsOperations params info, FitsInt64 n
  modulus : info.alignSector ≠ 0
  positive : ∀ p ∈ info.partitions, 0 < p.sizeBytes

/-- The most sectors whose bytes an `int64_t` counts. -/
def maxSectors (info : PartitionTableInfo) : Int := (2 ^ 63 - 1) / info.sectorSize

/-- The listed partitions have sectors, and no more than can be counted; so has the new one where
its size is computed, and its first sector is not too far. -/
structure SectorsCounted (raw : CppString) (info : PartitionTableInfo) (params : PartitionParams) :
    Prop where
  listed : ∀ line ∈ partitionLines (splitRawDumpToLines raw), ∀ p ∈ parsePartitionInfo line,
    p.startSector ≤ p.endSector ∧ p.endSector - p.startSector + 1 ≤ maxSectors info
  start : info.inRange params.startSector = true → params.startSector ≤ maxSectors info
  span : info.inRange params.startSector = true → info.inRange params.endSector = true →
    info.alignSector ∣ int64 (params.startSector * info.sectorSize) →
    params.endSector - params.startSector + 1 ≤ maxSectors info

theorem fits_mul_iff {n : Int} (sizePos : 0 < info.sectorSize) (nonneg : 0 ≤ n) :
    FitsInt64 (n * info.sectorSize) ↔ n ≤ maxSectors info := by
  have product : 0 ≤ n * info.sectorSize := Int.mul_nonneg nonneg (Int.le_of_lt sizePos)
  rw [maxSectors, Int.le_ediv_iff_mul_le sizePos, FitsInt64]
  omega

theorem maxSectors_lt (info : PartitionTableInfo) : maxSectors info < 2 ^ 63 := by
  have le := Int.ediv_le_self (a := 2 ^ 63 - 1) info.sectorSize (by decide)
  unfold maxSectors
  omega

theorem positive_iff_of_listed {sectorSize : Int} {read listed : List PartitionInfo}
    (same : List.Forall₂ (ListedAs sectorSize) read listed) :
    (∀ q ∈ listed, 0 < q.sizeBytes) ↔
      ∀ p ∈ read, 0 < int64 ((p.endSector - p.startSector + 1) * sectorSize) := by
  induction same with
  | nil => simp
  | cons first rest ih =>
      obtain ⟨fsType, rfl⟩ := first
      rw [List.forall_mem_cons, List.forall_mem_cons, ih]

/-- The operations on a listed partition that has sectors stay in range just when they can be
counted. -/
theorem listed_safe_iff {p : PartitionInfo} (sizePos : 0 < info.sectorSize) :
    ((∀ n ∈ sizeOperations info.sectorSize p, FitsInt64 n) ∧
      0 < int64 ((p.endSector - p.startSector + 1) * info.sectorSize)) ↔
      p.startSector ≤ p.endSector ∧ p.endSector - p.startSector + 1 ≤ maxSectors info := by
  simp only [sizeOperations, List.forall_mem_cons, List.not_mem_nil, false_imp_iff, implies_true,
    and_true]
  constructor
  · rintro ⟨⟨-, -, product⟩, positive⟩
    rw [int64_of_fits product] at positive
    have span := Int.pos_of_mul_pos_left positive sizePos
    exact ⟨by omega, (fits_mul_iff sizePos (by omega)).mp product⟩
  · rintro ⟨ordered, counted⟩
    have small := maxSectors_lt info
    have product := (fits_mul_iff sizePos (by omega)).mpr counted
    have positive : 0 < (p.endSector - p.startSector + 1) * info.sectorSize :=
      Int.mul_pos (by omega) sizePos
    rw [int64_of_fits product]
    refine ⟨⟨?_, ?_, product⟩, positive⟩
    · unfold FitsInt64
      omega
    · unfold FitsInt64
      omega

/-- The operations of `IsParamsValid` stay in range just when the sectors can be counted. -/
theorem params_safe_iff (bounds : TableBounds info) (pos : 0 < params.startSector)
    (ordered : params.startSector < params.endSector) :
    (∀ n ∈ paramsOperations params info, FitsInt64 n) ↔
      (info.inRange params.startSector = true → params.startSector ≤ maxSectors info) ∧
      (info.inRange params.startSector = true → info.inRange params.endSector = true →
        info.alignSector ∣ int64 (params.startSector * info.sectorSize) →
        params.endSector - params.startSector + 1 ≤ maxSectors info) := by
  have sizePos := bounds.sectorSize_pos
  have start := fits_mul_iff (n := params.startSector) sizePos (by omega)
  have span := fits_mul_iff (n := params.endSector - params.startSector + 1) sizePos (by omega)
  have test : (int64 (params.startSector * info.sectorSize)).tmod info.alignSector = 0 ↔
      info.alignSector ∣ int64 (params.startSector * info.sectorSize) :=
    Int.dvd_iff_tmod_eq_zero.symm
  rw [paramsOperations]
  by_cases first : info.inRange params.startSector = true
  · rw [if_neg (by simp [first])]
    by_cases stops : (int64 (params.startSector * info.sectorSize)).tmod info.alignSector ≠ 0 ∨
        info.inRange params.endSector = false
    · rw [if_pos stops]
      have never : info.inRange params.endSector = true →
          ¬ info.alignSector ∣ int64 (params.startSector * info.sectorSize) := by
        intro last aligned
        rcases stops with unaligned | outside
        · exact unaligned (test.mpr aligned)
        · rw [last] at outside
          cases outside
      simp only [List.forall_mem_singleton, start, first, true_imp_iff]
      exact ⟨fun counted => ⟨counted, fun last aligned => absurd aligned (never last)⟩,
        fun counted => counted.1⟩
    · rw [if_neg stops]
      rw [not_or, not_not, Bool.not_eq_false, test] at stops
      obtain ⟨aligned, last⟩ := stops
      have upper := (inRange_iff.mp last).1
      have lastLt := bounds.lastUsableSector_lt
      simp only [List.forall_mem_cons, List.not_mem_nil, false_imp_iff, implies_true, and_true,
        start, span, first, last, aligned, true_imp_iff]
      constructor
      · rintro ⟨near, -, -, counted⟩
        exact ⟨near, counted⟩
      · rintro ⟨near, counted⟩
        refine ⟨near, ?_, ?_, counted⟩
        · unfold FitsInt64
          omega
        · unfold FitsInt64
          omega
  · rw [if_pos (by simp [first])]
    simp [first]

/-- For every text the daemon prints and parameters that pass the checks, nothing overflows and all
sizes are positive exactly when the sectors can be counted. -/
theorem sector_arithmetic_iff {raw : CppString}
    (answers : ∀ w answer w',
      env s w (.getPartitionTableInfo (DEV_BLOCK_PREFIX ++ diskId)) answer w' →
        answer = (E_OK, raw))
    (run : Returns env (getPartitionTable diskId) s w (E_OK, some info) s' w')
    (checked : createPartitionChecks params = E_OK) :
    SectorsSafe raw info params ↔ SectorsCounted raw info params := by
  obtain ⟨pos, ordered⟩ := ordered_of_checks checked
  obtain ⟨raw', ⟨v, v', printed⟩, bounds, listed⟩ := tableOf_returns run
  cases answers _ _ _ printed
  have sizePos := bounds.sectorSize_pos
  have sizes := positive_iff_of_listed listed
  have params := params_safe_iff bounds pos ordered
  constructor
  · intro safe
    refine ⟨fun line mem p read => ?_, (params.mp safe.params).1, (params.mp safe.params).2⟩
    have positive := sizes.mp safe.positive p (List.mem_filterMap.mpr ⟨line, mem, read⟩)
    exact (listed_safe_iff sizePos).mp ⟨safe.listed line mem p read, positive⟩
  · intro counted
    have each : ∀ line ∈ partitionLines (splitRawDumpToLines raw), ∀ p ∈ parsePartitionInfo line,
        (∀ n ∈ sizeOperations info.sectorSize p, FitsInt64 n) ∧
          0 < int64 ((p.endSector - p.startSector + 1) * info.sectorSize) :=
      fun line mem p read => (listed_safe_iff sizePos).mpr (counted.listed line mem p read)
    refine ⟨fun line mem p read => (each line mem p read).1,
      params.mpr ⟨counted.start, counted.span⟩, Int.ne_of_gt bounds.alignSector_pos,
      sizes.mpr fun p mem => ?_⟩
    obtain ⟨line, inside, read⟩ := List.mem_filterMap.mp mem
    exact (each line inside p read).2

theorem sector_arithmetic_stick :
    SectorsSafe ((['\n'] : CppString).intercalate stickLines) stickTable alignedParams ↔
      SectorsCounted ((['\n'] : CppString).intercalate stickLines) stickTable alignedParams :=
  sector_arithmetic_iff (fun _ _ _ answered => answered) stickTable_returns (by decide)

/-- The partition is said to end at the last sector an `int64_t` counts. -/
def endlessLines : List CppString :=
  printedLines "   1  0  9223372036854775807  8.0 ZiB  0700  Microsoft basic data"

def endlessTable : PartitionTableInfo :=
  onePartition
    { partitionNum := 1, startSector := 0, endSector := 9223372036854775807, sizeBytes := 0 }

/-- The size of a partition overflows. -/
theorem sector_arithmetic_overflow :
    Returns (printsTable ((['\n'] : CppString).intercalate endlessLines))
        (getPartitionTable "disk-8-0") stickPresent () (E_OK, some endlessTable)
        (tableRun endlessLines).2.1 () ∧
      createPartitionChecks alignedParams = E_OK ∧
      ¬ SectorsSafe ((['\n'] : CppString).intercalate endlessLines) endlessTable alignedParams := by
  have read : (tableRun endlessLines).1 = (E_OK, some endlessTable) := by decide +kernel
  refine ⟨?_, by decide, fun safe => ?_⟩
  · rw [← read]
    exact tableRun_returns endlessLines
  · exact absurd (safe.positive _ List.mem_cons_self) (by decide)

end

end DiskManager
