import DiskManager.Manager.PartitionLine
import DiskManager.Traversal
import DiskManager.Uevent.Devices

/-!
# The ids made of device numbers

`DiskIdFrom` and `VolIdFromDev` print device numbers of any size; `IsDiskIdValid` and
`IsVolumeIdValid` ask for one to four digits.

* `idSegmentsValid_iff`: of two numbers with a dash between them the validators see the lengths.
* `generated_ids_iff`: the numbers are read back, and the ids are valid exactly below 10000.
-/

namespace DiskManager

open CppString

/-! ## Segments of an id -/

theorem dash_notMem {digits : CppString} (decimal : ∀ c ∈ digits, c.isDigit = true) :
    '-' ∉ digits := fun mem => absurd (decimal '-' mem) (by decide)

/-- What the validators ask of the two numbers after the first bytes. -/
theorem idSegmentsValid_iff {front first second : CppString}
    (firstDigits : ∀ c ∈ first, c.isDigit = true) (secondDigits : ∀ c ∈ second, c.isDigit = true) :
    idSegmentsValid (front ++ (first ++ '-' :: second)) front.length = true ↔
      (ID_SEG_MIN_DIGITS ≤ first.length ∧ first.length ≤ ID_SEG_MAX_DIGITS) ∧
        ID_SEG_MIN_DIGITS ≤ second.length ∧ second.length ≤ ID_SEG_MAX_DIGITS := by
  have firstDash : findFrom "-" (front ++ (first ++ '-' :: second)) front.length =
      some (first.length + front.length) := by
    have found : find "-" (first ++ '-' :: second) = some first.length :=
      find_first (dash_notMem firstDigits)
    have inside : front.length ≤ (front ++ (first ++ '-' :: second)).length := by
      rw [List.length_append]
      omega
    rw [findFrom, if_pos inside, List.drop_left, found]
    rfl
  have rest : (front ++ (first ++ '-' :: second)).drop (first.length + front.length + 1) =
      second := by
    have split : front ++ (first ++ '-' :: second) = (front ++ first) ++ '-' :: second := by
      rw [List.append_assoc]
    have size : first.length + front.length + 1 = (front ++ first).length + 1 := by
      rw [List.length_append, Nat.add_comm first.length]
    rw [split, size, List.drop_length_add_append]
    rfl
  have noMore : findFrom "-" (front ++ (first ++ '-' :: second))
      (first.length + front.length + 1) = none := by
    have absent : find "-" second = none := find_absent (dash_notMem secondDigits)
    rw [findFrom, rest, absent]
    split <;> rfl
  unfold idSegmentsValid
  rw [firstDash]
  dsimp only
  rw [noMore, Option.isSome_none, if_neg Bool.false_ne_true, List.drop_left, Nat.add_sub_cancel,
    List.take_left, rest, Bool.and_eq_true, isPureDigitsInRange_iff, isPureDigitsInRange_iff,
    and_iff_left firstDigits, and_iff_left secondDigits]

theorem ofNat_digits (n : Nat) : ∀ c ∈ ofNat n, c.isDigit = true :=
  fun _ mem => isDigit_of_mem_ofNat mem

theorem ofNat_segment_iff (n : Nat) :
    (ID_SEG_MIN_DIGITS ≤ (ofNat n).length ∧ (ofNat n).length ≤ ID_SEG_MAX_DIGITS) ↔
      n < 10000 := by
  have nonempty : 1 ≤ (ofNat n).length := List.length_pos_iff.mpr (ofNat_ne_nil n)
  have short : (ofNat n).length ≤ 4 ↔ n < 10000 :=
    Nat.length_toDigits_le_iff (by decide) (by decide)
  unfold ID_SEG_MIN_DIGITS ID_SEG_MAX_DIGITS
  rw [and_iff_right nonempty, short]

/-- An id of two numbers after its first bytes. -/
theorem idSegmentsValid_ofNat (front : CppString) (major minor : Nat) :
    idSegmentsValid (front ++ (ofNat major ++ '-' :: ofNat minor)) front.length = true ↔
      major < 10000 ∧ minor < 10000 := by
  rw [idSegmentsValid_iff (ofNat_digits major) (ofNat_digits minor), ofNat_segment_iff,
    ofNat_segment_iff]

/-- The traversal filter has nothing against an id. -/
theorem id_passes {front : CppString}
    (plain : (filteredBytes.all fun c => c ∉ front) = true) (major minor : Nat) :
    isFilePathInvalid (front ++ (ofNat major ++ '-' :: ofNat minor)) = false := by
  have other : (filteredBytes.all fun c => !c.isDigit && c ≠ '-') = true := by decide
  refine isFilePathInvalid_plain (by simp) fun c filtered mem => ?_
  have outside : c ∉ front := of_decide_eq_true (List.all_eq_true.mp plain c filtered)
  have noneOf := List.all_eq_true.mp other c filtered
  rw [Bool.and_eq_true, Bool.not_eq_true', decide_eq_true_eq] at noneOf
  have apart : ∀ n, c ∉ ofNat n := fun n digit => by
    rw [isDigit_of_mem_ofNat digit] at noneOf
    cases noneOf.1
  simp [outside, apart, noneOf.2] at mem

/-! ## The ids -/

theorem diskIdFrom_shape (major minor : Nat) :
    diskIdFrom major minor = ("disk-" : CppString) ++ (ofNat major ++ '-' :: ofNat minor) := by
  unfold diskIdFrom
  rw [List.append_assoc, List.append_assoc]
  rfl

theorem volIdFromDev_shape (dev : Dev) :
    volIdFromDev dev = ("vol-" : CppString) ++ (ofNat dev.major ++ '-' :: ofNat dev.minor) := by
  unfold volIdFromDev
  rw [List.append_assoc, List.append_assoc]
  rfl

theorem isDiskIdValid_diskIdFrom (major minor : Nat) :
    isDiskIdValid (diskIdFrom major minor) = true ↔ major < 10000 ∧ minor < 10000 := by
  have passes : isFilePathInvalid (diskIdFrom major minor) = false := by
    rw [diskIdFrom_shape]
    exact id_passes (by decide) major minor
  have starts : startsWith (diskIdFrom major minor) "disk-" = true := by
    rw [diskIdFrom_shape]
    exact List.isPrefixOf_iff_prefix.mpr (List.prefix_append _ _)
  have segments := idSegmentsValid_ofNat "disk-" major minor
  rw [← diskIdFrom_shape] at segments
  unfold isDiskIdValid
  rw [passes, starts]
  exact segments

/-- A number after the prefix keeps the id from being one of the other kinds. -/
theorem volIdFromDev_kind (dev : Dev) {kind : CppString}
    (other : kind ∈ [("mtp-" : CppString), "ptp-", "vol-crypt-"]) :
    startsWith (volIdFromDev dev) kind = false := by
  obtain ⟨c, cs, shape⟩ := List.exists_cons_of_ne_nil (ofNat_ne_nil dev.major)
  have digit : c.isDigit = true := isDigit_of_mem_ofNat (by rw [shape]; exact List.mem_cons_self)
  have letter : c ≠ 'c' := by
    rintro rfl
    cases digit
  rw [volIdFromDev_shape, shape]
  simp only [List.mem_cons, List.not_mem_nil, or_false] at other
  rcases other with rfl | rfl | rfl
  · rfl
  · rfl
  · simp [startsWith, List.isPrefixOf, letter.symm]

theorem isVolumeIdValid_volIdFromDev (dev : Dev) :
    isVolumeIdValid (volIdFromDev dev) = true ↔ dev.major < 10000 ∧ dev.minor < 10000 := by
  have passes : isFilePathInvalid (volIdFromDev dev) = false := by
    rw [volIdFromDev_shape]
    exact id_passes (by decide) dev.major dev.minor
  have starts : startsWith (volIdFromDev dev) "vol-" = true := by
    rw [volIdFromDev_shape]
    exact List.isPrefixOf_iff_prefix.mpr (List.prefix_append _ _)
  have segments := idSegmentsValid_ofNat "vol-" dev.major dev.minor
  rw [← volIdFromDev_shape] at segments
  unfold isVolumeIdValid
  rw [passes, volIdFromDev_kind dev (by decide), volIdFromDev_kind dev (by decide),
    volIdFromDev_kind dev (by decide), starts]
  exact segments

/-- The numbers of a device are read back from its disk id, and the ids made of them are valid
exactly when the minor has at most four digits. -/
theorem generated_ids_iff {major minor : Nat} (majorFits : major < 2 ^ 12)
    (minorFits : minor < 2 ^ 20) :
    parseDiskIdToMajMin (diskIdFrom major minor) = (major, minor) ∧
      (isDiskIdValid (diskIdFrom major minor) = true ↔ minor < 10000) ∧
      (isVolumeIdValid (volIdFromDev (makedev major minor)) = true ↔ minor < 10000) := by
  have majorWide : major < 2 ^ 32 := by omega
  have minorWide : minor < 2 ^ 32 := by omega
  have small : major < 10000 := by omega
  have read := @parseDiskIdToMajMin_diskIdFrom { major, minor } ⟨majorWide, minorWide⟩
  dsimp only at read
  have device : makedev major minor = ⟨major, minor⟩ := by
    unfold makedev
    rw [Nat.mod_eq_of_lt majorWide, Nat.mod_eq_of_lt minorWide]
  refine ⟨read, ?_, ?_⟩
  · rw [isDiskIdValid_diskIdFrom, and_iff_right small]
  · rw [device, isVolumeIdValid_volIdFromDev, and_iff_right small]

theorem generated_ids_iff_stick :
    parseDiskIdToMajMin (diskIdFrom 8 16) = (8, 16) ∧
      (isDiskIdValid (diskIdFrom 8 16) = true ↔ 16 < 10000) ∧
      (isVolumeIdValid (volIdFromDev (makedev 8 16)) = true ↔ 16 < 10000) :=
  generated_ids_iff (by decide) (by decide)

/-- The ids of a device with a minor of five digits. -/
theorem generated_ids_refused :
    ¬ ∀ major minor : Nat, major < 2 ^ 12 → minor < 2 ^ 20 →
      isDiskIdValid (diskIdFrom major minor) = true ∧
        isVolumeIdValid (volIdFromDev (makedev major minor)) = true ∧
        parseDiskIdToMajMin (diskIdFrom major minor) = (major, minor) := by
  intro accepted
  obtain ⟨valid, -⟩ := accepted 8 10000 (by decide) (by decide)
  rw [isDiskIdValid_diskIdFrom] at valid
  omega

end DiskManager
