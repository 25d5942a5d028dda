import DiskManager.JsonCodec
import DiskManager.Manager.Unmount
import DiskManager.Uevent.Devices

/-!
# The free size of a volume

For a file system on an optical disc that is neither a CD nor read-only, `GetFreeSizeOfVolume` falls
back on what the drive says of the whole disc when neither the drive nor `statvfs` knows of free
space.

* `MeaningfulFreeSize`: a size that is returned with success is one.
* `free_size_meaningful_iff`: this holds except where the fallback uses a capacity that was not read
  or that is smaller than the file system.
-/

namespace DiskManager

open Interact

/-! ## Answers -/

/-- The numbers of `statvfs` and their products are those of an `int64_t`. -/
structure StatVfs.Measured (diskInfo : StatVfs) : Prop where
  bsize : 0 ≤ diskInfo.bsize
  bfree : 0 ≤ diskInfo.bfree
  blocks : 0 ≤ diskInfo.blocks
  free : diskInfo.bsize * diskInfo.bfree < 2 ^ 63
  total : diskInfo.bsize * diskInfo.blocks < 2 ^ 63

/-- No answer about sizes is negative, whether or not the call succeeds. -/
structure Replies.Measured (replies : Replies) : Prop where
  stat : ∀ path diskInfo, replies (.statvfs path) = some diskInfo → diskInfo.Measured
  total : ∀ devPath, 0 ≤ (replies (.getCapacity devPath)).2.1 ∧
    (replies (.getCapacity devPath)).2.1 < 2 ^ 63
  free : ∀ devPath, 0 ≤ (replies (.getCapacity devPath)).2.2 ∧
    (replies (.getCapacity devPath)).2.2 < 2 ^ 63

/-- The same answers, but for the total size of a disc. -/
def Replies.withTotal (replies : Replies) (totalSize : Int) : Replies
  | .getCapacity devPath =>
      let capacity := replies (.getCapacity devPath)
      (capacity.1, totalSize, capacity.2.2)
  | q => replies q

section Results

variable {α β : Type} {replies : Replies} {s : ManagerState}

theorem Replies.result_pure (a : α) : replies.result (pure a : ManagerProg α) s = a := rfl

theorem Replies.result_call_bind {q : Req} {f : q.Resp → ManagerProg α} :
    replies.result (call q >>= f) s = replies.result (f (replies q)) s := rfl

theorem Replies.result_read_bind {g : ManagerState → α} {f : α → ManagerProg β} :
    replies.result (Prog.read g >>= f) s = replies.result (f (g s)) s := rfl

end Results

/-! ## The sizes of a disc -/

/-- What `GetOddFreeSize` makes of the answers. -/
def oddFreeSize (discType : CppString) (diskInfo : StatVfs) (capacity : ErrCode × Int × Int) :
    ErrCode × Int :=
  if CppString.contains "ROM" discType then (E_OK, 0)
  else if CppString.contains "CD" discType then (capacity.1, capacity.2.2)
  else if capacity.2.2 ≠ 0 then (capacity.1, capacity.2.2)
  else if diskInfo.bsize * diskInfo.bfree = 0 then
    (E_OK, capacity.2.1 - diskInfo.bsize * diskInfo.blocks)
  else (E_OK, diskInfo.bsize * diskInfo.bfree)

/-- Neither the drive nor `statvfs` reports free space. -/
structure FallsBack (capacity : ErrCode × Int × Int) (diskInfo : StatVfs) : Prop where
  drive : capacity.2.2 = 0
  stat : diskInfo.bsize * diskInfo.bfree = 0

/-- Outside the fallback no total is used, and no size is negative. -/
theorem oddFreeSize_direct {discType : CppString} {diskInfo : StatVfs}
    {capacity : ErrCode × Int × Int} (measured : diskInfo.Measured) (free : 0 ≤ capacity.2.2)
    (direct : CppString.contains "ROM" discType = true ∨ CppString.contains "CD" discType = true ∨
      ¬ FallsBack capacity diskInfo) :
    0 ≤ (oddFreeSize discType diskInfo capacity).2 ∧ ∀ totalSize,
      oddFreeSize discType diskInfo (capacity.1, totalSize, capacity.2.2) =
        oddFreeSize discType diskInfo capacity := by
  have startFree : 0 ≤ diskInfo.bsize * diskInfo.bfree := Int.mul_nonneg measured.bsize measured.bfree
  unfold oddFreeSize
  dsimp only
  split
  · exact ⟨Int.le_refl 0, fun _ => rfl⟩
  next noRom =>
  split
  · exact ⟨free, fun _ => rfl⟩
  next noCd =>
  split
  · exact ⟨free, fun _ => rfl⟩
  next drive =>
  split
  next stat =>
    have falls : FallsBack capacity diskInfo := ⟨not_not.mp drive, stat⟩
    rcases direct with rom | cd | other
    · exact absurd rom noRom
    · exact absurd cd noCd
    · exact absurd falls other
  · exact ⟨startFree, fun _ => rfl⟩

section

variable [JsonLib] {replies : Replies} {s : ManagerState} {volumeUuid : CppString}
  {vol : VolumeExternal} {diskInfo : StatVfs}

/-! ## What is returned -/

/-- A file system on an optical disc that is neither a CD nor read-only. -/
structure VolumeExternal.OnOtherDisc (vol : VolumeExternal) : Prop where
  odd : isOddFsType vol.fsType.getFsTypeString = true
  noRom : CppString.contains "ROM" (getDiscType vol.extraInfo) = false
  noCd : CppString.contains "CD" (getDiscType vol.extraInfo) = false

theorem result_getOddFreeSize (extraInfo blockVolId : CppString) :
    replies.result (getOddFreeSize extraInfo blockVolId diskInfo) s =
      oddFreeSize (getDiscType extraInfo) diskInfo
        (replies (.getCapacity (DEV_BLOCK_PREFIX ++ blockVolId))) := by
  unfold getOddFreeSize oddFreeSize
  dsimp only
  split
  · rfl
  rw [Replies.result_call_bind]
  obtain ⟨oddRet, totalSize, freeSize⟩ := replies (.getCapacity (DEV_BLOCK_PREFIX ++ blockVolId))
  dsimp only
  split
  · rfl
  split
  · rfl
  split
  · rfl
  · rfl

/-- There is no size of a volume that is not there, is not mounted or cannot be asked. -/
def Unanswered (replies : Replies) (s : ManagerState) (volumeUuid : CppString) : Prop :=
  ∀ vol, lookupVolumeByUuidUnlocked s.volumeMap volumeUuid = some vol →
    vol.path = [] ∨ replies (.statvfs vol.path) = none

theorem result_unanswered (unanswered : Unanswered replies s volumeUuid) :
    (replies.result (getFreeSizeOfVolume volumeUuid) s).1 ≠ E_OK := by
  unfold getFreeSizeOfVolume
  rw [Replies.result_read_bind]
  split
  · rw [Replies.result_pure]
    decide
  next vol found =>
    split
    · rw [Replies.result_pure]
      decide
    next mounted =>
      rw [Replies.result_call_bind]
      rcases unanswered vol found with gone | none
      · exact absurd (List.isEmpty_iff.mpr gone) mounted
      · rw [none]
        dsimp only
        rw [Replies.result_pure]
        decide

theorem result_answered (found : lookupVolumeByUuidUnlocked s.volumeMap volumeUuid = some vol)
    (mounted : vol.path ≠ []) (stat : replies (.statvfs vol.path) = some diskInfo) :
    replies.result (getFreeSizeOfVolume volumeUuid) s =
      if isOddFsType vol.fsType.getFsTypeString then
        oddFreeSize (getDiscType vol.extraInfo) diskInfo
          (replies (.getCapacity (DEV_BLOCK_PREFIX ++ vol.id)))
      else (E_OK, diskInfo.bsize * diskInfo.bfree) := by
  have path : ¬ vol.path.isEmpty = true := fun empty => mounted (List.isEmpty_iff.mp empty)
  unfold getFreeSizeOfVolume
  rw [Replies.result_read_bind, found]
  dsimp only
  rw [if_neg path, Replies.result_call_bind, stat]
  dsimp only
  split
  · exact result_getOddFreeSize vol.extraInfo vol.id
  · rfl

/-! ## The fallback -/

/-- What is returned with success is a size, and a total that was not read has no part in it. -/
structure MeaningfulFreeSize (replies : Replies) (s : ManagerState) (volumeUuid : CppString) :
    Prop where
  nonneg : ∀ freeSize, replies.result (getFreeSizeOfVolume volumeUuid) s = (E_OK, freeSize) →
    0 ≤ freeSize
  read : ∀ vol, lookupVolumeByUuidUnlocked s.volumeMap volumeUuid = some vol → vol.OnOtherDisc →
    (replies (.getCapacity (DEV_BLOCK_PREFIX ++ vol.id))).1 ≠ E_OK →
    ∀ freeSize, replies.result (getFreeSizeOfVolume volumeUuid) s = (E_OK, freeSize) →
    ∀ totalSize, (replies.withTotal totalSize).result (getFreeSizeOfVolume volumeUuid) s =
      (E_OK, freeSize)

/-- The capacity was read, and the file system fits into it. -/
structure CoversStat (capacity : ErrCode × Int × Int) (diskInfo : StatVfs) : Prop where
  read : capacity.1 = E_OK
  fits : diskInfo.bsize * diskInfo.blocks ≤ capacity.2.1

theorem oddFreeSize_fallback (disc : vol.OnOtherDisc) {capacity : ErrCode × Int × Int}
    (falls : FallsBack capacity diskInfo) :
    oddFreeSize (getDiscType vol.extraInfo) diskInfo capacity =
      (E_OK, capacity.2.1 - diskInfo.bsize * diskInfo.blocks) := by
  unfold oddFreeSize
  rw [disc.noRom, disc.noCd, if_neg Bool.false_ne_true, if_neg Bool.false_ne_true,
    if_neg (not_not.mpr falls.drive), if_pos falls.stat]

theorem meaningful_of_answered (measured : replies.Measured)
    (found : lookupVolumeByUuidUnlocked s.volumeMap volumeUuid = some vol) (mounted : vol.path ≠ [])
    (stat : replies (.statvfs vol.path) = some diskInfo)
    (covers : vol.OnOtherDisc →
      FallsBack (replies (.getCapacity (DEV_BLOCK_PREFIX ++ vol.id))) diskInfo →
      CoversStat (replies (.getCapacity (DEV_BLOCK_PREFIX ++ vol.id))) diskInfo) :
    MeaningfulFreeSize replies s volumeUuid := by
  have numbers := measured.stat vol.path diskInfo stat
  have free := (measured.free (DEV_BLOCK_PREFIX ++ vol.id)).1
  have result := result_answered found mounted stat
  by_cases odd : isOddFsType vol.fsType.getFsTypeString = true
  · rw [if_pos odd] at result
    by_cases fallback : vol.OnOtherDisc ∧
        FallsBack (replies (.getCapacity (DEV_BLOCK_PREFIX ++ vol.id))) diskInfo
    · obtain ⟨disc, falls⟩ := fallback
      obtain ⟨read, fits⟩ := covers disc falls
      rw [oddFreeSize_fallback disc falls] at result
      constructor
      · intro freeSize returned
        rw [result, Prod.mk.injEq] at returned
        omega
      · intro vol' found' _ failed
        rw [found, Option.some.injEq] at found'
        subst found'
        exact absurd read failed
    · have direct : CppString.contains "ROM" (getDiscType vol.extraInfo) = true ∨
          CppString.contains "CD" (getDiscType vol.extraInfo) = true ∨
          ¬ FallsBack (replies (.getCapacity (DEV_BLOCK_PREFIX ++ vol.id))) diskInfo := by
        by_contra other
        push Not at other
        exact fallback ⟨⟨odd, Bool.eq_false_iff.mpr other.1, Bool.eq_false_iff.mpr other.2.1⟩,
          other.2.2⟩
      obtain ⟨nonneg, same⟩ := oddFreeSize_direct numbers free direct
      constructor
      · intro freeSize returned
        rw [result] at returned
        rw [returned] at nonneg
        exact nonneg
      · intro vol' found' _ _ freeSize returned totalSize
        have stat' : (replies.withTotal totalSize) (.statvfs vol.path) = some diskInfo := stat
        rw [result_answered found mounted stat', if_pos odd, ← returned, result]
        exact same totalSize
  · rw [if_neg odd] at result
    constructor
    · intro freeSize returned
      rw [result, Prod.mk.injEq] at returned
      rw [← returned.2]
      exact Int.mul_nonneg numbers.bsize numbers.bfree
    · intro vol' found' disc
      rw [found, Option.some.injEq] at found'
      subst found'
      exact absurd disc.odd odd

/-- The free size is meaningful except where the fallback uses a capacity that was not read, or one
into which the file system does not fit. -/
theorem free_size_meaningful_iff (measured : replies.Measured) :
    MeaningfulFreeSize replies s volumeUuid ↔
      ∀ vol diskInfo, lookupVolumeByUuidUnlocked s.volumeMap volumeUuid = some vol →
        vol.path ≠ [] → replies (.statvfs vol.path) = some diskInfo → vol.OnOtherDisc →
        FallsBack (replies (.getCapacity (DEV_BLOCK_PREFIX ++ vol.id))) diskInfo →
        CoversStat (replies (.getCapacity (DEV_BLOCK_PREFIX ++ vol.id))) diskInfo := by
  constructor
  · rintro ⟨nonneg, read⟩ vol diskInfo found mounted stat disc falls
    have result := result_answered found mounted stat
    rw [if_pos disc.odd, oddFreeSize_fallback disc falls] at result
    have fits := nonneg _ result
    refine ⟨?_, by omega⟩
    by_contra failed
    -- With another total the same failure gives another size.
    set capacity := replies (.getCapacity (DEV_BLOCK_PREFIX ++ vol.id)) with named
    have other := read vol found disc failed _ result (capacity.2.1 + 1)
    have stat' : (replies.withTotal (capacity.2.1 + 1)) (.statvfs vol.path) = some diskInfo := stat
    have falls' : FallsBack ((replies.withTotal (capacity.2.1 + 1))
        (.getCapacity (DEV_BLOCK_PREFIX ++ vol.id))) diskInfo := ⟨falls.drive, falls.stat⟩
    rw [result_answered found mounted stat', if_pos disc.odd, oddFreeSize_fallback disc falls'] at other
    have total : ((replies.withTotal (capacity.2.1 + 1))
        (.getCapacity (DEV_BLOCK_PREFIX ++ vol.id))).2.1 = capacity.2.1 + 1 := rfl
    rw [total, Prod.mk.injEq] at other
    omega
  · intro covers
    by_cases unanswered : Unanswered replies s volumeUuid
    · have failed : ∀ freeSize,
          replies.result (getFreeSizeOfVolume volumeUuid) s ≠ (E_OK, freeSize) :=
        fun freeSize result => result_unanswered unanswered (congrArg Prod.fst result)
      exact ⟨fun freeSize result => absurd result (failed freeSize),
        fun _ _ _ _ freeSize result => absurd result (failed freeSize)⟩
    · unfold Unanswered at unanswered
      push Not at unanswered
      obtain ⟨vol, found, mounted, stat⟩ := unanswered
      obtain ⟨diskInfo, stat⟩ := Option.ne_none_iff_exists'.mp stat
      exact meaningful_of_answered measured found mounted stat (covers vol diskInfo found mounted stat)

end

/-! A full disc of a kind that the drive does not tell. -/

def fullDisc : VolumeExternal :=
  { id := "vol-11-0", diskId := "disk-11-0", fsUuid := "2026010100000000", fsType := .udf
    path := "/mnt/data/external/2026010100000000" }

def discInserted : ManagerState :=
  { ManagerState.boot with volumeMap := (∅ : VolumeMap).insert "vol-11-0" fullDisc }

/-- `statvfs` finds no free block of 4.7 GB. -/
def discStat : StatVfs := { bsize := 2048, bfree := 0, blocks := 2295104 }

def discReplies (capacity : ErrCode × Int × Int) : Replies
  | .statvfs _ => some discStat
  | .getCapacity _ => capacity
  | q => okAnswer ∅ q

theorem discReplies_measured {capacity : ErrCode × Int × Int}
    (total : 0 ≤ capacity.2.1 ∧ capacity.2.1 < 2 ^ 63)
    (free : 0 ≤ capacity.2.2 ∧ capacity.2.2 < 2 ^ 63) : (discReplies capacity).Measured where
  stat path diskInfo stat := by
    cases stat
    exact ⟨by decide, by decide, by decide, by decide, by decide⟩
  total _ := total
  free _ := free

theorem free_size_meaningful_disc :
    letI := tableJson
    MeaningfulFreeSize (discReplies (E_OK, 4700372992, 0)) discInserted "2026010100000000" ↔
      ∀ vol diskInfo,
        lookupVolumeByUuidUnlocked discInserted.volumeMap "2026010100000000" = some vol →
        vol.path ≠ [] →
        discReplies (E_OK, 4700372992, 0) (.statvfs vol.path) = some diskInfo →
        vol.OnOtherDisc →
        FallsBack (discReplies (E_OK, 4700372992, 0)
          (.getCapacity (DEV_BLOCK_PREFIX ++ vol.id))) diskInfo →
        CoversStat (discReplies (E_OK, 4700372992, 0)
          (.getCapacity (DEV_BLOCK_PREFIX ++ vol.id))) diskInfo := by
  let _ := tableJson
  exact free_size_meaningful_iff (discReplies_measured (by decide) (by decide))

/-- When the drive does not answer, the size of the file system is returned with its sign turned. -/
theorem free_size_of_full_disc :
    letI := tableJson
    ¬ ∀ (replies : Replies) (s : ManagerState) (volumeUuid : CppString),
      replies.Measured → MeaningfulFreeSize replies s volumeUuid := by
  let _ := tableJson
  intro meaningful
  have measured : (discReplies (DISK_MGR_ERR, 0, 0)).Measured :=
    discReplies_measured (by decide) (by decide)
  have result : (discReplies (DISK_MGR_ERR, 0, 0)).result
      (getFreeSizeOfVolume "2026010100000000") discInserted = (E_OK, -4700372992) := by
    decide +kernel
  have nonneg := (meaningful _ discInserted "2026010100000000" measured).nonneg _ result
  exact absurd nonneg (by decide)

end DiskManager
