import Mathlib.Data.Nat.Find
import DiskManager.Manager.Core
import DiskManager.Manager.Mount
import DiskManager.Manager.Records

/-!
# Uuids that are given a suffix

`DedupFsUuidUnlocked` tries the uuid itself and then the uuid with `_1`, `_2` and so on.

* `dedup_least_suffix`: it ends, at the first of these that no other volume holds.
* `dedup_valid_iff`: of a valid uuid it makes one that `IsUuidValid` refuses exactly when it adds a
  suffix to more than 128 bytes, which a uuid has that ends in a suffix already.
* `unknown_uuid_stays_iff`: no uuid counts as a uuid another volume may hold.
-/

namespace DiskManager

open Interact CppString

/-! ## The first free name -/

section

variable {α : Type} {taken : List α} {name : Nat → α}

/-- Of more names than are taken, one is free; the first of them comes early. -/
theorem exists_least_free (distinct : Function.Injective name) :
    ∃ k ≤ taken.length, name k ∉ taken ∧ ∀ j < k, name j ∈ taken := by
  classical
  have free : ∃ k, name k ∉ taken := by
    by_contra all
    push Not at all
    have nodup : ((List.range (taken.length + 1)).map name).Nodup :=
      List.Nodup.map distinct List.nodup_range
    have sub : (List.range (taken.length + 1)).map name ⊆ taken := by
      intro n mem
      obtain ⟨j, -, rfl⟩ := List.mem_map.mp mem
      exact all j
    have count := (List.subperm_of_subset nodup sub).length_le
    rw [List.length_map, List.length_range] at count
    exact Nat.not_succ_le_self _ count
  have before : ∀ j < Nat.find free, name j ∈ taken :=
    fun j less => not_not.mp (Nat.find_min free less)
  refine ⟨Nat.find free, ?_, Nat.find_spec free, before⟩
  have nodup : ((List.range (Nat.find free)).map name).Nodup :=
    List.Nodup.map distinct List.nodup_range
  have sub : (List.range (Nat.find free)).map name ⊆ taken := by
    intro n mem
    obtain ⟨j, less, rfl⟩ := List.mem_map.mp mem
    exact before j (List.mem_range.mp less)
  have count := (List.subperm_of_subset nodup sub).length_le
  rwa [List.length_map, List.length_range] at count

end

/-! ## The uuids of the other volumes -/

/-- Another volume holds the uuid. -/
def HeldByOther (volumeMap : VolumeMap) (volumeId uuid : CppString) : Prop :=
  ∃ (k : CppString) (vol : VolumeExternal),
    volumeMap[k]? = some vol ∧ k ≠ volumeId ∧ vol.fsUuid = uuid

def otherVolumes (volumeMap : VolumeMap) (volumeId : CppString) : List VolumeExternal :=
  (volumeMap.toList.filter fun kv => kv.1 ≠ volumeId).map (·.2)

section

variable {volumeMap : VolumeMap} {volumeId fsUuid : CppString}

instance decidableHeldByOther (volumeMap : VolumeMap) (volumeId uuid : CppString) :
    Decidable (HeldByOther volumeMap volumeId uuid) :=
  decidable_of_iff _ isUuidOccupiedUnlocked_iff

theorem heldByOther_iff_mem {uuid : CppString} :
    HeldByOther volumeMap volumeId uuid ↔
      uuid ∈ (otherVolumes volumeMap volumeId).map (·.fsUuid) := by
  simp only [HeldByOther, otherVolumes, List.mem_map, List.mem_filter, StdMap.mem_toList,
    Prod.exists, decide_eq_true_eq]
  constructor
  · rintro ⟨k, vol, found, other, uuid⟩
    exact ⟨vol, ⟨k, vol, ⟨found, other⟩, rfl⟩, uuid⟩
  · rintro ⟨vol, ⟨k, vol, ⟨found, other⟩, rfl⟩, uuid⟩
    exact ⟨k, vol, found, other, uuid⟩

theorem length_otherVolumes_le : (otherVolumes volumeMap volumeId).length ≤ volumeMap.size := by
  rw [otherVolumes, List.length_map, ← Std.ExtTreeMap.length_toList]
  exact List.length_filter_le _ _

theorem not_occupied_iff {uuid : CppString} :
    isUuidOccupiedUnlocked volumeMap volumeId uuid = false ↔
      ¬ HeldByOther volumeMap volumeId uuid :=
  Bool.eq_false_iff.trans (not_congr isUuidOccupiedUnlocked_iff)

/-! ## The loop -/

/-- The uuid, and then the uuid with each suffix. -/
def dedupName (fsUuid : CppString) : Nat → CppString
  | 0 => fsUuid
  | k + 1 => dedupCandidate fsUuid (k + 1)

theorem dedupName_injective (fsUuid : CppString) : Function.Injective (dedupName fsUuid) := by
  have longer : ∀ k, fsUuid.length < (dedupCandidate fsUuid k).length := by
    intro k
    simp only [dedupCandidate, UUID_SEQ_SEPARATOR, List.length_append]
    exact Nat.lt_of_lt_of_le (Nat.lt_succ_self _) (Nat.le_add_right _ _)
  intro m n same
  cases m with
  | zero =>
      cases n with
      | zero => rfl
      | succ n => exact absurd (congrArg List.length same) (Nat.ne_of_lt (longer (n + 1)))
  | succ m =>
      cases n with
      | zero => exact absurd (congrArg List.length same) (Nat.ne_of_gt (longer (m + 1)))
      | succ n => exact dedupCandidate_injective fsUuid same

/-- The loop of `DedupFsUuidUnlocked` from the suffix `seq` on: it tries so many suffixes and returns
the last. `seq` is a `uint32_t`, which does not overflow below 2^32 volumes. -/
inductive DedupLoop (volumeMap : VolumeMap) (volumeId fsUuid : CppString) :
    Nat → Nat → CppString → Prop
  | free {seq : Nat} :
    isUuidOccupiedUnlocked volumeMap volumeId (dedupCandidate fsUuid seq) = false →
    DedupLoop volumeMap volumeId fsUuid seq 1 (dedupCandidate fsUuid seq)
  | taken {seq tries : Nat} {resolved : CppString} :
    isUuidOccupiedUnlocked volumeMap volumeId (dedupCandidate fsUuid seq) = true →
    DedupLoop volumeMap volumeId fsUuid (seq + 1) tries resolved →
    DedupLoop volumeMap volumeId fsUuid seq (tries + 1) resolved

/-- `DedupFsUuidUnlocked` with the number of suffixes it tries. -/
inductive DedupRun (volumeMap : VolumeMap) (volumeId fsUuid : CppString) :
    Nat → CppString → Prop
  | free : isUuidOccupiedUnlocked volumeMap volumeId fsUuid = false →
    DedupRun volumeMap volumeId fsUuid 0 fsUuid
  | taken {tries : Nat} {resolved : CppString} :
    isUuidOccupiedUnlocked volumeMap volumeId fsUuid = true →
    DedupLoop volumeMap volumeId fsUuid 1 tries resolved →
    DedupRun volumeMap volumeId fsUuid tries resolved

/-- The loop goes past the suffixes that are held, to the first that is not. -/
theorem dedupLoop_of_least {seq n : Nat}
    (held : ∀ j < n, HeldByOther volumeMap volumeId (dedupCandidate fsUuid (seq + j)))
    (free : ¬ HeldByOther volumeMap volumeId (dedupCandidate fsUuid (seq + n))) :
    DedupLoop volumeMap volumeId fsUuid seq (n + 1) (dedupCandidate fsUuid (seq + n)) ∧
      ∀ fuel, n ≤ fuel →
        dedupFrom volumeMap volumeId fsUuid fuel seq = dedupCandidate fsUuid (seq + n) := by
  induction n generalizing seq with
  | zero =>
      have here := not_occupied_iff.mpr free
      rw [Nat.add_zero] at here ⊢
      refine ⟨.free here, fun fuel _ => ?_⟩
      cases fuel with
      | zero => rfl
      | succ fuel =>
          rw [dedupFrom, if_pos (by simp [here])]
          rfl
  | succ n ih =>
      have shift : ∀ j, seq + (j + 1) = seq + 1 + j := fun j => by omega
      have taken := isUuidOccupiedUnlocked_iff.mpr (held 0 (Nat.succ_pos n))
      rw [shift] at free
      have later : ∀ j < n,
          HeldByOther volumeMap volumeId (dedupCandidate fsUuid (seq + 1 + j)) := by
        intro j less
        rw [← shift]
        exact held (j + 1) (Nat.succ_lt_succ less)
      obtain ⟨loop, from'⟩ := ih later free
      rw [shift]
      refine ⟨.taken taken loop, fun fuel enough => ?_⟩
      cases fuel with
      | zero => exact absurd enough (Nat.not_succ_le_zero n)
      | succ fuel =>
          have occupied : isUuidOccupiedUnlocked volumeMap volumeId (dedupCandidate fsUuid seq) =
            true := taken
          rw [dedupFrom, occupied, if_neg (by decide)]
          exact from' fuel (Nat.le_of_succ_le_succ enough)

/-- The result is the first name that no other volume holds. -/
theorem dedup_eq_name {k : Nat} (few : k ≤ volumeMap.size + 2)
    (free : ¬ HeldByOther volumeMap volumeId (dedupName fsUuid k))
    (held : ∀ j < k, HeldByOther volumeMap volumeId (dedupName fsUuid j)) :
    DedupRun volumeMap volumeId fsUuid k (dedupName fsUuid k) ∧
      dedupFsUuidUnlocked volumeMap volumeId fsUuid = dedupName fsUuid k := by
  rw [dedupFsUuidUnlocked]
  cases k with
  | zero =>
      have plain : isUuidOccupiedUnlocked volumeMap volumeId fsUuid = false :=
        not_occupied_iff.mpr free
      exact ⟨.free plain, if_pos (by simp [plain])⟩
  | succ n =>
      have taken : isUuidOccupiedUnlocked volumeMap volumeId fsUuid = true :=
        isUuidOccupiedUnlocked_iff.mpr (held 0 (Nat.succ_pos n))
      have last : dedupName fsUuid (n + 1) = dedupCandidate fsUuid (1 + n) := by
        rw [Nat.add_comm 1 n]
        rfl
      rw [last] at free ⊢
      have later : ∀ j < n, HeldByOther volumeMap volumeId (dedupCandidate fsUuid (1 + j)) := by
        intro j less
        have there := held (j + 1) (Nat.succ_lt_succ less)
        rwa [dedupName, Nat.add_comm j 1] at there
      obtain ⟨loop, from'⟩ := dedupLoop_of_least later free
      refine ⟨.taken taken loop, ?_⟩
      rw [if_neg (by simp [taken])]
      exact from' _ (by omega)

/-- The first free name is found. -/
theorem exists_dedup_name (volumeMap : VolumeMap) (volumeId fsUuid : CppString) :
    ∃ k ≤ (otherVolumes volumeMap volumeId).length,
      DedupRun volumeMap volumeId fsUuid k (dedupFsUuidUnlocked volumeMap volumeId fsUuid) ∧
      dedupFsUuidUnlocked volumeMap volumeId fsUuid = dedupName fsUuid k ∧
      ¬ HeldByOther volumeMap volumeId (dedupName fsUuid k) ∧
      ∀ j < k, HeldByOther volumeMap volumeId (dedupName fsUuid j) := by
  let taken := (otherVolumes volumeMap volumeId).map (·.fsUuid)
  obtain ⟨k, few, free, held⟩ :
      ∃ k ≤ taken.length, dedupName fsUuid k ∉ taken ∧ ∀ j < k, dedupName fsUuid j ∈ taken :=
    exists_least_free (dedupName_injective fsUuid)
  simp only [taken, ← heldByOther_iff_mem, List.length_map] at few free held
  have size : (otherVolumes volumeMap volumeId).length ≤ volumeMap.size := length_otherVolumes_le
  obtain ⟨run, result⟩ := dedup_eq_name (by omega) free held
  exact ⟨k, few, by rwa [result], result, free, held⟩

/-- What is returned depends on the uuids of the other volumes alone. -/
theorem dedup_congr {volumeMap' : VolumeMap}
    (same : ∀ uuid, HeldByOther volumeMap' volumeId uuid ↔ HeldByOther volumeMap volumeId uuid) :
    dedupFsUuidUnlocked volumeMap' volumeId fsUuid =
      dedupFsUuidUnlocked volumeMap volumeId fsUuid := by
  obtain ⟨k, -, -, result, free, held⟩ := exists_dedup_name volumeMap volumeId fsUuid
  obtain ⟨k', -, -, result', free', held'⟩ := exists_dedup_name volumeMap' volumeId fsUuid
  have least : k' = k := by
    rcases Nat.lt_trichotomy k' k with less | equal | greater
    · exact absurd ((same _).mpr (held k' less)) free'
    · exact equal
    · exact absurd ((same _).mp (held' k greater)) free
  rw [result, result', least]

end

/-! ## Recording metadata -/

section

variable {W : Type} {env : Env ManagerState W Req Req.Resp} {s : ManagerState} {w : W}

/-- The record of a volume does not decide what the other volumes hold. -/
theorem heldByOther_updateVolume {volumeId uuid : CppString}
    {f : VolumeExternal → VolumeExternal} :
    HeldByOther (s.updateVolume volumeId f).volumeMap volumeId uuid ↔
      HeldByOther s.volumeMap volumeId uuid := by
  have others : ∀ (k : CppString) (vol : VolumeExternal),
      ((s.updateVolume volumeId f).volumeMap[k]? = some vol ∧ k ≠ volumeId ∧ vol.fsUuid = uuid) ↔
        (s.volumeMap[k]? = some vol ∧ k ≠ volumeId ∧ vol.fsUuid = uuid) := by
    intro k vol
    by_cases same : k = volumeId
    · simp [same]
    · rw [ManagerState.get_updateVolume_ne (Ne.symm same)]
  simp only [HeldByOther, others]

/-- What `UpdateVolumeMetadata` leaves of the memory it finds. -/
def metadataRecorded (s : ManagerState) (volumeId fsUuid fsTypeStr description : CppString) :
    ManagerState :=
  s.updateVolume volumeId fun vol =>
    { vol with
      fsUuid := dedupFsUuidUnlocked s.volumeMap volumeId fsUuid
      fsType := getFsTypeByStr fsTypeStr
      description }

theorem updateVolume_of_none {volumeId : CppString} {f : VolumeExternal → VolumeExternal}
    (missing : s.volumeMap[volumeId]? = none) : s.updateVolume volumeId f = s := by
  have same : (s.updateVolume volumeId f).volumeMap = s.volumeMap := by
    refine StdMap.ext fun k => ?_
    by_cases eq : volumeId = k
    · subst eq
      rw [ManagerState.get_updateVolume_self, missing]
      rfl
    · exact ManagerState.get_updateVolume_ne eq
  calc s.updateVolume volumeId f
      = { s with volumeMap := (s.updateVolume volumeId f).volumeMap } := rfl
    _ = s := by rw [same]

theorem wp_updateVolumeMetadata {volumeId fsUuid fsTypeStr description : CppString}
    {post : ErrCode → ManagerState → W → Prop} :
    wp (.ofEnv env) (updateVolumeMetadata volumeId fsUuid fsTypeStr description) post s w ↔
      post (if s.volumeMap[volumeId]?.isNone then E_NON_EXIST else E_OK)
        (metadataRecorded s volumeId fsUuid fsTypeStr description) w := by
  rw [updateVolumeMetadata, wp_atomically]
  dsimp only
  split
  next missing =>
    rw [metadataRecorded, updateVolume_of_none (Option.isNone_iff_eq_none.mp missing)]
    exact and_iff_right trivial
  next => exact and_iff_right trivial

theorem state_of_updateVolumeMetadata {volumeId fsUuid fsTypeStr description : CppString}
    {s' : ManagerState} {w' : W} {err : ErrCode}
    (run : Returns env (updateVolumeMetadata volumeId fsUuid fsTypeStr description) s w err s' w') :
    s' = metadataRecorded s volumeId fsUuid fsTypeStr description := by
  have recorded : wp (.ofEnv env) (updateVolumeMetadata volumeId fsUuid fsTypeStr description)
      (fun _ t _ => t = metadataRecorded s volumeId fsUuid fsTypeStr description) s w :=
    wp_updateVolumeMetadata.mpr rfl
  exact wp_returns recorded run

theorem metadataRecorded_twice (s : ManagerState)
    (volumeId fsUuid fsTypeStr description : CppString) :
    metadataRecorded (metadataRecorded s volumeId fsUuid fsTypeStr description) volumeId fsUuid
      fsTypeStr description = metadataRecorded s volumeId fsUuid fsTypeStr description := by
  have uuid : dedupFsUuidUnlocked
      (metadataRecorded s volumeId fsUuid fsTypeStr description).volumeMap volumeId fsUuid =
        dedupFsUuidUnlocked s.volumeMap volumeId fsUuid :=
    dedup_congr fun _ => heldByOther_updateVolume
  rw [metadataRecorded, uuid, metadataRecorded, ManagerState.updateVolume_updateVolume]

/-- `DedupFsUuidUnlocked` returns the uuid itself where no other volume holds it and else the uuid
with the least suffix that none holds. It has passed no more suffixes than there are other volumes.
Recording the same metadata again changes nothing. -/
theorem dedup_least_suffix (volumeMap : VolumeMap) (volumeId fsUuid : CppString) :
    (∃ tries ≤ (otherVolumes volumeMap volumeId).length + 1,
      DedupRun volumeMap volumeId fsUuid tries (dedupFsUuidUnlocked volumeMap volumeId fsUuid)) ∧
    (¬ HeldByOther volumeMap volumeId fsUuid →
      dedupFsUuidUnlocked volumeMap volumeId fsUuid = fsUuid) ∧
    (HeldByOther volumeMap volumeId fsUuid →
      ∃ k, 1 ≤ k ∧
        dedupFsUuidUnlocked volumeMap volumeId fsUuid = fsUuid ++ ("_" : CppString) ++ ofNat k ∧
        ¬ HeldByOther volumeMap volumeId (fsUuid ++ ("_" : CppString) ++ ofNat k) ∧
        ∀ j, 1 ≤ j → j < k →
          HeldByOther volumeMap volumeId (fsUuid ++ ("_" : CppString) ++ ofNat j)) ∧
    ¬ HeldByOther volumeMap volumeId (dedupFsUuidUnlocked volumeMap volumeId fsUuid) ∧
    ∀ (W : Type) (env : Env ManagerState W Req Req.Resp) (s s' s'' : ManagerState) (w w' w'' : W)
      (err err' : ErrCode) (fsTypeStr description : CppString),
      Returns env (updateVolumeMetadata volumeId fsUuid fsTypeStr description) s w err s' w' →
      Returns env (updateVolumeMetadata volumeId fsUuid fsTypeStr description) s' w' err' s'' w'' →
      s''.volumeMap = s'.volumeMap := by
  obtain ⟨k, few, run, result, free, held⟩ := exists_dedup_name volumeMap volumeId fsUuid
  refine ⟨⟨k, Nat.le_succ_of_le few, run⟩, fun plain => ?_, fun taken => ?_, ?_, ?_⟩
  · cases k with
    | zero => exact result
    | succ k => exact absurd (held 0 (Nat.succ_pos k)) plain
  · cases k with
    | zero => exact absurd taken free
    | succ k =>
        refine ⟨k + 1, Nat.succ_pos k, result, free, fun j first less => ?_⟩
        cases j with
        | zero => exact absurd first (Nat.not_succ_le_zero 0)
        | succ j => exact held (j + 1) less
  · rwa [result]
  · intro W env s s' s'' w w' w'' err err' fsTypeStr description once twice
    rw [state_of_updateVolumeMetadata twice, state_of_updateVolumeMetadata once,
      metadataRecorded_twice]

/-! ## No uuid -/

/-- `EnsureFsUuidReady` reads the metadata of the volume before anything else. -/
def RereadsMetadata (r : VolumeExternal) : Prop :=
  ∃ next, ensureFsUuidReady r = .call (.readMetadata (DEV_BLOCK_PREFIX ++ r.id)) next

theorem rereadsMetadata_iff {r : VolumeExternal} : RereadsMetadata r ↔ r.fsUuid = [] := by
  unfold RereadsMetadata ensureFsUuidReady
  dsimp only
  constructor
  · rintro ⟨next, same⟩
    split at same
    next => cases same
    next empty => simpa using empty
  · intro empty
    rw [empty]
    exact ⟨_, rfl⟩

/-- No uuid is given a suffix when another volume has none either. -/
theorem dedup_nil_iff {volumeMap : VolumeMap} {volumeId : CppString} :
    dedupFsUuidUnlocked volumeMap volumeId [] = [] ↔ ¬ HeldByOther volumeMap volumeId [] := by
  obtain ⟨k, -, -, result, free, held⟩ := exists_dedup_name volumeMap volumeId []
  rw [result]
  cases k with
  | zero => exact ⟨fun _ => free, fun _ => rfl⟩
  | succ k =>
      have named : dedupName [] (k + 1) ≠ [] := by
        simp [dedupName, dedupCandidate, UUID_SEQ_SEPARATOR]
      exact ⟨fun empty => absurd empty named, fun none => absurd (held 0 (Nat.succ_pos k)) none⟩

/-- `UpdateVolumeMetadata` without a uuid leaves the volume without one, so that a later mount reads
the metadata again, exactly when every other volume has a uuid. -/
theorem unknown_uuid_stays_iff {volumeId : CppString} {r : VolumeExternal}
    (found : s.volumeMap[volumeId]? = some r) (fsTypeStr description : CppString) :
    wp (.ofEnv env) (updateVolumeMetadata volumeId [] fsTypeStr description)
        (fun _ s' _ => ∃ r', s'.volumeMap[volumeId]? = some r' ∧ r'.fsUuid = [] ∧
          RereadsMetadata r') s w ↔
      ¬ HeldByOther s.volumeMap volumeId [] := by
  have after : (metadataRecorded s volumeId [] fsTypeStr description).volumeMap[volumeId]? =
      some { r with
        fsUuid := dedupFsUuidUnlocked s.volumeMap volumeId []
        fsType := getFsTypeByStr fsTypeStr
        description } := by
    rw [metadataRecorded, ManagerState.get_updateVolume_self, found]
    rfl
  rw [wp_updateVolumeMetadata, after, ← dedup_nil_iff]
  constructor
  · rintro ⟨r', found', empty, -⟩
    cases found'
    exact empty
  · exact fun empty => ⟨_, rfl, empty, rereadsMetadata_iff.mpr empty⟩

end

/-- Nothing is known of the outside. -/
def anyReply : Env ManagerState Unit Req Req.Resp := fun _ _ _ _ _ => True

/-- The volume `vol-8-1` of a disk, of which `InitVolume` has filed no uuid yet. -/
def unreadStick : ManagerState :=
  { ManagerState.boot with
    volumeMap := (∅ : VolumeMap).insert "vol-8-1" { id := "vol-8-1", diskId := "disk-8-0" } }

def unreadSticks : ManagerState :=
  { unreadStick with
    volumeMap := unreadStick.volumeMap.insert "vol-8-2" { id := "vol-8-2", diskId := "disk-8-0" } }

theorem unknown_uuid_stays_alone :
    wp (.ofEnv anyReply) (updateVolumeMetadata "vol-8-1" [] "ntfs" "")
        (fun _ s' _ => ∃ r', s'.volumeMap[("vol-8-1" : CppString)]? = some r' ∧ r'.fsUuid = [] ∧
          RereadsMetadata r') unreadStick () ↔
      ¬ HeldByOther unreadStick.volumeMap "vol-8-1" [] :=
  unknown_uuid_stays_iff (StdMap.get_insert_self _ _ _) "ntfs" ""

theorem unreadSticks_held : HeldByOther unreadSticks.volumeMap "vol-8-2" [] := by
  refine ⟨"vol-8-1", { id := "vol-8-1", diskId := "disk-8-0" }, ?_, by decide, rfl⟩
  unfold unreadSticks
  dsimp only
  rw [StdMap.get_insert_ne (by decide)]
  exact StdMap.get_insert_self _ _ _

theorem unreadSticks_dedup :
    dedupFsUuidUnlocked unreadSticks.volumeMap "vol-8-2" [] = ("_1" : CppString) := by
  have free : ¬ HeldByOther unreadSticks.volumeMap "vol-8-2" (dedupName [] 1) := by
    rintro ⟨k, vol, found, other, uuid⟩
    unfold unreadSticks unreadStick at found
    dsimp only at found
    rw [StdMap.get_insert_ne other.symm, StdMap.get_insert] at found
    split at found
    next =>
      cases found
      cases uuid
    next => cases found
  refine (dedup_eq_name (by omega) free fun j less => ?_).2
  rw [Nat.lt_one_iff.mp less]
  exact unreadSticks_held

/-- The second of two volumes without a uuid is recorded with a uuid that no volume has: it is valid,
and a later mount does not read the metadata. -/
theorem unknown_uuid_invented :
    ¬ wp (.ofEnv anyReply) (updateVolumeMetadata "vol-8-2" [] "ntfs" "")
        (fun _ s' _ => ∃ r', s'.volumeMap[("vol-8-2" : CppString)]? = some r' ∧ r'.fsUuid = [] ∧
          RereadsMetadata r') unreadSticks () ∧
      wp (.ofEnv anyReply) (updateVolumeMetadata "vol-8-2" [] "ntfs" "")
        (fun _ s' _ => ∃ r', s'.volumeMap[("vol-8-2" : CppString)]? = some r' ∧
          r'.fsUuid = ("_1" : CppString) ∧ isUuidValid r'.fsUuid = true ∧ ¬ RereadsMetadata r')
        unreadSticks () := by
  have after : (metadataRecorded unreadSticks "vol-8-2" [] "ntfs" "").volumeMap[
      ("vol-8-2" : CppString)]? =
        some { id := "vol-8-2", diskId := "disk-8-0", fsUuid := "_1", fsType := .ntfs } := by
    rw [metadataRecorded, ManagerState.get_updateVolume_self, unreadSticks_dedup]
    unfold unreadSticks
    dsimp only
    rw [StdMap.get_insert_self]
    rfl
  rw [wp_updateVolumeMetadata, wp_updateVolumeMetadata, after]
  constructor
  · rintro ⟨r', found, empty, -⟩
    cases found
    exact absurd empty (by decide)
  · refine ⟨_, rfl, rfl, by decide, fun rereads => ?_⟩
    exact absurd (rereadsMetadata_iff.mp rereads) (by decide)

end DiskManager
