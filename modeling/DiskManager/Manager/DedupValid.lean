import DiskManager.Manager.Confinement
import DiskManager.Manager.Dedup

/-!
# Whether a uuid with a suffix is valid

`IsUuidValid` bounds the text before the last `_` and the digits after it; `DedupFsUuidUnlocked`
appends a suffix to whatever it is given.

* `isFilePathInvalid_append`: a suffix does not make a text one that the filter refuses.
* `dedup_valid_iff`: a valid uuid stays valid exactly when it gets no suffix or has no more than 128
  bytes, which one that ends in a suffix already may have.
-/

namespace DiskManager

open CppString

/-! ## A text with a suffix -/

theorem drop_past (s t : CppString) (sep : Char) (n : Nat) :
    (s ++ sep :: t).drop (s.length + (n + 1)) = t.drop n := by
  rw [← List.drop_drop, List.drop_left]
  rfl

/-- What occurs after the separator or across it starts after it or contains it. -/
theorem occurs_append {pat s t : CppString} {sep : Char} {i : Nat} (nonempty : pat ≠ [])
    (apart : sep ∉ pat) (foreign : ∀ c ∈ pat.head?, c ∉ t) :
    pat <+: (s ++ sep :: t).drop i ↔ pat <+: s.drop i := by
  constructor
  · intro occurs
    by_cases inside : i ≤ s.length
    · rw [List.drop_append_of_le_length inside] at occurs
      rcases List.prefix_or_prefix_of_prefix occurs (List.prefix_append _ _) with whole | part
      · exact whole
      · obtain ⟨rest, rfl⟩ := part
        rw [List.prefix_append_right_inj] at occurs
        cases rest with
        | nil => simp
        | cons c rest =>
            obtain ⟨rfl, -⟩ := List.cons_prefix_cons.mp occurs
            exact absurd (List.mem_append_right _ List.mem_cons_self) apart
    · obtain ⟨n, rfl⟩ : ∃ n, i = s.length + (n + 1) := ⟨i - s.length - 1, by omega⟩
      obtain ⟨c, cs, rfl⟩ := List.exists_cons_of_ne_nil nonempty
      rw [drop_past] at occurs
      exact absurd (List.mem_of_mem_drop (occurs.subset List.mem_cons_self)) (foreign c rfl)
  · intro occurs
    have inside := length_le_of_occurs nonempty occurs
    rw [List.drop_append_of_le_length (by omega)]
    exact List.prefix_append_of_prefix occurs

/-- The suffix does not make a text one that `IsFilePathInvalid` refuses. -/
theorem isFilePathInvalid_append {s t : CppString} (passes : isFilePathInvalid s = false)
    (digits : ∀ c ∈ t, c.isDigit = true) : isFilePathInvalid (s ++ '_' :: t) = false := by
  have foreign : ∀ {pat : CppString}, pat.head?.all (fun c => !c.isDigit) = true →
      ∀ c ∈ pat.head?, c ∉ t := by
    intro pat plain c head mem
    rw [Option.mem_def.mp head] at plain
    simp [digits c mem] at plain
  have before : ∀ {i : Nat} (c : Char), i < s.length →
      ((s ++ '_' :: t)[i]? = some c ↔ s[i]? = some c) := by
    intro i c inside
    rw [List.getElem?_append_left inside]
  rw [← Bool.not_eq_true, isFilePathInvalid_iff] at passes ⊢
  contrapose! passes
  rcases passes with empty | ⟨i, occurs, start⟩ | ⟨i, found, last⟩ | ⟨i, occurs, two, one, other⟩ |
    ⟨pat, mem, i, occurs⟩
  · simp at empty
  · rw [occurs_append (by decide) (by decide) (foreign rfl)] at occurs
    have inside := length_le_of_occurs (by decide) occurs
    have size : ("../" : CppString).length = 3 := rfl
    rw [before _ (by omega)] at start
    exact .inr (.inl ⟨i, occurs, start⟩)
  · have occurs := prefix_of_rfind found
    rw [occurs_append (by decide) (by decide) (foreign rfl)] at occurs
    have inside := length_le_of_occurs (by decide) occurs
    have size : ("/.." : CppString).length = 3 := rfl
    rw [List.length_append, List.length_cons] at last
    omega
  · rw [occurs_append (by decide) (by decide) (foreign rfl)] at occurs
    have inside := length_le_of_occurs (by decide) occurs
    have size : ("\\" : CppString).length = 1 := rfl
    rw [before _ (by omega)] at one
    rw [before _ (by omega)] at other
    exact .inr (.inr (.inr (.inl ⟨i, occurs, two, one, other⟩)))
  · have plain : ∀ pat ∈ refusedAnywhere,
        pat ≠ [] ∧ '_' ∉ pat ∧ pat.head?.all (fun c => !c.isDigit) = true := by
      decide
    obtain ⟨nonempty, apart, head⟩ := plain pat mem
    rw [occurs_append nonempty apart (foreign head)] at occurs
    exact .inr (.inr (.inr (.inr ⟨pat, mem, i, occurs⟩)))

/-- The suffix of a deduplicated uuid is what follows its last separator. -/
theorem isUuidValid_candidate {fsUuid : CppString} {k : Nat} (valid : isUuidValid fsUuid = true)
    (small : k < 10000) :
    isUuidValid (dedupCandidate fsUuid k) = true ↔ fsUuid.length ≤ UUID_MAX_LEN := by
  have shape : dedupCandidate fsUuid k = fsUuid ++ '_' :: ofNat k := by
    simp [dedupCandidate, UUID_SEQ_SEPARATOR]
  have digits : ∀ c ∈ ofNat k, c.isDigit = true := fun c mem => isDigit_of_mem_ofNat mem
  have passes := isFilePathInvalid_append (not_invalid_of_isUuidValid valid) digits
  have last : rfind UUID_SEQ_SEPARATOR (fsUuid ++ '_' :: ofNat k) = some fsUuid.length :=
    rfind_last fun mem => absurd (digits '_' mem) (by decide)
  have base : (fsUuid ++ '_' :: ofNat k).take fsUuid.length = fsUuid := List.take_left
  have suffix : (fsUuid ++ '_' :: ofNat k).drop (fsUuid.length + 1) = ofNat k :=
    drop_past fsUuid (ofNat k) '_' 0
  have pure : isPureDigitsInRange (ofNat k) 1 UUID_DEDUP_SUFFIX_MAX_DIGITS = true := by
    have lower : 0 < (ofNat k).length := List.length_pos_iff.mpr (ofNat_ne_nil k)
    have upper : (ofNat k).length ≤ 4 :=
      (Nat.length_toDigits_le_iff (by decide) (by decide)).mpr small
    rw [isPureDigitsInRange, if_neg (by rw [UUID_DEDUP_SUFFIX_MAX_DIGITS]; omega),
      List.all_eq_true]
    exact fun c mem => decide_eq_true (isDigit_bounds (digits c mem))
  rw [shape, isUuidValid, passes, last]
  dsimp only
  rw [base, suffix, pure]
  simp

/-- A suffix makes a valid uuid invalid exactly when it has more than 128 bytes. -/
theorem dedup_valid_of_held {volumeMap : VolumeMap} {volumeId fsUuid : CppString}
    (few : volumeMap.size < 10000) (valid : isUuidValid fsUuid = true)
    (held : HeldByOther volumeMap volumeId fsUuid) :
    isUuidValid (dedupFsUuidUnlocked volumeMap volumeId fsUuid) = true ↔
      fsUuid.length ≤ UUID_MAX_LEN := by
  obtain ⟨k, tries, -, result, free, -⟩ := exists_dedup_name volumeMap volumeId fsUuid
  have size : (otherVolumes volumeMap volumeId).length ≤ volumeMap.size := length_otherVolumes_le
  rw [result]
  cases k with
  | zero => exact absurd held free
  | succ k => exact isUuidValid_candidate valid (by omega)

theorem dedup_of_free {volumeMap : VolumeMap} {volumeId fsUuid : CppString}
    (free : ¬ HeldByOther volumeMap volumeId fsUuid) :
    dedupFsUuidUnlocked volumeMap volumeId fsUuid = fsUuid := by
  rw [dedupFsUuidUnlocked, not_occupied_iff.mpr free]
  rfl

/-- With fewer than 10000 volumes a valid uuid stays valid exactly when no other volume holds it or
it has at most 128 bytes. -/
theorem dedup_valid_iff (volumeMap : VolumeMap) (volumeId fsUuid : CppString)
    (few : volumeMap.size < 10000) (valid : isUuidValid fsUuid = true) :
    isUuidValid (dedupFsUuidUnlocked volumeMap volumeId fsUuid) = true ↔
      ¬ HeldByOther volumeMap volumeId fsUuid ∨ fsUuid.length ≤ UUID_MAX_LEN := by
  by_cases held : HeldByOther volumeMap volumeId fsUuid
  · rw [dedup_valid_of_held few valid held]
    simp [held]
  · rw [dedup_of_free held]
    simp [held, valid]

/-- A volume with the uuid of 128 bytes that another one had, and hence a suffix of its own. -/
def longUuid : CppString := List.replicate 128 'a' ++ ("_1" : CppString)

/-- The map of one volume with the uuid. -/
def oneHolder (fsUuid : CppString) : VolumeMap :=
  (∅ : VolumeMap).insert "vol-8-1" { id := "vol-8-1", diskId := "disk-8-0", fsUuid }

theorem oneHolder_few (fsUuid : CppString) : (oneHolder fsUuid).size < 10000 := by
  rw [oneHolder, Std.ExtTreeMap.size_insert]
  simp

theorem oneHolder_held (fsUuid : CppString) :
    HeldByOther (oneHolder fsUuid) "vol-8-2" fsUuid :=
  ⟨"vol-8-1", _, StdMap.get_insert_self _ _ _, by decide, rfl⟩

theorem longUuid_valid : isUuidValid longUuid = true := by
  decide +kernel

theorem dedup_valid_serial :
    isUuidValid (dedupFsUuidUnlocked (oneHolder "1234-ABCD") "vol-8-2" "1234-ABCD") = true ↔
      ¬ HeldByOther (oneHolder "1234-ABCD") "vol-8-2" "1234-ABCD" ∨
        ("1234-ABCD" : CppString).length ≤ UUID_MAX_LEN :=
  dedup_valid_iff _ _ _ (oneHolder_few _) (by decide)

/-- A uuid of 130 bytes that `IsUuidValid` accepts becomes one it refuses. -/
theorem dedup_invalidates :
    (oneHolder longUuid).size < 10000 ∧ isUuidValid longUuid = true ∧
      ¬ isUuidValid (dedupFsUuidUnlocked (oneHolder longUuid) "vol-8-2" longUuid) = true := by
  refine ⟨oneHolder_few _, longUuid_valid, fun accepted => ?_⟩
  have short := (dedup_valid_of_held (oneHolder_few _) longUuid_valid (oneHolder_held _)).mp accepted
  exact absurd short (by simp [longUuid, UUID_MAX_LEN])

end DiskManager
