import Mathlib.Data.List.DropRight
import Mathlib.Data.Set.Insert
import DiskManager.Db.BlockInfoTable
import DiskManager.Interact.Gathered
import DiskManager.Manager.Unmount

/-!
# What the table holds

* `table_survives`: a table that was loaded, serialized and loaded again, is the same.
* `copies_are_reported`: whatever runs side by side, a copy from the table is what one answer of the
  daemon says of the disk, and never a mixture of two.
* `drive_is_as_reported`: what the service says of an optical drive and its disc is what the daemon
  said, through the table, the `extraInfo` of the volume and all changes of the disc state.
-/

namespace DiskManager

namespace BlockInfoTable

open Interact

/-! ## Trimmed texts -/

theorem utf8Continuation_high {lead : Nat} {pending : List (Nat × Nat)}
    (continues : CppString.utf8Continuation lead = some pending) : ∀ r ∈ pending, 0x80 ≤ r.1 := by
  unfold CppString.utf8Continuation at continues
  repeat' split at continues
  all_goals
    cases continues
    try decide

theorem utf8From_dropLast {s : CppString} {c : Char} (ascii : c.toNat < 0x80)
    {pending : List (Nat × Nat)} (high : ∀ r ∈ pending, 0x80 ≤ r.1)
    (utf8 : CppString.utf8From pending (s ++ [c]) = true) :
    CppString.utf8From pending s = true := by
  induction s generalizing pending with
  | nil =>
      cases pending with
      | nil => rfl
      | cons r pending =>
          have low : 0x80 ≤ r.1 := high r List.mem_cons_self
          rw [List.nil_append, CppString.utf8From, Bool.and_eq_true, Bool.and_eq_true] at utf8
          have : r.1 ≤ c.toNat := of_decide_eq_true utf8.1.1
          omega
  | cons d s ih =>
      cases pending with
      | nil =>
          rw [List.cons_append, CppString.utf8From] at utf8
          rw [CppString.utf8From]
          split at utf8
          next pending continues => exact ih (utf8Continuation_high continues) utf8
          next => cases utf8
      | cons r pending =>
          rw [List.cons_append, CppString.utf8From, Bool.and_eq_true] at utf8
          rw [CppString.utf8From, Bool.and_eq_true]
          exact ⟨utf8.1, ih (fun r mem => high r (List.mem_cons_of_mem _ mem)) utf8.2⟩

theorem ascii_of_isSpace {c : Char} (space : CppString.isSpace c = true) : c.toNat < 0x80 := by
  simp only [CppString.isSpace, Bool.or_eq_true, Bool.and_eq_true, decide_eq_true_eq] at space
  rcases space with rfl | bounds
  · decide
  · have upper : c.toNat ≤ 13 := Char.le_def.mp bounds.2
    omega

theorem isUtf8_cons {c : Char} {s : CppString} (ascii : c.toNat < 0x80) :
    CppString.isUtf8 (c :: s) = CppString.isUtf8 s := by
  have lead : CppString.utf8Continuation c.toNat = some [] := if_pos ascii
  rw [CppString.isUtf8, CppString.utf8From, lead]
  rfl

/-- Trimming takes whole characters. -/
theorem isUtf8_trim {s : CppString} (utf8 : CppString.isUtf8 s = true) :
    CppString.isUtf8 (trimAsciiSpaces s) = true := by
  have left : ∀ s : CppString, CppString.isUtf8 s = true →
      CppString.isUtf8 (s.dropWhile CppString.isSpace) = true := by
    intro s utf8
    induction s with
    | nil => exact utf8
    | cons c s ih =>
        rw [List.dropWhile_cons]
        split
        next space => exact ih (by rwa [isUtf8_cons (ascii_of_isSpace space)] at utf8)
        next => exact utf8
  have right : ∀ r : CppString, CppString.isUtf8 r.reverse = true →
      CppString.isUtf8 (r.dropWhile CppString.isSpace).reverse = true := by
    intro r utf8
    induction r with
    | nil => exact utf8
    | cons c r ih =>
        rw [List.dropWhile_cons]
        split
        next space =>
          rw [List.reverse_cons] at utf8
          exact ih (utf8From_dropLast (ascii_of_isSpace space) (fun r mem => by cases mem) utf8)
        next => exact utf8
  refine right _ ?_
  rw [List.reverse_reverse]
  exact left s utf8

theorem trim_trim (s : CppString) : trimAsciiSpaces (trimAsciiSpaces s) = trimAsciiSpaces s := by
  have ends : ∀ r : CppString, (r.dropWhile CppString.isSpace).dropWhile CppString.isSpace =
      r.dropWhile CppString.isSpace := fun r => List.dropWhile_idempotent _ r
  -- What is left starts with no space, so cutting its end leaves its start.
  have starts : ∀ r : CppString, r.dropWhile CppString.isSpace = r →
      ((r.reverse.dropWhile CppString.isSpace).reverse).dropWhile CppString.isSpace =
        (r.reverse.dropWhile CppString.isSpace).reverse := by
    intro r same
    obtain ⟨cut, split⟩ : ∃ cut, r = (r.reverse.dropWhile CppString.isSpace).reverse ++ cut := by
      refine ⟨(r.reverse.takeWhile CppString.isSpace).reverse, ?_⟩
      rw [← List.reverse_append, List.takeWhile_append_dropWhile, List.reverse_reverse]
    generalize (r.reverse.dropWhile CppString.isSpace).reverse = kept at split
    cases kept with
    | nil => rfl
    | cons c kept =>
        rw [split, List.cons_append, List.dropWhile_cons] at same
        split at same
        next space =>
          have shorter : ((kept ++ cut).dropWhile CppString.isSpace).length ≤
              (kept ++ cut).length := (List.dropWhile_sublist _).length_le
          rw [same] at shorter
          simp at shorter
        next solid => rw [List.dropWhile_cons, if_neg solid]
  unfold trimAsciiSpaces
  rw [starts _ (ends s), List.reverse_reverse, ends]

/-! ## Integers -/

theorem integerOf_ofNat {n : Nat} (fits : n < 2 ^ 64) :
    integerOf (CppString.ofNat n) = some (n : Int) := by
  have digits : ∀ c ∈ CppString.ofNat n, c.isDigit = true :=
    fun c mem => CppString.isDigit_of_mem_ofNat mem
  have nonempty := CppString.ofNat_ne_nil n
  have value := CppString.digitsValue_ofNat n
  rw [integerOf]
  · rw [if_pos ⟨nonempty, List.all_eq_true.mpr digits, by rwa [value]⟩, value]
  · intro rest same
    rw [same] at digits
    have minus := digits '-' List.mem_cons_self
    cases minus

theorem integerOf_ofInt {n : Int} (low : -2 ^ 63 ≤ n) (high : n < 2 ^ 64) :
    integerOf (CppString.ofInt n) = some n := by
  cases n with
  | ofNat n => exact integerOf_ofNat (Int.ofNat_lt.mp high)
  | negSucc n =>
      have digits : (CppString.ofNat (n + 1)).all Char.isDigit = true :=
        List.all_eq_true.mpr fun c mem => CppString.isDigit_of_mem_ofNat mem
      rw [CppString.ofInt, integerOf, CppString.digitsValue_ofNat,
        if_pos ⟨CppString.ofNat_ne_nil _, digits, by omega⟩]
      rfl

/-! ## Blocks -/

/-- The texts of a block. -/
def BlockInfo.texts (info : BlockInfo) : List CppString :=
  [info.vendor, info.model, info.interfaceType, info.serialNumber, info.diskId, info.devicePath,
    info.port, info.devnum, info.busnum, info.devNode, info.scsiBusNum, info.fwVersion]

/-- What is read of a block: it has an id, and its texts are trimmed. -/
structure BlockInfo.WellFormed [JsonText] (info : BlockInfo) : Prop where
  named : info.diskId ≠ []
  trimmed : ∀ s ∈ info.texts, trimAsciiSpaces s = s
  utf8 : ∀ s ∈ info.texts, CppString.isUtf8 s = true
  oddInfo : info.oddInfo.Canonical JsonText.Numeral

section

variable [JsonText] {info : BlockInfo} {j : Json}

omit [JsonText] in
theorem readStringOrEmpty_trimmed (j : Json) (key : CppString) :
    trimAsciiSpaces (readStringOrEmpty j key) = readStringOrEmpty j key := by
  rw [readStringOrEmpty]
  split
  · exact trim_trim _
  · rfl

theorem readStringOrEmpty_utf8 (canonical : j.Canonical JsonText.Numeral) (key : CppString) :
    CppString.isUtf8 (readStringOrEmpty j key) = true := by
  rw [readStringOrEmpty]
  split
  next s found =>
    rw [Json.stringMember?] at found
    split at found
    next t there =>
      cases found
      cases canonical.member there with
      | string utf8 => exact isUtf8_trim utf8
    next => cases found
  next => rfl

theorem fillBlockInfo_wellFormed (canonical : j.Canonical JsonText.Numeral)
    (filled : fillBlockInfo j = some info) : info.WellFormed := by
  cases j with
  | object members =>
      rw [fillBlockInfo] at filled
      split at filled
      next => cases filled
      next named =>
        cases filled
        refine ⟨fun empty => named (by rw [empty]; rfl), fun s mem => ?_, fun s mem => ?_, ?_⟩
        · simp only [BlockInfo.texts, List.mem_cons, List.not_mem_nil, or_false] at mem
          rcases mem with rfl | rfl | rfl | rfl | rfl | rfl | rfl | rfl | rfl | rfl | rfl | rfl
          all_goals exact readStringOrEmpty_trimmed _ _
        · simp only [BlockInfo.texts, List.mem_cons, List.not_mem_nil, or_false] at mem
          rcases mem with rfl | rfl | rfl | rfl | rfl | rfl | rfl | rfl | rfl | rfl | rfl | rfl
          all_goals exact readStringOrEmpty_utf8 canonical _
        · change (((Json.object members).member? "ODD_INFO").getD .null).Canonical _
          cases found : (Json.object members).member? "ODD_INFO" with
          | none => exact .null
          | some oddInfo => exact canonical.member found
  | _ => cases filled

end

/-! ## A block written and read -/

section

variable {info : BlockInfo} {j : Json} {key s : CppString}

/-- The members a block is written with. -/
theorem written (key : CppString) : (blockInfoToJsonObject info).member? key = List.lookup key
    [("port", .string info.port), ("devicePath", .string info.devicePath),
      ("diskId", .string info.diskId), ("serialNumber", .string info.serialNumber),
      ("removable", .bool info.removable),
      ("rotational", .number (CppString.ofInt info.rotational.toInt)),
      ("rpm", .number (CppString.ofNat info.rpm.toNat)),
      ("interfaceType", .string info.interfaceType), ("ODD_INFO", info.oddInfo),
      ("fwVersion", .string info.fwVersion), ("scsiBusNum", .string info.scsiBusNum),
      ("devNode", .string info.devNode), ("busnum", .string info.busnum),
      ("devnum", .string info.devnum), ("model", .string info.model),
      ("vendor", .string info.vendor),
      ("sizeBytes", .number (CppString.ofNat info.sizeBytes.toNat))] :=
  Json.member_ofMembers _ key

theorem readStringOrEmpty_of_member (found : j.member? key = some (.string s))
    (trimmed : trimAsciiSpaces s = s) : readStringOrEmpty j key = s := by
  rw [readStringOrEmpty, Json.stringMember?, found]
  exact trimmed

theorem integerMember_of_nat {n : Nat} (fits : n < 2 ^ 64)
    (found : j.member? key = some (.number (CppString.ofNat n))) :
    integerMember? key j = some (n : Int) := by
  rw [integerMember?, found]
  exact integerOf_ofNat fits

theorem readUInt64OrZero_of_member {n : UInt64}
    (found : j.member? key = some (.number (CppString.ofNat n.toNat))) :
    readUInt64OrZero j key = n := by
  rw [readUInt64OrZero, integerMember_of_nat n.toNat_lt found]
  dsimp only
  rw [if_pos (Int.natCast_nonneg _), Int.toNat_natCast, UInt64.ofNat_toNat]

theorem readUInt32OrZero_of_member {n : UInt32}
    (found : j.member? key = some (.number (CppString.ofNat n.toNat))) :
    readUInt32OrZero j key = n := by
  have small : n.toNat < 2 ^ 32 := n.toNat_lt
  have wide : n.toUInt64.toNat = n.toNat := UInt32.toNat_toUInt64 n
  have value : readUInt64OrZero j key = n.toUInt64 :=
    readUInt64OrZero_of_member (by rw [wide]; exact found)
  rw [readUInt32OrZero, value, wide, if_pos (by omega), UInt32.ofNat_toNat]

theorem readInt32OrZero_of_member {n : Int32}
    (found : j.member? key = some (.number (CppString.ofInt n.toInt))) :
    readInt32OrZero j key = n := by
  have low := n.le_toInt
  have high := n.toInt_lt
  rw [readInt32OrZero, integerMember?, found]
  dsimp only
  rw [integerOf_ofInt (by omega) (by omega)]
  exact Int32.ofInt_toInt n

theorem readBoolLikeOrFalse_of_member {b : Bool} (found : j.member? key = some (.bool b)) :
    readBoolLikeOrFalse j key = b := by
  rw [readBoolLikeOrFalse, found]

/-- A block with trimmed texts is read as it was written. -/
theorem readBlockInfo_written (trimmed : ∀ s ∈ info.texts, trimAsciiSpaces s = s) :
    readBlockInfo (blockInfoToJsonObject info) = info := by
  have text : ∀ {key s}, (blockInfoToJsonObject info).member? key = some (.string s) →
      s ∈ info.texts → readStringOrEmpty (blockInfoToJsonObject info) key = s :=
    fun found mem => readStringOrEmpty_of_member found (trimmed _ mem)
  have odd : (blockInfoToJsonObject info).member? "ODD_INFO" = some info.oddInfo := written _
  rw [readBlockInfo, odd, text (written "diskId") (by simp [BlockInfo.texts]),
    text (written "vendor") (by simp [BlockInfo.texts]),
    text (written "model") (by simp [BlockInfo.texts]),
    text (written "devnum") (by simp [BlockInfo.texts]),
    text (written "busnum") (by simp [BlockInfo.texts]),
    text (written "devNode") (by simp [BlockInfo.texts]),
    text (written "scsiBusNum") (by simp [BlockInfo.texts]),
    text (written "fwVersion") (by simp [BlockInfo.texts]),
    text (written "interfaceType") (by simp [BlockInfo.texts]),
    text (written "serialNumber") (by simp [BlockInfo.texts]),
    text (written "devicePath") (by simp [BlockInfo.texts]),
    text (written "port") (by simp [BlockInfo.texts]),
    readUInt64OrZero_of_member (written "sizeBytes"), readUInt32OrZero_of_member (written "rpm"),
    readInt32OrZero_of_member (written "rotational"),
    readBoolLikeOrFalse_of_member (written "removable")]
  rfl

end

section

variable [JsonText] {info : BlockInfo}

theorem BlockInfo.WellFormed.filled (fine : info.WellFormed) :
    fillBlockInfo (blockInfoToJsonObject info) = some info := by
  have read := readBlockInfo_written fine.trimmed
  rw [blockInfoToJsonObject, Json.ofMembers] at read ⊢
  rw [fillBlockInfo, read, if_neg]
  rw [List.isEmpty_iff]
  exact fine.named

theorem BlockInfo.WellFormed.canonical (fine : info.WellFormed) :
    (blockInfoToJsonObject info).Canonical JsonText.Numeral := by
  have text : ∀ s ∈ info.texts, (Json.string s).Canonical JsonText.Numeral :=
    fun s mem => .string (fine.utf8 s mem)
  have number : ∀ n : Nat, n < 2 ^ 64 →
      (Json.number (CppString.ofNat n)).Canonical JsonText.Numeral :=
    fun n fits => .number (JsonText.numeral_ofInt (n : Int) (by omega) (by omega))
  have low := info.rotational.le_toInt
  have high := info.rotational.toInt_lt
  have rpm : info.rpm.toNat < 2 ^ 32 := info.rpm.toNat_lt
  refine Json.canonical_ofMembers fun m mem => ?_
  simp only [List.mem_cons, List.not_mem_nil, or_false] at mem
  rcases mem with rfl | rfl | rfl | rfl | rfl | rfl | rfl | rfl | rfl | rfl | rfl | rfl | rfl |
    rfl | rfl | rfl | rfl
  all_goals first
    | exact ⟨rfl, text _ (by simp [BlockInfo.texts])⟩
    | exact ⟨rfl, number _ info.sizeBytes.toNat_lt⟩
    | exact ⟨rfl, number _ (by omega)⟩
    | exact ⟨rfl, .number (JsonText.numeral_ofInt _ (by omega) (by omega))⟩
    | exact ⟨rfl, .bool _⟩
    | exact ⟨rfl, fine.oddInfo⟩

end

/-! ## The table of an answer -/

/-- The values an answer has blocks in, as far as they are looked at. -/
def elements (root : Json) : List Json :=
  match root with
  | .array items => items.take BLOCK_INFO_MAX_COUNT
  | .object _ =>
      match root.member? "blocks" with
      | some (.array items) => items.take BLOCK_INFO_MAX_COUNT
      | _ => [root]
  | _ => []

/-- The last of these values with that id. -/
def lastBlock (k : CppString) (values : List Json) : Option BlockInfo :=
  (values.filterMap fillBlockInfo).reverse.find? (·.diskId = k)

section

variable {m : StdMap BlockInfo} {k : CppString} {info : BlockInfo}

theorem upsert_eq (m : StdMap BlockInfo) (root : Json) :
    upsertObjectsIntoMap m root = (elements root).foldl ingestObject m := by
  cases root with
  | object members =>
      unfold upsertObjectsIntoMap elements
      dsimp only
      cases (Json.object members).member? "blocks" with
      | none => rfl
      | some value =>
          cases value with
          | _ => rfl
  | _ => rfl

theorem get_ingested (values : List Json) :
    (values.foldl ingestObject m)[k]? = (lastBlock k values).or m[k]? := by
  induction values generalizing m with
  | nil => rfl
  | cons j values ih =>
      rw [List.foldl_cons, ih, lastBlock, lastBlock, ingestObject, List.filterMap_cons]
      cases fillBlockInfo j with
      | none => rfl
      | some info =>
          dsimp only
          rw [List.reverse_cons, List.find?_append, StdMap.get_insert, Option.or_assoc,
            List.find?_singleton]
          by_cases same : info.diskId = k <;> simp [same]

theorem size_ingested (values : List Json) :
    (values.foldl ingestObject m).size ≤ m.size + values.length := by
  induction values generalizing m with
  | nil => exact Nat.le_refl _
  | cons j values ih =>
      have more : (ingestObject m j).size ≤ m.size + 1 := by
        rw [ingestObject]
        split
        · exact Std.ExtTreeMap.size_insert_le
        · omega
      have rest := @ih (ingestObject m j)
      rw [List.foldl_cons, List.length_cons]
      omega

theorem length_elements (root : Json) : (elements root).length ≤ BLOCK_INFO_MAX_COUNT := by
  have taken : ∀ items : List Json, (items.take BLOCK_INFO_MAX_COUNT).length ≤
      BLOCK_INFO_MAX_COUNT := fun items => List.length_take_le _ _
  unfold elements
  split
  · exact taken _
  · split
    · exact taken _
    · exact Nat.one_le_of_lt (by decide : 1 < BLOCK_INFO_MAX_COUNT)
  · exact Nat.zero_le _

variable [JsonText]

theorem canonical_elements {root j : Json} (canonical : root.Canonical JsonText.Numeral)
    (mem : j ∈ elements root) : j.Canonical JsonText.Numeral := by
  have items : ∀ {items : List Json}, (Json.array items).Canonical JsonText.Numeral →
      j ∈ items.take BLOCK_INFO_MAX_COUNT → j.Canonical JsonText.Numeral := by
    intro items canonical mem
    cases canonical with
    | array each => exact each j (List.mem_of_mem_take mem)
  unfold elements at mem
  split at mem
  · exact items canonical mem
  · split at mem
    next found => exact items (canonical.member found) mem
    next =>
      rw [List.mem_singleton] at mem
      subst mem
      exact canonical
  · cases mem

/-- What an answer says of a disk. -/
def Reports (text k : CppString) (info : BlockInfo) : Prop :=
  ∃ root, JsonLib.parse text = some root ∧ lastBlock k (elements root) = some info

theorem Reports.filed (reports : Reports text k info) : info.diskId = k ∧ info.WellFormed := by
  obtain ⟨root, parsed, last⟩ := reports
  have found := List.find?_some last
  obtain ⟨j, mem, filled⟩ := List.mem_filterMap.mp
    (List.mem_reverse.mp (List.mem_of_find?_eq_some last))
  exact ⟨of_decide_eq_true found, fillBlockInfo_wellFormed
    (canonical_elements (JsonText.parse_canonical parsed) mem) filled⟩

/-- The table of an answer holds what the answer says, and no more than twenty disks. -/
theorem nextBlockInfoMap_get {text : CppString} (loaded : nextBlockInfoMap text = some m) :
    (∀ k info, m[k]? = some info ↔ Reports text k info) ∧ m.size ≤ BLOCK_INFO_MAX_COUNT := by
  rw [nextBlockInfoMap] at loaded
  split at loaded
  next empty =>
    cases loaded
    refine ⟨fun k info => ?_, Nat.zero_le _⟩
    rw [List.isEmpty_iff.mp empty, StdMap.get_empty]
    refine ⟨fun wrong => (by cases wrong), fun ⟨root, parsed, _⟩ => ?_⟩
    rw [JsonText.parse_nil] at parsed
    cases parsed
  next =>
    obtain ⟨root, parsed, rfl⟩ := Option.map_eq_some_iff.mp loaded
    rw [upsert_eq]
    refine ⟨fun k info => ?_, ?_⟩
    · rw [get_ingested, StdMap.get_empty, Option.or_none]
      refine ⟨fun last => ⟨root, parsed, last⟩, fun ⟨root', parsed', last⟩ => ?_⟩
      rw [parsed, Option.some.injEq] at parsed'
      exact parsed' ▸ last
    · have bound := size_ingested (m := ∅) (elements root)
      have short := length_elements root
      rw [show (∅ : StdMap BlockInfo).size = 0 from rfl, Nat.zero_add] at bound
      omega

/-! ## A table serialized and loaded -/

theorem nonempty_of_parse {text : CppString} {j : Json} (parsed : JsonLib.parse text = some j) :
    text.isEmpty = false := by
  cases text with
  | nil =>
      rw [JsonText.parse_nil] at parsed
      cases parsed
  | cons c cs => rfl

theorem parse_serializeVector {infos : List BlockInfo} (fine : ∀ info ∈ infos, info.WellFormed) :
    JsonLib.parse (BlockInfo.serializeVector infos) =
      some (.array (infos.map blockInfoToJsonObject)) := by
  refine JsonText.parse_dump (.array fun j mem => ?_)
  obtain ⟨info, there, rfl⟩ := List.mem_map.mp mem
  exact (fine info there).canonical

theorem filterMap_filled {infos : List BlockInfo} (fine : ∀ info ∈ infos, info.WellFormed) :
    (infos.map blockInfoToJsonObject).filterMap fillBlockInfo = infos := by
  induction infos with
  | nil => rfl
  | cons info infos ih =>
      rw [List.map_cons, List.filterMap_cons, (fine info List.mem_cons_self).filled,
        ih fun info mem => fine info (List.mem_cons_of_mem _ mem)]

/-- Blocks serialized and loaded are filed under their ids. -/
theorem loaded_serializeVector {infos : List BlockInfo} (fine : ∀ info ∈ infos, info.WellFormed)
    (few : infos.length ≤ BLOCK_INFO_MAX_COUNT) :
    ∃ m' : StdMap BlockInfo, nextBlockInfoMap (BlockInfo.serializeVector infos) = some m' ∧
      ∀ k, m'[k]? = infos.reverse.find? (·.diskId = k) := by
  have parsed := parse_serializeVector fine
  have all : elements (.array (infos.map blockInfoToJsonObject)) =
      infos.map blockInfoToJsonObject := List.take_of_length_le (by rwa [List.length_map])
  refine ⟨upsertObjectsIntoMap ∅ (.array (infos.map blockInfoToJsonObject)), ?_, fun k => ?_⟩
  · rw [nextBlockInfoMap, nonempty_of_parse parsed, if_neg Bool.false_ne_true, parsed,
      Option.map_some]
  · rw [upsert_eq, all, get_ingested, StdMap.get_empty, Option.or_none, lastBlock,
      filterMap_filled fine]

omit [JsonText] in
/-- The values of a table that files each under its id. -/
theorem find_values (own : ∀ (k : CppString) (info : BlockInfo), m[k]? = some info →
    info.diskId = k) (k : CppString) :
    (m.toList.map (·.2)).reverse.find? (·.diskId = k) = m[k]? := by
  cases last : (m.toList.map (·.2)).reverse.find? (·.diskId = k) with
  | none =>
      cases there : m[k]? with
      | none => rfl
      | some info =>
          have mem : info ∈ (m.toList.map (·.2)).reverse :=
            List.mem_reverse.mpr (List.mem_map.mpr ⟨(k, info), StdMap.mem_toList.mpr there, rfl⟩)
          have no := List.find?_eq_none.mp last info mem
          rw [decide_eq_true (own k info there)] at no
          exact absurd rfl no
  | some info =>
      have id : info.diskId = k := by simpa using List.find?_some last
      obtain ⟨⟨k', info'⟩, there, rfl⟩ :=
        List.mem_map.mp (List.mem_reverse.mp (List.mem_of_find?_eq_some last))
      have found := StdMap.mem_toList.mp there
      have same : k' = k := (own k' info' found).symm.trans id
      rw [← same]
      exact found.symm

theorem table_survives {text : CppString} (loaded : nextBlockInfoMap text = some m) :
    nextBlockInfoMap (BlockInfo.serializeVector (m.toList.map (·.2))) = some m := by
  obtain ⟨holds, bound⟩ := nextBlockInfoMap_get loaded
  have fine : ∀ info ∈ m.toList.map (·.2), info.WellFormed := by
    intro info mem
    obtain ⟨⟨k, info'⟩, there, rfl⟩ := List.mem_map.mp mem
    exact ((holds k info').mp (StdMap.mem_toList.mp there)).filed.2
  have few : (m.toList.map (·.2)).length ≤ BLOCK_INFO_MAX_COUNT := by
    rw [List.length_map, Std.ExtTreeMap.length_toList]
    exact bound
  have own : ∀ (k : CppString) (info : BlockInfo), m[k]? = some info → info.diskId = k :=
    fun k info found => ((holds k info).mp found).filed.1
  obtain ⟨m', loaded', get⟩ := loaded_serializeVector fine few
  rw [loaded']
  exact congrArg some (StdMap.ext fun k => (get k).trans (find_values own k))

end

/-- The daemon reports an optical drive. -/
def driveText : CppString :=
  TableJson.dump (.array [.ofMembers [("diskId", .string "disk-11-0"), ("vendor", .string " HL "),
    ("rotational", .number "1"), ("ODD_INFO", .ofMembers [("DISC_TYPE", .string "CD-R"),
      ("DRIVE_TYPE", .string "DVD")])]])

theorem table_survives_drive :
    letI := textJson
    ∃ m : StdMap BlockInfo, (nextBlockInfoMap driveText = some m ∧ m.size = 1) ∧
      nextBlockInfoMap (BlockInfo.serializeVector (m.toList.map (·.2))) = some m := by
  let _ := textJson
  have loads : (nextBlockInfoMap driveText).any (fun m => m.size = 1) = true := by decide +kernel
  obtain ⟨m, loaded, one⟩ := (Option.any_eq_true _ _).mp loads
  exact ⟨m, ⟨loaded, of_decide_eq_true one⟩, table_survives loaded⟩

/-! ## Copies from the table

Reloads, copies and queries side by side. -/

/-- A text of the daemon, with what it was asked. -/
structure Told : Type where
  type : CppString
  diskId : CppString
  text : CppString

inductive TableOp : Type
  | reloadFromDaemon
  | tryCopyByDiskId (diskId : CppString)
  | readExtDiskInfoFromDaemon (devName : CppString) (info : BlockInfo)

inductive TableResult : Type
  | reloaded (result : Except ReloadError Unit)
  | copied (info : Option BlockInfo)
  | queried (result : Except ReloadError Unit) (info : BlockInfo)

def TableOp.prog [JsonLib] : TableOp → BlockProg TableResult
  | .reloadFromDaemon => do
      let result ← BlockInfoTable.reloadFromDaemon
      return .reloaded result
  | .tryCopyByDiskId diskId => do
      let info ← BlockInfoTable.tryCopyByDiskId diskId
      return .copied info
  | .readExtDiskInfoFromDaemon devName info => do
      let (result, info) ← BlockInfoTable.readExtDiskInfoFromDaemon devName info
      return .queried result info

/-- The daemon answers as it likes. What it says is recorded, a failure is not. -/
def daemonEnv : Env (StdMap BlockInfo) (Set Told) BlockReq BlockReq.Resp :=
  fun _ told q r told' =>
    match q, r with
    | .getBlockInfoByType type diskId, (errCode, text) =>
        told' = if errCode = E_OK then insert ⟨type, diskId, text⟩ told else told

theorem daemonEnv_grows (s : StdMap BlockInfo) (told : Set Told) (q : BlockReq)
    (r : BlockReq.Resp q) (told' : Set Told) (answered : daemonEnv s told q r told') :
    told ⊆ told' := by
  obtain ⟨type, diskId⟩ := q
  obtain ⟨errCode, text⟩ := r
  dsimp only [daemonEnv] at answered
  subst answered
  split
  · exact Set.subset_insert _ _
  · exact Set.Subset.refl _

section

variable [JsonText] {told told' : Set Told} {m : StdMap BlockInfo} {k : CppString}
  {info : BlockInfo}

/-- The table is that of one text. -/
def IsTold (told : Set Told) (m : StdMap BlockInfo) : Prop :=
  m = ∅ ∨ ∃ text, ⟨BLOCK_INFO_SCAN_PAYLOAD_TYPE, [], text⟩ ∈ told ∧ nextBlockInfoMap text = some m

/-- What an operation may return, after the daemon has told so much. -/
def TableOp.Tells (told : Set Told) : TableOp → TableResult → Prop
  | .reloadFromDaemon, .reloaded (.ok ()) =>
      ∃ text, ⟨BLOCK_INFO_SCAN_PAYLOAD_TYPE, [], text⟩ ∈ told ∧ (nextBlockInfoMap text).isSome
  | .reloadFromDaemon, .reloaded (.error _) => True
  | .tryCopyByDiskId k, .copied copy => ∀ info ∈ copy,
      ∃ text, ⟨BLOCK_INFO_SCAN_PAYLOAD_TYPE, [], text⟩ ∈ told ∧ Reports text k info
  | .readExtDiskInfoFromDaemon devName before, .queried (.ok ()) info => info = before ∨
      ∃ text, ⟨devName, before.diskId, text⟩ ∈ told ∧ Reports text before.diskId info
  | .readExtDiskInfoFromDaemon _ before, .queried (.error _) info => info = before
  | _, _ => False

theorem IsTold.reports (is : IsTold told m) (found : m[k]? = some info) :
    ∃ text, ⟨BLOCK_INFO_SCAN_PAYLOAD_TYPE, [], text⟩ ∈ told ∧ Reports text k info := by
  rcases is with rfl | ⟨text, said, loaded⟩
  · rw [StdMap.get_empty] at found
    cases found
  · exact ⟨text, said, ((nextBlockInfoMap_get loaded).1 k info).mp found⟩

theorem IsTold.later (le : told ⊆ told') (is : IsTold told m) : IsTold told' m := by
  rcases is with rfl | ⟨text, said, loaded⟩
  · exact .inl rfl
  · exact .inr ⟨text, le said, loaded⟩

theorem TableOp.tells_later (op : TableOp) (result : TableResult) (told told' : Set Told)
    (le : told ⊆ told') (tells : op.Tells told result) : op.Tells told' result := by
  cases op with
  | reloadFromDaemon =>
      rcases result with (failed | done) | copy | ⟨result, info⟩
      · trivial
      · obtain ⟨text, said, loaded⟩ := tells
        exact ⟨text, le said, loaded⟩
      · cases tells
      · cases tells
  | tryCopyByDiskId k =>
      rcases result with result | copy | ⟨result, info⟩
      · cases tells
      · intro info mem
        obtain ⟨text, said, reports⟩ := tells info mem
        exact ⟨text, le said, reports⟩
      · cases tells
  | readExtDiskInfoFromDaemon devName before =>
      rcases result with result | copy | ⟨failed | done, info⟩
      · cases tells
      · cases tells
      · exact tells
      · rcases tells with same | ⟨text, said, reports⟩
        · exact .inl same
        · exact .inr ⟨text, le said, reports⟩

/-- What an operation on the table owes. -/
abbrev TableFaithful {α : Type} (p : BlockProg α) (post : α → Set Told → Prop)
    (told : Set Told) : Prop :=
  Faithful daemonEnv (· ⊆ ·) (fun s told => IsTold told s) p post told

/-- What a request of the table comes to. -/
theorem faithful_told {α : Type} {type diskId : CppString}
    {f : ErrCode × CppString → BlockProg α} {post : α → Set Told → Prop}
    (failed : ∀ errCode text told', errCode ≠ E_OK →
      TableFaithful (f (errCode, text)) post told')
    (said : ∀ text told', ⟨type, diskId, text⟩ ∈ told' →
      TableFaithful (f (E_OK, text)) post told') :
    TableFaithful
      (Prog.request (.getBlockInfoByType type diskId) >>= f) post told := by
  refine faithful_request_bind fun s w' r w'' _ answered => ?_
  obtain ⟨errCode, text⟩ := r
  dsimp only [daemonEnv] at answered
  by_cases good : errCode = E_OK
  · subst good
    rw [if_pos rfl] at answered
    exact said text w'' (answered ▸ Set.mem_insert _ _)
  · exact failed errCode text w'' good

theorem faithful_reloadFromDaemon (told : Set Told) :
    TableFaithful reloadFromDaemon
      (fun result w => TableOp.reloadFromDaemon.Tells w (.reloaded result)) told := by
  rw [reloadFromDaemon]
  refine faithful_told (fun errCode text told' bad => ?_) fun text told' said => ?_
  · dsimp only
    rw [if_pos bad]
    trivial
  · dsimp only
    rw [if_neg (by simp)]
    cases loaded : nextBlockInfoMap text with
    | none => trivial
    | some next =>
        refine faithful_modify_bind (fun s w' le _ => .inr ⟨text, le said, loaded⟩) fun w' le => ?_
        exact ⟨text, le said, by rw [loaded]; rfl⟩

theorem faithful_tryCopyByDiskId (k : CppString) (told : Set Told) :
    TableFaithful (tryCopyByDiskId k)
      (fun copy w => (TableOp.tryCopyByDiskId k).Tells w (.copied copy)) told := by
  rw [tryCopyByDiskId]
  exact faithful_read fun s w' _ is info found => is.reports found

theorem faithful_readExtDiskInfoFromDaemon (devName : CppString) (before : BlockInfo)
    (told : Set Told) :
    TableFaithful (readExtDiskInfoFromDaemon devName before)
      (fun answer w => (TableOp.readExtDiskInfoFromDaemon devName before).Tells w
        (.queried answer.1 answer.2)) told := by
  rw [readExtDiskInfoFromDaemon]
  refine faithful_told (fun errCode text told' bad => ?_) fun text told' said => ?_
  · dsimp only
    rw [if_pos bad]
    rfl
  · dsimp only
    rw [if_neg (by simp)]
    cases loaded : nextBlockInfoMap text with
    | none => rfl
    | some next =>
        dsimp only
        cases found : next[before.diskId]? with
        | none => exact .inl rfl
        | some info =>
            exact .inr ⟨text, said, ((nextBlockInfoMap_get loaded).1 _ info).mp found⟩

theorem TableOp.faithful (op : TableOp) (told : Set Told) :
    TableFaithful op.prog (fun result w => op.Tells w result) told := by
  cases op with
  | reloadFromDaemon => exact faithful_seq (faithful_reloadFromDaemon told) fun _ _ tells => tells
  | tryCopyByDiskId k => exact faithful_seq (faithful_tryCopyByDiskId k told) fun _ _ tells => tells
  | readExtDiskInfoFromDaemon devName before =>
      exact faithful_seq (faithful_readExtDiskInfoFromDaemon devName before told)
        fun _ _ tells => tells

theorem copies_are_reported {ι : Type} [DecidableEq ι]
    {c : Tasks ι TableOp (StdMap BlockInfo) (Set Told) BlockReq BlockReq.Resp TableResult}
    (run : TaskRun (fun _ _ => True) TableOp.prog daemonEnv ⟨fun _ => none, ∅, ∅⟩ c) :
    IsTold c.w c.s ∧ ∀ i task result, c.pool i = some task → task.rest = .done result →
      task.op.Tells c.w result := by
  obtain ⟨table, each⟩ := run.faithful (fun _ => rfl) Set.Subset.refl
    (fun _ _ _ => Set.Subset.trans) daemonEnv_grows (fun s w w' le is => is.later le)
    TableOp.tells_later TableOp.faithful (.inl rfl)
  refine ⟨table, fun i task result there returned => ?_⟩
  have owed := each i task there
  rw [returned] at owed
  exact owed

end

/-- It tells of the drive whatever it is asked. -/
def driveDaemon (told : Set Told) : (q : BlockReq) → q.Resp × Set Told
  | .getBlockInfoByType type diskId =>
      ((E_OK, driveText), insert ⟨type, diskId, driveText⟩ told)

/-- A reload, and a copy that comes to the table before the reload is done. -/
def reloadAndCopy :
    Tasks Bool TableOp (StdMap BlockInfo) (Set Told) BlockReq BlockReq.Resp TableResult :=
  letI := textJson
  Tasks.play TableOp.prog driveDaemon ⟨fun _ => none, ∅, ∅⟩
    [.enter false .reloadFromDaemon, .run false, .enter true (.tryCopyByDiskId "disk-11-0"),
      .run false, .run true]

/-- What a copy came to. -/
def copyOf {S : Type} {R : BlockReq → Type} :
    Option (Task TableOp S BlockReq R TableResult) → Option BlockInfo
  | some ⟨_, _, .done (.copied copy)⟩ => copy
  | _ => none

theorem copyOf_some {S : Type} {R : BlockReq → Type}
    {slot : Option (Task TableOp S BlockReq R TableResult)} {info : BlockInfo}
    (copied : copyOf slot = some info) :
    ∃ task, slot = some task ∧ task.rest = .done (.copied (some info)) := by
  unfold copyOf at copied
  split at copied
  · subst copied
    exact ⟨_, rfl, rfl⟩
  · cases copied

theorem copies_are_reported_drive :
    letI := textJson
    IsTold reloadAndCopy.w reloadAndCopy.s ∧
      ∃ task info, (reloadAndCopy.pool true = some task ∧ task.rest = .done (.copied (some info))) ∧
        task.op.Tells reloadAndCopy.w (.copied (some info)) := by
  let _ := textJson
  have run : TaskRun (fun _ _ => True) TableOp.prog daemonEnv ⟨fun _ => none, ∅, ∅⟩
      reloadAndCopy := by
    refine TaskRun.play (fun s w q => ?_) .start _
    cases q
    rfl
  have copied : (copyOf (reloadAndCopy.pool true)).isSome = true := by decide +kernel
  obtain ⟨info, same⟩ := Option.isSome_iff_exists.mp copied
  obtain ⟨task, there, returned⟩ := copyOf_some same
  have reported := copies_are_reported run
  exact ⟨reported.1, task, info, ⟨there, returned⟩, reported.2 true task _ there returned⟩

/-! ## Drives -/

section

variable [JsonText] {info : BlockInfo} {oddInfo : Json} {extraInfo : CppString}

/-- `ODD_INFO.DISC_STATE`. -/
def discStateIn (extraInfo : CppString) : Option Json :=
  ((JsonLib.parse extraInfo).bind (·.member? "ODD_INFO")).bind (·.member? "DISC_STATE")

/-- The text is an object whose `ODD_INFO` is that of the drive, but for the disc state. -/
def TellsDrive (oddInfo : Json) (extraInfo : CppString) : Prop :=
  ∃ members told, JsonLib.parse extraInfo = some (.object members) ∧
    (Json.object members).Canonical JsonText.Numeral ∧
    (Json.object members).member? "ODD_INFO" = some told ∧
    ∀ key : CppString, key ≠ "DISC_STATE" → told.member? key = oddInfo.member? key

theorem extras_written {extras : List (CppString × CppString)} {object : List (CppString × Json)}
    {k : CppString}
    (utf8 : ∀ e ∈ extras, CppString.isUtf8 e.1 = true ∧ CppString.isUtf8 e.2 = true)
    (other : k ∉ extras.map Prod.fst)
    (canonical : (Json.object object).Canonical JsonText.Numeral) :
    ∃ object', extras.foldl (fun j extra => j.setMember extra.1 (.string extra.2))
        (Json.object object) = .object object' ∧
      (Json.object object').Canonical JsonText.Numeral ∧
      (Json.object object').member? k = (Json.object object).member? k := by
  induction extras generalizing object with
  | nil => exact ⟨object, rfl, canonical, rfl⟩
  | cons e extras ih =>
      obtain ⟨key, text⟩ := utf8 e List.mem_cons_self
      rw [List.map_cons, List.mem_cons, not_or] at other
      obtain ⟨object', written, canonical', found⟩ :=
        ih (fun e mem => utf8 e (List.mem_cons_of_mem _ mem)) other.2
          (canonical.setMember key (.string text))
      refine ⟨object', written, canonical', found.trans ?_⟩
      exact (Json.member_setMember object).trans (if_neg other.1)

/-- The manager is told of the drive what the block says. -/
theorem BlockInfo.WellFormed.tellsDrive (fine : info.WellFormed) :
    TellsDrive info.oddInfo info.told.extraInfo := by
  obtain ⟨object, isObject⟩ : ∃ object, blockInfoToJsonObject info = .object object := ⟨_, rfl⟩
  have canonical := fine.canonical
  have odd : (blockInfoToJsonObject info).member? "ODD_INFO" = some info.oddInfo := written _
  rw [isObject] at canonical odd
  have utf8 : ∀ e ∈ volumeExtras info,
      CppString.isUtf8 e.1 = true ∧ CppString.isUtf8 e.2 = true := by
    intro e mem
    simp only [volumeExtras, List.mem_cons, List.not_mem_nil, or_false] at mem
    rcases mem with rfl | rfl | rfl | rfl | rfl | rfl | rfl
    all_goals exact ⟨rfl, fine.utf8 _ (by simp [BlockInfo.texts])⟩
  have keys : (volumeExtras info).map Prod.fst =
      ["vendor", "model", "devnum", "busnum", "devNode", "scsiBusNum", "fwVersion"] := rfl
  have other : ("ODD_INFO" : CppString) ∉ (volumeExtras info).map Prod.fst := by
    rw [keys]
    decide
  obtain ⟨object', written', canonical', found⟩ := extras_written utf8 other canonical
  refine ⟨object', info.oddInfo, ?_, canonical', found.trans odd, fun _ _ => rfl⟩
  rw [BlockInfo.told, blockInfoToVolumeExtraInfo, toJsonStringWithExtras, isObject, written']
  exact JsonText.parse_dump canonical'

theorem TellsDrive.member (tells : TellsDrive oddInfo extraInfo) {key : CppString}
    (ne : key ≠ "DISC_STATE") :
    oddInfoMember key extraInfo = (oddInfo.stringMember? key).getD [] := by
  obtain ⟨members, told, parsed, -, found, same⟩ := tells
  rw [oddInfoMember, nonempty_of_parse parsed, if_neg Bool.false_ne_true, parsed]
  dsimp only
  rw [found]
  dsimp only
  rw [Json.stringMember?, same key ne, Json.stringMember?]

/-- The disc state is written beside what is there. -/
theorem TellsDrive.written (tells : TellsDrive oddInfo extraInfo) (discState : CdromState) :
    ∃ members odd, (Json.object members).Canonical JsonText.Numeral ∧
      (Json.object odd).Canonical JsonText.Numeral ∧
      (∀ key : CppString, key ≠ "DISC_STATE" →
        (Json.object odd).member? key = oddInfo.member? key) ∧
      extraInfoWithDiscState extraInfo discState =
        JsonLib.dump ((Json.object members).setMember "ODD_INFO"
          ((Json.object odd).setMember "DISC_STATE"
            (.number (CppString.ofNat discState.code)))) := by
  obtain ⟨members, told, parsed, canonical, found, same⟩ := tells
  rw [extraInfoWithDiscState, nonempty_of_parse parsed, if_neg Bool.false_ne_true, parsed]
  dsimp only
  rw [found]
  cases told with
  | object odd => exact ⟨members, odd, canonical, canonical.member found, same, rfl⟩
  | _ =>
      exact ⟨members, [], canonical, .object List.Pairwise.nil (by simp) (by simp), same, rfl⟩

theorem TellsDrive.withDiscState (tells : TellsDrive oddInfo extraInfo) (discState : CdromState) :
    TellsDrive oddInfo (extraInfoWithDiscState extraInfo discState) ∧
      discStateIn (extraInfoWithDiscState extraInfo discState) =
        some (.number (CppString.ofNat discState.code)) := by
  obtain ⟨members, odd, canonical, canonical', same, written⟩ := tells.written discState
  have small : discState.code < 2 ^ 64 := by cases discState <;> decide
  have state : (Json.number (CppString.ofNat discState.code)).Canonical JsonText.Numeral :=
    .number (JsonText.numeral_ofInt (discState.code : Int) (by omega) (by omega))
  have odd' := canonical'.setMember (rfl : CppString.isUtf8 "DISC_STATE" = true) state
  have fine := canonical.setMember (rfl : CppString.isUtf8 "ODD_INFO" = true) odd'
  have read := JsonText.parse_dump fine
  rw [written]
  refine ⟨⟨_, _, read, fine, (Json.member_setMember members).trans (if_pos rfl),
    fun key ne => ?_⟩, ?_⟩
  · exact ((Json.member_setMember odd).trans (if_neg ne)).trans (same key ne)
  · rw [discStateIn, read, Option.bind_some, Json.member_setMember, if_pos rfl, Option.bind_some,
      Json.member_setMember, if_pos rfl]

theorem TellsDrive.withDiscStates (tells : TellsDrive oddInfo extraInfo)
    (discStates : List CdromState) :
    TellsDrive oddInfo (discStates.foldl extraInfoWithDiscState extraInfo) ∧
      ∀ discState ∈ discStates.getLast?,
        discStateIn (discStates.foldl extraInfoWithDiscState extraInfo) =
          some (.number (CppString.ofNat discState.code)) := by
  induction discStates using List.reverseRecOn with
  | nil => exact ⟨tells, fun _ mem => (by cases mem)⟩
  | append_singleton discStates discState ih =>
      have step := ih.1.withDiscState discState
      rw [List.foldl_append, List.getLast?_concat]
      refine ⟨step.1, fun last mem => ?_⟩
      cases mem
      exact step.2

theorem drive_is_as_reported {text k : CppString} (reports : Reports text k info)
    (discStates : List CdromState) :
    getDriverType (discStates.foldl extraInfoWithDiscState info.told.extraInfo) =
        (info.oddInfo.stringMember? "DRIVE_TYPE").getD [] ∧
      getDiscType (discStates.foldl extraInfoWithDiscState info.told.extraInfo) =
        (info.oddInfo.stringMember? "DISC_TYPE").getD [] ∧
      ∀ discState ∈ discStates.getLast?,
        discStateIn (discStates.foldl extraInfoWithDiscState info.told.extraInfo) =
          some (.number (CppString.ofNat discState.code)) := by
  have tells := reports.filed.2.tellsDrive.withDiscStates discStates
  exact ⟨tells.1.member (by decide), tells.1.member (by decide), tells.2⟩

end

theorem drive_is_as_reported_drive :
    letI := textJson
    ∃ info, Reports driveText "disk-11-0" info ∧
      getDriverType ([.noDisc, .emptyDisc].foldl extraInfoWithDiscState info.told.extraInfo) =
          (info.oddInfo.stringMember? "DRIVE_TYPE").getD [] ∧
      getDiscType ([.noDisc, .emptyDisc].foldl extraInfoWithDiscState info.told.extraInfo) =
          (info.oddInfo.stringMember? "DISC_TYPE").getD [] ∧
      ∀ discState ∈ [CdromState.noDisc, .emptyDisc].getLast?,
        discStateIn ([.noDisc, .emptyDisc].foldl extraInfoWithDiscState info.told.extraInfo) =
          some (.number (CppString.ofNat discState.code)) := by
  let _ := textJson
  have told : ((JsonLib.parse driveText).bind fun root =>
      lastBlock "disk-11-0" (elements root)).isSome = true := by decide +kernel
  obtain ⟨info, found⟩ := Option.isSome_iff_exists.mp told
  have reports : Reports driveText "disk-11-0" info := Option.bind_eq_some_iff.mp found
  exact ⟨info, reports, drive_is_as_reported reports _⟩

end BlockInfoTable

end DiskManager
