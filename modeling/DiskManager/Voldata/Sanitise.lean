import DiskManager.JsonCodec
import DiskManager.Voldata.Allocation

/-!
# What a load lets through

`LoadJsonFromPath` checks the items of the array one by one, so what it builds need not be a slot
table: two uuids may name one directory, and a directory may be written with leading zeros.

* `loadItems_eq`: the mapping is that of the items read before it is full, the last one for each
  uuid.
* `loadJsonFromPath_sanitises_iff`: the store invariant holds exactly when these items are tidy.
-/

namespace DiskManager

open Interact

/-- The invariant allocation relies on. -/
structure Sanitised (m : UuidMap) : Prop where
  distinct : DistinctSlots m
  path_inj {k k' : CppString} {e e' : VoldataUuidEntry} :
    m[k]? = some e → m[k']? = some e' → e.mountPath = e'.mountPath → k = k'
  path {k : CppString} {e : VoldataUuidEntry} :
    m[k]? = some e → e.mountPath = buildMountPathForSlot e.slotIndex
  size : m.size ≤ MAX_VOLDATA_SLOT_COUNT

/-! ## The items that count -/

/-- The entries up to the point at which the uuids seen fill the mapping. -/
def readUntilFull : List CppString → List VoldataUuidEntry → List VoldataUuidEntry
  | _, [] => []
  | seen, e :: es =>
      if MAX_VOLDATA_SLOT_COUNT ≤ seen.length then []
      else e :: readUntilFull (if e.fsUuid ∈ seen then seen else e.fsUuid :: seen) es

/-- The entries of the items that `FromJson` accepts, until the mapping is full. -/
def entriesRead (items : List Json) : List VoldataUuidEntry :=
  readUntilFull [] (items.filterMap VoldataUuidEntry.fromJson)

/-- The last entry read for a uuid. -/
def lastRead (items : List Json) (k : CppString) : Option VoldataUuidEntry :=
  (entriesRead items).reverse.find? fun e => e.fsUuid = k

/-- The slot number in the path has no leading zero. -/
def PlainNumber (mountPath : CppString) : Prop :=
  (mountPath.drop VOLDATA_MOUNT_PREFIX.length).head? ≠ some '0'

/-- The last entries of the uuids write their slots plainly and name different directories. -/
structure Tidy (items : List Json) : Prop where
  plain {k : CppString} {e : VoldataUuidEntry} : lastRead items k = some e → PlainNumber e.mountPath
  apart {k k' : CppString} {e e' : VoldataUuidEntry} : lastRead items k = some e →
    lastRead items k' = some e' → e.mountPath = e'.mountPath → k = k'

/-! ## The loop -/

/-- `seen` lists the uuids of `m`. -/
structure Lists (seen : List CppString) (m : UuidMap) : Prop where
  mem {k : CppString} : k ∈ seen ↔ k ∈ m
  size : m.size = seen.length

theorem Lists.insert {seen : List CppString} {m : UuidMap} (lists : Lists seen m)
    (e : VoldataUuidEntry) :
    Lists (if e.fsUuid ∈ seen then seen else e.fsUuid :: seen) (m.insert e.fsUuid e) := by
  have grown : ∀ {k : CppString}, k ∈ m.insert e.fsUuid e ↔ e.fsUuid = k ∨ k ∈ m := by
    intro k
    rw [Std.ExtTreeMap.mem_insert, Std.LawfulEqCmp.compare_eq_iff_eq]
  have size : (m.insert e.fsUuid e).size = if e.fsUuid ∈ m then m.size else m.size + 1 :=
    Std.ExtTreeMap.size_insert
  by_cases known : e.fsUuid ∈ seen
  · rw [if_pos known]
    refine ⟨fun {k} => ?_, ?_⟩
    · rw [grown, ← lists.mem]
      constructor
      · exact .inr
      · rintro (rfl | mem)
        · exact known
        · exact mem
    · rw [size, if_pos (lists.mem.mp known), lists.size]
  · rw [if_neg known]
    refine ⟨fun {k} => ?_, ?_⟩
    · rw [grown, ← lists.mem, List.mem_cons, eq_comm]
    · rw [size, if_neg fun mem => known (lists.mem.mpr mem), lists.size, List.length_cons]

/-- The loop inserts the accepted entries until the mapping is full. -/
theorem loadItems_eq_foldl {items : List Json} {seen : List CppString} {m : UuidMap}
    (lists : Lists seen m) :
    loadItems items m =
      (readUntilFull seen (items.filterMap VoldataUuidEntry.fromJson)).foldl
        (fun m e => m.insert e.fsUuid e) m := by
  induction items generalizing seen m with
  | nil => rfl
  | cons item items ih =>
      rw [loadItems, lists.size]
      split
      next full =>
        have stop : ∀ es, readUntilFull seen es = [] := by
          intro es
          cases es with
          | nil => rfl
          | cons e es => rw [readUntilFull, if_pos full]
        rw [stop, List.foldl_nil]
      next room =>
        cases read : VoldataUuidEntry.fromJson item with
        | none =>
            rw [List.filterMap_cons_none read]
            exact ih lists
        | some e =>
            rw [List.filterMap_cons_some read, readUntilFull, if_neg room, List.foldl_cons]
            exact ih (lists.insert e)

theorem get_foldl_insert (es : List VoldataUuidEntry) (k : CppString) :
    (es.foldl (fun (m : UuidMap) e => m.insert e.fsUuid e) ∅)[k]? =
      es.reverse.find? fun e => e.fsUuid = k := by
  induction es using List.reverseRecOn with
  | nil => exact StdMap.get_empty k
  | append_singleton es e ih =>
      rw [List.foldl_append, List.foldl_cons, List.foldl_nil, StdMap.get_insert, List.reverse_append]
      change _ = List.find? _ (e :: es.reverse)
      by_cases own : e.fsUuid = k
      · rw [if_pos own, List.find?_cons_of_pos (by simpa using own)]
      · rw [if_neg own, List.find?_cons_of_neg (by simpa using own), ih]

/-- The mapping holds the last entry read for each uuid. -/
theorem get_loadItems_empty (items : List Json) (k : CppString) :
    (loadItems items ∅)[k]? = lastRead items k := by
  have lists : Lists [] (∅ : UuidMap) := ⟨by simp, by simp⟩
  rw [loadItems_eq_foldl lists, get_foldl_insert]
  rfl

/-! ## Paths and numbers -/

theorem plainNumber_buildMountPathForSlot {slot : Nat} (pos : 1 ≤ slot) :
    PlainNumber (buildMountPathForSlot slot) := by
  rw [PlainNumber, buildMountPathForSlot, List.drop_left]
  exact CppString.head?_ofNat pos

/-- A path that is accepted and has no leading zero is the path of its slot. -/
theorem path_of_parse {mountPath : CppString} {slot : Nat}
    (parsed : parseVoldataSlotFromMountPath mountPath = some slot) (plain : PlainNumber mountPath) :
    mountPath = buildMountPathForSlot slot := by
  unfold parseVoldataSlotFromMountPath at parsed
  split at parsed
  next => cases parsed
  next shape =>
  rw [not_or, Nat.not_le, Bool.not_eq_false, CppString.startsWith,
    List.isPrefixOf_iff_prefix] at shape
  obtain ⟨long, digits, rfl⟩ := shape
  rw [PlainNumber, List.drop_left] at plain
  rw [List.drop_left] at parsed
  dsimp only at parsed
  split at parsed
  next => cases parsed
  next numeric =>
  split at parsed
  next => cases parsed
  next =>
  split at parsed
  next => cases parsed
  next =>
  have value : CppString.digitsValue digits = slot := Option.some.inj parsed
  have nonempty : digits ≠ [] := by
    rintro rfl
    rw [List.append_nil] at long
    exact absurd long (Nat.lt_irrefl _)
  have all : ∀ c ∈ digits, c.isDigit = true := by
    rw [Bool.not_eq_false] at numeric
    exact List.all_eq_true.mp numeric
  rw [buildMountPathForSlot, ← value, CppString.ofNat_digitsValue all nonempty plain]

/-! ## When the load sanitises -/

/-- An accepted slot lies between 1 and 1000. -/
theorem parse_bounds {mountPath : CppString} {slot : Nat}
    (parsed : parseVoldataSlotFromMountPath mountPath = some slot) :
    1 ≤ slot ∧ slot ≤ MAX_VOLDATA_SLOT_COUNT := by
  unfold parseVoldataSlotFromMountPath at parsed
  dsimp only at parsed
  split at parsed
  next => cases parsed
  next =>
  split at parsed
  next => cases parsed
  next =>
  split at parsed
  next => cases parsed
  next =>
  split at parsed
  next => cases parsed
  next inRange =>
  cases parsed
  omega

theorem parse_of_loadItems {items : List Json} {k : CppString} {e : VoldataUuidEntry}
    (hit : (loadItems items ∅)[k]? = some e) :
    parseVoldataSlotFromMountPath e.mountPath = some e.slotIndex :=
  (readable_iff.mp ((loadable_loadItems items).readable hit)).1

/-- The mapping of an array is sanitised exactly when the array is tidy. -/
theorem loadItems_sanitised_iff (items : List Json) :
    Sanitised (loadItems items ∅) ↔ Tidy items := by
  constructor
  · intro sanitised
    refine ⟨fun {k e} last => ?_, fun {k k' e e'} left right same => ?_⟩
    · rw [← get_loadItems_empty] at last
      rw [sanitised.path last]
      exact plainNumber_buildMountPathForSlot (sanitised.distinct.slot last).1
    · rw [← get_loadItems_empty] at left right
      exact sanitised.path_inj left right same
  · intro tidy
    have path : ∀ {k : CppString} {e : VoldataUuidEntry}, (loadItems items ∅)[k]? = some e →
        e.mountPath = buildMountPathForSlot e.slotIndex := by
      intro k e hit
      have parsed := parse_of_loadItems hit
      rw [get_loadItems_empty] at hit
      exact path_of_parse parsed (tidy.plain hit)
    have apart : ∀ {k k' : CppString} {e e' : VoldataUuidEntry},
        (loadItems items ∅)[k]? = some e → (loadItems items ∅)[k']? = some e' →
          e.mountPath = e'.mountPath → k = k' := by
      intro k k' e e' left right same
      rw [get_loadItems_empty] at left right
      exact tidy.apart left right same
    refine ⟨⟨fun hit => parse_bounds (parse_of_loadItems hit), ?_⟩, apart, path,
      (loadable_loadItems items).size⟩
    intro k k' e e' left right same
    exact apart left right (by rw [path left, path right, same])

/-- A tidy array gives a slot table, which every operation of the store then keeps. -/
theorem Tidy.slotTable {items : List Json} (tidy : Tidy items) :
    SlotTable (loadItems items ∅) := by
  have sanitised := (loadItems_sanitised_iff items).mpr tidy
  have loadable := loadable_loadItems items
  refine ⟨loadable.key, fun {k e} hit => ?_, sanitised.distinct.slot, sanitised.path,
    sanitised.distinct.slot_inj, sanitised.size⟩
  rw [← loadable.key hit]
  exact (readable_iff.mp (loadable.readable hit)).2

section

variable [JsonLib]

/-- `LoadJsonFromPath` on a file that holds an array, from an empty mapping. -/
theorem wp_loadJsonFromPath_array {path text : CppString} {items : List Json} {s : StoreState}
    {w : Files} (start : s.uuidMap = ∅) (there : w path = some text) (nonempty : text ≠ [])
    (parsed : JsonLib.parse text = some (.array items)) :
    wp (anyCrash true) (loadJsonFromPath path)
      (fun ret s' _ => ret = E_OK ∧ s'.uuidMap = loadItems items ∅) s w := by
  have notEmpty : text.isEmpty = false := by
    cases text with
    | nil => exact absurd rfl nonempty
    | cons c cs => rfl
  have decode : decodeFile w path = some (loadItems items ∅) := by
    simp only [decodeFile, there, Option.bind_some, decodeContent, notEmpty, parsed,
      Bool.false_eq_true, if_false]
  refine wp_mono ?_ (wp_loadJsonFromPath start trivial trivial fun _ _ => trivial)
  rintro ret s' w' ⟨-, ⟨ok, m, read, rfl⟩ | ⟨-, -, unread⟩⟩
  · rw [decode] at read
    cases read
    exact ⟨ok, rfl⟩
  · rw [unread rfl] at decode
    cases decode

/-- `LoadFromFile` empties the mapping and calls `LoadJsonFromPath`: what that builds satisfies the
store invariant exactly when the items are tidy. -/
theorem loadJsonFromPath_sanitises_iff {path text : CppString} {items : List Json} {s : StoreState}
    {w : Files} (start : s.uuidMap = ∅) (there : w path = some text) (nonempty : text ≠ [])
    (parsed : JsonLib.parse text = some (.array items)) :
    wp (anyCrash true) (loadJsonFromPath path)
      (fun ret s' _ => ret = E_OK ∧ (Sanitised s'.uuidMap ↔ Tidy items)) s w := by
  refine wp_mono ?_ (wp_loadJsonFromPath_array start there nonempty parsed)
  rintro ret s' w' ⟨ok, loaded⟩
  rw [loaded]
  exact ⟨ok, loadItems_sanitised_iff items⟩

end

/-! ## Two uuids on one directory -/

/-- A mapping file someone has copied a line in. -/
def copiedEntries : List VoldataUuidEntry :=
  [⟨"1111-AAAA", "/mnt/data/voldata/data7", 7⟩, ⟨"2222-BBBB", "/mnt/data/voldata/data7", 7⟩]

/-- The files when the mapping file holds `es`, as the codec writes them. -/
def filesWith (es : List VoldataUuidEntry) : Files := fun path =>
  if path = jsonFilePath then
    some (TableJson.dump (.array (es.map VoldataUuidEntry.toJson)))
  else none

theorem filesWith_array (es : List VoldataUuidEntry)
    (utf8 : ∀ e ∈ es, CppString.isUtf8 e.fsUuid = true ∧ CppString.isUtf8 e.mountPath = true) :
    filesWith es jsonFilePath = some (TableJson.dump (.array (es.map VoldataUuidEntry.toJson))) ∧
      TableJson.dump (.array (es.map VoldataUuidEntry.toJson)) ≠ [] ∧
      tableJson.parse (TableJson.dump (.array (es.map VoldataUuidEntry.toJson))) =
        some (.array (es.map VoldataUuidEntry.toJson)) := by
  refine ⟨if_pos rfl, ?_, ?_⟩
  · rw [TableJson.dump]
    exact List.cons_ne_nil _ _
  · let _ := tableJson
    exact tableJson_lawful.parse_dump es utf8

theorem loadJsonFromPath_sanitises_iff_copied :
    letI := tableJson
    wp (anyCrash true) (loadJsonFromPath jsonFilePath)
      (fun ret s' _ => ret = E_OK ∧
        (Sanitised s'.uuidMap ↔ Tidy (copiedEntries.map VoldataUuidEntry.toJson)))
      .boot (filesWith copiedEntries) := by
  let _ := tableJson
  obtain ⟨there, nonempty, parsed⟩ := filesWith_array copiedEntries (by decide +kernel)
  exact loadJsonFromPath_sanitises_iff rfl there nonempty parsed

/-- The load files both uuids under one slot and one directory. -/
theorem load_keeps_copied_slot :
    letI := tableJson
    wp (anyCrash true) (loadJsonFromPath jsonFilePath)
      (fun ret s' _ => ret = E_OK ∧ ¬ Sanitised s'.uuidMap) .boot (filesWith copiedEntries) := by
  let _ := tableJson
  obtain ⟨there, nonempty, parsed⟩ := filesWith_array copiedEntries (by decide +kernel)
  refine wp_mono ?_ (wp_loadJsonFromPath_array rfl there nonempty parsed)
  rintro ret s' w' ⟨ok, loaded⟩
  refine ⟨ok, fun sanitised => ?_⟩
  have first : s'.uuidMap[("1111-AAAA" : CppString)]? =
      some ⟨"1111-AAAA", "/mnt/data/voldata/data7", 7⟩ := by
    rw [loaded, get_loadItems_empty]
    decide +kernel
  have second : s'.uuidMap[("2222-BBBB" : CppString)]? =
      some ⟨"2222-BBBB", "/mnt/data/voldata/data7", 7⟩ := by
    rw [loaded, get_loadItems_empty]
    decide +kernel
  exact absurd (sanitised.path_inj first second rfl) (by decide)

end DiskManager
