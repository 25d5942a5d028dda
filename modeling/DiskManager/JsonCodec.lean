import Mathlib.Tactic.IntervalCases
import DiskManager.Voldata.Files

/-!
# A JSON codec for tables

An implementation of the two library functions that meets `LawfulJsonLib`, so what the store
assumes of the library can be met. `dump` writes any value the way the library does without
indentation. `parse` reads arrays of flat objects, which is all the store ever writes, and refuses
every other text.

* `unquote_quote`: escaping is undone.
* `tableJson_lawful`: the codec meets the assumptions.
-/

namespace DiskManager

namespace TableJson

/-! ## Writing -/

def hexDigit (n : Nat) : Char := Nat.digitChar n

/-- The escapes of control characters, quotes and backslashes; other bytes are copied. -/
def escapeChar (c : Char) : CppString :=
  if c = '"' then ['\\', '"']
  else if c = '\\' then ['\\', '\\']
  else if 32 ≤ c.toNat then [c]
  else if c.toNat = 8 then ['\\', 'b']
  else if c.toNat = 9 then ['\\', 't']
  else if c.toNat = 10 then ['\\', 'n']
  else if c.toNat = 12 then ['\\', 'f']
  else if c.toNat = 13 then ['\\', 'r']
  else ['\\', 'u', '0', '0', hexDigit (c.toNat / 16), hexDigit (c.toNat % 16)]

def escape (s : CppString) : CppString := s.flatMap escapeChar

def quote (s : CppString) : CppString := '"' :: (escape s ++ ['"'])

mutual

def dump : Json → CppString
  | .null => "null"
  | .bool true => "true"
  | .bool false => "false"
  | .number literal => literal
  | .string s => quote s
  | .array items => '[' :: (dumpItems items ++ [']'])
  | .object members => '\x7b' :: (dumpMembers members ++ ['\x7d'])

def dumpItems : List Json → CppString
  | [] => []
  | [item] => dump item
  | item :: items => dump item ++ ',' :: dumpItems items

def dumpMembers : List (CppString × Json) → CppString
  | [] => []
  | [(key, value)] => quote key ++ ':' :: dump value
  | (key, value) :: members => quote key ++ ':' :: (dump value ++ ',' :: dumpMembers members)

end

/-! ## Reading -/

def hexValue (c : Char) : Nat :=
  if c.isDigit then c.toNat - 48 else c.toNat - 87

/-- The character of a one-letter escape. -/
def unescapeChar (c : Char) : Char :=
  if c = 'b' then Char.ofNat 8
  else if c = 't' then Char.ofNat 9
  else if c = 'n' then Char.ofNat 10
  else if c = 'f' then Char.ofNat 12
  else if c = 'r' then Char.ofNat 13
  else c

/-- The string up to the closing quote, and what follows. -/
def unquote : CppString → Option (CppString × CppString)
  | [] => none
  | c :: rest =>
      if c = '"' then some ([], rest)
      else if c = '\\' then
        match rest with
        | 'u' :: _ :: _ :: hi :: lo :: rest =>
            (unquote rest).map fun (s, rest) =>
              (Char.ofNat (16 * hexValue hi + hexValue lo) :: s, rest)
        | c :: rest => (unquote rest).map fun (s, rest) => (unescapeChar c :: s, rest)
        | [] => none
      else (unquote rest).map fun (s, rest) => (c :: s, rest)

def parseScalar (text : CppString) : Option (Json × CppString) :=
  match text with
  | '"' :: rest => (unquote rest).map fun (s, rest) => (.string s, rest)
  | text =>
      if (text.takeWhile Char.isDigit).isEmpty then none
      else some (.number (text.takeWhile Char.isDigit), text.dropWhile Char.isDigit)

/-- The members of an object, past the opening brace or a comma. -/
def parseMembers : Nat → CppString → Option (List (CppString × Json) × CppString)
  | 0, _ => none
  | fuel + 1, text =>
      match text with
      | '"' :: rest =>
          match unquote rest with
          | some (key, ':' :: rest) =>
              match parseScalar rest with
              | some (value, '\x7d' :: rest) => some ([(key, value)], rest)
              | some (value, ',' :: rest) =>
                  (parseMembers fuel rest).map fun (members, rest) => ((key, value) :: members, rest)
              | _ => none
          | _ => none
      | _ => none

/-- The objects of an array, past the opening bracket or a comma, up to the end of the text. -/
def parseItems : Nat → CppString → Option (List Json)
  | 0, _ => none
  | fuel + 1, text =>
      match text with
      | '\x7b' :: rest =>
          match parseMembers rest.length rest with
          | some (members, [']']) => some [.object members]
          | some (members, ',' :: rest) =>
              (parseItems fuel rest).map fun items => .object members :: items
          | _ => none
      | _ => none

def stringUtf8 : Json → Bool
  | .string s => CppString.isUtf8 s
  | _ => true

def stringsUtf8 : Json → Bool
  | .object members => members.all fun member => stringUtf8 member.2
  | _ => true

def parse (text : CppString) : Option Json :=
  match text with
  | '[' :: [']'] => some (.array [])
  | '[' :: rest =>
      match parseItems rest.length rest with
      | some items => if items.all stringsUtf8 then some (.array items) else none
      | none => none
  | _ => none

/-! ## The round trip -/

theorem unquote_escapeChar (c : Char) (rest : CppString) :
    unquote (escapeChar c ++ rest) = (unquote rest).map fun (s, rest) => (c :: s, rest) := by
  by_cases isQuote : c = '"'
  · subst isQuote
    rfl
  by_cases isBackslash : c = '\\'
  · subst isBackslash
    rfl
  by_cases printable : 32 ≤ c.toNat
  · simp only [escapeChar, if_neg isQuote, if_neg isBackslash, if_pos printable,
      List.cons_append, List.nil_append]
    rw [unquote.eq_def]
    simp only [if_neg isQuote, if_neg isBackslash]
  · have code : c = Char.ofNat c.toNat := (Char.ofNat_toNat c).symm
    have small : c.toNat < 32 := Nat.lt_of_not_le printable
    generalize c.toNat = n at code small
    subst code
    interval_cases n <;> rfl

theorem unquote_escape (s rest : CppString) :
    unquote (escape s ++ '"' :: rest) = some (s, rest) := by
  induction s with
  | nil =>
      rw [escape, List.flatMap_nil, List.nil_append, unquote.eq_def]
      rfl
  | cons c s ih =>
      rw [escape, List.flatMap_cons, List.append_assoc, unquote_escapeChar]
      rw [← escape, ih]
      rfl

theorem takeWhile_isDigit {digits : CppString} {c : Char} (rest : CppString)
    (numeric : ∀ d ∈ digits, d.isDigit = true) (stop : c.isDigit = false) :
    (digits ++ c :: rest).takeWhile Char.isDigit = digits ∧
      (digits ++ c :: rest).dropWhile Char.isDigit = c :: rest := by
  induction digits with
  | nil => simp [stop]
  | cons d digits ih =>
      have first : d.isDigit = true := numeric d List.mem_cons_self
      obtain ⟨taken, dropped⟩ := ih fun e mem => numeric e (List.mem_cons_of_mem d mem)
      simp only [List.cons_append, List.takeWhile_cons, List.dropWhile_cons, first, if_true, taken,
        dropped, and_self]

theorem parseScalar_number (n : Nat) {c : Char} (rest : CppString) (stop : c.isDigit = false) :
    parseScalar (CppString.ofNat n ++ c :: rest) =
      some (.number (CppString.ofNat n), c :: rest) := by
  have numeric : ∀ d ∈ CppString.ofNat n, d.isDigit = true :=
    fun d mem => CppString.isDigit_of_mem_ofNat mem
  obtain ⟨taken, dropped⟩ := takeWhile_isDigit rest numeric stop
  cases digits : CppString.ofNat n with
  | nil => exact absurd digits (CppString.ofNat_ne_nil n)
  | cons d ds =>
      rw [digits] at taken dropped numeric
      have first : d.isDigit = true := numeric d List.mem_cons_self
      rw [parseScalar, taken, dropped]
      · rfl
      · rintro rest' same
        injection same with head
        subst head
        cases first

theorem parseScalar_string (s rest : CppString) :
    parseScalar (quote s ++ rest) = some (.string s, rest) := by
  rw [quote, List.cons_append, List.append_assoc, parseScalar]
  simp only [List.cons_append, List.nil_append, unquote_escape, Option.map_some]

/-- One member and the comma after it. -/
theorem parseMembers_string (fuel : Nat) (key s rest : CppString) :
    parseMembers (fuel + 1) (quote key ++ ':' :: (quote s ++ ',' :: rest)) =
      (parseMembers fuel rest).map fun (members, rest) => ((key, .string s) :: members, rest) := by
  rw [quote, List.cons_append, List.append_assoc, parseMembers]
  simp only [List.cons_append, List.nil_append, unquote_escape, parseScalar_string]

/-- The last member and the closing brace. -/
theorem parseMembers_number (fuel : Nat) (key rest : CppString) (n : Nat) :
    parseMembers (fuel + 1) (quote key ++ ':' :: (CppString.ofNat n ++ '\x7d' :: rest)) =
      some ([(key, .number (CppString.ofNat n))], rest) := by
  have scalar := parseScalar_number n (c := '\x7d') rest (by decide)
  rw [quote, List.cons_append, List.append_assoc, parseMembers]
  simp only [List.cons_append, List.nil_append, unquote_escape, scalar]

theorem dump_toJson (e : VoldataUuidEntry) :
    dump e.toJson = '\x7b' :: (quote "fsUuid" ++ ':' :: (quote e.fsUuid ++ ',' ::
      (quote "mountPath" ++ ':' :: (quote e.mountPath ++ ',' ::
        (quote "slotIndex" ++ ':' :: (CppString.ofNat e.slotIndex ++ ['\x7d'])))))) := by
  simp only [VoldataUuidEntry.toJson, dump, dumpMembers, List.append_assoc, List.cons_append]

/-- The members `ToJson` writes. -/
def entryMembers (e : VoldataUuidEntry) : List (CppString × Json) :=
  [("fsUuid", .string e.fsUuid), ("mountPath", .string e.mountPath),
    ("slotIndex", .number (CppString.ofNat e.slotIndex))]

theorem parseMembers_entry (fuel : Nat) (e : VoldataUuidEntry) (rest : CppString) :
    parseMembers (fuel + 3) ((dump e.toJson).tail ++ rest) = some (entryMembers e, rest) := by
  simp only [dump_toJson, List.tail_cons, List.append_assoc, List.cons_append, List.nil_append,
    parseMembers_string, parseMembers_number, Option.map_some, entryMembers]

theorem parseMembers_entry_length (e : VoldataUuidEntry) (rest : CppString) :
    parseMembers ((dump e.toJson).tail ++ rest).length ((dump e.toJson).tail ++ rest) =
      some (entryMembers e, rest) := by
  have long : 3 ≤ ((dump e.toJson).tail ++ rest).length := by
    simp only [dump_toJson, List.tail_cons, List.length_append, List.length_cons]
    omega
  obtain ⟨fuel, exact_⟩ := Nat.exists_eq_add_of_le' long
  rw [exact_, parseMembers_entry]

theorem dump_toJson_eq_cons (e : VoldataUuidEntry) :
    dump e.toJson = '\x7b' :: (dump e.toJson).tail := by
  rw [dump_toJson, List.tail_cons]

theorem parseItems_entries (e : VoldataUuidEntry) (es : List VoldataUuidEntry) (fuel : Nat) :
    parseItems (fuel + es.length + 1)
        (dumpItems ((e :: es).map VoldataUuidEntry.toJson) ++ [']']) =
      some ((e :: es).map VoldataUuidEntry.toJson) := by
  induction es generalizing e with
  | nil =>
      rw [List.map_cons, List.map_nil, dumpItems, dump_toJson_eq_cons, List.cons_append, parseItems]
      simp only [parseMembers_entry_length]
      rfl
  | cons e' es ih =>
      rw [List.map_cons, List.map_cons, dumpItems, dump_toJson_eq_cons, List.cons_append,
        List.cons_append, List.append_assoc, parseItems]
      · simp only [parseMembers_entry_length, List.cons_append]
        have rest := ih e'
        rw [List.map_cons] at rest
        rw [List.length_cons, ← Nat.add_assoc, rest]
        rfl
      · simp

theorem length_dumpItems (e : VoldataUuidEntry) (es : List VoldataUuidEntry) :
    es.length + 1 ≤ (dumpItems ((e :: es).map VoldataUuidEntry.toJson)).length := by
  induction es generalizing e with
  | nil =>
      rw [List.map_cons, List.map_nil, dumpItems, dump_toJson_eq_cons]
      simp
  | cons e' es ih =>
      have rest := ih e'
      rw [List.map_cons] at rest
      rw [List.map_cons, List.map_cons, dumpItems, List.length_append, List.length_cons,
        List.length_cons]
      · omega
      · simp

theorem dumpItems_eq_cons (e : VoldataUuidEntry) (es : List VoldataUuidEntry) :
    ∃ rest, dumpItems ((e :: es).map VoldataUuidEntry.toJson) = '\x7b' :: rest := by
  cases es with
  | nil => exact ⟨_, by rw [List.map_cons, List.map_nil, dumpItems, dump_toJson_eq_cons]⟩
  | cons e' es =>
      refine ⟨(dump e.toJson).tail ++ ',' :: dumpItems ((e' :: es).map VoldataUuidEntry.toJson), ?_⟩
      rw [List.map_cons, List.map_cons, dumpItems, dump_toJson_eq_cons, List.cons_append]
      · rfl
      · simp

/-- The array of some entries is read back. -/
theorem parse_dump_entries (e : VoldataUuidEntry) (es : List VoldataUuidEntry)
    (utf8 : ((e :: es).map VoldataUuidEntry.toJson).all stringsUtf8 = true) :
    parse (dump (.array ((e :: es).map VoldataUuidEntry.toJson))) =
      some (.array ((e :: es).map VoldataUuidEntry.toJson)) := by
  have items : parseItems (dumpItems ((e :: es).map VoldataUuidEntry.toJson) ++ [']']).length
      (dumpItems ((e :: es).map VoldataUuidEntry.toJson) ++ [']']) =
        some ((e :: es).map VoldataUuidEntry.toJson) := by
    have long := length_dumpItems e es
    obtain ⟨fuel, size⟩ : ∃ fuel, (dumpItems ((e :: es).map VoldataUuidEntry.toJson) ++
        [']']).length = fuel + es.length + 1 := by
      rw [List.length_append, List.length_singleton]
      exact ⟨(dumpItems ((e :: es).map VoldataUuidEntry.toJson)).length - es.length, by omega⟩
    rw [size, parseItems_entries]
  obtain ⟨rest, first⟩ := dumpItems_eq_cons e es
  rw [dump]
  rw [first] at items ⊢
  rw [List.cons_append] at items ⊢
  rw [parse]
  · simp only [items, utf8, if_true]
  · simp

/-- The strings of a parsed table are UTF-8. -/
theorem isUtf8_of_stringMember? {item : Json} {key s : CppString} (ok : stringsUtf8 item = true)
    (found : item.stringMember? key = some s) : CppString.isUtf8 s = true := by
  cases item with
  | object members =>
      rw [Json.stringMember?, Json.member?] at found
      split at found
      next t hit =>
        cases found
        obtain ⟨before, after, split, -⟩ := List.lookup_eq_some_iff.mp hit
        have all := List.all_eq_true.mp ok (key, .string s) (by simp [split])
        exact all
      next => cases found
  | null | bool | number | string | array => cases found

end TableJson

/-- The codec as the JSON library of the store. -/
@[reducible] def tableJson : JsonLib := ⟨TableJson.dump, TableJson.parse⟩

theorem tableJson_lawful : @LawfulJsonLib tableJson :=
  letI : JsonLib := tableJson
  { parse_dump := by
      intro es utf8
      change TableJson.parse (TableJson.dump (.array _)) = _
      cases es with
      | nil => rfl
      | cons e es =>
          have strings : ((e :: es).map VoldataUuidEntry.toJson).all TableJson.stringsUtf8 = true := by
            rw [List.all_eq_true]
            intro item mem
            obtain ⟨e', there, rfl⟩ := List.mem_map.mp mem
            obtain ⟨uuid, path⟩ := utf8 e' there
            simp only [VoldataUuidEntry.toJson, TableJson.stringsUtf8, TableJson.stringUtf8,
              List.all_cons, List.all_nil, uuid, path, Bool.and_true]
          exact TableJson.parse_dump_entries e es strings
    parse_nil := rfl
    parse_utf8 := by
      intro text items parsed item mem key s found
      change TableJson.parse text = some (.array items) at parsed
      rw [TableJson.parse.eq_def] at parsed
      split at parsed
      next =>
        cases parsed
        cases mem
      next =>
        split at parsed
        next =>
          split at parsed
          next ok =>
            cases parsed
            exact TableJson.isUtf8_of_stringMember? (List.all_eq_true.mp ok item mem) found
          next => cases parsed
        next => cases parsed
      next => cases parsed }

end DiskManager
