import DiskManager.Text

/-!
# JSON values

The mapping file is read and written through `nlohmann::json`, which is not part of the
repository. `Json` is its value type as far as the service looks into it, and `JsonLib` the two
library functions the service calls: everything built on the file takes them as a parameter.
-/

namespace DiskManager

/-- A JSON value. A number is kept as its text. -/
inductive Json : Type
  | null
  | bool (b : Bool)
  | number (literal : CppString)
  | string (s : CppString)
  | array (items : List Json)
  | object (members : List (CppString × Json))

namespace Json

/-- `j.contains(key)` and `j[key]` in one lookup. -/
def member? (key : CppString) : Json → Option Json
  | .object members => members.lookup key
  | _ => none

/-- `j.contains(key)`, `j[key].is_string()` and `j[key].get<std::string>()` in one lookup. -/
def stringMember? (key : CppString) (j : Json) : Option CppString :=
  match j.member? key with
  | some (.string s) => some s
  | _ => none

/-- Objects list their members in the order of the keys, as `std::map` does. -/
def insertMember (key : CppString) (value : Json) : List (CppString × Json) → List (CppString × Json)
  | [] => [(key, value)]
  | (k, v) :: members =>
      if key = k then (key, value) :: members
      else if compare key k = .lt then (key, value) :: (k, v) :: members
      else (k, v) :: insertMember key value members

/-- `j[key] = value` for an object. -/
def setMember (j : Json) (key : CppString) (value : Json) : Json :=
  match j with
  | .object members => .object (insertMember key value members)
  | j => j

end Json

/-- The library: `dump(-1, ' ', false, replace)` and `parse(text, nullptr, false)`, which discards
what `accept` refuses. -/
class JsonLib : Type where
  dump : Json → CppString
  parse : CppString → Option Json

/-- `json::accept(text)`. -/
def JsonLib.accept [JsonLib] (text : CppString) : Bool := (JsonLib.parse text).isSome

end DiskManager
