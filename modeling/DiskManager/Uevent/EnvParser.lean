import DiskManager.Search
import DiskManager.Types
import Mathlib.Algebra.Group.Nat.Defs
import Mathlib.Data.List.Nodup
import Mathlib.Logic.Function.Basic

/-!
# Reading a uevent

`uevent_env_parser.cpp`: the text of a uevent is a sequence of `KEY=value` lines. The keys are told
apart by their FNV-1a hashes.

* `UeventAssignment`: values of the keys; `UeventAssignment.Prints raw`: a text that assigns them,
  one line for each, in any order and any case, with other lines in between.
* `uevent_round_trip`: of such a text `Parse` makes the values that were assigned.
-/

namespace DiskManager

open CppString

/-- `KeyHash`. -/
def keyHash (sv : CppString) : UInt32 :=
  sv.foldl (fun h c => (h ^^^ c.toUInt8.toUInt32) * 16777619) 2166136261

/-- `ApplyEnvValue`. -/
def applyEnvValue (out : UeventEnv) (hash : UInt32) (val : CppString) : UeventEnv :=
  if hash = keyHash "action" then { out with action := toLower val }
  else if hash = keyHash "subsystem" then { out with subsystem := toLower val }
  else if hash = keyHash "devtype" then { out with devType := toLower val }
  else if hash = keyHash "major" then { out with major := strtoul 10 val % 2 ^ 32 }
  else if hash = keyHash "minor" then { out with minor := strtoul 10 val % 2 ^ 32 }
  else if hash = keyHash "devpath" then
    { out with devPath := val, sysPath := ("/sys" : CppString) ++ val }
  else if hash = keyHash "devname" then { out with devName := val }
  else if hash = keyHash "disk_eject_request" then
    { out with ejectRequest := decide (val = ("1" : CppString)) }
  else out

/-- One line of the text. -/
def parseEnvLine (out : UeventEnv) (line : CppString) : UeventEnv :=
  match find "=" line with
  | none => out
  | some pos =>
      let key := line.take pos
      let val := line.drop (pos + 1)
      applyEnvValue out (keyHash (toLower key)) val

/-- `UeventEnvParser::Parse`: whether the text is accepted, and what is read of it. -/
def parseUevent (raw : CppString) : Bool × UeventEnv :=
  let out := (raw.splitOn '\n').foldl parseEnvLine {}
  if out.action.isEmpty || out.subsystem.isEmpty || out.devType.isEmpty then (false, out)
  else (true, out)

/-! ## Keys -/

inductive UeventKey : Type
  | action
  | subsystem
  | devType
  | major
  | minor
  | devPath
  | devName
  | diskEjectRequest
  deriving DecidableEq

/-- The key in lower case. -/
def UeventKey.name : UeventKey → CppString
  | action => "action"
  | subsystem => "subsystem"
  | devType => "devtype"
  | major => "major"
  | minor => "minor"
  | devPath => "devpath"
  | devName => "devname"
  | diskEjectRequest => "disk_eject_request"

def UeventKey.all : List UeventKey :=
  [action, subsystem, devType, major, minor, devPath, devName, diskEjectRequest]

theorem UeventKey.mem_all (key : UeventKey) : key ∈ UeventKey.all := by
  cases key <;> decide

/-- The labels of the `switch` are distinct. -/
theorem keyHash_injective {key key' : UeventKey} (same : keyHash key.name = keyHash key'.name) :
    key = key' := by
  have distinct : (UeventKey.all.map fun key => keyHash key.name).Nodup := by decide +kernel
  exact List.inj_on_of_nodup_map distinct key.mem_all key'.mem_all same

theorem plain_name (key : UeventKey) : '=' ∉ key.name ∧ '\n' ∉ key.name := by
  cases key <;> decide

/-- Whatever the case of the letters of a key, the hash is that of its lower-case name. -/
theorem plain_of_toLower {written : CppString} {key : UeventKey}
    (lower : toLower written = key.name) : '=' ∉ written ∧ '\n' ∉ written := by
  have kept : ∀ c : Char, c.toLower = c → c ∉ key.name → c ∉ written := by
    intro c same absent mem
    have image : c.toLower ∈ toLower written := List.mem_map_of_mem mem
    rw [same, lower] at image
    exact absent image
  obtain ⟨noEquals, noNewline⟩ := plain_name key
  exact ⟨kept '=' (by decide) noEquals, kept '\n' (by decide) noNewline⟩

/-! ## Values -/

/-- The keys without which a uevent is rejected. -/
def UeventKey.Required (key : UeventKey) : Prop := key ∈ [action, subsystem, devType]

/-- The keys with a number. -/
def UeventKey.Number (key : UeventKey) : Prop := key ∈ [major, minor]

/-- A decimal number that an `unsigned int` holds. -/
structure DecimalUInt32 (val : CppString) : Prop where
  nonempty : val ≠ []
  digits : ∀ c ∈ val, c.isDigit = true
  small : digitsValue val < 2 ^ 32

/-- What is assigned to the keys. A value is any text of one line. -/
structure UeventAssignment : Type where
  value : UeventKey → Option CppString
  plain : ∀ key val, value key = some val → '\n' ∉ val
  required : ∀ key, key.Required → ∃ val, value key = some val ∧ val ≠ []
  number : ∀ key, key.Number → ∀ val, value key = some val → DecimalUInt32 val

/-- The uevent with these values, and the defaults where a key has none. -/
def ueventOf (value : UeventKey → Option CppString) : UeventEnv where
  action := toLower ((value .action).getD [])
  subsystem := toLower ((value .subsystem).getD [])
  devType := toLower ((value .devType).getD [])
  major := ((value .major).map digitsValue).getD 0
  minor := ((value .minor).map digitsValue).getD 0
  devPath := (value .devPath).getD []
  sysPath := ((value .devPath).map fun val => ("/sys" : CppString) ++ val).getD []
  devName := (value .devName).getD []
  ejectRequest := decide (value .diskEjectRequest = some ("1" : CppString))

/-- `EnvLines entries lines`: the lines assign the entries in their order, with other lines in
between. -/
inductive EnvLines : List (UeventKey × CppString) → List CppString → Prop
  | nil : EnvLines [] []
  | other {entries : List (UeventKey × CppString)} {line : CppString} {lines : List CppString} :
    '=' ∉ line → '\n' ∉ line → EnvLines entries lines → EnvLines entries (line :: lines)
  | assigned {key : UeventKey} {written val : CppString}
    {entries : List (UeventKey × CppString)} {lines : List CppString} :
    toLower written = key.name → EnvLines entries lines →
    EnvLines ((key, val) :: entries) ((written ++ '=' :: val) :: lines)

/-- The text assigns each value on a line of its own. -/
def UeventAssignment.Prints (assignment : UeventAssignment) (raw : CppString) : Prop :=
  ∃ entries lines, (entries.map Prod.fst).Nodup ∧
    (∀ key val, (key, val) ∈ entries ↔ assignment.value key = some val) ∧
    EnvLines entries lines ∧ raw = (['\n'] : CppString).intercalate lines

/-- The values after one assignment after the other. -/
def assignAll (value : UeventKey → Option CppString) :
    List (UeventKey × CppString) → UeventKey → Option CppString
  | [] => value
  | (key, val) :: entries => assignAll (Function.update value key (some val)) entries

section

variable {value : UeventKey → Option CppString} {entries : List (UeventKey × CppString)}
  {key : UeventKey} {val : CppString}

theorem assignAll_of_notMem (absent : key ∉ entries.map Prod.fst) :
    assignAll value entries key = value key := by
  induction entries generalizing value with
  | nil => rfl
  | cons entry entries ih =>
      rw [List.map_cons, List.mem_cons, not_or] at absent
      rw [assignAll, ih absent.2, Function.update_of_ne absent.1]

/-- When no key is assigned twice, the order of the assignments does not matter. -/
theorem assignAll_of_mem (nodup : (entries.map Prod.fst).Nodup) (mem : (key, val) ∈ entries) :
    assignAll value entries key = some val := by
  induction entries generalizing value with
  | nil => cases mem
  | cons entry entries ih =>
      rw [List.map_cons, List.nodup_cons] at nodup
      rw [assignAll]
      rcases List.mem_cons.mp mem with rfl | later
      · rw [assignAll_of_notMem nodup.1, Function.update_self]
      · exact ih nodup.2 later

theorem assignAll_eq {assigned : UeventKey → Option CppString}
    (nodup : (entries.map Prod.fst).Nodup)
    (all : ∀ key val, (key, val) ∈ entries ↔ assigned key = some val) :
    assignAll (fun _ => none) entries = assigned := by
  funext key
  cases given : assigned key with
  | some val => exact assignAll_of_mem nodup ((all key val).mpr given)
  | none =>
      refine assignAll_of_notMem fun mem => ?_
      obtain ⟨⟨key', val⟩, there, rfl⟩ := List.mem_map.mp mem
      rw [(all _ val).mp there] at given
      cases given

/-- `ApplyEnvValue` assigns the value to the key with the hash, and to no other. -/
theorem applyEnvValue_ueventOf (number : key.Number → DecimalUInt32 val) :
    applyEnvValue (ueventOf value) (keyHash key.name) val =
      ueventOf (Function.update value key (some val)) := by
  have read : key.Number → strtoul 10 val % 2 ^ 32 = digitsValue val := by
    intro isNumber
    obtain ⟨nonempty, digits, small⟩ := number isNumber
    rw [strtoul_decimal nonempty digits (by omega), Nat.mod_eq_of_lt small]
  cases key with
  | action => rfl
  | subsystem => rfl
  | devType => rfl
  | major =>
      have applied : applyEnvValue (ueventOf value) (keyHash UeventKey.major.name) val =
          { ueventOf value with major := strtoul 10 val % 2 ^ 32 } := rfl
      rw [applied, read (by simp [UeventKey.Number])]
      rfl
  | minor =>
      have applied : applyEnvValue (ueventOf value) (keyHash UeventKey.minor.name) val =
          { ueventOf value with minor := strtoul 10 val % 2 ^ 32 } := rfl
      rw [applied, read (by simp [UeventKey.Number])]
      rfl
  | devPath => rfl
  | devName => rfl
  | diskEjectRequest =>
      have applied : applyEnvValue (ueventOf value) (keyHash UeventKey.diskEjectRequest.name) val =
          { ueventOf value with ejectRequest := decide (val = ("1" : CppString)) } := rfl
      have same : (val = ("1" : CppString)) = (some val = some ("1" : CppString)) :=
        propext Option.some_inj.symm
      rw [applied]
      simp only [same]
      rfl

theorem parseEnvLine_other {out : UeventEnv} {line : CppString} (other : '=' ∉ line) :
    parseEnvLine out line = out := by
  have absent : find "=" line = none := by
    cases found : find "=" line with
    | none => rfl
    | some pos =>
        have occurs : ['='] <+: line.drop pos := prefix_of_find found
        exact absurd (List.mem_of_mem_drop (occurs.subset List.mem_cons_self)) other
  rw [parseEnvLine, absent]

/-- The key ends at the first `=`; the value may have more of them. -/
theorem parseEnvLine_assigned {out : UeventEnv} {written : CppString}
    (lower : toLower written = key.name) :
    parseEnvLine out (written ++ '=' :: val) = applyEnvValue out (keyHash key.name) val := by
  have found : find "=" (written ++ '=' :: val) = some written.length :=
    find_first (plain_of_toLower lower).1
  rw [parseEnvLine, found]
  dsimp only
  rw [List.take_left, lower, ← List.drop_drop, List.drop_left]
  rfl

/-- Reading the lines one after the other is assigning the entries one after the other. -/
theorem envLines_read {lines : List CppString} (read : EnvLines entries lines)
    (number : ∀ key val, (key, val) ∈ entries → key.Number → DecimalUInt32 val) :
    lines.foldl parseEnvLine (ueventOf value) = ueventOf (assignAll value entries) := by
  induction read generalizing value with
  | nil => rfl
  | other noEquals noNewline rest ih => rw [List.foldl_cons, parseEnvLine_other noEquals, ih number]
  | @assigned key written val entries lines lower rest ih =>
      rw [List.foldl_cons, parseEnvLine_assigned lower,
        applyEnvValue_ueventOf (number key val List.mem_cons_self),
        ih fun key val mem => number key val (List.mem_cons_of_mem _ mem)]
      rfl

theorem newline_of_mem_envLines {lines : List CppString} (read : EnvLines entries lines)
    (plain : ∀ key val, (key, val) ∈ entries → '\n' ∉ val) : ∀ line ∈ lines, '\n' ∉ line := by
  induction read with
  | nil => exact fun line mem => absurd mem List.not_mem_nil
  | other noEquals noNewline rest ih =>
      intro line mem
      rcases List.mem_cons.mp mem with rfl | later
      · exact noNewline
      · exact ih plain line later
  | @assigned key written val entries lines lower rest ih =>
      intro line mem
      rcases List.mem_cons.mp mem with rfl | later
      · have value := plain key val List.mem_cons_self
        have written := (plain_of_toLower lower).2
        simp [written, value]
      · exact ih (fun key val mem => plain key val (List.mem_cons_of_mem _ mem)) line later

end

/-- Of a text that assigns values to the keys `Parse` makes the uevent with these values. -/
theorem uevent_round_trip (assignment : UeventAssignment) (raw : CppString)
    (prints : assignment.Prints raw) : parseUevent raw = (true, ueventOf assignment.value) := by
  obtain ⟨entries, lines, nodup, all, read, rfl⟩ := prints
  have plain := newline_of_mem_envLines read fun key val mem =>
    assignment.plain key val ((all key val).mp mem)
  have nonempty : lines ≠ [] := by
    obtain ⟨val, given, -⟩ := assignment.required .action (by simp [UeventKey.Required])
    have there := (all _ val).mpr given
    cases read with
    | nil => cases there
    | other => simp
    | assigned => simp
  have parsed : lines.foldl parseEnvLine {} = ueventOf assignment.value := by
    have start : ({} : UeventEnv) = ueventOf fun _ => none := rfl
    rw [start, envLines_read read fun key val mem isNumber =>
      assignment.number key isNumber val ((all key val).mp mem), assignAll_eq nodup all]
  have kept : ∀ key : UeventKey, key.Required →
      (toLower ((assignment.value key).getD [])).isEmpty = false := by
    intro key required
    obtain ⟨val, given, nonempty⟩ := assignment.required key required
    rw [given]
    simpa [toLower] using nonempty
  have action : (ueventOf assignment.value).action.isEmpty = false :=
    kept .action (by simp [UeventKey.Required])
  have subsystem : (ueventOf assignment.value).subsystem.isEmpty = false :=
    kept .subsystem (by simp [UeventKey.Required])
  have devType : (ueventOf assignment.value).devType.isEmpty = false :=
    kept .devType (by simp [UeventKey.Required])
  rw [parseUevent, List.splitOn_intercalate '\n' plain nonempty, parsed, action, subsystem, devType]
  exact if_neg (by decide)

/-! A stick is plugged in: the path holds an `=` and the uevent has a line without one. -/

def pluggedValue : UeventKey → Option CppString
  | .action => some "Add"
  | .subsystem => some "block"
  | .devType => some "disk"
  | .major => some "8"
  | .devPath => some "/devices/usb=1/sda"
  | _ => none

theorem pluggedValue_plain (key : UeventKey) (val : CppString)
    (given : pluggedValue key = some val) : '\n' ∉ val := by
  cases key <;> cases given <;> decide

theorem pluggedValue_required (key : UeventKey) (required : key.Required) :
    ∃ val, pluggedValue key = some val ∧ val ≠ [] := by
  simp only [UeventKey.Required, List.mem_cons, List.not_mem_nil, or_false] at required
  rcases required with rfl | rfl | rfl
  · exact ⟨"Add", rfl, by decide⟩
  · exact ⟨"block", rfl, by decide⟩
  · exact ⟨"disk", rfl, by decide⟩

theorem pluggedValue_number (key : UeventKey) (number : key.Number) (val : CppString)
    (given : pluggedValue key = some val) : DecimalUInt32 val := by
  simp only [UeventKey.Number, List.mem_cons, List.not_mem_nil, or_false] at number
  rcases number with rfl | rfl
  · cases given
    have value : digitsValue ("8" : CppString) = 8 := rfl
    have digits : ("8" : CppString).all Char.isDigit = true := rfl
    exact ⟨by decide, List.all_eq_true.mp digits, by omega⟩
  · cases given

def pluggedAssignment : UeventAssignment where
  value := pluggedValue
  plain := pluggedValue_plain
  required := pluggedValue_required
  number := pluggedValue_number

def pluggedEntries : List (UeventKey × CppString) :=
  [(.devPath, "/devices/usb=1/sda"), (.action, "Add"), (.devType, "disk"), (.major, "8"),
    (.subsystem, "block")]

def pluggedLines : List CppString :=
  ["add@/devices/usb", "DEVPATH=/devices/usb=1/sda", "ACTION=Add", "DevType=disk", "MAJOR=8", "",
    "SUBSYSTEM=block"]

theorem pluggedLines_read : EnvLines pluggedEntries pluggedLines := by
  refine .other (by decide) (by decide) ?_
  refine @EnvLines.assigned .devPath "DEVPATH" _ _ _ (by decide) ?_
  refine @EnvLines.assigned .action "ACTION" _ _ _ (by decide) ?_
  refine @EnvLines.assigned .devType "DevType" _ _ _ (by decide) ?_
  refine @EnvLines.assigned .major "MAJOR" _ _ _ (by decide) ?_
  refine .other (by decide) (by decide) ?_
  exact @EnvLines.assigned .subsystem "SUBSYSTEM" _ _ _ (by decide) .nil

theorem mem_pluggedEntries (key : UeventKey) (val : CppString) :
    (key, val) ∈ pluggedEntries ↔ pluggedValue key = some val := by
  cases key <;> simp [pluggedEntries, pluggedValue, eq_comm]

theorem uevent_round_trip_stick :
    parseUevent ((['\n'] : CppString).intercalate pluggedLines) = (true, ueventOf pluggedValue) :=
  uevent_round_trip pluggedAssignment _
    ⟨pluggedEntries, pluggedLines, by decide, mem_pluggedEntries, pluggedLines_read, rfl⟩

end DiskManager
