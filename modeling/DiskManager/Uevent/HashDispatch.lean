import DiskManager.Uevent.Attach
import DiskManager.Uevent.EnvParser

/-!
# Dispatch by hash

`Parse` finds the field of a line and `OnBlockDiskUevent` the handler of an action by comparing
FNV-1a hashes of 32 bits.

* `DispatchesBy same raw`: what the two make of a message is what comparing the texts by `same`
  makes of it.
* `hash_dispatch`: this holds of every message for equality of the hashes.
* `removal_by_another_name`: it does not hold for equality of the texts.
-/

namespace DiskManager

open CppString

/-! ## The handlers -/

/-- `ActionHash`. -/
def actionHash (sv : CppString) : UInt32 :=
  sv.foldl (fun h c => (h ^^^ c.toUInt8.toUInt32) * 16777619) 2166136261

def UeventEnv.isBlockDiskEvent (env : UeventEnv) : Bool :=
  env.subsystem = ("block" : CppString) && env.devType = ("disk" : CppString)

def UeventAction.name : UeventAction → CppString
  | remove => "remove"
  | add => "add"
  | change => "change"

def UeventAction.all : List UeventAction := [remove, add, change]

/-- Where `OnBlockDiskUevent` ends with a message. -/
inductive UeventDispatch : Type
  | parseFailed
  | skipped
  | ignored
  | handled (action : UeventAction) (env : UeventEnv)

/-- The `switch` of `OnBlockDiskUevent` over the hash of the action. -/
def dispatchAction (env : UeventEnv) : UeventDispatch :=
  if actionHash env.action = actionHash "remove" then .handled .remove env
  else if actionHash env.action = actionHash "add" then .handled .add env
  else if actionHash env.action = actionHash "change" then .handled .change env
  else .ignored

def dispatchUevent (rawUeventMsg : CppString) : UeventDispatch :=
  let (parsed, env) := parseUevent rawUeventMsg
  if !parsed then .parseFailed
  else if !env.isBlockDiskEvent then .skipped
  else dispatchAction env

def onBlockDiskUevent [JsonLib] (rawUeventMsg : CppString) : ManagerProg ErrCode :=
  match dispatchUevent rawUeventMsg with
  | .parseFailed => return E_UEVENT_PARSE_FAILED
  | .skipped => return E_OK
  | .ignored => return E_OK
  | .handled action uevent => DiskEvent.prog { action, uevent }

/-! ## Dispatch by a comparison -/

/-- The uevent with these values, each read as `ApplyEnvValue` reads it. -/
def envOf (value : UeventKey → Option CppString) : UeventEnv where
  action := toLower ((value .action).getD [])
  subsystem := toLower ((value .subsystem).getD [])
  devType := toLower ((value .devType).getD [])
  major := ((value .major).map fun val => strtoul 10 val % 2 ^ 32).getD 0
  minor := ((value .minor).map fun val => strtoul 10 val % 2 ^ 32).getD 0
  devPath := (value .devPath).getD []
  sysPath := ((value .devPath).map fun val => ("/sys" : CppString) ++ val).getD []
  devName := (value .devName).getD []
  ejectRequest := decide (value .diskEjectRequest = some ("1" : CppString))

section

variable (same : CppString → CppString → Prop) [DecidableRel same]

/-- The value of a line for a key, when its text before the first `=` is compared by `same`. -/
def lineValue (key : UeventKey) (line : CppString) : Option CppString :=
  match find "=" line with
  | none => none
  | some pos =>
      if same (toLower (line.take pos)) key.name then some (line.drop (pos + 1)) else none

/-- The value a message has for a key: that of the last line with one. -/
def lastValue (raw : CppString) (key : UeventKey) : Option CppString :=
  (raw.splitOn '\n').reverse.findSome? (lineValue same key)

/-- Fields and handlers are those whose names the texts of the message are by `same`. -/
structure DispatchesBy (raw : CppString) : Prop where
  fields : (parseUevent raw).2 = envOf (lastValue same raw)
  handler : ∀ action env, dispatchUevent raw = .handled action env ↔
    parseUevent raw = (true, env) ∧ env.isBlockDiskEvent = true ∧ same env.action action.name

end

/-- Texts with one FNV-1a hash. -/
def HashesAlike (text text' : CppString) : Prop := keyHash text = keyHash text'

instance decidableHashesAlike : DecidableRel HashesAlike := fun _ _ =>
  inferInstanceAs (Decidable (_ = _))

/-! ## Fields -/

theorem applyEnvValue_envOf {value : UeventKey → Option CppString} (key : UeventKey)
    (val : CppString) :
    applyEnvValue (envOf value) (keyHash key.name) val =
      envOf (Function.update value key (some val)) := by
  cases key with
  | action => rfl
  | subsystem => rfl
  | devType => rfl
  | major => rfl
  | minor => rfl
  | devPath => rfl
  | devName => rfl
  | diskEjectRequest =>
      have applied : applyEnvValue (envOf value) (keyHash UeventKey.diskEjectRequest.name) val =
          { envOf value with ejectRequest := decide (val = ("1" : CppString)) } := rfl
      have same : (val = ("1" : CppString)) = (some val = some ("1" : CppString)) :=
        propext Option.some_inj.symm
      rw [applied]
      simp only [same]
      rfl

theorem applyEnvValue_other {out : UeventEnv} {hash : UInt32} {val : CppString}
    (other : ∀ key : UeventKey, hash ≠ keyHash key.name) : applyEnvValue out hash val = out := by
  have action : hash ≠ keyHash "action" := other .action
  have subsystem : hash ≠ keyHash "subsystem" := other .subsystem
  have devType : hash ≠ keyHash "devtype" := other .devType
  have major : hash ≠ keyHash "major" := other .major
  have minor : hash ≠ keyHash "minor" := other .minor
  have devPath : hash ≠ keyHash "devpath" := other .devPath
  have devName : hash ≠ keyHash "devname" := other .devName
  have ejectRequest : hash ≠ keyHash "disk_eject_request" := other .diskEjectRequest
  unfold applyEnvValue
  rw [if_neg action, if_neg subsystem, if_neg devType, if_neg major, if_neg minor, if_neg devPath,
    if_neg devName, if_neg ejectRequest]

/-- A line assigns its value to the field whose key has the hash of its key. -/
theorem parseEnvLine_envOf (value : UeventKey → Option CppString) (line : CppString) :
    parseEnvLine (envOf value) line =
      envOf fun key => (lineValue HashesAlike key line).or (value key) := by
  unfold parseEnvLine lineValue
  cases find "=" line with
  | none => rfl
  | some pos =>
      dsimp only
      by_cases known : ∃ key : UeventKey, HashesAlike (toLower (line.take pos)) key.name
      · obtain ⟨key, alike⟩ := known
        have hash : keyHash (toLower (line.take pos)) = keyHash key.name := alike
        rw [hash, applyEnvValue_envOf]
        congr 1
        funext key'
        by_cases this : key' = key
        · subst this
          rw [Function.update_self, if_pos alike]
          rfl
        · have apart : ¬ HashesAlike (toLower (line.take pos)) key'.name := fun alike' =>
            this (keyHash_injective (alike'.symm.trans alike))
          rw [Function.update_of_ne this, if_neg apart]
          rfl
      · rw [applyEnvValue_other fun key alike => known ⟨key, alike⟩]
        congr 1
        funext key
        rw [if_neg fun alike => known ⟨key, alike⟩]
        rfl

theorem foldl_parseEnvLine (lines : List CppString) (value : UeventKey → Option CppString) :
    lines.foldl parseEnvLine (envOf value) =
      envOf fun key => (lines.reverse.findSome? (lineValue HashesAlike key)).or (value key) := by
  induction lines generalizing value with
  | nil => rfl
  | cons line lines ih =>
      rw [List.foldl_cons, parseEnvLine_envOf, ih]
      congr 1
      funext key
      rw [List.reverse_cons, List.findSome?_append, Option.or_assoc, List.findSome?_singleton]

theorem parseUevent_env (raw : CppString) :
    (parseUevent raw).2 = (raw.splitOn '\n').foldl parseEnvLine {} := by
  unfold parseUevent
  dsimp only
  split <;> rfl

theorem parseUevent_fields (raw : CppString) :
    (parseUevent raw).2 = envOf (lastValue HashesAlike raw) := by
  have start : ({} : UeventEnv) = envOf fun _ => none := rfl
  rw [parseUevent_env, start, foldl_parseEnvLine]
  congr 1
  funext key
  exact Option.or_none

/-! ## Handlers -/

theorem UeventAction.mem_all (action : UeventAction) : action ∈ UeventAction.all := by
  cases action <;> decide

theorem actionHash_injective {action action' : UeventAction}
    (same : HashesAlike action.name action'.name) : action = action' := by
  have distinct : (UeventAction.all.map fun action => keyHash action.name).Nodup := by
    decide +kernel
  exact List.inj_on_of_nodup_map distinct action.mem_all action'.mem_all same

theorem dispatchAction_handled {env env' : UeventEnv} {action : UeventAction} :
    dispatchAction env = .handled action env' ↔ env = env' ∧ HashesAlike env.action action.name := by
  have unique : ∀ {other : UeventAction}, HashesAlike env.action other.name →
      (UeventDispatch.handled other env = .handled action env' ↔
        env = env' ∧ HashesAlike env.action action.name) := by
    intro other alike
    rw [UeventDispatch.handled.injEq]
    constructor
    · rintro ⟨rfl, rfl⟩
      exact ⟨rfl, alike⟩
    · rintro ⟨rfl, alike'⟩
      exact ⟨actionHash_injective (alike.symm.trans alike'), rfl⟩
  unfold dispatchAction
  by_cases remove : actionHash env.action = actionHash "remove"
  · rw [if_pos remove]
    exact @unique .remove remove
  · rw [if_neg remove]
    by_cases add : actionHash env.action = actionHash "add"
    · rw [if_pos add]
      exact @unique .add add
    · rw [if_neg add]
      by_cases change : actionHash env.action = actionHash "change"
      · rw [if_pos change]
        exact @unique .change change
      · rw [if_neg change]
        constructor
        · intro handled
          cases handled
        · rintro ⟨-, alike⟩
          cases action with
          | remove => exact absurd alike remove
          | add => exact absurd alike add
          | change => exact absurd alike change

theorem dispatchUevent_handled {raw : CppString} {action : UeventAction} {env : UeventEnv} :
    dispatchUevent raw = .handled action env ↔
      parseUevent raw = (true, env) ∧ env.isBlockDiskEvent = true ∧
        HashesAlike env.action action.name := by
  unfold dispatchUevent
  rcases parseUevent raw with ⟨parsed, read⟩
  dsimp only
  cases parsed with
  | false => simp
  | true =>
      cases block : read.isBlockDiskEvent with
      | false =>
          constructor
          · intro handled
            cases handled
          · rintro ⟨same, isBlock, -⟩
            cases same
            rw [block] at isBlock
            cases isBlock
      | true =>
          have switch : dispatchAction read = .handled action env ↔ _ := dispatchAction_handled
          constructor
          · intro handled
            obtain ⟨rfl, alike⟩ := switch.mp handled
            exact ⟨rfl, block, alike⟩
          · rintro ⟨same, -, alike⟩
            cases same
            exact switch.mpr ⟨rfl, alike⟩

/-- The handler found is the one that runs. -/
theorem onBlockDiskUevent_handled [JsonLib] {raw : CppString} {action : UeventAction}
    {uevent : UeventEnv} (handled : dispatchUevent raw = .handled action uevent) :
    onBlockDiskUevent raw = DiskEvent.prog { action, uevent } := by
  unfold onBlockDiskUevent
  rw [handled]

/-- Where none is found nothing is done. -/
theorem onBlockDiskUevent_unhandled [JsonLib] {raw : CppString}
    (unhandled : ∀ action uevent, dispatchUevent raw ≠ .handled action uevent) :
    ∃ code : ErrCode, onBlockDiskUevent raw = return code := by
  unfold onBlockDiskUevent
  cases found : dispatchUevent raw with
  | parseFailed => exact ⟨E_UEVENT_PARSE_FAILED, rfl⟩
  | skipped => exact ⟨E_OK, rfl⟩
  | ignored => exact ⟨E_OK, rfl⟩
  | handled action uevent => exact absurd found (unhandled action uevent)

/-- A message assigns fields and runs a handler by the hashes of its texts; no two names share one,
so that a name is never taken for another. -/
theorem hash_dispatch :
    (∀ raw, DispatchesBy HashesAlike raw) ∧
      (∀ key key' : UeventKey, HashesAlike key.name key'.name → key = key') ∧
      ∀ action action' : UeventAction, HashesAlike action.name action'.name → action = action' :=
  ⟨fun raw => ⟨parseUevent_fields raw, fun _ _ => dispatchUevent_handled⟩,
    fun _ _ => keyHash_injective, fun _ _ => actionHash_injective⟩

/-- A message whose action is none of the three. -/
def foreignMessage : CppString := "ACTION=rjvmzif\nSUBSYSTEM=block\nDEVTYPE=disk\nMAJOR=8\n"

/-- The action has the hash of `remove`, and the removal handler runs. -/
theorem removal_by_another_name :
    ¬ ∀ raw : CppString, raw.length ≤ 4096 → DispatchesBy (· = ·) raw := by
  intro byName
  have parsed : parseUevent foreignMessage = (true, (parseUevent foreignMessage).2) := by
    have accepted : (parseUevent foreignMessage).1 = true := by decide +kernel
    exact Prod.ext accepted rfl
  have removal : dispatchUevent foreignMessage =
      .handled .remove (parseUevent foreignMessage).2 :=
    dispatchUevent_handled.mpr ⟨parsed, by decide +kernel, by decide +kernel⟩
  obtain ⟨-, -, same⟩ := ((byName foreignMessage (by decide +kernel)).handler _ _).mp removal
  exact absurd same (by decide +kernel)

end DiskManager
