import DiskManager.Manager.MountSpec
import DiskManager.Manager.Requests
import Mathlib.Logic.Function.Basic

/-!
# Loop devices, mappers and the records of crypt volumes

What the commands of `BindBlockLoopDev`, `CreateDmCryptVolume`, `DestroyDmCryptVolume` and
`UnbindBlockLoopDev` do outside, and what a record under `vol-crypt-` says about it.
-/

namespace DiskManager

open Interact

/-- The loop devices that are bound, with their offset and size limit, the mappers that are open,
with the loop device each is on, and what is mounted. -/
structure CryptWorld : Type where
  loops : CppString → Option (Nat × Nat)
  mappers : CppString → Option CppString
  mounts : MountTable

/-- A path `/dev/block/loopN`. -/
def LoopDevice (path : CppString) : Prop := ∃ n : Nat, path = DEV_BLOCK_PREFIX ++ "loop" ++ .ofNat n

/-- The first line of the output is `line`. -/
def FirstLine (output : List CppString) (line : CppString) : Prop :=
  ∃ rest more, output = (line ++ rest) :: more ∧ (rest = [] ∨ ∃ next, rest = '\n' :: next)

/-! ## The commands -/

def bindCommand (offset sizeLimit : Nat) (device : CppString) : List CppString :=
  ["loopctl", "--oh", "-f", "-o", .ofNat offset, "--sizelimit", .ofNat sizeLimit, "--show", device]

def openCommand (param : CryptParam) (loop name : CppString) : List CppString :=
  ["cryptsetup", "open", "--type", param.type, "--cipher", param.cipher, "--key-size",
    .ofInt param.keySize, "--key-file", param.keyFile, loop, name]

def closeCommand (mapper : CppString) : List CppString := ["cryptsetup", "close", mapper]

def unbindCommand (loop : CppString) : List CppString := ["loopctl", "-d", loop]

namespace CryptWorld

def bind (w : CryptWorld) (loop : CppString) (range : Nat × Nat) : CryptWorld :=
  { w with loops := Function.update w.loops loop (some range) }

def unbind (w : CryptWorld) (loop : CppString) : CryptWorld :=
  { w with loops := Function.update w.loops loop none }

def openMapper (w : CryptWorld) (mapper loop : CppString) : CryptWorld :=
  { w with mappers := Function.update w.mappers mapper (some loop) }

def closeMapper (w : CryptWorld) (mapper : CppString) : CryptWorld :=
  { w with mappers := Function.update w.mappers mapper none }

theorem loops_bind (w : CryptWorld) (loop path : CppString) (range : Nat × Nat) :
    (w.bind loop range).loops path = if path = loop then some range else w.loops path :=
  Function.update_apply _ _ _ _

theorem loops_unbind (w : CryptWorld) (loop path : CppString) :
    (w.unbind loop).loops path = if path = loop then none else w.loops path :=
  Function.update_apply _ _ _ _

theorem mappers_openMapper (w : CryptWorld) (mapper loop path : CppString) :
    (w.openMapper mapper loop).mappers path =
      if path = mapper then some loop else w.mappers path :=
  Function.update_apply _ _ _ _

theorem mappers_closeMapper (w : CryptWorld) (mapper path : CppString) :
    (w.closeMapper mapper).mappers path = if path = mapper then none else w.mappers path :=
  Function.update_apply _ _ _ _

/-- A command that succeeds, its output and what it leaves. -/
inductive Executed (w : CryptWorld) : List CppString → List CppString → CryptWorld → Prop
  | bind {offset sizeLimit : Nat} {device loop : CppString} {output : List CppString}
      (fresh : w.loops loop = none) (path : LoopDevice loop) (prints : FirstLine output loop) :
    Executed w (bindCommand offset sizeLimit device) output (w.bind loop (offset, sizeLimit))
  | openMapper {param : CryptParam} {loop name : CppString} {output : List CppString}
      (bound : w.loops loop ≠ none) (free : w.mappers (DEV_MAPPER_PREFIX ++ name) = none) :
    Executed w (openCommand param loop name) output (w.openMapper (DEV_MAPPER_PREFIX ++ name) loop)
  | closeMapper {mapper : CppString} {output : List CppString} (isOpen : w.mappers mapper ≠ none)
      (idle : ¬ w.mounts.mounted mapper) :
    Executed w (closeCommand mapper) output (w.closeMapper mapper)
  | unbind {loop : CppString} {output : List CppString} (bound : w.loops loop ≠ none)
      (closed : ∀ mapper, w.mappers mapper ≠ some loop) (idle : ¬ w.mounts.mounted loop) :
    Executed w (unbindCommand loop) output (w.unbind loop)

end CryptWorld

/-- A mount on an occupied directory or of a mounted device fails; block devices hold no MTP or PTP
file system. -/
def cryptAnswers : Answers
  | w, .mount devPath mountPath _ _ _, err =>
      err = E_OK → ¬ w.mounted devPath ∧ ∀ dev, (dev, mountPath) ∉ w
  | _, .readMetadata _, metadata => (getFsTypeByStr metadata.type).block
  | _, _, _ => True

/-- Failures change nothing. -/
def cryptEnv : Env ManagerState CryptWorld Req Req.Resp
  | _, w, .executeCommand cmd, (ret, output), w' =>
      ret ≠ E_OK ∧ w' = w ∨ ret = E_OK ∧ w.Executed cmd output w'
  | _, w, q, r, w' => cryptAnswers w.mounts q r ∧ w' = { w with mounts := w.mounts.after q r }

/-! ## What a command that succeeds has done -/

section

variable {w w' : CryptWorld} {output : List CppString}

theorem executed_bind {offset sizeLimit : Nat} {device : CppString}
    (executed : w.Executed (bindCommand offset sizeLimit device) output w') :
    ∃ loop, w.loops loop = none ∧ LoopDevice loop ∧ FirstLine output loop ∧
      w' = w.bind loop (offset, sizeLimit) := by
  generalize same : bindCommand offset sizeLimit device = cmd at executed
  cases executed with
  | bind fresh path prints =>
      simp only [bindCommand, List.cons.injEq, true_and] at same
      obtain rfl := CppString.ofNat_injective same.1
      obtain rfl := CppString.ofNat_injective same.2.1
      exact ⟨_, fresh, path, prints, rfl⟩
  | openMapper => simp [bindCommand, openCommand] at same
  | closeMapper => simp [bindCommand, closeCommand] at same
  | unbind => simp [bindCommand, unbindCommand] at same

theorem executed_openMapper {param : CryptParam} {loop name : CppString}
    (executed : w.Executed (openCommand param loop name) output w') :
    w.loops loop ≠ none ∧ w.mappers (DEV_MAPPER_PREFIX ++ name) = none ∧
      w' = w.openMapper (DEV_MAPPER_PREFIX ++ name) loop := by
  generalize same : openCommand param loop name = cmd at executed
  cases executed with
  | bind => simp [bindCommand, openCommand] at same
  | openMapper bound free =>
      simp only [openCommand, List.cons.injEq, true_and, and_true] at same
      obtain ⟨-, -, -, -, rfl, rfl⟩ := same
      exact ⟨bound, free, rfl⟩
  | closeMapper => simp [openCommand, closeCommand] at same
  | unbind => simp [openCommand, unbindCommand] at same

theorem executed_closeMapper {mapper : CppString}
    (executed : w.Executed (closeCommand mapper) output w') :
    w.mappers mapper ≠ none ∧ ¬ w.mounts.mounted mapper ∧ w' = w.closeMapper mapper := by
  generalize same : closeCommand mapper = cmd at executed
  cases executed with
  | bind => simp [bindCommand, closeCommand] at same
  | openMapper => simp [openCommand, closeCommand] at same
  | closeMapper isOpen idle =>
      simp only [closeCommand, List.cons.injEq, true_and, and_true] at same
      obtain rfl := same
      exact ⟨isOpen, idle, rfl⟩
  | unbind => simp [closeCommand, unbindCommand] at same

theorem executed_unbind {loop : CppString} (executed : w.Executed (unbindCommand loop) output w') :
    w.loops loop ≠ none ∧ (∀ mapper, w.mappers mapper ≠ some loop) ∧ ¬ w.mounts.mounted loop ∧
      w' = w.unbind loop := by
  generalize same : unbindCommand loop = cmd at executed
  cases executed with
  | bind => simp [bindCommand, unbindCommand] at same
  | openMapper => simp [openCommand, unbindCommand] at same
  | closeMapper => simp [closeCommand, unbindCommand] at same
  | unbind bound closed idle =>
      simp only [unbindCommand, List.cons.injEq, true_and, and_true] at same
      obtain rfl := same
      exact ⟨bound, closed, idle, rfl⟩

end

/-! ## Paths -/

theorem afterLast_append {c : Char} {pre name : CppString} (none : c ∉ name) :
    CppString.afterLast c (pre ++ [c] ++ name) = name := by
  have passes : ∀ d ∈ name.reverse, decide (d ≠ c) = true := by
    intro d mem
    rw [List.mem_reverse] at mem
    exact decide_eq_true fun same => none (same ▸ mem)
  have shape : (pre ++ [c] ++ name).reverse = name.reverse ++ (c :: pre.reverse) := by simp
  rw [CppString.afterLast, shape, List.takeWhile_append_of_pos passes]
  simp

theorem not_mem_loopName {n : Nat} {c : Char} (other : c.isDigit = false)
    (letter : c ∉ ("loop" : CppString)) : c ∉ ("loop" : CppString) ++ CppString.ofNat n := by
  intro mem
  rcases List.mem_append.mp mem with mem | mem
  · exact letter mem
  · rw [CppString.isDigit_of_mem_ofNat mem] at other
    cases other

/-- The id of the volume on a loop device keeps its number. -/
theorem cryptVolumeId_loop (n : Nat) :
    cryptVolumeId (DEV_BLOCK_PREFIX ++ "loop" ++ .ofNat n) =
      CRYPT_VOLUME_PREFIX ++ "loop" ++ .ofNat n := by
  have slash : DEV_BLOCK_PREFIX = ("/dev/block" : CppString) ++ ['/'] := by decide
  have name : ('/' : Char) ∉ ("loop" : CppString) ++ CppString.ofNat n :=
    not_mem_loopName (by decide) (by decide)
  rw [cryptVolumeId, slash, List.append_assoc, afterLast_append name, List.append_assoc]

theorem cryptVolumeId_injective {path path' : CppString} (loop : LoopDevice path)
    (loop' : LoopDevice path') (same : cryptVolumeId path = cryptVolumeId path') :
    path = path' := by
  obtain ⟨n, rfl⟩ := loop
  obtain ⟨n', rfl⟩ := loop'
  rw [cryptVolumeId_loop, cryptVolumeId_loop, List.append_cancel_left_eq] at same
  rw [same]

theorem startsWith_cryptVolumeId (path : CppString) :
    CppString.startsWith (cryptVolumeId path) CRYPT_VOLUME_PREFIX = true := by
  rw [CppString.startsWith, cryptVolumeId, List.isPrefixOf_iff_prefix]
  exact List.prefix_append _ _

theorem loopDevice_ne_nil {path : CppString} (loop : LoopDevice path) : path ≠ [] := by
  obtain ⟨n, rfl⟩ := loop
  rw [List.append_assoc]
  exact List.append_ne_nil_of_left_ne_nil (by decide) _

/-- A loop device is not a mapper. -/
theorem loopDevice_not_mapper {path : CppString} (loop : LoopDevice path) :
    CppString.startsWith path DEV_MAPPER_PREFIX = false := by
  obtain ⟨n, rfl⟩ := loop
  rw [List.append_assoc]
  exact startsWith_append_eq_false (by decide) (by decide)

/-- The loop device is read from the first line. -/
theorem firstLine_loop {output : List CppString} {loop : CppString} (path : LoopDevice loop)
    (prints : FirstLine output loop) :
    output ≠ [] ∧ (splitRawDumpToLines (output.headD [])).headD [] = loop := by
  obtain ⟨rest, more, rfl, ends⟩ := prints
  refine ⟨List.cons_ne_nil _ _, ?_⟩
  have first : ∀ lines : List CppString,
      ((loop :: lines).filter fun line => !line.isEmpty).headD [] = loop := by
    intro lines
    have some' : (!loop.isEmpty) = true := by
      simpa using loopDevice_ne_nil path
    rw [List.filter_cons, if_pos some']
    rfl
  have oneLine : ∀ c ∈ loop, (c == '\n') = false := by
    obtain ⟨n, rfl⟩ := path
    intro c mem
    rw [beq_eq_false_iff_ne]
    rintro rfl
    rw [List.append_assoc, List.mem_append] at mem
    rcases mem with mem | mem
    · revert mem
      decide
    · exact not_mem_loopName (by decide) (by decide) mem
  rw [List.headD_cons, splitRawDumpToLines, List.splitOn]
  rcases ends with rfl | ⟨next, rfl⟩
  · rw [List.append_nil, List.splitOnP_eq_singleton oneLine, first]
  · rw [List.splitOnP_append_cons_of_forall_mem oneLine _ (by decide), first]

end DiskManager
