import DiskManager.LexicalPath
import DiskManager.Search
import Mathlib.Data.List.DropRight

/-!
# The walk up to a USB device

`disk/sysfs_reader.cpp`: from the directory of a block device up through its parents to the first
USB device, whose attributes are those of the disk.

* `walkRound_spec`: a round of the loop ends at a USB device or at the top, or cuts off the last
  name.
* `walkUpAndReadUsbAttrs_nearest`: the walk reads the attributes of the nearest USB device at or
  above where it starts, and no others.
-/

namespace DiskManager

open CppString LexicalPath

/-- What `access`, `readlink` and `std::ifstream` find under a path. -/
structure Sysfs : Type where
  access : CppString → Bool
  readlink : CppString → Option CppString
  content : CppString → Option CppString

structure UsbSysfsInfo : Type where
  vid : CppString := []
  pid : CppString := []
  serialNumber : CppString := []
  busnum : CppString := []
  devnum : CppString := []

def BLOCK_DIR_PREFIX : CppString := "/block/"

/-! ## The readers -/

def stripBlockSuffix (sysPath devName : CppString) : CppString :=
  let suffix := BLOCK_DIR_PREFIX ++ devName
  if suffix.length < sysPath.length ∧ sysPath.drop (sysPath.length - suffix.length) = suffix then
    sysPath.take (sysPath.length - suffix.length)
  else
    match rfind "/" sysPath with
    | none => sysPath
    | some lastSlash => if 0 < lastSlash then sysPath.take lastSlash else sysPath

def readSysfsFile (sysfs : Sysfs) (path : CppString) : CppString :=
  match sysfs.content path with
  | none => []
  | some text =>
      (text.takeWhile (· ≠ '\n')).rdropWhile fun c =>
        c = '\n' || c = '\r' || c = ' ' || c = Char.ofNat 0

/-- `readlink` gives at most the 255 bytes that the buffer has room for, and the C string in it
ends at the first NUL. -/
def readSubsystemSymlink (sysfs : Sysfs) (sysfsDir : CppString) : CppString :=
  match sysfs.readlink (sysfsDir ++ ("/subsystem" : CppString)) with
  | none => []
  | some value =>
      let target := (value.take 255).takeWhile (· ≠ Char.ofNat 0)
      match rfind "/" target with
      | none => target
      | some lastSlash =>
          if lastSlash + 1 < target.length then target.drop (lastSlash + 1) else target

/-- The lines that a loop of `std::getline` sees. -/
def fileLines (text : CppString) : List CppString :=
  let pieces := text.splitOn '\n'
  if pieces.getLast? = some [] then pieces.dropLast else pieces

def readUeventField (sysfs : Sysfs) (sysfsDir field : CppString) : CppString :=
  match sysfs.content (sysfsDir ++ ("/uevent" : CppString)) with
  | none => []
  | some text =>
      let start := field ++ ['=']
      match (fileLines text).find? fun line => startsWith line start with
      | none => []
      | some line => line.drop start.length

def hasUeventFile (sysfs : Sysfs) (sysfsDir : CppString) : Bool :=
  sysfs.access (sysfsDir ++ ("/uevent" : CppString))

/-- A link that fits the buffer is read as its last name. -/
theorem readSubsystemSymlink_last {sysfs : Sysfs} {sysfsDir front name : CppString}
    (link : sysfs.readlink (sysfsDir ++ ("/subsystem" : CppString)) = some (front ++ '/' :: name))
    (fits : (front ++ '/' :: name).length ≤ 255) (noNul : Char.ofNat 0 ∉ front ++ '/' :: name)
    (clean : '/' ∉ name) (named : name ≠ []) : readSubsystemSymlink sysfs sysfsDir = name := by
  have whole : (front ++ '/' :: name).takeWhile (· ≠ Char.ofNat 0) = front ++ '/' :: name := by
    rw [List.takeWhile_eq_self_iff]
    exact fun c mem => decide_eq_true fun nul => noNul (nul ▸ mem)
  have last : rfind "/" (front ++ '/' :: name) = some front.length := rfind_last clean
  have inside : front.length + 1 < (front ++ '/' :: name).length := by
    have pos := List.length_pos_iff.mpr named
    rw [List.length_append, List.length_cons]
    omega
  unfold readSubsystemSymlink
  rw [link]
  dsimp only
  rw [List.take_of_length_le fits, whole, last]
  dsimp only
  rw [if_pos inside, List.drop_length_add_append]
  rfl

/-! ## The walk -/

/-- What the walk reads at the directory where it stops. -/
def usbAttrs (sysfs : Sysfs) (sysfsDir : CppString) : UsbSysfsInfo where
  vid := readSysfsFile sysfs (sysfsDir ++ ("/idVendor" : CppString))
  pid := readSysfsFile sysfs (sysfsDir ++ ("/idProduct" : CppString))
  serialNumber := readSysfsFile sysfs (sysfsDir ++ ("/serial" : CppString))
  busnum := readSysfsFile sysfs (sysfsDir ++ ("/busnum" : CppString))
  devnum := readSysfsFile sysfs (sysfsDir ++ ("/devnum" : CppString))

/-- The end of the three branches that pass a directory by: the loop is left with nothing read, or
goes on with the path cut before its last separator. -/
def leaveOrCut (currentPath : CppString) : UsbSysfsInfo ⊕ CppString :=
  match rfind "/" currentPath with
  | none => .inl {}
  | some lastSlash => if lastSlash = 0 then .inl {} else .inr (currentPath.take lastSlash)

/-- One round of the loop of `WalkUpAndReadUsbAttrs`. -/
def walkRound (sysfs : Sysfs) (currentPath : CppString) : UsbSysfsInfo ⊕ CppString :=
  if !hasUeventFile sysfs currentPath then leaveOrCut currentPath
  else if readSubsystemSymlink sysfs currentPath ≠ ("usb" : CppString) then leaveOrCut currentPath
  else if readUeventField sysfs currentPath "DEVTYPE" ≠ ("usb_device" : CppString) then
    leaveOrCut currentPath
  else .inl (usbAttrs sysfs currentPath)

/-- What makes a directory the one that the walk looks for. -/
def IsUsbDevice (sysfs : Sysfs) (sysfsDir : CppString) : Prop :=
  hasUeventFile sysfs sysfsDir = true ∧
    readSubsystemSymlink sysfs sysfsDir = ("usb" : CppString) ∧
    readUeventField sysfs sysfsDir "DEVTYPE" = ("usb_device" : CppString)

instance decidableIsUsbDevice (sysfs : Sysfs) (sysfsDir : CppString) :
    Decidable (IsUsbDevice sysfs sysfsDir) :=
  inferInstanceAs (Decidable (_ ∧ _ ∧ _))

theorem leaveOrCut_cases (currentPath : CppString) :
    ((∀ above, AtOrAbove '/' currentPath above → above = currentPath ∨ above = []) ∧
        leaveOrCut currentPath = .inl {}) ∨
      ∃ parent name, currentPath = parent ++ '/' :: name ∧ '/' ∉ name ∧
        leaveOrCut currentPath = .inr parent := by
  unfold leaveOrCut
  rcases rfind_cases '/' currentPath with ⟨clean, absent⟩ | ⟨parent, name, rfl, clean, found⟩
  · left
    have absent : rfind "/" currentPath = none := absent
    rw [absent]
    exact ⟨fun above ancestor => .inl ((atOrAbove_of_clean clean).mp ancestor), rfl⟩
  · have found : rfind "/" (parent ++ '/' :: name) = some parent.length := found
    rw [found]
    cases parent with
    | nil =>
        left
        refine ⟨fun above ancestor => ?_, rfl⟩
        rcases (atOrAbove_cut clean).mp ancestor with same | top
        · exact .inl same
        · exact .inr ((atOrAbove_of_clean List.not_mem_nil).mp top)
    | cons c parent =>
        right
        refine ⟨c :: parent, name, rfl, clean, ?_⟩
        dsimp only
        rw [if_neg (by simp), List.take_left]

/-- A round reads the attributes of a USB device, and passes by what is none. -/
theorem walkRound_spec (sysfs : Sysfs) (currentPath : CppString) :
    (IsUsbDevice sysfs currentPath ∧
        walkRound sysfs currentPath = .inl (usbAttrs sysfs currentPath)) ∨
      (¬ IsUsbDevice sysfs currentPath ∧ walkRound sysfs currentPath = leaveOrCut currentPath) := by
  unfold walkRound IsUsbDevice
  by_cases uevent : hasUeventFile sysfs currentPath = true
  · have passes : ¬ (!hasUeventFile sysfs currentPath) = true := by
      rw [uevent]
      exact Bool.false_ne_true
    rw [if_neg passes]
    by_cases subsystem : readSubsystemSymlink sysfs currentPath = ("usb" : CppString)
    · rw [if_neg (not_not.mpr subsystem)]
      by_cases devType : readUeventField sysfs currentPath "DEVTYPE" = ("usb_device" : CppString)
      · exact .inl ⟨⟨uevent, subsystem, devType⟩, if_neg (not_not.mpr devType)⟩
      · exact .inr ⟨fun device => devType device.2.2, if_pos devType⟩
    · exact .inr ⟨fun device => subsystem device.2.1, if_pos subsystem⟩
  · have fails : (!hasUeventFile sysfs currentPath) = true := by
      rw [Bool.eq_false_iff.mpr uevent]
      rfl
    exact .inr ⟨fun device => uevent device.1, if_pos fails⟩

theorem walkRound_shorter {sysfs : Sysfs} {currentPath parent : CppString}
    (round : walkRound sysfs currentPath = .inr parent) : parent.length < currentPath.length := by
  rcases walkRound_spec sysfs currentPath with ⟨-, found⟩ | ⟨-, passed⟩
  · rw [found] at round
    cases round
  · rw [passed] at round
    rcases leaveOrCut_cases currentPath with ⟨-, top⟩ | ⟨front, name, rfl, -, cut⟩
    · rw [top] at round
      cases round
    · rw [cut] at round
      cases round
      rw [List.length_append, List.length_cons]
      omega

/-- The loop, from the path it has come to; every round shortens it. -/
def walkUpAndReadUsbAttrs (sysfs : Sysfs) (currentPath : CppString) : UsbSysfsInfo :=
  if currentPath.isEmpty || currentPath = ("/" : CppString) then {}
  else
    match _ : walkRound sysfs currentPath with
    | .inl info => info
    | .inr parent => walkUpAndReadUsbAttrs sysfs parent
termination_by currentPath.length
decreasing_by exact walkRound_shorter ‹_›

def readUsbInfo (sysfs : Sysfs) (sysPath devName : CppString) : UsbSysfsInfo :=
  if sysPath.isEmpty || devName.isEmpty then {}
  else walkUpAndReadUsbAttrs sysfs (stripBlockSuffix sysPath devName)

/-! ## The nearest device -/

/-- The directories the walk may come to: the start and what is above it, short of the root. -/
def OnTheWay (startPath sysfsDir : CppString) : Prop :=
  AtOrAbove '/' startPath sysfsDir ∧ sysfsDir ≠ [] ∧ sysfsDir ≠ ("/" : CppString)

/-- The USB device on the way that is nearest to the start. -/
def NearestUsbDevice (sysfs : Sysfs) (startPath sysfsDir : CppString) : Prop :=
  OnTheWay startPath sysfsDir ∧ IsUsbDevice sysfs sysfsDir ∧
    ∀ other, OnTheWay startPath other → IsUsbDevice sysfs other → other.length ≤ sysfsDir.length

theorem onTheWay_root {startPath sysfsDir : CppString}
    (root : startPath = [] ∨ startPath = ("/" : CppString)) : ¬ OnTheWay startPath sysfsDir := by
  rintro ⟨ancestor, nonempty, notRoot⟩
  rcases root with rfl | rfl
  · exact nonempty ((atOrAbove_of_clean List.not_mem_nil).mp ancestor)
  · have clean : '/' ∉ ([] : CppString) := List.not_mem_nil
    have cut : AtOrAbove '/' ([] ++ '/' :: []) sysfsDir := ancestor
    rcases (atOrAbove_cut clean).mp cut with same | top
    · exact notRoot same
    · exact nonempty ((atOrAbove_of_clean clean).mp top)

theorem onTheWay_cut {parent name sysfsDir : CppString} (clean : '/' ∉ name) :
    OnTheWay (parent ++ '/' :: name) sysfsDir ↔
      (sysfsDir = parent ++ '/' :: name ∧ sysfsDir ≠ ("/" : CppString)) ∨
        OnTheWay parent sysfsDir := by
  unfold OnTheWay
  rw [atOrAbove_cut clean]
  constructor
  · rintro ⟨same | above, nonempty, notRoot⟩
    · exact .inl ⟨same, notRoot⟩
    · exact .inr ⟨above, nonempty, notRoot⟩
  · rintro (⟨rfl, notRoot⟩ | ⟨above, nonempty, notRoot⟩)
    · exact ⟨.inl rfl, by simp, notRoot⟩
    · exact ⟨.inr above, nonempty, notRoot⟩

/-- A directory that is passed by leaves the nearest device to the directories above it. -/
theorem nearest_of_parent {sysfs : Sysfs} {parent name sysfsDir : CppString} (clean : '/' ∉ name)
    (other : ¬ IsUsbDevice sysfs (parent ++ '/' :: name))
    (nearest : NearestUsbDevice sysfs parent sysfsDir) :
    NearestUsbDevice sysfs (parent ++ '/' :: name) sysfsDir := by
  obtain ⟨way, device, longest⟩ := nearest
  refine ⟨(onTheWay_cut clean).mpr (.inr way), device, fun dir dirWay isDevice => ?_⟩
  rcases (onTheWay_cut clean).mp dirWay with ⟨rfl, -⟩ | above
  · exact absurd isDevice other
  · exact longest dir above isDevice

section

variable {sysfs : Sysfs} {currentPath : CppString}

theorem walk_root (root : currentPath = [] ∨ currentPath = ("/" : CppString)) :
    walkUpAndReadUsbAttrs sysfs currentPath = {} := by
  rw [walkUpAndReadUsbAttrs, if_pos (by simpa using root)]

theorem walk_of_left {info : UsbSysfsInfo}
    (below : ¬ (currentPath = [] ∨ currentPath = ("/" : CppString)))
    (ended : walkRound sysfs currentPath = .inl info) :
    walkUpAndReadUsbAttrs sysfs currentPath = info := by
  rw [walkUpAndReadUsbAttrs, if_neg (by simpa using below)]
  split
  next other round => simpa [ended] using round.symm
  next parent round => rw [ended] at round; cases round

theorem walk_of_cut {parent : CppString}
    (below : ¬ (currentPath = [] ∨ currentPath = ("/" : CppString)))
    (cut : walkRound sysfs currentPath = .inr parent) :
    walkUpAndReadUsbAttrs sysfs currentPath = walkUpAndReadUsbAttrs sysfs parent := by
  rw [walkUpAndReadUsbAttrs, if_neg (by simpa using below)]
  split
  next info round => rw [cut] at round; cases round
  next other round => rw [cut] at round; cases round; rfl

end

/-- The walk ends, with the attributes of the nearest USB device at or above the start, or with
nothing where there is none. -/
theorem walkUpAndReadUsbAttrs_nearest (sysfs : Sysfs) (startPath : CppString) :
    (∃ sysfsDir, NearestUsbDevice sysfs startPath sysfsDir ∧
        walkUpAndReadUsbAttrs sysfs startPath = usbAttrs sysfs sysfsDir) ∨
      ((∀ sysfsDir, OnTheWay startPath sysfsDir → ¬ IsUsbDevice sysfs sysfsDir) ∧
        walkUpAndReadUsbAttrs sysfs startPath = {}) := by
  induction size : startPath.length using Nat.strongRecOn generalizing startPath with
  | ind n ih =>
  by_cases root : startPath = [] ∨ startPath = ("/" : CppString)
  · exact .inr ⟨fun dir way => absurd way (onTheWay_root root), walk_root root⟩
  · rcases walkRound_spec sysfs startPath with ⟨device, found⟩ | ⟨other, passed⟩
    · left
      have start : OnTheWay startPath startPath := ⟨.inl rfl, not_or.mp root⟩
      exact ⟨startPath, ⟨start, device, fun dir way _ => way.1.length_le⟩, walk_of_left root found⟩
    · rcases leaveOrCut_cases startPath with ⟨alone, top⟩ | ⟨parent, name, rfl, clean, cut⟩
      · right
        rw [top] at passed
        refine ⟨fun dir way => ?_, walk_of_left root passed⟩
        rcases alone dir way.1 with rfl | empty
        · exact other
        · exact absurd empty way.2.1
      · rw [cut] at passed
        have shorter : parent.length < n := by
          rw [← size, List.length_append, List.length_cons]
          omega
        rw [walk_of_cut root passed]
        rcases ih parent.length shorter parent rfl with ⟨dir, nearest, read⟩ | ⟨none, read⟩
        · exact .inl ⟨dir, nearest_of_parent clean other nearest, read⟩
        · right
          refine ⟨fun dir way => ?_, read⟩
          rcases (onTheWay_cut clean).mp way with ⟨rfl, -⟩ | above
          · exact other
          · exact none dir above

end DiskManager
