import DiskManager.Dfx.HiAudit
import Mathlib.Data.List.Nodup
import Mathlib.Data.List.Dedup
import Mathlib.Data.List.Perm.Subperm

/-!
# The audit directory

How a file system on which every operation succeeds answers the audit log, and what one call does
there.

* `auditEnv`: any clock, any times of modification, directory entries in any order.
* `wp_write_below`, `wp_write_full`: a call into a file that is not full adds to it; a call into a
  full file puts it aside and leaves a file with one line.
-/

namespace DiskManager

open Interact CppString

namespace HiAudit

structure AuditFile : Type where
  content : CppString
  mtime : Int

def AuditFile.stat (file : AuditFile) : Stat := ⟨file.content.length, file.mtime⟩

/-- The files by path, and the one the descriptor is of. -/
structure AuditDir : Type where
  files : StdMap AuditFile
  opened : Option CppString

namespace AuditDir

def empty : AuditDir := ⟨∅, none⟩

def openAppend (w : AuditDir) (path : CppString) (mtime : Int) : AuditDir where
  files := if w.files[path]?.isSome then w.files else w.files.insert path ⟨[], mtime⟩
  opened := some path

def openTrunc (w : AuditDir) (path : CppString) (mtime : Int) : AuditDir where
  files := w.files.insert path ⟨[], mtime⟩
  opened := some path

def write (w : AuditDir) (content : CppString) (mtime : Int) : AuditDir :=
  match w.opened with
  | none => w
  | some path =>
      { w with files := w.files.update path fun file => ⟨file.content ++ content, mtime⟩ }

def rename (w : AuditDir) (source target : CppString) : AuditDir :=
  match w.files[source]? with
  | none => w
  | some file =>
      { files := (w.files.erase source).insert target file
        opened := if w.opened = some source then some target else w.opened }

def remove (w : AuditDir) (path : CppString) : AuditDir :=
  { w with files := w.files.erase path }

/-- The entries of the directory, each once. -/
def Lists (w : AuditDir) (path : CppString) (names : List CppString) : Prop :=
  names.Nodup ∧ ∀ name, name ∈ names ↔
    name = "." ∨ name = ".." ∨ (w.files[path ++ name]?).isSome

/-- One listing. -/
def entries (w : AuditDir) (path : CppString) : List CppString :=
  let names : List CppString := (w.files.keys.filter (startsWith · path)).map (·.drop path.length)
  List.dedup (("." : CppString) :: (".." : CppString) :: names)

end AuditDir

/-- How requests are answered where the directory is there and every file operation succeeds. -/
def auditEnv (_ : State) (w : AuditDir) : (q : AuditReq) → q.Resp → AuditDir → Prop
  | .access _, there, w' => there = true ∧ w' = w
  | .mkdir _, made, w' => made = true ∧ w' = w
  | .openAppend path, fd, w' => 0 ≤ fd ∧ ∃ mtime, w' = w.openAppend path mtime
  | .openTrunc path, fd, w' => 0 ≤ fd ∧ ∃ mtime, w' = w.openTrunc path mtime
  | .close _, _, w' => w' = { w with opened := none }
  | .write _ content, written, w' =>
      written = content.length ∧ ∃ mtime, w' = w.write content mtime
  | .stat path, st, w' => st = w.files[path]?.map (·.stat) ∧ w' = w
  | .rename source target, done, w' =>
      done = w.files[source]?.isSome ∧ w' = w.rename source target
  | .readdir path, entries, w' => (∃ names, entries = some names ∧ w.Lists path names) ∧ w' = w
  | .remove path, done, w' => done = w.files[path]?.isSome ∧ w' = w.remove path
  | .systemClock, _, w' => w' = w
  | .strftime _, date, w' => (∀ text, date = some text → text.all Char.isDigit = true) ∧ w' = w

abbrev auditContract : Contract State AuditDir AuditReq AuditReq.Resp := .ofEnv auditEnv

section

variable {s : State} {w : AuditDir} {α : Type} {post : α → State → AuditDir → Prop}

theorem lists_entries (w : AuditDir) (path : CppString) : w.Lists path (w.entries path) := by
  refine ⟨List.nodup_dedup _, fun name => ?_⟩
  unfold AuditDir.entries
  rw [List.mem_dedup, List.mem_cons, List.mem_cons, List.mem_map]
  refine or_congr_right (or_congr_right ⟨?_, fun there => ?_⟩)
  · rintro ⟨full, mem, rfl⟩
    obtain ⟨mem, inside⟩ := List.mem_filter.mp mem
    obtain ⟨name, rfl⟩ := List.isPrefixOf_iff_prefix.mp inside
    rw [List.drop_left]
    exact Std.ExtTreeMap.mem_iff_isSome_getElem?.mp (Std.ExtTreeMap.mem_keys.mp mem)
  · refine ⟨path ++ name, List.mem_filter.mpr ⟨?_, ?_⟩, List.drop_left⟩
    · exact Std.ExtTreeMap.mem_keys.mpr (Std.ExtTreeMap.mem_iff_isSome_getElem?.mpr there)
    · exact List.isPrefixOf_iff_prefix.mpr (List.prefix_append _ _)

/-! ## Rules -/

theorem wp_syscall {q : AuditReq} {f : q.Resp → AuditProg α}
    (rest : ∀ r w', auditEnv s w q r w' → wp auditContract (f r) post s w') :
    wp auditContract (syscall q >>= f) post s w :=
  wp_bind.mpr ⟨trivial, rest⟩

theorem wp_look {β : Type} {g : State → β} {f : β → AuditProg α}
    (rest : wp auditContract (f (g s)) post s w) :
    wp auditContract (Prog.read g >>= f) post s w :=
  wp_bind.mpr ⟨trivial, rest⟩

theorem wp_set {g : State → State} {post : Unit → State → AuditDir → Prop}
    (ended : post () (g s) w) : wp auditContract (Prog.modify g) post s w :=
  ⟨trivial, ended⟩

/-! ## Time stamps -/

/-- A stamp is digits. -/
structure IsStamp (stamp : CppString) : Prop where
  digits : ∀ c ∈ stamp, c.isDigit = true
  some : stamp ≠ []

theorem padMilliseconds_stamp (milliseconds : Nat) : IsStamp (padMilliseconds milliseconds) where
  digits := by
    intro c mem
    rcases List.mem_append.mp mem with zero | digit
    · rw [List.eq_of_mem_replicate zero]
      decide
    · exact isDigit_of_mem_ofNat digit
  some := List.append_ne_nil_of_right_ne_nil _ (ofNat_ne_nil milliseconds)

theorem wp_stamp {f : CppString → AuditProg α}
    (rest : ∀ stamp, IsStamp stamp → wp auditContract (f stamp) post s w) :
    wp auditContract (getFormattedTimestampEndWithMilli >>= f) post s w := by
  rw [getFormattedTimestampEndWithMilli, wp_bind]
  refine wp_syscall fun milliSeconds w₁ answered => ?_
  cases answered
  rw [getFormattedTimestamp, wp_bind, wp_bind]
  refine wp_syscall fun date w₂ answered => ?_
  obtain ⟨digits, rfl⟩ := answered
  have padded := padMilliseconds_stamp (milliSeconds % SEC_TO_MILLISEC)
  refine rest _ ⟨fun c mem => ?_, List.append_ne_nil_of_right_ne_nil _ padded.some⟩
  rcases List.mem_append.mp mem with dated | milli
  · cases date with
    | none => cases dated
    | some text => exact List.all_eq_true.mp (digits text rfl) c dated
  · exact padded.digits c milli

/-! ## The files that were put aside -/

def isRotatedPath (path : CppString) : Bool :=
  startsWith path HIAUDIT_CONFIG.logPath &&
    isRotatedName (path.drop HIAUDIT_CONFIG.logPath.length)

/-- The paths of the files that were put aside and are still there. -/
def AuditDir.rotated (w : AuditDir) : List CppString := w.files.keys.filter isRotatedPath

theorem rotated_nodup (w : AuditDir) : w.rotated.Nodup :=
  Std.ExtTreeMap.nodup_keys.filter _

theorem mem_rotated {path : CppString} :
    path ∈ w.rotated ↔ w.files[path]?.isSome = true ∧ isRotatedPath path = true := by
  unfold AuditDir.rotated
  rw [List.mem_filter, Std.ExtTreeMap.mem_keys, Std.ExtTreeMap.mem_iff_isSome_getElem?]

theorem isRotatedPath_append (subName : CppString) :
    isRotatedPath (HIAUDIT_CONFIG.logPath ++ subName) = isRotatedName subName := by
  unfold isRotatedPath
  rw [startsWith, List.isPrefixOf_iff_prefix.mpr (List.prefix_append _ _), Bool.true_and,
    List.drop_left]

theorem current_not_rotated : isRotatedPath HIAUDIT_LOG_NAME = false := by decide +kernel

/-- A listing has the names of the files that were put aside, each once. -/
theorem AuditDir.Lists.rotated {names : List CppString}
    (lists : w.Lists HIAUDIT_CONFIG.logPath names) :
    ((names.filter isRotatedName).map (HIAUDIT_CONFIG.logPath ++ ·)).Perm w.rotated := by
  have injective : Function.Injective (HIAUDIT_CONFIG.logPath ++ · : CppString → CppString) :=
    fun _ _ same => List.append_cancel_left same
  refine (List.perm_ext_iff_of_nodup ((lists.1.filter _).map injective) (rotated_nodup w)).mpr ?_
  intro path
  rw [List.mem_map, mem_rotated]
  constructor
  · rintro ⟨name, mem, rfl⟩
    obtain ⟨listed, rotated⟩ := List.mem_filter.mp mem
    refine ⟨?_, (isRotatedPath_append name).trans rotated⟩
    rcases (lists.2 name).mp listed with rfl | rfl | there
    · exact absurd rotated (by decide)
    · exact absurd rotated (by decide)
    · exact there
  · rintro ⟨there, rotated⟩
    have inside : startsWith path HIAUDIT_CONFIG.logPath = true := by
      unfold isRotatedPath at rotated
      exact (Bool.and_eq_true_iff.mp rotated).1
    obtain ⟨name, rfl⟩ := List.isPrefixOf_iff_prefix.mp inside
    rw [isRotatedPath_append] at rotated
    exact ⟨name, List.mem_filter.mpr ⟨(lists.2 name).mpr (.inr (.inr there)), rotated⟩, rfl⟩

theorem rotated_length_le {w' : AuditDir} (there : ∀ path, isRotatedPath path = true →
    w'.files[path]?.isSome = true → w.files[path]?.isSome = true) :
    w'.rotated.length ≤ w.rotated.length := by
  refine ((rotated_nodup w').subperm fun path mem => ?_).length_le
  obtain ⟨found, rotated⟩ := mem_rotated.mp mem
  exact mem_rotated.mpr ⟨there path rotated found, rotated⟩

theorem rotated_rename (source target : CppString) :
    (w.rename source target).rotated.length ≤ w.rotated.length + 1 := by
  have oneMore : (w.rename source target).rotated ⊆ target :: w.rotated := by
    intro path mem
    obtain ⟨found, rotated⟩ := mem_rotated.mp mem
    unfold AuditDir.rename at found
    split at found
    · exact List.mem_cons_of_mem _ (mem_rotated.mpr ⟨found, rotated⟩)
    · dsimp only at found
      by_cases here : target = path
      · exact here ▸ List.mem_cons_self
      rw [StdMap.get_insert_ne here] at found
      by_cases gone : source = path
      · rw [gone, StdMap.get_erase_self] at found
        cases found
      · rw [StdMap.get_erase_ne gone] at found
        exact List.mem_cons_of_mem _ (mem_rotated.mpr ⟨found, rotated⟩)
  exact ((rotated_nodup _).subperm oneMore).length_le

theorem rotated_remove {path : CppString} (mem : path ∈ w.rotated) :
    (w.remove path).rotated.length + 1 ≤ w.rotated.length := by
  have fewer : (w.remove path).rotated.length ≤ (w.rotated.erase path).length := by
    refine ((rotated_nodup _).subperm fun other mem => ?_).length_le
    obtain ⟨found, rotated⟩ := mem_rotated.mp mem
    have ne : path ≠ other := by
      rintro rfl
      unfold AuditDir.remove at found
      dsimp only at found
      rw [StdMap.get_erase_self] at found
      cases found
    unfold AuditDir.remove at found
    dsimp only at found
    rw [StdMap.get_erase_ne ne] at found
    exact (List.mem_erase_of_ne ne.symm).mpr (mem_rotated.mpr ⟨found, rotated⟩)
  rw [List.length_erase_of_mem mem] at fewer
  have some := List.length_pos_of_mem mem
  omega

/-! ## What is done to the files -/

/-- The descriptor is of the current file, which has this content. -/
structure Writing (s : State) (w : AuditDir) (content : CppString) : Prop where
  fd : 0 ≤ s.writeFd
  opened : w.opened = some HIAUDIT_LOG_NAME
  file : ∃ mtime, w.files[HIAUDIT_LOG_NAME]? = some ⟨content, mtime⟩
  size : s.writeLogSize = content.length

/-- The files other than the current one are the same. -/
def SameOthers (w w' : AuditDir) : Prop :=
  ∀ path, path ≠ HIAUDIT_LOG_NAME → w'.files[path]? = w.files[path]?

theorem SameOthers.rotated {w' : AuditDir} (same : SameOthers w w') :
    w'.rotated.length ≤ w.rotated.length := by
  refine rotated_length_le fun path rotated there => ?_
  rw [← same path]
  · exact there
  · rintro rfl
    rw [current_not_rotated] at rotated
    cases rotated

variable {before content : CppString}

/-- What is written comes to the end of the current file. -/
theorem wp_writeToFd (writing : Writing s w before)
    (fits : (before ++ content).length < SIZE_RANGE) :
    wp auditContract (writeToFd content)
      (fun _ s' w' => Writing s' w' (before ++ content) ∧ SameOthers w w') s w := by
  rw [writeToFd]
  refine wp_look ?_
  rw [if_neg (Int.not_lt.mpr writing.fd)]
  refine wp_syscall fun written w' answered => ?_
  obtain ⟨rfl, mtime, rfl⟩ := answered
  obtain ⟨old, file⟩ := writing.file
  refine wp_set ⟨⟨writing.fd, ?_, ⟨mtime, ?_⟩, ?_⟩, fun path other => ?_⟩
  · simp only [AuditDir.write, writing.opened]
  · simp only [AuditDir.write, writing.opened, StdMap.get_update_self, file, Option.map_some]
  · dsimp only
    rw [List.length_append] at fits ⊢
    rw [writing.size, Int.toNat_natCast, Nat.mod_eq_of_lt fits]
  · simp only [AuditDir.write, writing.opened]
    exact StdMap.get_update_ne other.symm

theorem wp_closeWriteFd :
    wp auditContract closeWriteFd (fun _ _ w' => w'.files = w.files) s w := by
  rw [closeWriteFd]
  refine wp_look ?_
  split
  · refine wp_syscall fun _ w' answered => ?_
    cases answered
    exact wp_set rfl
  · rfl

theorem wp_rotateAuditLog :
    wp auditContract rotateAuditLog
      (fun _ _ w' => w'.rotated.length ≤ w.rotated.length + 1) s w := by
  rw [rotateAuditLog]
  refine wp_stamp fun stamp _ => wp_syscall fun done w' answered => ?_
  obtain ⟨-, rfl⟩ := answered
  exact rotated_rename _ _

/-- What the loop over the names returns: their number, and the path of one of them or the one it
started with. -/
structure Counted (names : List CppString) (count : Nat) (oldest : CppString)
    (result : Nat × CppString) : Prop where
  number : result.1 = count + names.length
  path : result.2 = oldest ∨ ∃ name ∈ names, result.2 = HIAUDIT_CONFIG.logPath ++ name
  none : result.2 = [] → oldest = [] ∧ names = []

theorem wp_countAuditFiles {names : List CppString} {count : Nat} {oldest : CppString} :
    wp auditContract (countAuditFiles names count oldest) (fun result _ w' =>
      w' = w ∧ Counted (names.filter isRotatedName) count oldest result) s w := by
  induction names generalizing count oldest with
  | nil => exact ⟨rfl, rfl, .inl rfl, fun none => ⟨none, rfl⟩⟩
  | cons subName names ih =>
      rw [countAuditFiles]
      split
      next other =>
        have other : isRotatedName subName ≠ true := by simpa using other
        rw [List.filter_cons_of_neg other]
        exact ih
      next one =>
        have one : isRotatedName subName = true := by simpa using one
        rw [List.filter_cons_of_pos one]
        -- The rest of the loop, with the path that is chosen here.
        have rest : ∀ path, path ≠ [] →
            (path = oldest ∨ path = HIAUDIT_CONFIG.logPath ++ subName) →
            wp auditContract (countAuditFiles names (count + 1) path) (fun result _ w' =>
              w' = w ∧ Counted (subName :: names.filter isRotatedName) count oldest result)
              s w := by
          intro path some choice
          refine wp_mono ?_ ih
          rintro result _ w' ⟨rfl, number, found, none⟩
          refine ⟨rfl, ?_, ?_, fun empty => absurd (none empty).1 some⟩
          · rw [number, List.length_cons]
            omega
          · rcases found with rfl | ⟨name, mem, eq⟩
            · exact choice.imp_right fun eq => ⟨subName, List.mem_cons_self, eq⟩
            · exact .inr ⟨name, List.mem_cons_of_mem _ mem, eq⟩
        have here : HIAUDIT_CONFIG.logPath ++ subName ≠ [] :=
          List.append_ne_nil_of_left_ne_nil (by decide) _
        dsimp only
        split
        · exact rest _ here (.inr rfl)
        next some =>
          have some : oldest ≠ [] := fun none => some (List.isEmpty_iff.mpr none)
          refine wp_syscall fun st w₁ answered => ?_
          obtain ⟨-, rfl⟩ := answered
          split
          · exact rest _ some (.inl rfl)
          refine wp_syscall fun oldestSt w₂ answered => ?_
          obtain ⟨-, rfl⟩ := answered
          split
          · exact rest _ some (.inl rfl)
          split
          · exact rest _ here (.inr rfl)
          · exact rest _ some (.inl rfl)

/-- When there is one file too many, one is removed. -/
theorem wp_cleanOldAuditFile (bounded : w.rotated.length ≤ HIAUDIT_CONFIG.fileCount + 1) :
    wp auditContract cleanOldAuditFile
      (fun _ _ w' => w'.rotated.length ≤ HIAUDIT_CONFIG.fileCount) s w := by
  rw [cleanOldAuditFile]
  refine wp_syscall fun entries w' answered => ?_
  obtain ⟨⟨names, rfl, lists⟩, rfl⟩ := answered
  dsimp only
  have listed := lists.rotated
  refine wp_seq wp_countAuditFiles fun result _ w' counted => ?_
  obtain ⟨count, oldest⟩ := result
  obtain ⟨rfl, number, found, none⟩ := counted
  dsimp only at number found none ⊢
  have all : count = w'.rotated.length := by
    rw [number, ← listed.length_eq, List.length_map, Nat.zero_add]
  split
  next tooMany =>
    rw [Bool.and_eq_true, decide_eq_true_eq, Bool.not_eq_true',
      List.isEmpty_eq_false_iff] at tooMany
    refine wp_syscall fun done w₂ answered => ?_
    obtain ⟨-, rfl⟩ := answered
    rcases found with empty | ⟨name, mem, eq⟩
    · exact absurd empty tooMany.2
    · have there : oldest ∈ w'.rotated :=
        listed.mem_iff.mp (List.mem_map.mpr ⟨name, mem, eq.symm⟩)
      have fewer := rotated_remove there
      exact Nat.le_of_succ_le_succ (Nat.le_trans fewer bounded)
  next few =>
    rw [Bool.and_eq_true, decide_eq_true_eq, Bool.not_eq_true', List.isEmpty_eq_false_iff] at few
    refine Nat.le_of_not_lt fun tooMany => few ⟨all ▸ tooMany, fun empty => ?_⟩
    rw [(none empty).2, List.length_nil, Nat.add_zero] at number
    rw [← all, number] at tooMany
    exact absurd tooMany (Nat.not_lt_zero _)

theorem rotated_openTrunc (mtime : Int) :
    (w.openTrunc HIAUDIT_LOG_NAME mtime).rotated.length ≤ w.rotated.length := by
  refine rotated_length_le fun path rotated there => ?_
  have other : HIAUDIT_LOG_NAME ≠ path := by
    rintro rfl
    rw [current_not_rotated] at rotated
    cases rotated
  unfold AuditDir.openTrunc at there
  dsimp only at there
  rwa [StdMap.get_insert_ne other] at there

/-- A full file is put aside. -/
theorem wp_getWriteFilePath_full (full : HIAUDIT_CONFIG.fileSize ≤ s.writeLogSize)
    (bounded : w.rotated.length ≤ HIAUDIT_CONFIG.fileCount) :
    wp auditContract getWriteFilePath (fun _ s' w' => Writing s' w' [] ∧
      w'.rotated.length ≤ HIAUDIT_CONFIG.fileCount) s w := by
  rw [getWriteFilePath]
  refine wp_look ?_
  rw [if_neg (Nat.not_lt.mpr full)]
  refine wp_seq wp_closeWriteFd fun _ s₁ w₁ same => ?_
  have same : w₁.rotated.length = w.rotated.length := by rw [AuditDir.rotated, same]; rfl
  refine wp_seq wp_rotateAuditLog fun _ s₂ w₂ oneMore => ?_
  refine wp_seq (wp_cleanOldAuditFile (by omega)) fun _ s₃ w₃ bounded => ?_
  refine wp_syscall fun fd w₄ answered => ?_
  obtain ⟨nonneg, mtime, rfl⟩ := answered
  refine wp_set ⟨⟨nonneg, rfl, ⟨mtime, StdMap.get_insert_self _ _ _⟩, rfl⟩, ?_⟩
  exact (rotated_openTrunc mtime).trans bounded

theorem wp_getWriteFilePath_below (below : s.writeLogSize < HIAUDIT_CONFIG.fileSize)
    {post : Unit → State → AuditDir → Prop} (ended : post () s w) :
    wp auditContract getWriteFilePath post s w := by
  rw [getWriteFilePath]
  refine wp_look ?_
  rw [if_pos below]
  exact ended

/-! ## Lines -/

theorem length_recordLine (stamp : CppString) (auditLog : AuditLog) :
    (recordLine stamp auditLog).length ≤ HIAUDIT_CONFIG.logSize + 1 ∧
      min HIAUDIT_CONFIG.logSize auditLog.toString.length < (recordLine stamp auditLog).length := by
  unfold recordLine
  dsimp only
  generalize stamp ++ ", " ++ HIAUDIT_CONFIG.logName ++ ", NO, " = front
  have newline : ("\n" : CppString).length = 1 := rfl
  rw [List.length_append, newline]
  split
  next long =>
    rw [List.length_take]
    omega
  next short =>
    rw [List.length_append] at short ⊢
    omega

/-- A line starts with a digit. -/
theorem recordLine_digit {stamp : CppString} (isStamp : IsStamp stamp) (auditLog : AuditLog) :
    ∃ c rest, recordLine stamp auditLog = c :: rest ∧ c.isDigit = true := by
  obtain ⟨c, rest, rfl⟩ := List.exists_cons_of_ne_nil isStamp.some
  have digit := isStamp.digits c List.mem_cons_self
  unfold recordLine
  dsimp only
  rw [List.append_assoc, List.append_assoc, List.append_assoc, List.cons_append]
  split
  · rw [show HIAUDIT_CONFIG.logSize = 2047 + 1 from rfl, List.take_succ_cons, List.cons_append]
    exact ⟨c, _, rfl, digit⟩
  · rw [List.cons_append]
    exact ⟨c, _, rfl, digit⟩

/-! ## A call -/

theorem wp_writeToFile_below (writing : Writing s w before)
    (below : before.length < HIAUDIT_CONFIG.fileSize)
    (short : content.length ≤ HIAUDIT_CONFIG.logSize + 1) :
    wp auditContract (writeToFile content)
      (fun _ s' w' => Writing s' w' (before ++ content) ∧ SameOthers w w') s w := by
  have fits : (before ++ content).length < SIZE_RANGE := by
    have full : HIAUDIT_CONFIG.fileSize + HIAUDIT_CONFIG.logSize + 1 < SIZE_RANGE := by decide
    rw [List.length_append]
    omega
  rw [writeToFile]
  refine wp_bind.mpr (wp_getWriteFilePath_below ?_ (wp_writeToFd writing fits))
  rwa [writing.size]

theorem wp_writeTitle (writing : Writing s w before) :
    wp auditContract writeTitle (fun _ s' w' =>
      Writing s' w' (if before = [] then AuditLog.titleString else before) ∧
        SameOthers w w') s w := by
  rw [writeTitle]
  refine wp_look ?_
  split
  next empty =>
    rw [writing.size, List.length_eq_zero_iff] at empty
    subst empty
    exact wp_writeToFile_below writing (by decide) (by decide +kernel)
  next some =>
    have some : before ≠ [] := by
      rintro rfl
      exact some writing.size
    rw [if_neg some]
    exact ⟨writing, fun _ _ => rfl⟩

/-- A call into a file that is not full adds a line, after the title if there is nothing. -/
theorem wp_write_below (writing : Writing s w before)
    (below : before.length < HIAUDIT_CONFIG.fileSize) (auditLog : AuditLog) :
    wp auditContract (write auditLog) (fun _ s' w' => ∃ stamp, IsStamp stamp ∧
      Writing s' w' ((if before = [] then AuditLog.titleString else before) ++
        recordLine stamp auditLog) ∧ SameOthers w w') s w := by
  rw [write]
  refine wp_seq (wp_writeTitle writing) fun _ s₁ w₁ titled => ?_
  obtain ⟨writing₁, same₁⟩ := titled
  refine wp_stamp fun stamp isStamp => ?_
  have below₁ : (if before = [] then AuditLog.titleString else before).length <
      HIAUDIT_CONFIG.fileSize := by
    split
    · decide +kernel
    · exact below
  refine wp_mono ?_ (wp_writeToFile_below writing₁ below₁ (length_recordLine stamp auditLog).1)
  rintro _ s' w' ⟨writing', same'⟩
  exact ⟨stamp, isStamp, writing', fun path other => (same' path other).trans (same₁ path other)⟩

/-- A call into a full file leaves one with a single line. -/
theorem wp_write_full (writing : Writing s w before)
    (full : HIAUDIT_CONFIG.fileSize ≤ before.length)
    (bounded : w.rotated.length ≤ HIAUDIT_CONFIG.fileCount) (auditLog : AuditLog) :
    wp auditContract (write auditLog) (fun _ s' w' => ∃ stamp, IsStamp stamp ∧
      Writing s' w' (recordLine stamp auditLog) ∧
        w'.rotated.length ≤ HIAUDIT_CONFIG.fileCount) s w := by
  have some : before ≠ [] := by
    rintro rfl
    exact absurd full (by decide)
  rw [write]
  refine wp_seq (wp_writeTitle writing) fun _ s₁ w₁ titled => ?_
  obtain ⟨writing₁, same₁⟩ := titled
  rw [if_neg some] at writing₁
  refine wp_stamp fun stamp isStamp => ?_
  rw [writeToFile]
  have full₁ : HIAUDIT_CONFIG.fileSize ≤ s₁.writeLogSize := by rwa [writing₁.size]
  refine wp_seq (wp_getWriteFilePath_full full₁ (same₁.rotated.trans bounded)) ?_
  rintro _ s₂ w₂ ⟨writing₂, bounded₂⟩
  have fits : ([] ++ recordLine stamp auditLog).length < SIZE_RANGE := by
    have short := (length_recordLine stamp auditLog).1
    have range : HIAUDIT_CONFIG.logSize + 1 < SIZE_RANGE := by decide
    rw [List.nil_append]
    omega
  refine wp_mono ?_ (wp_writeToFd writing₂ fits)
  rintro _ s' w' ⟨writing', same'⟩
  exact ⟨stamp, isStamp, writing', same'.rotated.trans bounded₂⟩

/-! ## A start -/

/-- The first start opens an empty file. -/
theorem wp_init :
    wp auditContract init (fun _ s' w' => Writing s' w' [] ∧
      ∀ path, path ≠ HIAUDIT_LOG_NAME → w'.files[path]? = none) {} .empty := by
  rw [init]
  refine wp_syscall fun there w₁ answered => ?_
  obtain ⟨rfl, rfl⟩ := answered
  refine wp_bind.mpr (wp_syscall fun fd w₂ answered => ?_)
  obtain ⟨nonneg, mtime, rfl⟩ := answered
  refine wp_bind.mpr ⟨trivial, wp_syscall fun st w₃ answered => ?_⟩
  obtain ⟨rfl, rfl⟩ := answered
  have files : (AuditDir.empty.openAppend HIAUDIT_LOG_NAME mtime).files =
      (∅ : StdMap AuditFile).insert HIAUDIT_LOG_NAME ⟨[], mtime⟩ := by
    unfold AuditDir.openAppend AuditDir.empty
    dsimp only
    rw [StdMap.get_empty, if_neg (by decide)]
  have here : (AuditDir.empty.openAppend HIAUDIT_LOG_NAME mtime).files[HIAUDIT_LOG_NAME]? =
      some ⟨[], mtime⟩ := by
    rw [files, StdMap.get_insert_self]
  refine wp_set ⟨⟨nonneg, rfl, ⟨mtime, here⟩, ?_⟩, fun path other => ?_⟩
  · rw [here]
    rfl
  · rw [files, StdMap.get_insert_ne other.symm, StdMap.get_empty]

end

end HiAudit

end DiskManager
