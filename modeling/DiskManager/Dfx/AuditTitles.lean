import DiskManager.Dfx.AuditFiles
import DiskManager.Interact.Traced

/-!
# Titles of audit files

`Write` puts the title into an empty file before it writes the line. When the line itself finds the
file full, the file it then goes into has no title, and later calls do not find that file empty.

* `rotated_bounded`: never are more than `fileCount` files put aside.
* `audit_titles_iff`: in a run, every file starts with the title after each call exactly as long as
  no call finds the file full.
-/

namespace DiskManager

open Interact CppString

namespace HiAudit

/-! ## Runs -/

/-- Every audit file with something in it starts with the title, and not too many are put aside. -/
structure TitlesKept (w : AuditDir) : Prop where
  titled : ∀ (path : CppString) (file : AuditFile), w.files[path]? = some file →
    path = HIAUDIT_LOG_NAME ∨ isRotatedPath path = true → file.content ≠ [] →
    AuditLog.titleString <+: file.content
  bounded : w.rotated.length ≤ HIAUDIT_CONFIG.fileCount

/-- Calls of `Write`, after a start in an empty directory. -/
def AuditRuns (ran : List (Ran State AuditDir AuditLog)) (s : State) (w : AuditDir) : Prop :=
  ∃ s₀ w₀, Returns auditEnv init {} .empty () s₀ w₀ ∧
    TracedRuns write (fun _ => auditContract.env) s₀ w₀ ran s w

/-- The call finds the file below its limit. -/
def State.HasRoom (s : State) : Prop := s.writeLogSize < HIAUDIT_CONFIG.fileSize

/-- There is one file, with its title or empty. -/
structure Unrotated (s : State) (w : AuditDir) : Prop where
  writing : ∃ content, Writing s w content ∧ (content = [] ∨ AuditLog.titleString <+: content)
  alone : ∀ path, path ≠ HIAUDIT_LOG_NAME → w.files[path]? = none

section

variable {s : State} {w : AuditDir} {ran : List (Ran State AuditDir AuditLog)}

theorem started (init : Returns auditEnv init {} .empty () s w) : Unrotated s w := by
  obtain ⟨writing, alone⟩ := wp_returns wp_init init
  exact ⟨⟨[], writing, .inl rfl⟩, alone⟩

theorem Unrotated.rotated (unrotated : Unrotated s w) : w.rotated = [] := by
  refine List.eq_nil_iff_forall_not_mem.mpr fun path mem => ?_
  obtain ⟨there, rotated⟩ := mem_rotated.mp mem
  have other : path ≠ HIAUDIT_LOG_NAME := by
    rintro rfl
    rw [current_not_rotated] at rotated
    cases rotated
  rw [unrotated.alone path other] at there
  cases there

theorem Unrotated.titlesKept (unrotated : Unrotated s w) : TitlesKept w := by
  refine ⟨fun path file found _ some => ?_, unrotated.rotated ▸ Nat.zero_le _⟩
  obtain ⟨content, writing, titled⟩ := unrotated.writing
  obtain ⟨mtime, here⟩ := writing.file
  by_cases current : path = HIAUDIT_LOG_NAME
  · subst current
    cases here.symm.trans found
    exact titled.resolve_left some
  · rw [unrotated.alone path current] at found
    cases found

/-! ## The number of files -/

/-- The current file is written to, and not too many are put aside. -/
structure Bounded (s : State) (w : AuditDir) : Prop where
  writing : ∃ content, Writing s w content
  bounded : w.rotated.length ≤ HIAUDIT_CONFIG.fileCount

theorem bounded_write (auditLog : AuditLog) (held : Bounded s w) :
    wp auditContract (write auditLog) (fun _ => Bounded) s w := by
  obtain ⟨content, writing⟩ := held.writing
  by_cases room : content.length < HIAUDIT_CONFIG.fileSize
  · refine wp_mono ?_ (wp_write_below writing room auditLog)
    rintro _ s' w' ⟨stamp, -, writing', same⟩
    exact ⟨⟨_, writing'⟩, same.rotated.trans held.bounded⟩
  · refine wp_mono ?_ (wp_write_full writing (Nat.not_lt.mp room) held.bounded auditLog)
    rintro _ s' w' ⟨stamp, -, writing', bounded⟩
    exact ⟨⟨_, writing'⟩, bounded⟩

/-- Whatever is written, at most `fileCount` files are put aside. -/
theorem rotated_bounded (run : AuditRuns ran s w) :
    ∀ r ∈ ran, r.w'.rotated.length ≤ HIAUDIT_CONFIG.fileCount := by
  obtain ⟨s₀, w₀, init, run⟩ := run
  have unrotated := started init
  obtain ⟨content, writing, -⟩ := unrotated.writing
  have start : Bounded s₀ w₀ := ⟨⟨content, writing⟩, unrotated.rotated ▸ Nat.zero_le _⟩
  have held := run.always Bounded (fun auditLog _ _ held => bounded_write auditLog held) start
  exact fun r mem => (held.2 r mem).bounded

/-! ## The titles -/

/-- A call that finds room leaves one file, with its title. -/
theorem unrotated_write (auditLog : AuditLog) (unrotated : Unrotated s w) (room : s.HasRoom) :
    wp auditContract (write auditLog) (fun _ s' w' => Unrotated s' w' ∧
      s.writeLogSize + min HIAUDIT_CONFIG.logSize auditLog.toString.length < s'.writeLogSize)
      s w := by
  obtain ⟨content, writing, titled⟩ := unrotated.writing
  unfold State.HasRoom at room
  rw [writing.size] at room ⊢
  refine wp_mono ?_ (wp_write_below writing room auditLog)
  rintro _ s' w' ⟨stamp, -, writing', same⟩
  refine ⟨⟨⟨_, writing', .inr ?_⟩, fun path other => ?_⟩, ?_⟩
  · split
    next empty => exact List.prefix_append _ _
    next some => exact (titled.resolve_left some).trans (List.prefix_append _ _)
  · rw [same path other]
    exact unrotated.alone path other
  · have line := (length_recordLine stamp auditLog).2
    rw [writing'.size, List.length_append]
    split
    next empty =>
      rw [empty, List.length_nil]
      omega
    next some => omega

/-- A call that finds the file full leaves one without a title. -/
theorem untitled_write (auditLog : AuditLog) (unrotated : Unrotated s w) (full : ¬ s.HasRoom) :
    wp auditContract (write auditLog) (fun _ _ w' => ¬ TitlesKept w') s w := by
  obtain ⟨content, writing, -⟩ := unrotated.writing
  unfold State.HasRoom at full
  rw [writing.size, Nat.not_lt] at full
  have bounded : w.rotated.length ≤ HIAUDIT_CONFIG.fileCount := unrotated.rotated ▸ Nat.zero_le _
  refine wp_mono ?_ (wp_write_full writing full bounded auditLog)
  rintro _ s' w' ⟨stamp, isStamp, writing', -⟩ kept
  obtain ⟨mtime, here⟩ := writing'.file
  obtain ⟨c, rest, line, digit⟩ := recordLine_digit isStamp auditLog
  rw [line] at here
  obtain ⟨tail, same⟩ := kept.titled _ _ here (.inl rfl) (List.cons_ne_nil c rest)
  have title : AuditLog.titleString = 'h' :: AuditLog.titleString.tail := rfl
  rw [title, List.cons_append] at same
  obtain ⟨rfl, -⟩ := List.cons.inj same
  exact absurd digit (by decide)

theorem titlesKept_iff_hasRoom {s₀ : State} {w₀ : AuditDir} (start : Unrotated s₀ w₀)
    (run : TracedRuns write (fun _ => auditContract.env) s₀ w₀ ran s w) :
    (∀ r ∈ ran, TitlesKept r.w') ↔ ∀ r ∈ ran, r.s.HasRoom := by
  refine run.good_iff Unrotated (fun _ => TitlesKept) (fun _ s _ => s.HasRoom) ?_ ?_ start
  · intro auditLog s w unrotated room
    refine wp_mono ?_ (unrotated_write auditLog unrotated room)
    exact fun _ _ _ ended => ⟨ended.1, ended.1.titlesKept⟩
  · exact fun auditLog s w unrotated full => untitled_write auditLog unrotated full

/-- In a run the files keep their titles exactly as long as no call finds the file full. -/
theorem audit_titles_iff (run : AuditRuns ran s w) :
    (∀ r ∈ ran, TitlesKept r.w') ↔ ∀ r ∈ ran, r.s.HasRoom := by
  obtain ⟨s₀, w₀, init, run⟩ := run
  exact titlesKept_iff_hasRoom (started init) run

end

/-! ## Two runs -/

/-- A file system that answers so, with a clock that stands still. -/
def auditAnswer (w : AuditDir) : (q : AuditReq) → q.Resp × AuditDir
  | .access _ => (true, w)
  | .mkdir _ => (true, w)
  | .openAppend path => (3, w.openAppend path 0)
  | .openTrunc path => (3, w.openTrunc path 0)
  | .close _ => ((), { w with opened := none })
  | .write _ content => (content.length, w.write content 0)
  | .stat path => (w.files[path]?.map (·.stat), w)
  | .rename source target => (w.files[source]?.isSome, w.rename source target)
  | .readdir path => (some (w.entries path), w)
  | .remove path => (w.files[path]?.isSome, w.remove path)
  | .systemClock => (1767225600000, w)
  | .strftime _ => (some ("20260101000000" : CppString), w)

theorem auditAnswer_obeys (s : State) (w : AuditDir) (q : AuditReq) :
    auditEnv s w q (auditAnswer w q).1 (auditAnswer w q).2 := by
  cases q with
  | access => exact ⟨rfl, rfl⟩
  | mkdir => exact ⟨rfl, rfl⟩
  | openAppend => exact ⟨Int.natCast_nonneg 3, 0, rfl⟩
  | openTrunc => exact ⟨Int.natCast_nonneg 3, 0, rfl⟩
  | close => rfl
  | write => exact ⟨rfl, 0, rfl⟩
  | stat => exact ⟨rfl, rfl⟩
  | rename => exact ⟨rfl, rfl⟩
  | readdir path => exact ⟨⟨_, rfl, lists_entries w path⟩, rfl⟩
  | remove => exact ⟨rfl, rfl⟩
  | systemClock => rfl
  | strftime =>
      refine ⟨fun text dated => ?_, rfl⟩
      cases dated
      decide

/-- Any logs can be written. -/
theorem exists_auditRuns (logs : List AuditLog) :
    ∃ ran s w, AuditRuns ran s w ∧ ran.map (·.op) = logs := by
  have init := Prog.exec_returns auditAnswer_obeys init {} .empty
  let begun := HiAudit.init.exec auditAnswer {} .empty
  have written : ∃ ran s w,
      TracedRuns write (fun _ => auditContract.env) begun.2.1 begun.2.2 ran s w ∧
        ran.map (·.op) = logs :=
    TracedRuns.exists_run (fun _ => auditAnswer_obeys) _ _ logs
  obtain ⟨ran, s, w, run, ops⟩ := written
  exact ⟨ran, s, w, ⟨_, _, init, run⟩, ops⟩

def mountLog : AuditLog where
  operationCount := 1
  cause := "diskManager"
  operationType := "DiskManager::Mount"
  operationScenario := "bizStage:41"
  operationStatus := "SUCCESS"
  extend := "ret:0"

theorem audit_titles_mounts :
    ∃ ran s w, AuditRuns ran s w ∧ ran.map (·.op) = [mountLog, mountLog] ∧
      ((∀ r ∈ ran, TitlesKept r.w') ↔ ∀ r ∈ ran, r.s.HasRoom) := by
  obtain ⟨ran, s, w, run, ops⟩ := exists_auditRuns [mountLog, mountLog]
  exact ⟨ran, s, w, run, ops, audit_titles_iff run⟩

/-- A log whose line is cut. -/
def longLog : AuditLog := { mountLog with extend := List.replicate 2048 'x' }

/-- Calls with long lines that all find room fill the file. -/
theorem size_of_longLogs {s₀ s : State} {w₀ w : AuditDir} {ran : List (Ran State AuditDir AuditLog)}
    (start : Unrotated s₀ w₀) (run : TracedRuns write (fun _ => auditContract.env) s₀ w₀ ran s w)
    (long : ∀ r ∈ ran, r.op = longLog) (room : ∀ r ∈ ran, r.s.HasRoom) :
    Unrotated s w ∧ ran.length * (HIAUDIT_CONFIG.logSize + 1) ≤ s.writeLogSize := by
  induction run with
  | start => exact ⟨start, by rw [List.length_nil, Nat.zero_mul]; exact Nat.zero_le _⟩
  | next before returned ih =>
      rw [List.forall_mem_cons] at long room
      obtain ⟨unrotated, size⟩ := ih long.2 room.2
      obtain ⟨unrotated', more⟩ := wp_returns (unrotated_write _ unrotated room.1) returned
      have cut : HIAUDIT_CONFIG.logSize ≤ longLog.toString.length := by decide +kernel
      have log := long.1
      dsimp only at log
      rw [log, Nat.min_eq_left cut] at more
      refine ⟨unrotated', ?_⟩
      rw [List.length_cons, Nat.succ_mul]
      omega

/-- The line that finds the file full starts the next file. -/
theorem titles_lost :
    ∃ ran s w, AuditRuns ran s w ∧ ran.map (·.op) = List.replicate 1537 longLog ∧
      ¬ ∀ r ∈ ran, TitlesKept r.w' := by
  obtain ⟨ran, s, w, run, ops⟩ := exists_auditRuns (List.replicate 1537 longLog)
  refine ⟨ran, s, w, run, ops, fun kept => ?_⟩
  obtain ⟨s₀, w₀, init, run⟩ := run
  have start := started init
  have room := (titlesKept_iff_hasRoom start run).mp kept
  have long : ∀ r ∈ ran, r.op = longLog := by
    intro r mem
    have written := List.mem_map_of_mem (f := fun r => r.op) mem
    rw [ops] at written
    exact List.eq_of_mem_replicate written
  have calls := congrArg List.length ops
  rw [List.length_map, List.length_replicate] at calls
  cases run with
  | start => cases calls
  | next before returned =>
      rw [List.forall_mem_cons] at long room
      have full := (size_of_longLogs start before long.2 room.2).2
      have limit : HIAUDIT_CONFIG.fileSize ≤ 1536 * (HIAUDIT_CONFIG.logSize + 1) := by decide
      rw [List.length_cons, Nat.succ_inj] at calls
      rw [calls] at full
      exact absurd room.1 (Nat.not_lt.mpr (limit.trans full))

end HiAudit

end DiskManager
