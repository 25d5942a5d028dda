import DiskManager.Manager.Requests
import DiskManager.Uevent.InStep
import DiskManager.Uevent.Service

/-!
# The partition table of the disk that is there

`partitionTableMap_` is filled by `GetPartitionTable` and never emptied, also not when the disk goes.
A partition request is checked against the table of the disk that is attached as long as no disk is
attached under an id for which a table is remembered.
-/

namespace DiskManager

open Interact

/-- The requests that change a partition table or a partition. -/
inductive PartitionCommand : Type
  | create (diskId : CppString) (params : PartitionParams)
  | delete (diskId : CppString) (partitionNum : Int)
  | format (diskId : CppString) (partitionNum : Int) (params : FormatParams)

namespace PartitionCommand

def prog [JsonLib] : PartitionCommand → ManagerProg ErrCode
  | .create diskId params => createPartition diskId params
  | .delete diskId partitionNum => deletePartition diskId partitionNum
  | .format diskId partitionNum params => formatPartition diskId partitionNum params

def diskId : PartitionCommand → CppString
  | .create diskId _ => diskId
  | .delete diskId _ => diskId
  | .format diskId _ _ => diskId

/-- The request passes the checks against this table. -/
def validIn (info : PartitionTableInfo) : PartitionCommand → Bool
  | .create _ params => isParamsValid params info
  | .delete _ partitionNum => info.lists partitionNum
  | .format _ partitionNum _ => info.lists partitionNum

end PartitionCommand

/-- The calls to the daemon that carry out a partition request. -/
def Req.isPartitionCommand : Req → Bool
  | .createPartition .. => true
  | .deletePartition .. => true
  | .formatPartition .. => true
  | _ => false

inductive TableOp : Type
  | uevent (e : DiskEvent) (fits : e.uevent.Fits)
  | getPartitionTable (diskId : CppString)
  | command (c : PartitionCommand)

/-- What happened to a disk id. -/
inductive TableNote : Type
  | added (diskId : CppString)
  | removed (diskId : CppString)
  | read (diskId : CppString) (info : PartitionTableInfo)

/-- The operation, with the table it read. -/
def TableOp.prog [JsonLib] : TableOp → ManagerProg (Option PartitionTableInfo)
  | .uevent e _ => do
      let _ ← e.prog
      return none
  | .getPartitionTable diskId => do
      let (_, info) ← DiskManager.getPartitionTable diskId
      return info
  | .command c => do
      let _ ← c.prog
      return none

def DiskEvent.tableNotes (e : DiskEvent) : List TableNote :=
  match e.action with
  | .add => [.added e.diskId]
  | .change => []
  | .remove => [.removed e.diskId]

def TableOp.note : TableOp → Option PartitionTableInfo → List TableNote
  | .uevent e _, _ => e.tableNotes
  | .getPartitionTable diskId, info => (info.map (.read diskId)).toList
  | .command _, _ => []

/-- The last event of the id was an add. -/
def attached (diskId : CppString) : List TableNote → Bool
  | [] => false
  | .added id :: notes => id = diskId || attached diskId notes
  | .removed id :: notes => id ≠ diskId && attached diskId notes
  | .read _ _ :: notes => attached diskId notes

/-- The table `GetPartitionTable` read last since the disk was attached, an add after a removal. -/
def currentTable (diskId : CppString) : List TableNote → Option PartitionTableInfo
  | [] => none
  | .added id :: notes =>
      if id = diskId ∧ attached diskId notes = false then none else currentTable diskId notes
  | .removed _ :: notes => currentTable diskId notes
  | .read id info :: notes => if id = diskId then some info else currentTable diskId notes

/-- A disk is attached only under an id for which no table is remembered. -/
def TableOp.FindsNoTable : TableOp → ManagerState → List TableNote → Prop
  | .uevent e _, s, notes => e.action = .add → attached e.diskId notes = false →
      s.partitionTableMap[e.diskId]? = none
  | _, _, _ => True

/-- The tables that are remembered are those of the disks that are attached. -/
def TablesCurrent (tables : StdMap PartitionTableInfo) (notes : List TableNote) : Prop :=
  ∀ (diskId : CppString) (info : PartitionTableInfo), tables[diskId]? = some info →
    currentTable diskId notes = some info

/-- No table was read of a disk that has just been attached. -/
theorem currentTable_replaced (diskId : CppString) (notes : List TableNote) :
    currentTable diskId (.added diskId :: .removed diskId :: notes) = none := by
  rw [currentTable, if_pos ⟨rfl, by simp [attached]⟩]

/-! ## What is remembered -/

theorem TablesCurrent.note {tables : StdMap PartitionTableInfo} {notes : List TableNote}
    (current : TablesCurrent tables notes) (diskId : CppString) (info : PartitionTableInfo) :
    TablesCurrent (tables.insert diskId info) (.read diskId info :: notes) := by
  intro id found there
  rw [currentTable]
  by_cases same : diskId = id
  · subst same
    rw [StdMap.get_insert_self] at there
    rw [if_pos rfl]
    exact there
  · rw [StdMap.get_insert_ne same] at there
    rw [if_neg same]
    exact current id found there

/-- An event leaves the tables, and those that are remembered stay current. -/
theorem TablesCurrent.uevent {s : ManagerState} {notes : List TableNote} {e : DiskEvent}
    {fits : e.uevent.Fits} (current : TablesCurrent s.partitionTableMap notes)
    (finds : (TableOp.uevent e fits).FindsNoTable s notes) (read : Option PartitionTableInfo) :
    TablesCurrent s.partitionTableMap ((TableOp.uevent e fits).note read ++ notes) := by
  change TablesCurrent _ (e.tableNotes ++ notes)
  unfold DiskEvent.tableNotes
  split
  next added =>
    intro id info there
    rw [List.cons_append, List.nil_append, currentTable]
    split
    next attaches =>
      obtain ⟨rfl, detached⟩ := attaches
      rw [finds added detached] at there
      cases there
    · exact current id info there
  · exact current
  · exact current

/-- What is remembered after `GetPartitionTable`. -/
theorem tables_getPartitionTable (diskId : CppString) {s : ManagerState} :
    wp (.ofEnv anyAnswer) (getPartitionTable diskId) (fun result s' _ =>
      result.2 = none ∧ s'.partitionTableMap = s.partitionTableMap ∨
      ∃ info, result.2 = some info ∧
        s'.partitionTableMap = s.partitionTableMap.insert diskId info) s () := by
  rw [getPartitionTable]
  refine wp_reads_bind (reads_hasDisk diskId) fun known _ => ?_
  split
  · exact .inl ⟨rfl, rfl⟩
  refine wp_called_bind fun result _ _ => ?_
  obtain ⟨ret, execRet⟩ := result
  dsimp only
  split
  · exact .inl ⟨rfl, rfl⟩
  split
  · exact .inl ⟨rfl, rfl⟩
  refine wp_core_bind (within_readPartitions _ _ _) fun partitions s' _ kept _ => ?_
  refine ⟨trivial, .inr ⟨_, rfl, ?_⟩⟩
  dsimp only
  rw [kept.partitionTableMap]

/-! ## Commands -/

/-- What `GetDiskById` shows: the disk, with the volumes that name it. -/
inductive Shows (s : ManagerState) (diskId : CppString) : Option Disk → Prop
  | none : s.diskMap[diskId]? = none → Shows s diskId none
  | some {disk : Disk} (extraInfo : CppString) : s.diskMap[diskId]? = some disk →
    Shows s diskId (some { attachVolumeIdsToDisk s.volumeMap disk with extraInfo })

/-- Looking a disk up leaves the world as it is where the query of its encryption does. -/
theorem getDiskById_shows {W : Type} {env : Env ManagerState W Req Req.Resp} {s : ManagerState}
    {w : W} {β : Type} {post : β → ManagerState → W → Prop} {diskId : CppString}
    {f : Option Disk → ManagerProg β}
    (quiet : ∀ {s w diskId volPath r w'},
      env s w (.queryEncryptionExtraInfo diskId volPath) r w' → w' = w)
    (rest : ∀ shown, Shows s diskId shown → wp (.ofEnv env) (f shown) post s w) :
    wp (.ofEnv env) (getDiskById diskId >>= f) post s w := by
  have read : wp (.ofEnv env) (getDiskById diskId >>= pure)
      (fun shown s' _ => s' = s ∧ Shows s diskId shown) s w := by
    cases found : s.diskMap[diskId]? with
    | none => exact getDiskById_bind_none found ⟨rfl, .none found⟩
    | some disk => exact getDiskById_bind_some found fun extraInfo w' => ⟨rfl, .some extraInfo found⟩
  rw [wp_bind] at read
  have asks := asks_getDiskById (P := fun q => ∃ diskId volPath,
    q = .queryEncryptionExtraInfo diskId volPath) (fun _ _ => ⟨_, _, rfl⟩) diskId
  refine wp_seq (wp_keeps_world read asks ?_) ?_
  · rintro s w q r w' ⟨_, _, rfl⟩ answered
    exact quiet answered
  · rintro shown s' w' ⟨⟨rfl, shows⟩, rfl⟩
    exact rest shown shows

/-- A partition command may be issued where `valid` holds. -/
def commandContract (valid : Prop) : Contract ManagerState Unit Req Req.Resp :=
  ⟨anyAnswer, fun _ _ q => q.isPartitionCommand = true → valid, fun _ _ _ => True⟩

/-- An operation that keeps the core and issues no partition command. -/
theorem command_bind {α β : Type} {valid : Prop} {p : ManagerProg α} {f : α → ManagerProg β}
    {kept : α → Prop} {s : ManagerState} (within : Within CoreKept p kept)
    (asks : Asks (fun q => q.isPartitionCommand = false) p)
    (rest : ∀ a s', CoreKept s s' → wp (commandContract valid) (f a) (fun _ _ _ => True) s' ()) :
    wp (commandContract valid) (p >>= f) (fun _ _ _ => True) s () := by
  have first : wp (commandContract valid) p (fun a s' w' => CoreKept s s' ∧ kept a ∧ w' = ()) s () :=
    wp_asks within asks .refl .trans (fun other command => absurd (other.symm.trans command) nofun)
      (fun _ _ => rfl) fun _ => trivial
  exact wp_seq first fun a s' _ ended => rest a s' ended.1

/-- A valid request may go on. -/
theorem command_valid {α : Type} {valid : Prop} {p : ManagerProg α} {s : ManagerState}
    (checked : valid) : wp (commandContract valid) p (fun _ _ _ => True) s () :=
  wp_trivial (fun _ => checked) trivial

/-- The check of a request against the table that is remembered. -/
theorem command_lookup {diskId : CppString} {check : PartitionTableInfo → Bool}
    {missing invalid : ErrCode} {f : PartitionTableInfo → ManagerProg ErrCode} {s s' : ManagerState}
    (same : s'.partitionTableMap = s.partitionTableMap) :
    wp (commandContract (∃ info, s.partitionTableMap[diskId]? = some info ∧ check info = true)) (do
      match ← Prog.read fun s => s.partitionTableMap[diskId]? with
      | none => return missing
      | some info =>
          if !check info then
            return invalid
          f info) (fun _ _ _ => True) s' () := by
  refine wp_bind.mpr ⟨trivial, ?_⟩
  dsimp only [wp]
  rw [same]
  split
  · trivial
  next info found =>
    split
    · trivial
    next fails => exact command_valid ⟨info, found, by simpa using fails⟩

section

variable [JsonLib]

/-- The volumes and disks are filed as ever, and the tables are current. -/
def TablesKept (s : ManagerState) (notes : List TableNote) : Prop :=
  FiledAs WellPlaced WellNamed (fun tables => TablesCurrent tables notes) s

theorem TableOp.tables_prog (op : TableOp) {s : ManagerState} {notes : List TableNote}
    (kept : TablesKept s notes) (finds : op.FindsNoTable s notes) :
    wp (.ofEnv anyAnswer) op.prog (fun read s' _ => TablesKept s' (op.note read ++ notes)) s () := by
  -- An operation that files no table leaves those that are there.
  have same : ∀ {α : Type} {p : ManagerProg α},
      Keeps (FiledAs WellPlaced WellNamed (· = s.partitionTableMap)) p (fun _ => True) →
      wp (.ofEnv anyAnswer) p (fun _ s' _ =>
        FiledAs WellPlaced WellNamed (· = s.partitionTableMap) s') s () := by
    intro α p keeps
    have ended := wp_of_keeps keeps ⟨kept.volumes, kept.disks, rfl⟩
    exact wp_mono (fun _ _ _ ended => ended.1) ended
  have later : ∀ {s' : ManagerState} {notes' : List TableNote},
      FiledAs WellPlaced WellNamed (· = s.partitionTableMap) s' →
      TablesCurrent s.partitionTableMap notes' → TablesKept s' notes' :=
    fun filed current => ⟨filed.volumes, filed.disks, filed.tables ▸ current⟩
  cases op with
  | uevent e fits =>
      refine wp_seq (same (filed_diskEvent accepts_wellPlaced fits)) fun _ s' _ filed => ?_
      exact later filed (TablesCurrent.uevent kept.tables finds none)
  | command c =>
      have keeps : Keeps (FiledAs WellPlaced WellNamed (· = s.partitionTableMap)) c.prog
          fun _ => True := by
        cases c with
        | create => exact (reads_createPartition _ _).keeps
        | delete => exact filed_deletePartition _ _
        | format => exact filed_of_sameIndex (sameIndex_formatPartition _ _ _)
      exact wp_seq (same keeps) fun _ s' _ filed => later filed kept.tables
  | getPartitionTable diskId =>
      have filed := wp_of_keeps (filed_getPartitionTable (fun _ _ _ _ => trivial) diskId)
        (⟨kept.volumes, kept.disks, trivial⟩ : FiledAs WellPlaced WellNamed (fun _ => True) s)
      refine wp_seq (wp_and filed (tables_getPartitionTable diskId)) fun result s' _ ended => ?_
      obtain ⟨err, read⟩ := result
      obtain ⟨⟨filed, -⟩, tables⟩ := ended
      refine ⟨filed.volumes, filed.disks, ?_⟩
      rcases tables with ⟨rfl, tables⟩ | ⟨info, rfl, tables⟩
      · change TablesCurrent s'.partitionTableMap notes
        rw [tables]
        exact kept.tables
      · change TablesCurrent s'.partitionTableMap (.read diskId info :: notes)
        rw [tables]
        exact kept.tables.note diskId info

/-- A command is issued for a request that passes the checks against the table remembered. -/
theorem PartitionCommand.checked (c : PartitionCommand) (s : ManagerState) :
    wp (commandContract (∃ info, s.partitionTableMap[c.diskId]? = some info ∧ c.validIn info = true))
      c.prog (fun _ _ _ => True) s () := by
  have query : ∀ diskId volPath,
      (Req.queryEncryptionExtraInfo diskId volPath).isPartitionCommand = false := fun _ _ => rfl
  cases c with
  | create diskId params =>
      unfold prog
      dsimp only
      rw [createPartition]
      refine command_bind (within_getDiskById diskId) (asks_getDiskById query diskId)
        fun shown s₁ kept₁ => ?_
      split
      · trivial
      split
      · trivial
      split
      · trivial
      refine command_bind (within_of_reads (reads_isDiskNotReady diskId))
        (asks_isDiskNotReady query diskId) fun notReady s₂ kept₂ => ?_
      have same := kept₂.partitionTableMap.trans kept₁.partitionTableMap
      split
      · trivial
      exact command_lookup same
  | delete diskId partitionNum =>
      unfold prog
      dsimp only
      rw [deletePartition]
      refine command_bind (within_getDiskById diskId) (asks_getDiskById query diskId)
        fun shown s₁ kept₁ => ?_
      split
      · trivial
      split
      · trivial
      refine command_bind (within_of_reads (reads_isDiskNotReady diskId))
        (asks_isDiskNotReady query diskId) fun notReady s₂ kept₂ => ?_
      have same := kept₂.partitionTableMap.trans kept₁.partitionTableMap
      split
      · trivial
      exact command_lookup same
  | format diskId partitionNum params =>
      unfold prog
      dsimp only
      rw [formatPartition]
      refine command_bind (within_getDiskById diskId) (asks_getDiskById query diskId)
        fun shown s₁ kept₁ => ?_
      split
      · trivial
      split
      · trivial
      refine command_bind (within_isVolumeMounted diskId partitionNum)
        (asks_isVolumeMounted query diskId partitionNum) fun mounted s₂ kept₂ => ?_
      split
      · trivial
      refine command_bind (within_findVolumeByPartNum _ _) (asks_findVolumeByPartNum _ _ _)
        fun found s₃ kept₃ => ?_
      have same := kept₃.partitionTableMap.trans
        (kept₂.partitionTableMap.trans kept₁.partitionTableMap)
      exact command_lookup same

/-- In a run in which no disk is attached under an id for which a table is remembered, a command that
reaches the daemon passed the checks against a table read since its disk was attached. -/
theorem partition_commands_fresh {s s' : ManagerState} {notes : List TableNote}
    (run : NotedRuns TableOp.prog (fun _ => anyAnswer) TableOp.note TableOp.FindsNoTable .boot ()
      s () notes)
    (c : PartitionCommand) {q : Req} {next : q.Resp → ManagerProg ErrCode}
    (issued : Reach anyAnswer ⟨c.prog, s, ()⟩ ⟨.call q next, s', ()⟩)
    (command : q.isPartitionCommand = true) :
    ∃ info, currentTable c.diskId notes = some info ∧ c.validIn info = true := by
  have kept : TablesKept s notes := by
    refine NotedRuns.invariant (C := fun _ => .ofEnv anyAnswer) TablesKept ?_ ?_ run
    · exact fun op s _ notes kept finds => op.tables_prog kept finds
    · refine ⟨fun {k place} found => ?_, fun {diskId disk} found => ?_, fun diskId info found => ?_⟩
      · exact absurd found (by simp [ManagerState.index, ManagerState.boot])
      · exact absurd found (by simp [ManagerState.index, ManagerState.boot])
      · exact absurd found (by simp [ManagerState.index, ManagerState.boot])
  obtain ⟨info, found, valid⟩ := wp_issued (c.checked s) issued command
  exact ⟨info, kept.tables c.diskId info found, valid⟩

end

/-! ## A blank disk -/

/-- An event of a blank disk with a GUID partition table. -/
def blankEvent (action : UeventAction) : TableOp :=
  .uevent ⟨action, (stickEvent action).uevent, "DISK gpt"⟩ (stickEvent_fits action)

def blankTable : CppString :=
  ("Sector size (logical/physical): 512/512 bytes\n" : CppString) ++
    "First usable sector is 34, last usable sector is 7864286\n" ++
    "Partitions will be aligned on 2048-sector boundaries\n" ++
    "Number  Start (sector)    End (sector)  Size       Code  Name\n"

/-- The disk has no file system. -/
def blankAnswer : (q : Req) → q.Resp
  | .readPartitionTable _ => (E_OK, "DISK gpt")
  | .readMetadata _ => ⟨DISK_MGR_ERR, [], [], []⟩
  | .getPartitionTableInfo _ => (E_OK, blankTable)
  | q => okAnswer ∅ q

/-- The first partition of the disk. -/
def firstPartition : PartitionCommand := .create stick.diskId ⟨1, 2048, 4194304, "vfat"⟩

/-- Memory after an operation on the blank disk, and the table it read. -/
def afterBlank (op : TableOp) (s : ManagerState) : Option PartitionTableInfo × ManagerState :=
  letI := tableJson
  let ended := op.prog.exec (fun _ q => (blankAnswer q, ())) s ()
  (ended.1, ended.2.1)

def blankAttached : Option PartitionTableInfo × ManagerState := afterBlank (blankEvent .add) .boot

def blankRead : Option PartitionTableInfo × ManagerState :=
  afterBlank (.getPartitionTable stick.diskId) blankAttached.2

/-- The disk goes, and another comes under its id. -/
def blankReplaced : Option PartitionTableInfo × ManagerState :=
  afterBlank (blankEvent .add) (afterBlank (blankEvent .remove) blankRead.2).2

theorem firstPartition_issued :
    letI := tableJson
    (firstPartition.prog.runTo (fun _ q => (blankAnswer q, ())) Req.isPartitionCommand blankRead.2
      ()).stopsAt Req.isPartitionCommand = true ∧
    (firstPartition.prog.runTo (fun _ q => (blankAnswer q, ())) Req.isPartitionCommand
      blankReplaced.2 ()).stopsAt Req.isPartitionCommand = true := by
  decide +kernel

/-- Any history in which the operations on the blank disk are one after another. -/
theorem blank_next (may : TableOp → ManagerState → List TableNote → Prop) {s : ManagerState}
    {notes : List TableNote} (op : TableOp) :
    letI := tableJson
    NotedRuns TableOp.prog (fun _ => anyAnswer) TableOp.note may .boot () s () notes →
    may op s notes →
    NotedRuns TableOp.prog (fun _ => anyAnswer) TableOp.note may .boot () (afterBlank op s).2 ()
      (op.note (afterBlank op s).1 ++ notes) := by
  let _ := tableJson
  intro run allowed
  exact run.exec allowed fun _ _ _ => trivial

/-- The partition is made in the table that was read. -/
theorem partition_commands_fresh_blank :
    ∃ info, currentTable firstPartition.diskId
        ((TableOp.getPartitionTable stick.diskId).note blankRead.1 ++ [.added stick.diskId]) =
          some info ∧
      firstPartition.validIn info = true := by
  let _ := tableJson
  have plugged := blank_next TableOp.FindsNoTable (blankEvent .add) .start
    fun _ _ => StdMap.get_empty _
  have read := blank_next _ (.getPartitionTable stick.diskId) plugged trivial
  obtain ⟨q, next, s', _, issued, command⟩ := Prog.runTo_issues anyAnswer
    (fun _ _ _ => trivial) firstPartition_issued.1
  exact partition_commands_fresh read firstPartition issued command

/-- On the disk that comes under the id of another, the partition is made without its table having
been read. -/
theorem partition_command_stale :
    letI := tableJson
    ∃ notes, NotedRuns TableOp.prog (fun _ => anyAnswer) TableOp.note (fun _ _ _ => True) .boot ()
        blankReplaced.2 () notes ∧
      (∃ q next s', Reach anyAnswer ⟨firstPartition.prog, blankReplaced.2, ()⟩
        ⟨.call q next, s', ()⟩ ∧ q.isPartitionCommand = true) ∧
      currentTable firstPartition.diskId notes = none := by
  let _ := tableJson
  have plugged := blank_next (fun _ _ _ => True) (blankEvent .add) .start trivial
  have read := blank_next _ (.getPartitionTable stick.diskId) plugged trivial
  have pulled := blank_next _ (blankEvent .remove) read trivial
  have replaced := blank_next _ (blankEvent .add) pulled trivial
  obtain ⟨q, next, s', _, issued, command⟩ := Prog.runTo_issues anyAnswer
    (fun _ _ _ => trivial) firstPartition_issued.2
  refine ⟨_, replaced, ⟨q, next, s', issued, command⟩, ?_⟩
  have added : ∀ read, (blankEvent .add).note read = [.added stick.diskId] := fun _ => rfl
  have removed : ∀ read, (blankEvent .remove).note read = [.removed stick.diskId] := fun _ => rfl
  rw [added, removed, List.singleton_append, List.singleton_append]
  exact currentTable_replaced _ _

end DiskManager
