import DiskManager.Voldata.Runs

/-!
# Recovery from the backup

`Init` on files of any content, when the main file does not hold a JSON array and the backup does.

* `Recovers`: the mapping of the backup ends up in memory and stays in the backup.
* `recovers_iff`: this is so exactly when the main file is there and not empty, or the backup holds
  no entry. A missing main file is taken for a first start and both files are written empty; an
  empty main file is taken for an empty mapping.
-/

namespace DiskManager

open Interact

section

variable [JsonLib]

/-- The file at `path` holds a JSON array. -/
def HoldsArray (w : Files) (path : CppString) : Prop :=
  ∃ content items, w path = some content ∧ JsonLib.parse content = some (.array items)

/-- Only the backup can be read. -/
def BackupOnly (w : Files) : Prop := ¬ HoldsArray w jsonFilePath ∧ HoldsArray w backupFilePath

/-- Every `Init` of a new process that returns `E_OK` has loaded the mapping of the backup, and at
no point of an `Init` has the backup lost an entry. -/
def Recovers (w : Files) : Prop :=
  (∀ ret s' w', Returns (fileEnv true) init .boot w ret s' w' → ret = E_OK →
    some s'.uuidMap = decodeFile w backupFilePath) ∧
  ∀ c : Conf StoreState Files FileReq FileReq.Resp ErrCode,
    Reach (fileEnv true) ⟨init, .boot, w⟩ c →
    ∀ b, decodeFile w backupFilePath = some b → ∀ (k : CppString) e, b[k]? = some e →
      ∃ m, decodeFile c.w backupFilePath = some m ∧ m[k]? = some e

variable [LawfulJsonLib]

theorem HoldsArray.decodeFile {w : Files} {path : CppString} (holds : HoldsArray w path) :
    ∃ b, decodeFile w path = some b ∧ Writable b := by
  obtain ⟨content, items, there, parsed⟩ := holds
  have text : content.isEmpty = false := by
    cases content with
    | nil =>
        rw [LawfulJsonLib.parse_nil] at parsed
        cases parsed
    | cons c cs => rfl
  refine ⟨loadItems items ∅, ?_, ?_⟩
  · simp only [DiskManager.decodeFile, there, Option.bind_some, decodeContent, text, parsed,
      Bool.false_eq_true, if_false]
  · refine ⟨loadable_loadItems items, fun hit => ?_⟩
    rcases get_loadItems hit with found | ⟨-, item, mem, read⟩
    · simp at found
    · obtain ⟨uuid, path, -⟩ := fromJson_eq_some read
      exact ⟨LawfulJsonLib.parse_utf8 parsed item mem _ _ uuid,
        LawfulJsonLib.parse_utf8 parsed item mem _ _ path⟩

omit [LawfulJsonLib] in
/-- A main file that is no array decodes only when it is empty. -/
theorem decodeFile_of_not_holdsArray {w : Files} (unreadable : ¬ HoldsArray w jsonFilePath)
    {m : UuidMap} (decode : decodeFile w jsonFilePath = some m) :
    w jsonFilePath = some [] ∧ m = ∅ := by
  obtain ⟨content, there, decode⟩ := Option.bind_eq_some_iff.mp decode
  rw [decodeContent] at decode
  split at decode
  next empty =>
    cases content with
    | nil => exact ⟨there, (Option.some.inj decode).symm⟩
    | cons c cs => cases empty
  next =>
    split at decode
    next root parsed => exact absurd ⟨content, root, there, parsed⟩ unreadable
    next => cases decode

/-! ## When `Init` recovers -/

omit [LawfulJsonLib] in
/-- What a load with reliable reads chooses, when only the backup can be read. -/
theorem LoadSource.of_backupOnly {w : Files} {b m : UuidMap}
    (unreadable : ¬ HoldsArray w jsonFilePath) (decode : decodeFile w backupFilePath = some b)
    (source : LoadSource true w m) :
    m = b ∧ w jsonFilePath ≠ none ∧ w jsonFilePath ≠ some [] ∨
      m = ∅ ∧ (w jsonFilePath = none ∨ w jsonFilePath = some []) := by
  cases source with
  | fresh why =>
      rcases why rfl with absent | ⟨-, none⟩
      · exact .inr ⟨rfl, .inl absent⟩
      · rw [decode] at none
        cases none
  | main read =>
      obtain ⟨empty, rfl⟩ := decodeFile_of_not_holdsArray unreadable read
      exact .inr ⟨rfl, .inr empty⟩
  | backup why read =>
      obtain ⟨there, none⟩ := why rfl
      rw [decode] at read
      refine .inl ⟨(Option.some.inj read).symm, ?_, ?_⟩
      · intro absent
        rw [absent] at there
        cases there
      · intro empty
        rw [decodeFile, empty] at none
        cases none

omit [LawfulJsonLib] in
theorem wp_init_sources (w : Files) (crash : Files → Prop) (now : crash w)
    (atCrash : ∀ m w', LoadSource true w m → SavingMap m w w' → crash w') :
    wp (storeContract true crash fun _ => True) init
      (fun _ s' w' => crash w' ∧ LoadSource true w s'.uuidMap) .boot w := by
  rw [init, wp_bind, wp_read]
  refine ⟨trivial, ?_⟩
  refine wp_seq (wp_loadFromFile trivial (fun _ _ => trivial) atCrash now) ?_
  rintro ret s' w' ⟨-, source, saving, -⟩
  have fine : crash w' := atCrash _ _ source saving
  split
  next => exact ⟨fine, source⟩
  next => exact ⟨trivial, fine, source⟩

/-! ### On a file system in which nothing fails -/

omit [LawfulJsonLib] in
theorem exec_saveJsonToFile_good (path : CppString) (json : Json) (s : StoreState) (w : Files) :
    ((saveJsonToFile path json).exec goodFiles s w).1 = E_OK := by
  simp [saveJsonToFile, ask, goodFiles]

omit [LawfulJsonLib] in
theorem exec_saveToFile_good (s : StoreState) (w : Files) :
    (saveToFile.exec goodFiles s w).1 = E_OK := by
  simp [saveToFile, getUuidMap, ask, exec_saveJsonToFile_good]

omit [LawfulJsonLib] in
/-- Every case of `LoadFromFile` ends with a save or with a main file that was read. -/
theorem exec_loadFromFile_good (s : StoreState) (w : Files) :
    (loadFromFile.exec goodFiles s w).1 = E_OK := by
  simp only [loadFromFile, Prog.exec_bind]
  split
  next => simp [exec_saveToFile_good]
  next =>
    simp only [Prog.exec_bind]
    split
    next =>
      simp only [Prog.exec_bind]
      split <;> simp
    next =>
      simp only [Prog.exec_bind]
      split
      next =>
        simp only [Prog.exec_bind]
        split <;> simp [exec_saveToFile_good]
      next => simp [exec_saveToFile_good]

omit [LawfulJsonLib] in
theorem exec_init_good (w : Files) : (init.exec goodFiles .boot w).1 = E_OK := by
  simp [init, StoreState.boot, exec_loadFromFile_good]

/-- `Init` recovers the backup exactly when the main file is there and not empty, or there is
nothing to recover. -/
theorem recovers_iff {w : Files} (only : BackupOnly w) :
    Recovers w ↔ (w jsonFilePath ≠ none ∧ w jsonFilePath ≠ some []) ∨
      decodeFile w backupFilePath = some ∅ := by
  obtain ⟨unreadable, holds⟩ := only
  obtain ⟨b, decode, writable⟩ := holds.decodeFile
  constructor
  · rintro ⟨loads, -⟩
    -- On a file system in which nothing fails `Init` returns.
    have returned := Prog.exec_returns (goodFiles_obeys true) init .boot w
    have loaded := loads _ _ _ returned (exec_init_good w)
    have pre := wp_init_sources w (fun _ => True) trivial fun _ _ _ _ => trivial
    obtain ⟨-, source⟩ := wp_returns pre returned
    rcases source.of_backupOnly unreadable decode with ⟨-, there⟩ | ⟨empty, -⟩
    · exact .inl there
    · rw [empty] at loaded
      exact .inr loaded.symm
  · intro condition
    have same : ∀ m, LoadSource true w m → m = b := by
      intro m source
      rcases source.of_backupOnly unreadable decode with ⟨same, -⟩ | ⟨rfl, lost⟩
      · exact same
      · rcases condition with ⟨there, text⟩ | nothing
        · exact (lost.elim there text).elim
        · rw [decode] at nothing
          exact (Option.some.inj nothing).symm
    -- Every save writes the mapping of the backup.
    have pre := wp_init_sources w (fun w' => decodeFile w' backupFilePath = some b) decode ?_
    · refine ⟨fun ret s' w' returned _ => ?_, fun c path b' decode' k e hit => ?_⟩
      · rw [same _ (wp_returns pre returned).2, decode]
      · obtain rfl : b = b' := Option.some.inj (decode.symm.trans decode')
        have there := wp_reach (c := ⟨init, .boot, w⟩) pre path
        have kept := wp_crash (fun w' => decodeFile w' backupFilePath = some b) there id
          (fun done => done.1)
        exact ⟨b, kept, hit⟩
    · intro m w' source saving
      obtain rfl := same m source
      rcases saving.backup with kept | written
      · rw [decodeFile, kept]
        exact decode
      · exact writable.decodeFile written

end

/-- A backup with one entry and no main file. -/
def onlyBackup : Files := fun path =>
  if path = backupFilePath then
    some (TableJson.dump (.array
      [VoldataUuidEntry.toJson ⟨"backup-uuid", "/mnt/data/voldata/data1", 1⟩]))
  else none

theorem onlyBackup_holdsArray : @HoldsArray tableJson onlyBackup backupFilePath :=
  ⟨_, _, rfl, tableJson_lawful.parse_dump [⟨"backup-uuid", "/mnt/data/voldata/data1", 1⟩]
    (by decide)⟩

/-- Without a main file the entry of the backup is lost. -/
theorem not_recovers_onlyBackup :
    letI := tableJson
    BackupOnly onlyBackup ∧ ¬ Recovers onlyBackup := by
  let _ := tableJson
  refine ⟨⟨?_, onlyBackup_holdsArray⟩, ?_⟩
  · rintro ⟨content, items, there, -⟩
    cases there
  · rintro ⟨loads, -⟩
    have returned := Prog.exec_returns (goodFiles_obeys true) init .boot onlyBackup
    have loaded := loads _ _ _ returned (exec_init_good onlyBackup)
    have entries := congrArg (fun o => o.bind fun m : UuidMap => m["backup-uuid".toList]?) loaded
    revert entries
    decide +kernel

/-- The same backup beside a corrupted main file. -/
def corruptedMain : Files := fun path =>
  if path = jsonFilePath then some "corrupted!!!" else onlyBackup path

theorem recovers_corruptedMain :
    letI := tableJson
    BackupOnly corruptedMain ∧ Recovers corruptedMain := by
  let _ := tableJson
  have := tableJson_lawful
  have only : BackupOnly corruptedMain := by
    refine ⟨?_, onlyBackup_holdsArray⟩
    rintro ⟨content, items, there, parsed⟩
    cases there
    cases parsed
  exact ⟨only, (recovers_iff only).mpr (.inl (by decide))⟩

end DiskManager
