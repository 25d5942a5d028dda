import DiskManager.JsonCodec
import DiskManager.Voldata.Durable

/-!
# The promises of the store

* `StoreRun`: a run from an empty data directory, with saves and loads that fail anywhere and kills
  anywhere.
* `uuidMap_slots_injective`: in every state of such a run the mapping gives out no slot twice.
* `voldata_durable`: the main file always holds the mapping of an initialised store, a failed
  operation changes neither, and a kill loses at most the operation it interrupts.
-/

namespace DiskManager

open Interact

/-- The empty data directory. -/
def noFiles : Files := fun _ => none

/-- An operation called with UTF-8 uuids. -/
abbrev Utf8Op : Type := { op : StoreOp // ∀ u ∈ op.uuids, CppString.isUtf8 u = true }

/-- A file system in which nothing fails. -/
def goodFiles (w : Files) : (q : FileReq) → q.Resp × Files
  | .exists path => ((w path).isSome, w)
  | .read path => (w path, w)
  | .createDirectories _ => (true, w)
  | .openTrunc path => (true, fun p => if p = path then some [] else w p)
  | .writeClose path content => (true, fun p => if p = path then some content else w p)
  | .fsync _ => ((), w)
  | .rename source target =>
      if (w source).isSome then
        (true, fun p => if p = target then w source else if p = source then none else w p)
      else (false, w)
  | .remove path => ((), fun p => if p = path then none else w p)
  | .iterate m => (m.toList, w)

theorem goodFiles_obeys (reliable : Bool) (s : StoreState) (w : Files) (q : FileReq) :
    fileEnv reliable s w q (goodFiles w q).1 (goodFiles w q).2 := by
  cases q with
  | «exists» path => exact ⟨rfl, id, fun _ => rfl⟩
  | read path => exact ⟨rfl, .inr rfl, fun _ => rfl⟩
  | createDirectories path => exact rfl
  | openTrunc path => exact ⟨fun p ne => if_neg ne, fun _ => if_pos rfl⟩
  | writeClose path content => exact ⟨fun p ne => if_neg ne, fun _ => if_pos rfl⟩
  | fsync path => exact rfl
  | rename source target =>
      cases there : (w source).isSome with
      | false => simp [goodFiles, there, fileEnv]
      | true => simp [goodFiles, there, fileEnv]
  | remove path => exact fun p ne => if_neg ne
  | iterate m => exact ⟨rfl, List.Perm.refl _⟩

theorem fileEnv_unreliable {reliable : Bool} {s : StoreState} {w w' : Files} {q : FileReq}
    {r : q.Resp} (answered : fileEnv reliable s w q r w') : fileEnv false s w q r w' := by
  cases q with
  | «exists» path => exact ⟨answered.1, answered.2.1, nofun⟩
  | read path => exact ⟨answered.1, answered.2.1, nofun⟩
  | createDirectories | openTrunc | writeClose | fsync | rename | remove | iterate =>
      exact answered

section

variable [JsonLib]

/-- A run of the store from an empty data directory. -/
def StoreRun (s : StoreState) (w : Files) : Prop :=
  CrashRuns (fun op : Utf8Op => op.1.prog) (fileEnv false) .boot noFiles s w

variable [LawfulJsonLib]

theorem StoreRun.inv {s : StoreState} {w : Files} (run : StoreRun s w) : StoreInv s w := by
  have contract : (storeContract false FilesOk Stored).env = fileEnv false := rfl
  rw [StoreRun, ← contract] at run
  refine run.invariant StoreInv ?_ .boot (fun inv => .boot inv.files) ?_
  · intro op s w inv
    have owed := wp_store false op.1 op.2 inv
    have weaker := wp_weaken (D := storeContract false FilesOk Stored) owed id
      (fun crash => crash.files) id
    exact wp_mono (fun _ _ _ done => done.inv) weaker
  · exact .boot ⟨.inl rfl, .inl rfl⟩

/-- At every point of every operation of every run: entries under their own valid uuid, slots
between 1 and 1000 with their mount path, and no slot or mount path shared. -/
theorem uuidMap_slots_injective {s : StoreState} {w : Files} (run : StoreRun s w) (op : Utf8Op)
    {c : Conf StoreState Files FileReq FileReq.Resp ErrCode}
    (path : Reach (fileEnv false) ⟨op.1.prog, s, w⟩ c) :
    SlotTable c.s.uuidMap ∧
      ∀ {k k' : CppString} {e e' : VoldataUuidEntry}, c.s.uuidMap[k]? = some e →
        c.s.uuidMap[k']? = some e' → e.slotIndex = e'.slotIndex ∨ e.mountPath = e'.mountPath →
        k = k' := by
  have inv : Stored c.s.uuidMap := by
    have owed := wp_store false op.1 op.2 run.inv
    exact wp_always (c := ⟨op.1.prog, s, w⟩) (fun (s : StoreState) (_ : Files) => Stored s.uuidMap)
      owed path run.inv.stored (fun _ stored => stored) (fun stored _ => stored)
  refine ⟨inv.table, fun left right same => ?_⟩
  rcases same with slots | paths
  · exact inv.table.slot_inj left right slots
  · exact inv.table.path_inj left right paths

omit [LawfulJsonLib] in
/-- One operation on a file system in which nothing fails. -/
theorem StoreRun.good (op : Utf8Op) :
    StoreRun (op.1.prog.exec goodFiles .boot noFiles).2.1
      (op.1.prog.exec goodFiles .boot noFiles).2.2 :=
  .next .start (Prog.exec_returns (goodFiles_obeys false) op.1.prog .boot noFiles)

/-- The main file holds the mapping of an initialised store; an operation that fails on an
initialised store changes neither; an operation that succeeds has its effect on the persisted
mapping; and after a kill at any point of an operation the next `Init` loads the mapping from
before it or the one it was about to leave, and never fails when the store was initialised. -/
theorem voldata_durable {s : StoreState} {w : Files} (run : StoreRun s w) :
    (s.initialized = true → decodeFile w jsonFilePath = some s.uuidMap) ∧
    (∀ (op : Utf8Op) ret s' w', Returns (fileEnv false) op.1.prog s w ret s' w' →
      s.initialized = true → ret ≠ E_OK →
      s'.uuidMap = s.uuidMap ∧ w' jsonFilePath = w jsonFilePath) ∧
    (∀ (reliable : Bool) (op : Utf8Op), reliable = true ∨ s.initialized = true →
      (∀ ret s' w', Returns (fileEnv reliable) op.1.prog s w ret s' w' → ret = E_OK →
        s'.initialized = true → s'.uuidMap = op.1.effect (persisted w)) ∧
      ∀ c : Conf StoreState Files FileReq FileReq.Resp ErrCode,
        Reach (fileEnv reliable) ⟨op.1.prog, s, w⟩ c →
        ∀ ret s' w', Returns (fileEnv true) init .boot c.w ret s' w' →
          (s.initialized = true → ret = E_OK) ∧
          (ret = E_OK → s'.uuidMap = persisted w ∨ s'.uuidMap = op.1.effect (persisted w))) := by
  have inv : StoreInv s w := run.inv
  refine ⟨fun up => ?_, ?_, ?_⟩
  · exact inv.stored.writable.decodeFile (inv.synced up)
  · intro op ret s' w' returned up bad
    exact (wp_returns (wp_store false op.1 op.2 inv) returned).undone up bad
  · intro reliable op anchored
    have owed := wp_store reliable op.1 op.2 inv
    refine ⟨fun ret s' w' returned ok up => (wp_returns owed returned).effect anchored ok up, ?_⟩
    intro c path ret s' w' returned
    -- What the kill leaves.
    have there := wp_reach (c := ⟨op.1.prog, s, w⟩) owed path
    have left : op.1.Crash reliable s w c.w := wp_crash _ there id (fun done => done.crash)
    have restart : wp (storeContract true (fun _ => True) Stored) init _ .boot c.w :=
      wp_init (StoreInv.boot left.files) fun _ _ _ _ => trivial
    obtain ⟨inv', up', -, same, sure⟩ := wp_returns restart returned
    refine ⟨fun up => sure rfl (left.readable up), fun ok => ?_⟩
    rw [← inv'.persisted (up' ok), same (.inl rfl)]
    exact left.persisted anchored

end

/-- `ResolveMountPath` of a new uuid on an empty data directory. -/
def firstResolve : Utf8Op := ⟨.resolveMountPath "1234-ABCD", by decide⟩

theorem uuidMap_slots_injective_firstResolve :
    letI := tableJson
    ∃ s w, StoreRun s w ∧
      s.uuidMap["1234-ABCD".toList]? =
        some ⟨"1234-ABCD".toList, "/mnt/data/voldata/data1".toList, 1⟩ ∧
      SlotTable s.uuidMap := by
  let _ := tableJson
  have := tableJson_lawful
  have run := StoreRun.good firstResolve
  refine ⟨_, _, run, by decide +kernel, ?_⟩
  exact (uuidMap_slots_injective run firstResolve .refl).1

theorem voldata_durable_firstResolve :
    letI := tableJson
    ∃ s w, StoreRun s w ∧ s.initialized = true ∧ decodeFile w jsonFilePath = some s.uuidMap := by
  let _ := tableJson
  have := tableJson_lawful
  have run := StoreRun.good firstResolve
  have up : (firstResolve.1.prog.exec goodFiles .boot noFiles).2.1.initialized = true := by
    decide +kernel
  exact ⟨_, _, run, up, (voldata_durable run).1 up⟩

end DiskManager
