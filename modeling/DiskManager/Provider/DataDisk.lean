import DiskManager.JsonCodec
import DiskManager.Provider.State

/-!
# One format of a data disk at a time

`dataDiskFormatBusy_` keeps the requests for internal data disks apart. Whatever the others do
between two steps of a request, at most one request has the flag, one that finds it taken is
refused, and a request for another disk never touches it.
-/

namespace DiskManager

open Interact

/-- The disk is an internal data disk. -/
def ManagerState.DataDisk (s : ManagerState) (diskId : CppString) : Prop :=
  ∃ disk, s.diskMap[diskId]? = some disk ∧ disk.isInternalDataDisk = true

/-- The volume is on the disk. -/
def ManagerState.On (s : ManagerState) (volumeId diskId : CppString) : Prop :=
  ∃ vol, s.volumeMap[volumeId]? = some vol ∧ vol.diskId = diskId

def busy (s : ProviderState) : Bool := s.dataDiskFormatBusy

/-- By the memory its sections found, the request is for an internal data disk: its volume was on a
disk that was one when the request looked it up. -/
def FormatRequest.ForDataDisk : FormatRequest → List ProviderState → Prop
  | .format volumeId _, s₀ :: s₁ :: _ =>
      ∃ diskId, s₀.manager.On volumeId diskId ∧ s₁.manager.DataDisk diskId
  | .partition diskId _, s₀ :: _ => s₀.manager.DataDisk diskId
  | _, _ => False

/-- What is left to a request for a data disk while another one has the flag: to return, to try to
take the flag and be refused, or to end the lookup of its disk. -/
inductive Held (s : ProviderState) : ProviderProg ErrCode → Prop
  | done (err : ErrCode) : Held s (.done err)
  | refused {upd : ProviderState → ProviderState} {next : ProviderState → ProviderProg ErrCode} :
    Writes busy upd → busy (upd s) = busy s → next s = .done E_BUSY → Held s (.atomic upd next)
  | lookup {diskId volPath : CppString}
      {next : Option CppString → ProviderProg ErrCode} :
    Held s (.call (.manager (.queryEncryptionExtraInfo diskId volPath)) next)

/-! ## The flag -/

section

variable {α : Type}

theorem within_invoke {G : ProviderState → ProviderState → Prop} {q : ProviderReq} :
    Within G (invoke q) fun _ => True := fun _ => trivial

/-- The manager does not know of the flag. -/
theorem within_onManager (p : ManagerProg α) :
    Within (fun s s' => busy s' = busy s) (onManager p) fun _ => True :=
  within_lift p fun _ _ => rfl

theorem within_mayCall (permissionName : CppString) :
    Within (fun s s' => busy s' = busy s) (mayCall permissionName) fun _ => True := by
  rw [mayCall]
  refine within_seq within_invoke fun caller _ => ?_
  split
  · trivial
  · exact within_invoke

theorem within_isDataDiskByDiskId (diskId : CppString) :
    Within (fun s s' => busy s' = busy s) (isDataDiskByDiskId diskId) fun _ => True := by
  rw [isDataDiskByDiskId]
  refine within_seq (within_onManager _) fun disk _ => ?_
  cases disk with
  | none => trivial
  | some disk => trivial

theorem within_isDataDisk (volumeId : CppString) :
    Within (fun s s' => busy s' = busy s) (isDataDisk volumeId) fun _ => True := by
  rw [isDataDisk]
  refine within_seq (within_onManager _) fun vol _ => ?_
  cases vol with
  | none => trivial
  | some vol => exact within_isDataDiskByDiskId vol.diskId

theorem within_checkAdminAuthorization :
    Within (fun s s' => busy s' = busy s) checkAdminAuthorization fun _ => True := by
  rw [checkAdminAuthorization]
  refine within_seq within_invoke fun acquireRet _ => ?_
  split
  · trivial
  · refine within_seq within_invoke fun result _ => ?_
    cases result with
    | none => trivial
    | some result => trivial

/-- The exchange takes the flag or is refused, and the flag is given back at every end. -/
theorem token_guardDataDisk (needAdminAuth : Bool) {run : ProviderProg ErrCode}
    (within : Within (fun s s' => busy s' = busy s) run fun _ => True) :
    Token busy E_BUSY (guardDataDisk needAdminAuth run) false := by
  have gives : ∀ err : ErrCode, Token busy E_BUSY
      (storeDataDiskFormatBusy false >>= fun _ => (pure err : ProviderProg ErrCode)) true :=
    fun err s _ => .inr (.inr ⟨rfl, rfl, rfl⟩)
  have authorized : Token busy E_BUSY (runAuthorized run) true := by
    rw [runAuthorized]
    refine token_bind within_checkAdminAuthorization fun authRet _ => ?_
    split
    · exact gives authRet
    · refine token_bind within fun err _ => ?_
      exact token_bind within_invoke fun _ _ => gives err
  cases needAdminAuth with
  | false => exact token_of_within within
  | true =>
      intro s _
      cases taken : s.dataDiskFormatBusy with
      | false =>
          refine .inr (.inl ⟨rfl, taken, rfl, ?_⟩)
          change Token busy E_BUSY (if s.dataDiskFormatBusy = true then pure E_BUSY
            else runAuthorized run) true
          rw [taken, if_neg Bool.false_ne_true]
          exact authorized
      | true =>
          have refused : (if s.dataDiskFormatBusy = true then pure E_BUSY
              else runAuthorized run : ProviderProg ErrCode) = .done E_BUSY := if_pos taken
          refine .inl ⟨taken.symm, ?_, fun _ _ => refused⟩
          change Token busy E_BUSY (if s.dataDiskFormatBusy = true then pure E_BUSY
            else runAuthorized run) false
          rw [refused]
          rfl

variable [JsonLib]

theorem FormatRequest.token (op : FormatRequest) : Token busy E_BUSY op.prog false := by
  cases op with
  | format volumeId fsType =>
      change Token busy E_BUSY (Provider.format volumeId fsType) false
      rw [Provider.format]
      refine token_bind within_invoke fun system _ => ?_
      split
      · rfl
      refine token_bind (within_mayCall _) fun may _ => ?_
      split
      · rfl
      split
      · rfl
      refine token_bind (within_isDataDisk volumeId) fun need _ => ?_
      exact token_guardDataDisk need (within_onManager _)
  | partition diskId type =>
      change Token busy E_BUSY (Provider.partition diskId type) false
      rw [Provider.partition]
      refine token_bind within_invoke fun system _ => ?_
      split
      · rfl
      refine token_bind (within_mayCall _) fun may _ => ?_
      split
      · rfl
      split
      · rfl
      refine token_bind (within_isDataDiskByDiskId diskId) fun need _ => ?_
      exact token_guardDataDisk need (within_onManager _)

end

/-! ## What a request does before, with and without the flag -/

/-- A request for a data disk that does not have the flag tries to take it or ends its lookup; a
request that is not for a data disk leaves the flag alone. -/
structure FormatRequest.Keeps (op : FormatRequest) (past : ProviderHistory)
    (move : Move ProviderState ProviderReq) : Prop where
  waits : op.ForDataDisk past.found → past.holding busy = false →
    match move with
    | .run upd => Writes busy upd
    | .ask q => ∃ diskId volPath, q = .manager (.queryEncryptionExtraInfo diskId volPath)
  leaves : ¬ op.ForDataDisk past.found →
    match move with
    | .run upd => ¬ Writes busy upd
    | .ask _ => True

/-- The disk of a request is settled by its first lookups. -/
theorem FormatRequest.ForDataDisk.append {op : FormatRequest} {seen : List ProviderState}
    (for' : op.ForDataDisk seen) (rest : List ProviderState) : op.ForDataDisk (seen ++ rest) := by
  cases op with
  | format volumeId fsType =>
      match seen, for' with
      | _ :: _ :: _, for' => exact for'
  | partition diskId type =>
      match seen, for' with
      | _ :: _, for' => exact for'

section

variable {op : FormatRequest} {α β : Type} {h : ProviderHistory}
  {post : β → ProviderHistory → Prop}

theorem not_writes_of_within {upd : ProviderState → ProviderState}
    (same : ∀ s, busy (upd s) = busy s) : ¬ Writes busy upd :=
  fun ⟨s, changed⟩ => changed (same s)

/-- What a request for another disk does after its lookup. -/
theorem along_elsewhere {p : ProviderProg α} {kept : α → Prop} {seen : List ProviderState}
    (within : Within (fun s s' => busy s' = busy s) p kept)
    (never : ∀ rest, ¬ op.ForDataDisk (seen ++ rest)) (start : ∃ rest, h.found = seen ++ rest) :
    Along (fun _ => True) op.Keeps p (fun _ _ => True) h := by
  have not' : ∀ h : ProviderHistory, (∃ rest, h.found = seen ++ rest) →
      ¬ op.ForDataDisk h.found := by
    rintro h ⟨rest, same⟩
    rw [same]
    exact never rest
  refine along_mono (fun _ _ _ => trivial)
    (along_of_within (fun h => ∃ rest, h.found = seen ++ rest) within ?_ ?_ ?_ ?_ ?_ start)
  · exact fun h upd held same =>
      ⟨fun for' => absurd for' (not' h held), fun _ => not_writes_of_within same⟩
  · exact fun h q held => ⟨fun for' => absurd for' (not' h held), fun _ => trivial⟩
  · rintro h s ⟨rest, same⟩ -
    refine ⟨rest ++ [h.now], ?_⟩
    rw [History.found, same, List.append_assoc]
  · exact fun h s held _ => held
  · exact fun h q r held => held

/-- What a request for a data disk does while it has the flag. -/
theorem along_holding {p : ProviderProg α} {kept : α → Prop}
    (within : Within (fun s s' => busy s' = busy s) p kept)
    (start : op.ForDataDisk h.found ∧ h.holding busy = true) :
    Along (fun _ => True) op.Keeps p
      (fun a h => (op.ForDataDisk h.found ∧ h.holding busy = true) ∧ kept a) h := by
  have held' : ∀ (h : ProviderHistory) move, op.ForDataDisk h.found ∧ h.holding busy = true →
      op.Keeps h move := by
    intro h move held
    refine ⟨fun _ without => ?_, fun not' => absurd held.1 not'⟩
    rw [held.2] at without
    cases without
  refine along_of_within (fun h => op.ForDataDisk h.found ∧ h.holding busy = true) within ?_ ?_ ?_
    ?_ ?_ start
  · exact fun h upd held _ => held' h _ held
  · exact fun h q held => held' h _ held
  · rintro h s ⟨for', holds⟩ same
    refine ⟨for'.append [h.now], ?_⟩
    rw [History.holding, if_pos same]
    exact holds
  · exact fun h s held _ => held
  · exact fun h q r held => held

/-- A question before the lookup. -/
theorem along_invoke {q : ProviderReq} {post : q.Resp → ProviderHistory → Prop}
    (fresh : h.found = []) (rest : ∀ r (h : ProviderHistory), h.found = [] → post r h) :
    Along (fun _ => True) op.Keeps (invoke q) post h := by
  intro h' since
  have fresh' : h'.found = [] := since.found.trans fresh
  have not' : ¬ op.ForDataDisk h'.found := by
    rw [fresh']
    cases op <;> exact id
  exact ⟨⟨fun for' => absurd for' not', fun _ => trivial⟩, fun r _ => rest r _ fresh'⟩

theorem along_invoke_bind {q : ProviderReq} {f : q.Resp → ProviderProg β} (fresh : h.found = [])
    (rest : ∀ r (h : ProviderHistory), h.found = [] →
      Along (fun _ => True) op.Keeps (f r) post h) :
    Along (fun _ => True) op.Keeps (invoke q >>= f) post h :=
  along_bind.mpr (along_invoke fresh rest)

theorem writes_exchange :
    Writes busy fun s : ProviderState => { s with dataDiskFormatBusy := true } :=
  ⟨.boot, Bool.noConfusion⟩

/-- The end of a request for a data disk. -/
theorem along_guardDataDisk {run : ProviderProg ErrCode}
    (within : Within (fun s s' => busy s' = busy s) run fun _ => True)
    (for' : op.ForDataDisk h.found) :
    Along (fun _ => True) op.Keeps (guardDataDisk true run) (fun _ _ => True) h := by
  have gives : ∀ (err : ErrCode) (h : ProviderHistory),
      op.ForDataDisk h.found ∧ h.holding busy = true →
      Along (fun _ => True) op.Keeps
        (storeDataDiskFormatBusy false >>= fun _ => (pure err : ProviderProg ErrCode))
        (fun _ _ => True) h := by
    intro err h held h' since
    rw [← since.found, ← since.holding busy] at held
    refine ⟨⟨fun _ without => ?_, fun not' => absurd held.1 not'⟩, fun _ => trivial⟩
    rw [held.2] at without
    cases without
  intro h' since
  rw [← since.found] at for'
  refine ⟨⟨fun _ _ => writes_exchange, fun not' => absurd for' not'⟩, fun _ => ?_⟩
  change Along (fun _ => True) op.Keeps (if h'.now.dataDiskFormatBusy = true then pure E_BUSY
    else runAuthorized run) _ _
  split
  · trivial
  next free =>
    have free : h'.now.dataDiskFormatBusy = false := by simpa using free
    have start : op.ForDataDisk (History.found (.own h'
        { h'.now with dataDiskFormatBusy := true })) ∧
        History.holding busy (.own h' { h'.now with dataDiskFormatBusy := true }) = true := by
      refine ⟨for'.append [h'.now], ?_⟩
      rw [History.holding]
      simp only [busy, free]
      rfl
    rw [runAuthorized]
    refine along_seq (along_holding within_checkAdminAuthorization start) fun authRet h held => ?_
    split
    · exact gives authRet h held.1
    · refine along_seq (along_holding within held.1) fun err h held => ?_
      exact along_seq (along_holding within_invoke held.1) fun _ h held => gives err h held.1

/-- What a request knows after its lookup. -/
def FormatRequest.Decided (op : FormatRequest) (needAdminAuth : Bool) (h : ProviderHistory) :
    Prop :=
  if needAdminAuth then op.ForDataDisk h.found
  else ∃ seen, h.found = seen ∧ ∀ rest, ¬ op.ForDataDisk (seen ++ rest)

/-- The lookup of a disk settles whose request it is. -/
theorem along_isDataDiskByDiskId {diskId : CppString} {seen : List ProviderState}
    (fresh : h.found = seen) (before : ¬ op.ForDataDisk seen)
    (decides : ∀ s rest, op.ForDataDisk (seen ++ s :: rest) ↔ s.manager.DataDisk diskId) :
    Along (fun _ => True) op.Keeps (isDataDiskByDiskId diskId) op.Decided h := by
  rw [isDataDiskByDiskId, getDiskById, onManager_bind, onManager_read, along_bind]
  refine along_read_bind fun h' since => ?_
  have fresh : h'.found = seen := since.found.trans fresh
  refine ⟨⟨fun for' => absurd (fresh ▸ for') before,
    fun _ => not_writes_of_within fun _ => rfl⟩, ?_⟩
  have found : History.found (.own h' h'.now : ProviderHistory) = seen ++ [h'.now] := by
    rw [History.found, fresh]
  dsimp only
  cases there : h'.now.manager.diskMap[diskId]? with
  | none =>
      refine ⟨_, found, fun rest for' => ?_⟩
      rw [List.append_assoc, List.singleton_append, decides] at for'
      obtain ⟨disk, here, -⟩ := for'
      rw [there] at here
      cases here
  | some disk =>
      have internal : (attachVolumeIdsToDisk h'.now.manager.volumeMap disk).isInternalDataDisk =
          disk.isInternalDataDisk := rfl
      dsimp only
      rw [internal]
      cases data : disk.isInternalDataDisk with
      | false =>
          change op.Decided disk.isInternalDataDisk _
          rw [data]
          refine ⟨_, found, fun rest for' => ?_⟩
          rw [List.append_assoc, List.singleton_append, decides] at for'
          obtain ⟨other, here, is⟩ := for'
          rw [there, Option.some.injEq] at here
          rw [← here, data] at is
          cases is
      | true =>
          have for' : op.ForDataDisk (History.found (.own h' h'.now : ProviderHistory)) := by
            rw [found]
            exact (decides h'.now []).mpr ⟨disk, there, data⟩
          rw [if_pos rfl, queryAndAppendEncryptionStatusUnlocked]
          cases encryptionVolPath h'.now.manager.volumeMap
              (attachVolumeIdsToDisk h'.now.manager.volumeMap disk) with
          | none =>
              change op.Decided disk.isInternalDataDisk _
              rw [data]
              exact for'
          | some volPath =>
              intro h'' since'
              refine ⟨⟨fun _ _ => ⟨_, _, rfl⟩, fun not' => ?_⟩, fun r _ => ?_⟩
              · exact absurd (since'.found.symm ▸ for') not'
              · have kept : op.ForDataDisk (History.found (.answer h''
                    (.manager (.queryEncryptionExtraInfo
                      (attachVolumeIdsToDisk h'.now.manager.volumeMap disk).diskId volPath)) r :
                    ProviderHistory)) := by
                  rw [History.found, since'.found]
                  exact for'
                cases r with
                | none =>
                    change op.Decided disk.isInternalDataDisk _
                    rw [data]
                    exact kept
                | some extraInfo =>
                    change op.Decided disk.isInternalDataDisk _
                    rw [data]
                    exact kept

/-- The flag is dealt with as the lookup says. -/
theorem along_decided {need : Bool} {run : ProviderProg ErrCode}
    (within : Within (fun s s' => busy s' = busy s) run fun _ => True)
    (decided : op.Decided need h) :
    Along (fun _ => True) op.Keeps (guardDataDisk need run) (fun _ _ => True) h := by
  cases need with
  | true => exact along_guardDataDisk within decided
  | false =>
      obtain ⟨seen, same, never⟩ := decided
      exact along_elsewhere within never ⟨[], by rw [same, List.append_nil]⟩

theorem along_isDataDisk {volumeId fsType : CppString} (fresh : h.found = []) :
    Along (fun _ => True) (FormatRequest.Keeps (.format volumeId fsType)) (isDataDisk volumeId)
      (FormatRequest.Decided (.format volumeId fsType)) h := by
  rw [isDataDisk, getVolumeById, findVolume, onManager_read]
  refine along_read_bind fun h' since => ?_
  have fresh : h'.found = [] := since.found.trans fresh
  have found : History.found (.own h' h'.now : ProviderHistory) = [h'.now] := by
    rw [History.found, fresh, List.nil_append]
  refine ⟨⟨fun for' => ?_, fun _ => not_writes_of_within fun _ => rfl⟩, ?_⟩
  · rw [fresh] at for'
    exact for'.elim
  cases there : h'.now.manager.volumeMap[volumeId]? with
  | none =>
      refine ⟨_, found, fun rest for' => ?_⟩
      cases rest with
      | nil => exact for'
      | cons s rest =>
          obtain ⟨diskId, ⟨vol, here, -⟩, -⟩ := for'
          rw [there] at here
          cases here
  | some vol =>
      refine along_isDataDiskByDiskId found id fun s rest => ?_
      constructor
      · rintro ⟨diskId, ⟨other, here, rfl⟩, data⟩
        rw [there, Option.some.injEq] at here
        rwa [here]
      · exact fun data => ⟨vol.diskId, ⟨vol, there, rfl⟩, data⟩

variable [JsonLib]

theorem FormatRequest.along (op : FormatRequest) (s : ProviderState) :
    Along (fun _ => True) op.Keeps op.prog (fun _ _ => True) (.came s) := by
  have may : ∀ {f : Bool → ProviderProg ErrCode} {h : ProviderHistory}, h.found = [] →
      (∀ r (h : ProviderHistory), h.found = [] →
        Along (fun _ => True) op.Keeps (f r) (fun _ _ => True) h) →
      Along (fun _ => True) op.Keeps (mayCall PERMISSION_FORMAT_MANAGER >>= f) (fun _ _ => True)
        h := by
    intro f h fresh rest
    rw [mayCall, isStorageManagerCaller]
    refine along_bind.mpr (along_invoke_bind fresh fun caller h fresh => ?_)
    cases caller with
    | true => exact rest true h fresh
    | false => exact along_invoke fresh rest
  cases op with
  | format volumeId fsType =>
      change Along _ _ (Provider.format volumeId fsType) _ _
      rw [Provider.format]
      refine along_invoke_bind rfl fun system h fresh => ?_
      split
      · trivial
      refine may fresh fun allowed h fresh => ?_
      split
      · trivial
      split
      · trivial
      exact along_seq (along_isDataDisk fresh) fun need h decided =>
        along_decided (within_onManager _) decided
  | partition diskId type =>
      change Along _ _ (Provider.partition diskId type) _ _
      rw [Provider.partition]
      refine along_invoke_bind rfl fun system h fresh => ?_
      split
      · trivial
      refine may fresh fun allowed h fresh => ?_
      split
      · trivial
      split
      · trivial
      exact along_seq (along_isDataDiskByDiskId fresh id fun _ _ => Iff.rfl) fun need h decided =>
        along_decided (within_onManager _) decided

end

/-! ## Mutual exclusion -/

/-- The service with nothing in progress. -/
def idleProvider {W : Type} (manager : ManagerState) (w : W) :
    Tasks ℕ FormatRequest ProviderState W ProviderReq ProviderReq.Resp ErrCode :=
  ⟨fun _ => none, { ProviderState.boot with manager }, w⟩

/-- At most one request has the flag, the others for data disks are refused meanwhile, those for
other disks never touch it, and it is not set when nothing is in progress. -/
theorem data_disk_exclusion [JsonLib] {W : Type}
    {env : Env ProviderState W ProviderReq ProviderReq.Resp} {manager : ManagerState} {w : W}
    {c : Tasks ℕ FormatRequest ProviderState W ProviderReq ProviderReq.Resp ErrCode}
    (run : TaskRun (fun _ _ => True) FormatRequest.prog env (idleProvider manager w) c) :
    (∀ i j, c.Holder busy i → c.Holder busy j → i = j) ∧
    (∀ i j op past rest, c.Holder busy i → j ≠ i → c.pool j = some ⟨op, past, rest⟩ →
      op.ForDataDisk past.found → Held c.s rest) ∧
    (∀ j op past upd next, c.pool j = some ⟨op, past, .atomic upd next⟩ →
      ¬ op.ForDataDisk past.found → ¬ Writes busy upd) ∧
    (c.quiet → c.s.dataDiskFormatBusy = false) := by
  have quiet : (idleProvider manager w).quiet := fun _ => rfl
  have tokens := run.tokens quiet rfl FormatRequest.token
  refine ⟨fun i j => tokens.one, ?_, ?_, fun none' => ?_⟩
  · intro i j op past rest holds ne here for'
    have without : past.holding busy = false := by
      rw [← Bool.not_eq_true]
      exact fun held => ne (tokens.one ⟨_, here, held⟩ holds)
    cases rest with
    | done err => exact .done err
    | atomic upd next =>
        have tries := (run.entered quiet FormatRequest.along here).waits for' without
        obtain ⟨same, refused⟩ := tokens.refused holds ne here tries
        exact .refused tries same refused
    | call q next =>
        obtain ⟨diskId, volPath, rfl⟩ := (run.issued quiet FormatRequest.along here).waits for'
          without
        exact .lookup
  · exact fun j op past upd next here not' =>
      (run.entered quiet FormatRequest.along here).leaves not'
  · rw [← Bool.not_eq_true]
    intro set
    obtain ⟨i, task, there, -⟩ := tokens.set.mp set
    rw [none' i] at there
    cases there

/-- An internal data disk with one volume. -/
def dataDiskTables : ManagerState :=
  { ManagerState.boot with
    diskMap := (∅ : StdMap Disk).insert "disk-8-0" (Disk.create "disk-8-0" 0 "sda" DATA_DISK_SSD)
    volumeMap := (∅ : StdMap VolumeExternal).insert "vol-8-1"
      { id := "vol-8-1", diskId := "disk-8-0" } }

/-- A request to partition the disk is authorized when one to format its volume comes. -/
def twoFormats [JsonLib] :
    Tasks ℕ FormatRequest ProviderState Unit ProviderReq ProviderReq.Resp ErrCode :=
  Tasks.play FormatRequest.prog (fun w q => (grantingAnswer q, w)) (idleProvider dataDiskTables ())
    [.enter 0 (.partition "disk-8-0" 0), .run 0, .run 0, .run 0, .run 0,
      .enter 1 (.format "vol-8-1" "f2fs"), .run 1, .run 1, .run 1, .run 1]

theorem data_disk_exclusion_two :
    letI := tableJson
    twoFormats.Holder busy 0 ∧ ∀ j, twoFormats.Holder busy j → 0 = j := by
  let _ := tableJson
  have run : TaskRun (fun _ _ => True) FormatRequest.prog (fun _ _ _ _ _ => True)
      (idleProvider dataDiskTables ()) twoFormats := TaskRun.play (fun _ _ _ => trivial) .start _
  have holds : twoFormats.Holder busy 0 := ⟨_, rfl, by decide +kernel⟩
  exact ⟨holds, fun j => (data_disk_exclusion run).1 0 j holds⟩

end DiskManager
