import DiskManager.Provider.DataDisk
import DiskManager.Manager.Requests

/-!
# A data disk is formatted with authorization

A request for an internal data disk asks the authorization client for the privilege, and gives it
back. Whatever the others do meanwhile, such a request works on the disk only while it has the flag
and the privilege, and when it returns it has neither.
-/

namespace DiskManager

open Interact

/-! ## The privilege -/

/-- `OnResult` brings the authorization. -/
inductive Authorizes : (q : ProviderReq) → q.Resp → Prop
  | result (result : Int × Int) : authorizationCode result = AUTHORIZATION_SUCCESS →
    Authorizes .authorizationResult (some result)

/-- The privilege is given back. -/
inductive GivesBack : (q : ProviderReq) → q.Resp → Prop
  | release (privilege : CppString) (err : ErrCode) : GivesBack (.releaseAuthorization privilege) err

/-- The request has the flag and the privilege. -/
structure Cleared (h : ProviderHistory) : Prop where
  flag : h.holding busy = true
  authorized : h.Answered Authorizes
  kept : ¬ h.Answered GivesBack

/-- The request has neither, and has had none. -/
structure Unasked (h : ProviderHistory) : Prop where
  unauthorized : ¬ h.Answered Authorizes
  kept : ¬ h.Answered GivesBack

/-- The request does more than look up. -/
def ProviderReq.works : ProviderReq → Bool
  | .manager (.queryEncryptionExtraInfo ..) => false
  | .manager _ => true
  | _ => false

/-- A request for a data disk works on it, or changes what the manager knows, only when it is
cleared. -/
def FormatRequest.Permits (op : FormatRequest) (h : ProviderHistory) :
    Move ProviderState ProviderReq → Prop
  | .run upd => op.ForDataDisk h.found → Writes (·.manager) upd → Cleared h
  | .ask q => op.ForDataDisk h.found → q.works = true → Cleared h

/-- At the end the privilege is given back, and a success was authorized. -/
structure FormatRequest.Ended (op : FormatRequest) (err : ErrCode) (h : ProviderHistory) : Prop where
  released : h.Answered Authorizes → h.Answered GivesBack
  authorized : op.ForDataDisk h.found → err = E_OK → h.Answered Authorizes

theorem FormatRequest.Ended.other {op : FormatRequest} {err : ErrCode} {h : ProviderHistory}
    {s : ProviderState} (ended : op.Ended err h) : op.Ended err (.other h s) :=
  ⟨ended.released, ended.authorized⟩

/-! ## Lookups -/

/-- A question about the caller, or the one the lookup of a disk may ask. -/
def ProviderReq.looksUp : ProviderReq → Bool
  | .isCallingSystemApp => true
  | .verifyNativeCallerMatches .. => true
  | .verifyCallerPermission _ => true
  | .manager (.queryEncryptionExtraInfo ..) => true
  | _ => false

section

variable {op : FormatRequest} {α β : Type} {h : ProviderHistory}

theorem Unasked.answer {q : ProviderReq} {r : q.Resp} (unasked : Unasked h)
    (looks : q.looksUp = true) : Unasked (.answer h q r) := by
  refine ⟨?_, ?_⟩
  · rintro (now | before)
    · cases now
      cases looks
    · exact unasked.unauthorized before
  · rintro (now | before)
    · cases now
      cases looks
    · exact unasked.kept before

theorem not_works_of_looksUp {q : ProviderReq} (looks : q.looksUp = true) : q.works = false := by
  cases q with
  | manager q => cases q <;> first | rfl | cases looks
  | _ => rfl

theorem not_writes_of_same {upd : ProviderState → ProviderState} (same : ∀ s, upd s = s) :
    ¬ Writes (fun s : ProviderState => s.manager) upd :=
  fun ⟨s, changed⟩ => changed (congrArg _ (same s))

/-- A part that only looks up leaves everything as it is. -/
theorem along_looks {p : ProviderProg α} {kept : α → Prop}
    (asks : Asks (·.looksUp = true) p) (reads : Within (fun s s' => s' = s) p kept)
    (start : Unasked h) : Along (fun _ => True) op.Permits p (fun _ h => Unasked h) h := by
  refine along_mono (fun _ _ held => held.1)
    (along_of_parts Unasked asks reads ?_ ?_ ?_ ?_ ?_ start)
  · exact fun h upd _ same _ writes => absurd writes (not_writes_of_same same)
  · intro h q _ looks _ works
    rw [not_works_of_looksUp looks] at works
    cases works
  · exact fun h s held _ => ⟨held.unauthorized, held.kept⟩
  · exact fun h s held _ => ⟨held.unauthorized, held.kept⟩
  · exact fun h q r held looks => held.answer looks

theorem reads_onManager {p : ManagerProg α} {kept : α → Prop} (reads : Within Eq p kept) :
    Within (fun s s' => s' = s) (onManager p) kept :=
  within_lift_where reads fun s _ same => by rw [← same]

theorem asks_onManager {P : Req → Prop} {P' : ProviderReq → Prop} {p : ManagerProg α}
    (asks : Asks P p) (imp : ∀ q, P q → P' (.manager q)) : Asks P' (onManager p) :=
  asks_lift_where asks imp

theorem asks_isDataDiskByDiskId (diskId : CppString) :
    Asks (·.looksUp = true) (isDataDiskByDiskId diskId) := by
  rw [isDataDiskByDiskId]
  have query : Asks (fun q => (ProviderReq.manager q).looksUp = true) (getDiskById diskId) :=
    asks_getDiskById (fun _ _ => rfl) diskId
  refine asks_bind (asks_onManager query fun _ looks => looks) fun disk => ?_
  cases disk <;> trivial

theorem reads_isDataDiskByDiskId (diskId : CppString) :
    Within (fun s s' => s' = s) (isDataDiskByDiskId diskId) fun _ => True := by
  rw [isDataDiskByDiskId]
  refine within_seq (reads_onManager (reads_getDiskById diskId)) fun disk _ => ?_
  cases disk <;> trivial

theorem asks_isDataDisk (volumeId : CppString) :
    Asks (·.looksUp = true) (isDataDisk volumeId) := by
  rw [isDataDisk, getVolumeById, findVolume, onManager_read]
  refine asks_read_bind fun s => ?_
  cases s.manager.volumeMap[volumeId]? with
  | none => trivial
  | some vol => exact asks_isDataDiskByDiskId vol.diskId

theorem reads_isDataDisk (volumeId : CppString) :
    Within (fun s s' => s' = s) (isDataDisk volumeId) fun _ => True := by
  rw [isDataDisk, getVolumeById, findVolume]
  have looked : Within Eq (Prog.read fun s => s.volumeMap[volumeId]? :
      ManagerProg (Option VolumeExternal)) fun _ => True := fun _ => ⟨rfl, trivial⟩
  refine within_seq (reads_onManager looked) fun vol _ => ?_
  cases vol with
  | none => trivial
  | some vol => exact reads_isDataDiskByDiskId vol.diskId

/-! ## The flag and the privilege -/

/-- The flag is taken and nothing has been asked. -/
structure FormatRequest.Taken (op : FormatRequest) (h : ProviderHistory) : Prop where
  for' : op.ForDataDisk h.found
  flag : h.holding busy = true
  unasked : Unasked h

/-- The flag is taken and the privilege is there. -/
structure FormatRequest.Allowed (op : FormatRequest) (h : ProviderHistory) : Prop where
  for' : op.ForDataDisk h.found
  cleared : Cleared h

theorem holding_own {s : ProviderState} (same : busy s = busy h.now) :
    History.holding busy (.own h s) = h.holding busy := by
  rw [History.holding, if_pos same]

theorem Cleared.own {s : ProviderState} (cleared : Cleared h) (same : busy s = busy h.now) :
    Cleared (.own h s) :=
  ⟨(holding_own same).trans cleared.flag, cleared.authorized, cleared.kept⟩

theorem Cleared.answer {q : Req} {r : q.Resp} (cleared : Cleared h) :
    Cleared (.answer h (.manager q) r) := by
  refine ⟨cleared.flag, .inr cleared.authorized, ?_⟩
  rintro (now | before)
  · cases now
  · exact cleared.kept before

theorem FormatRequest.Allowed.other {s : ProviderState} (may : op.Allowed h) :
    op.Allowed (.other h s) :=
  ⟨may.for', may.cleared.1, may.cleared.2, may.cleared.3⟩

theorem FormatRequest.Taken.since {h' : ProviderHistory} {allowed : ProviderHistory → Prop}
    (taken : op.Taken h) (since : h.Since allowed h') : op.Taken h' :=
  since.invariant op.Taken (fun _ _ held _ => ⟨held.for', held.flag, held.unasked.1, held.unasked.2⟩)
    taken

theorem FormatRequest.Allowed.since {h' : ProviderHistory} {allowed : ProviderHistory → Prop}
    (may : op.Allowed h) (since : h.Since allowed h') : op.Allowed h' :=
  since.invariant op.Allowed (fun _ _ held _ => held.other) may

/-- What the request knows when the client has answered. -/
def FormatRequest.Answered (op : FormatRequest) (authRet : ErrCode) (h : ProviderHistory) : Prop :=
  if authRet = E_OK then op.Allowed h else op.Taken h

theorem along_checkAdminAuthorization (taken : op.Taken h) :
    Along (fun _ => True) op.Permits checkAdminAuthorization op.Answered h := by
  have denied : ∀ {h : ProviderHistory}, op.Taken h → op.Answered E_PERMISSION_DENIED h :=
    fun taken => by rwa [FormatRequest.Answered, if_neg (by decide)]
  rw [checkAdminAuthorization]
  intro h₁ since₁
  refine ⟨fun _ works => (by cases works), fun acquireRet _ => ?_⟩
  have taken := taken.since since₁
  have taken : op.Taken (.answer h₁ (.acquireAuthorization FORMAT_DATA_DISK_PRIVILEGE)
      acquireRet) := by
    refine ⟨taken.for', taken.flag, ?_, ?_⟩
    · rintro (now | before)
      · cases now
      · exact taken.unasked.unauthorized before
    · rintro (now | before)
      · cases now
      · exact taken.unasked.kept before
  change Along _ _ (if acquireRet ≠ E_OK then _ else _) _ _
  split
  · exact denied taken
  intro h₂ since₂
  refine ⟨fun _ works => (by cases works), fun result _ => ?_⟩
  have taken := taken.since since₂
  have kept : ¬ History.Answered GivesBack (.answer h₂ .authorizationResult result) := by
    rintro (now | before)
    · cases now
    · exact taken.unasked.kept before
  cases result with
  | none =>
      refine denied ⟨taken.for', taken.flag, ?_, kept⟩
      rintro (now | before)
      · cases now
      · exact taken.unasked.unauthorized before
  | some result =>
      change op.Answered (if authorizationCode result ≠ AUTHORIZATION_SUCCESS
        then E_PERMISSION_DENIED else E_OK) _
      split
      next refused =>
        refine denied ⟨taken.for', taken.flag, ?_, kept⟩
        rintro (now | before)
        · cases now
          contradiction
        · exact taken.unasked.unauthorized before
      next granted =>
        have granted : authorizationCode result = AUTHORIZATION_SUCCESS := by simpa using granted
        rw [FormatRequest.Answered, if_pos rfl]
        exact ⟨taken.for', taken.flag, .inl (.result result granted), kept⟩

/-- The flag is given back at the end. -/
theorem along_storeBusy {err : ErrCode} (ended : ∀ h' : ProviderHistory,
      h.Since (fun _ => True) h' → (h'.Answered Authorizes → h'.Answered GivesBack) ∧
        (err = E_OK → h'.Answered Authorizes)) :
    Along (fun _ => True) op.Permits
      (storeDataDiskFormatBusy false >>= fun _ => (pure err : ProviderProg ErrCode)) op.Ended h := by
  intro h₁ since₁
  refine ⟨fun _ writes => ?_, fun _ => ⟨(ended h₁ since₁).1, fun _ => (ended h₁ since₁).2⟩⟩
  obtain ⟨s, changed⟩ := writes
  exact absurd rfl changed

theorem along_release {err : ErrCode} (may : op.Allowed h) :
    Along (fun _ => True) op.Permits (invoke (.releaseAuthorization FORMAT_DATA_DISK_PRIVILEGE) >>=
      fun _ => storeDataDiskFormatBusy false >>= fun _ => pure err) op.Ended h := by
  intro h₁ since₁
  refine ⟨fun _ works => (by cases works), fun releaseRet _ => along_storeBusy fun h₂ since₂ => ?_⟩
  have may := may.since since₁
  have released := since₂.invariant
    (fun h => h.Answered Authorizes ∧ h.Answered GivesBack) (fun _ _ held _ => held)
    ⟨.inr may.cleared.authorized, .inl (.release _ releaseRet)⟩
  exact ⟨fun _ => released.2, fun _ => released.1⟩

/-- A request for a data disk works on it between the authorization and its release. -/
theorem along_runAuthorized {run : ManagerProg ErrCode} (taken : op.Taken h) :
    Along (fun _ => True) op.Permits (runAuthorized (onManager run)) op.Ended h := by
  have asks : Asks (fun q => ∃ q', q = .manager q') (onManager run) :=
    asks_lift run fun q => ⟨q, rfl⟩
  rw [runAuthorized]
  refine along_seq (along_checkAdminAuthorization taken) fun authRet h answered => ?_
  rw [FormatRequest.Answered] at answered
  split
  next refused =>
    rw [if_neg refused] at answered
    refine along_storeBusy fun h' since => ?_
    have taken := answered.since since
    exact ⟨fun has => absurd has taken.unasked.unauthorized, fun ok => absurd ok refused⟩
  next authorized =>
    rw [if_pos (not_not.mp authorized)] at answered
    have works : Along (fun _ => True) op.Permits (onManager run) (fun _ h => op.Allowed h) h := by
      refine along_mono (fun _ _ held => held.1)
        (along_of_parts op.Allowed asks (within_onManager run) ?_ ?_ ?_ ?_ ?_ answered)
      · exact fun h upd held _ _ _ => held.cleared
      · exact fun h q held _ _ _ => held.cleared
      · exact fun h s held same => ⟨held.for'.append [h.now], held.cleared.own same⟩
      · exact fun h s held _ => held.other
      · rintro h _ r held ⟨q, rfl⟩
        exact ⟨held.for', held.cleared.answer⟩
    exact along_seq works fun err h may => along_release may

/-- The flag is taken, or the request is refused. -/
theorem along_guardDataDisk_permits {run : ManagerProg ErrCode} (for' : op.ForDataDisk h.found)
    (unasked : Unasked h) :
    Along (fun _ => True) op.Permits (guardDataDisk true (onManager run)) op.Ended h := by
  intro h₁ since₁
  refine ⟨fun _ writes => ?_, fun _ => ?_⟩
  · obtain ⟨s, changed⟩ := writes
    exact absurd rfl changed
  have for' : op.ForDataDisk h₁.found := since₁.found.symm ▸ for'
  have unasked : Unasked h₁ := since₁.invariant Unasked (fun _ _ held _ => ⟨held.1, held.2⟩) unasked
  change Along (fun _ => True) op.Permits (if h₁.now.dataDiskFormatBusy = true then pure E_BUSY
    else runAuthorized (onManager run)) _ _
  split
  · exact ⟨fun has => absurd has unasked.unauthorized, fun _ ok => absurd ok (by decide)⟩
  next free =>
    have free : h₁.now.dataDiskFormatBusy = false := by simpa using free
    refine along_runAuthorized ⟨for'.append [h₁.now], ?_, unasked.1, unasked.2⟩
    rw [History.holding]
    simp only [busy, free]
    rfl

/-- A request for another disk has no privilege. -/
theorem along_elsewhere_permits {run : ManagerProg ErrCode} {seen : List ProviderState}
    (never : ∀ rest, ¬ op.ForDataDisk (seen ++ rest)) (found : h.found = seen)
    (unasked : Unasked h) :
    Along (fun _ => True) op.Permits (guardDataDisk false (onManager run)) op.Ended h := by
  have asks : Asks (fun q => ∃ q', q = .manager q') (onManager run) :=
    asks_lift run fun q => ⟨q, rfl⟩
  have not' : ∀ {h : ProviderHistory}, (∃ rest, h.found = seen ++ rest) →
      ¬ op.ForDataDisk h.found := by
    rintro h ⟨rest, same⟩
    rw [same]
    exact never rest
  refine along_mono ?_ (along_of_parts
    (fun h => (∃ rest, h.found = seen ++ rest) ∧ Unasked h) asks (within_onManager run) ?_ ?_ ?_
      ?_ ?_ ⟨⟨[], by rw [found, List.append_nil]⟩, unasked⟩)
  · rintro err h ⟨⟨rest, unasked⟩, -⟩
    exact ⟨fun has => absurd has unasked.unauthorized, fun for' => absurd for' (not' rest)⟩
  · exact fun h upd held _ for' => absurd for' (not' held.1)
  · exact fun h q held _ for' => absurd for' (not' held.1)
  · rintro h s ⟨⟨rest, same⟩, unasked⟩ -
    refine ⟨⟨rest ++ [h.now], ?_⟩, unasked.1, unasked.2⟩
    rw [History.found, same, List.append_assoc]
  · exact fun h s held _ => ⟨held.1, held.2.1, held.2.2⟩
  · rintro h _ r ⟨found, unasked⟩ ⟨q, rfl⟩
    refine ⟨found, ?_, ?_⟩
    · rintro (now | before)
      · cases now
      · exact unasked.unauthorized before
    · rintro (now | before)
      · cases now
      · exact unasked.kept before

/-- The end of a request, when the lookup has decided whose disk it is. -/
theorem along_decided_permits {need : Bool} {run : ManagerProg ErrCode} (decided : op.Decided need h)
    (unasked : Unasked h) :
    Along (fun _ => True) op.Permits (guardDataDisk need (onManager run)) op.Ended h := by
  cases need with
  | true => exact along_guardDataDisk_permits decided unasked
  | false =>
      obtain ⟨seen, same, never⟩ := decided
      exact along_elsewhere_permits never same unasked

/-- A lookup and what follows from it. -/
theorem along_lookup {lookup : ProviderProg Bool} {kept : Bool → Prop} {run : ManagerProg ErrCode}
    (decides : Along (fun _ => True) op.Keeps lookup op.Decided h)
    (asks : Asks (·.looksUp = true) lookup) (reads : Within (fun s s' => s' = s) lookup kept)
    (unasked : Unasked h) :
    Along (fun _ => True) op.Permits
      (lookup >>= fun need => guardDataDisk need (onManager run)) op.Ended h := by
  have looks : Along (fun _ => True) op.Permits lookup (fun _ h => Unasked h) h :=
    along_looks asks reads unasked
  have known := (decides.and looks).weaken fun _ _ fine => fine.2
  exact along_seq known fun need h ended => along_decided_permits ended.1 ended.2

/-- Nothing has been looked up and nothing has been asked for. -/
structure Unstarted (h : ProviderHistory) : Prop where
  found : h.found = []
  unasked : Unasked h

theorem along_look_bind {q : ProviderReq} {f : q.Resp → ProviderProg β}
    {post : β → ProviderHistory → Prop} (looks : q.looksUp = true) (fresh : Unstarted h)
    (rest : ∀ r h, Unstarted h → Along (fun _ => True) op.Permits (f r) post h) :
    Along (fun _ => True) op.Permits (invoke q >>= f) post h := by
  intro h' since
  have fresh : Unstarted h' := since.invariant Unstarted
    (fun _ _ held _ => ⟨held.found, held.unasked.1, held.unasked.2⟩) fresh
  refine ⟨fun _ works => ?_, fun r _ => rest r _ ⟨fresh.found, fresh.unasked.answer looks⟩⟩
  rw [not_works_of_looksUp looks] at works
  cases works

theorem along_mayCall_bind {f : Bool → ProviderProg β} {permissionName : CppString}
    {post : β → ProviderHistory → Prop} (fresh : Unstarted h)
    (rest : ∀ r h, Unstarted h → Along (fun _ => True) op.Permits (f r) post h) :
    Along (fun _ => True) op.Permits (mayCall permissionName >>= f) post h := by
  rw [mayCall, isStorageManagerCaller]
  refine along_bind.mpr (along_look_bind rfl fresh fun caller h fresh => ?_)
  cases caller with
  | true => exact rest true h fresh
  | false =>
      have asked : Along (fun _ => True) op.Permits
          (invoke (.verifyCallerPermission permissionName) >>= f) post h :=
        along_look_bind rfl fresh rest
      exact along_bind.mp asked

/-- A request that is refused before its lookup. -/
theorem Unstarted.ended {err : ErrCode} (fresh : Unstarted h) (failed : err ≠ E_OK) : op.Ended err h :=
  ⟨fun has => absurd has fresh.unasked.unauthorized, fun _ ok => absurd ok failed⟩

variable [JsonLib]

theorem FormatRequest.permits (op : FormatRequest) (s : ProviderState) :
    Along (fun _ => True) op.Permits op.prog op.Ended (.came s) := by
  have start : Unstarted (.came s) := ⟨rfl, id, id⟩
  cases op with
  | format volumeId fsType =>
      change Along _ _ (Provider.format volumeId fsType) _ _
      rw [Provider.format]
      refine along_look_bind rfl start fun system h fresh => ?_
      split
      · exact fresh.ended (by decide)
      refine along_mayCall_bind fresh fun may h fresh => ?_
      split
      · exact fresh.ended (by decide)
      split
      · exact fresh.ended (by decide)
      exact along_lookup (along_isDataDisk fresh.found) (asks_isDataDisk volumeId)
        (reads_isDataDisk volumeId) fresh.unasked
  | partition diskId type =>
      change Along _ _ (Provider.partition diskId type) _ _
      rw [Provider.partition]
      refine along_look_bind rfl start fun system h fresh => ?_
      split
      · exact fresh.ended (by decide)
      refine along_mayCall_bind fresh fun may h fresh => ?_
      split
      · exact fresh.ended (by decide)
      split
      · exact fresh.ended (by decide)
      exact along_lookup (along_isDataDiskByDiskId fresh.found id fun _ _ => Iff.rfl)
        (asks_isDataDiskByDiskId diskId) (reads_isDataDiskByDiskId diskId) fresh.unasked

end

/-! ## Every interleaving -/

/-- Whatever runs beside it, a request for a data disk makes a request that is more than a lookup, or
changes what the manager knows, only while it has the flag and the privilege. When it returns it has
given both back, and if it succeeded it had been authorized. -/
theorem data_disk_authorized [JsonLib] {W : Type}
    {env : Env ProviderState W ProviderReq ProviderReq.Resp} {manager : ManagerState} {w : W}
    {c : Tasks ℕ FormatRequest ProviderState W ProviderReq ProviderReq.Resp ErrCode}
    (run : TaskRun (fun _ _ => True) FormatRequest.prog env (idleProvider manager w) c) {i : ℕ}
    {op : FormatRequest} {past : ProviderHistory} {rest : ProviderProg ErrCode}
    (there : c.pool i = some ⟨op, past, rest⟩) (for' : op.ForDataDisk past.found) :
    (∀ q next, rest = .call q next → q.works = true → Cleared past) ∧
    (∀ upd next, rest = .atomic upd next → Writes (·.manager) upd → Cleared past) ∧
    ∀ err, rest = .done err → past.holding busy = false ∧
      (past.Answered Authorizes → past.Answered GivesBack) ∧
      (err = E_OK → past.Answered Authorizes) := by
  have quiet : (idleProvider manager w).quiet := fun _ => rfl
  have owed : Along (fun _ => True) op.Permits rest op.Ended past :=
    run.owed quiet (fun _ _ _ _ ended _ => ended.other) FormatRequest.permits there
  refine ⟨?_, ?_, ?_⟩
  · rintro q next rfl works
    exact (owed past .refl).1 for' works
  · rintro upd next rfl writes
    exact (owed past .refl).1 for' writes
  · rintro err rfl
    have ended : op.Ended err past := owed
    have unset : past.holding busy = false :=
      (run.tokens quiet rfl FormatRequest.token).each there
    exact ⟨unset, ended.released, ended.authorized for'⟩

/-- A request to partition the disk, up to its first request to storage_daemon. -/
def authorizedPartition [JsonLib] :
    Tasks ℕ FormatRequest ProviderState Unit ProviderReq ProviderReq.Resp ErrCode :=
  Tasks.play FormatRequest.prog (fun w q => (grantingAnswer q, w)) (idleProvider dataDiskTables ())
    (.enter 0 (.partition "disk-8-0" 0) :: List.replicate 13 (.run 0))

/-- The request of slot 0 works on an internal data disk. -/
def worksOnDataDisk
    (c : Tasks ℕ FormatRequest ProviderState Unit ProviderReq ProviderReq.Resp ErrCode) : Bool :=
  match c.pool 0 with
  | some ⟨.partition diskId _, past, .call q _⟩ =>
      q.works && past.found.head?.any fun s => s.manager.diskMap[diskId]?.any (·.isInternalDataDisk)
  | _ => false

theorem worksOnDataDisk_task
    {c : Tasks ℕ FormatRequest ProviderState Unit ProviderReq ProviderReq.Resp ErrCode}
    (works : worksOnDataDisk c = true) :
    ∃ op past q next, c.pool 0 = some ⟨op, past, .call q next⟩ ∧ op.ForDataDisk past.found ∧
      q.works = true := by
  unfold worksOnDataDisk at works
  split at works
  next diskId type past q next here =>
    rw [Bool.and_eq_true] at works
    obtain ⟨does, data⟩ := works
    refine ⟨_, past, q, next, here, ?_, does⟩
    cases found : past.found with
    | nil =>
        rw [found] at data
        cases data
    | cons s rest =>
        rw [found, List.head?_cons, Option.any_some, Option.any_eq_true] at data
        obtain ⟨disk, there, is⟩ := data
        exact ⟨disk, there, is⟩
  · cases works

theorem authorizedPartition_works :
    letI := tableJson
    worksOnDataDisk authorizedPartition = true := by
  decide +kernel

theorem authorizedPartition_run :
    letI := tableJson
    TaskRun (fun _ _ => True) FormatRequest.prog (fun _ _ _ _ _ => True)
      (idleProvider dataDiskTables ()) authorizedPartition := by
  let _ := tableJson
  unfold authorizedPartition
  exact TaskRun.play (fun _ _ _ => trivial) .start _

theorem data_disk_authorized_partition :
    letI := tableJson
    ∃ op past q next, authorizedPartition.pool 0 = some ⟨op, past, .call q next⟩ ∧
      q.works = true ∧ Cleared past := by
  let _ := tableJson
  obtain ⟨op, past, q, next, there, for', works⟩ := worksOnDataDisk_task authorizedPartition_works
  obtain ⟨asked, -, -⟩ := data_disk_authorized authorizedPartition_run there for'
  exact ⟨op, past, q, next, there, works, asked q next rfl works⟩

end DiskManager
