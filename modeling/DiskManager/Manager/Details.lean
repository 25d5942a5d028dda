import DiskManager.Interact.Undisturbed
import DiskManager.Manager.Filed
import DiskManager.Manager.Interleave

/-!
# Fields that other requests write

`Mount`, `TryToFix` and `MountVolumeByPath` copy a record, work on the copy and write the whole copy
back; `SetVolumeDescription`, `UpdateVolumeMetadata`, `SetVolumeDiscState` and
`DestroyDmCryptVolume` write single fields meanwhile. `updates_kept` says when what they wrote is
still there at the end, for every interleaving; `update_lost_relabelled` is an interleaving in which
it is not.
-/

namespace DiskManager

open Interact

/-! ## The fields -/

/-- The fields of a record that the field writers write. -/
structure Details : Type where
  description : CppString
  fsUuid : CppString
  fsType : FsType
  extraInfo : CppString
  mapperPath : CppString

def VolumeExternal.details (r : VolumeExternal) : Details :=
  ⟨r.description, r.fsUuid, r.fsType, r.extraInfo, r.mapperPath⟩

inductive Field : Type
  | description
  | fsUuid
  | fsType
  | extraInfo
  | mapperPath
deriving DecidableEq

@[reducible] def Field.Value : Field → Type
  | .fsType => FsType
  | _ => CppString

def Field.value : (f : Field) → Details → f.Value
  | .description, d => d.description
  | .fsUuid, d => d.fsUuid
  | .fsType, d => d.fsType
  | .extraInfo, d => d.extraInfo
  | .mapperPath, d => d.mapperPath

/-- A mount fills the field: `EnsureFsUuidReady` gives a volume without uuid its uuid, type and
label, `ApplyDefaultVolumeDescriptionIfUnset` a volume without description a description. -/
def Field.Unset (d : Details) : Field → Prop
  | .description => d.fsUuid = [] ∨ d.description = []
  | .fsUuid => d.fsUuid = []
  | .fsType => d.fsUuid = []
  | .extraInfo => False
  | .mapperPath => False

/-- The fields `InitVolume` gives a volume that is mounted by its path. -/
def Field.fromMetadata : Field → Prop
  | .description => True
  | .fsUuid => True
  | .fsType => True
  | .extraInfo => False
  | .mapperPath => False

/-- The fields of volume `v`, when there is a record. -/
def watchDetails (v : CppString) (s : ManagerState) : Option Details :=
  s.volumeMap[v]?.map (·.details)

def watchField (v : CppString) (f : Field) (s : ManagerState) : Option f.Value :=
  (watchDetails v s).map f.value

theorem CoreKept.watchDetails {s s' : ManagerState} (kept : CoreKept s s') (v : CppString) :
    DiskManager.watchDetails v s' = DiskManager.watchDetails v s :=
  kept.field VolumeExternal.details (fun _ => rfl) v

theorem watchDetails_updateVolume_ne {v k : CppString} {s : ManagerState}
    {f : VolumeExternal → VolumeExternal} (ne : k ≠ v) :
    watchDetails v (s.updateVolume k f) = watchDetails v s := by
  unfold watchDetails
  rw [ManagerState.get_updateVolume_ne ne]

/-! ## Moves -/

/-- A section of the operation changes no field but those in `φ'`; to the fields in `φ`, which it
set so far, it adds only such as it finds unset. -/
structure SetsOnly (v : CppString) (φ : Field → Prop) (upd : ManagerState → ManagerState)
    (s : ManagerState) (φ' : Field → Prop) : Prop where
  grows : ∀ {f}, φ f → φ' f
  unset : ∀ {f}, φ' f → φ f ∨ ∃ d, watchDetails v s = some d ∧ f.Unset d
  kept : ∀ {f}, ¬ φ' f → watchField v f (upd s) = watchField v f s

theorem SetsOnly.stay {v : CppString} {φ : Field → Prop} {upd : ManagerState → ManagerState}
    {s : ManagerState} (same : watchDetails v (upd s) = watchDetails v s) :
    SetsOnly v φ upd s φ where
  grows set := set
  unset := .inl
  kept _ := by rw [watchField, same, watchField]

/-- The copy an operation works on, against the record it is a copy of: outside `φ` they agree,
but for fields that the record does not have yet. -/
def Copied (v : CppString) (φ : Field → Prop) (x : Option Details) (copy : VolumeExternal) : Prop :=
  copy.id = v → ∀ d, x = some d → ∀ f : Field, ¬ φ f →
    f.value copy.details = f.value d ∨ f.Unset d

/-- The fields of an operation on volume `id` once it filled in what was unset. -/
def filled (v id : CppString) (φ : Field → Prop) (x : Option Details) (f : Field) : Prop :=
  φ f ∨ id = v ∧ ∃ d, x = some d ∧ f.Unset d

theorem SetsOnly.filled {v id : CppString} {φ : Field → Prop} {s : ManagerState}
    {upd : ManagerState → ManagerState}
    (kept : ∀ {f}, ¬ filled v id φ (watchDetails v s) f →
      watchField v f (upd s) = watchField v f s) :
    SetsOnly v φ upd s (DiskManager.filled v id φ (watchDetails v s)) where
  grows set := .inl set
  unset := fun
    | .inl set => .inl set
    | .inr ⟨_, open'⟩ => .inr open'
  kept := kept

theorem Copied.same {v : CppString} {φ : Field → Prop} {x : Option Details}
    {vol vol' : VolumeExternal} (copied : Copied v φ x vol) (id : vol'.id = vol.id)
    (details : vol'.details = vol.details) : Copied v φ x vol' := by
  intro here d record f free
  rw [details]
  exact copied (id.symm.trans here) d record f free

theorem Copied.worked {v : CppString} {φ : Field → Prop} {x : Option Details}
    {vol vol' : VolumeExternal} (copied : Copied v φ x vol) (worked : Worked vol vol') :
    Copied v φ x vol' := by
  intro here d record f free
  have before := copied (worked.id.symm.trans here) d record f free
  obtain ⟨state, path, flags, description, rfl, kept⟩ := worked
  cases f with
  | description =>
      by_cases empty : vol.description = []
      · rcases before with same | unset
        · exact .inr (.inr (same.symm.trans empty))
        · exact .inr unset
      · rcases before with same | unset
        · exact .inl ((kept empty).trans same)
        · exact .inr unset
  | fsUuid => exact before
  | fsType => exact before
  | extraInfo => exact before
  | mapperPath => exact before

/-- A copy made just now. -/
theorem Copied.fresh {v : CppString} {φ : Field → Prop} {s : ManagerState} {vol : VolumeExternal}
    (found : s.volumeMap[vol.id]? = some vol) : Copied v φ (watchDetails v s) vol := by
  intro here d record f _
  subst here
  rw [watchDetails, found] at record
  cases record
  exact .inl rfl

/-! ## Rules -/

/-- What an operation does to the fields of `v` while nobody else writes them. -/
abbrev SetsSole {α : Type} (v : CppString) (p : ManagerProg α) (φ : Field → Prop)
    (x : Option Details) (post : α → (Field → Prop) → Option Details → Prop) : Prop :=
  Sole (watchDetails v) KeyIds (SetsOnly v) p φ x post

section Rules

variable {v : CppString} {φ : Field → Prop} {x : Option Details} {α β : Type}
  {post : β → (Field → Prop) → Option Details → Prop}

theorem sole_core {p : ManagerProg α} {kept : α → Prop} (within : Within CoreKept p kept) :
    SetsSole v p φ x fun a φ' x' => φ' = φ ∧ x' = x ∧ kept a :=
  sole_of_within (within_weaken within fun core => core.watchDetails v) fun _ _ => .stay

theorem sole_core_bind {p : ManagerProg α} {f : α → ManagerProg β} {kept : α → Prop}
    (within : Within CoreKept p kept) (rest : ∀ a, kept a → SetsSole v (f a) φ x post) :
    SetsSole v (p >>= f) φ x post := by
  refine sole_seq (sole_core within) fun a φ' x' ended => ?_
  obtain ⟨rfl, rfl, held⟩ := ended
  exact rest a held

theorem sole_call_bind {q : Req} {f : q.Resp → ManagerProg β}
    (rest : ∀ r, SetsSole v (f r) φ x post) : SetsSole v (call q >>= f) φ x post :=
  sole_bind.mpr rest

theorem sole_read_bind {g : ManagerState → α} {f : α → ManagerProg β}
    (rest : ∀ s, KeyIds s → watchDetails v s = x → SetsSole v (f (g s)) φ x post) :
    SetsSole v (Prog.read g >>= f) φ x post := by
  refine sole_bind.mpr fun s ids here => ⟨φ, .stay rfl, ?_⟩
  have after := rest s ids here
  rw [← here] at after
  exact after

theorem sole_updateVolume_bind {k : CppString} {g : VolumeExternal → VolumeExternal}
    {f : Unit → ManagerProg β} (part : ∀ r, (g r).core = r.core)
    (rest : SetsSole v (f ()) φ x post) : SetsSole v (updateVolume k g >>= f) φ x post := by
  have within : Within CoreKept (updateVolume k g) fun _ => True :=
    fun s => ⟨.updateVolume part, trivial⟩
  exact sole_core_bind within fun _ _ => rest

/-- The fields after the copy was written over the record. -/
theorem watchField_writeBack {copy : VolumeExternal} {s : ManagerState}
    (copied : Copied v φ (watchDetails v s) copy) {f : Field}
    (free : ¬ filled v copy.id φ (watchDetails v s) f) :
    watchField v f (s.updateVolume copy.id fun _ => copy) = watchField v f s := by
  by_cases mine : copy.id = v
  · subst mine
    cases record : s.volumeMap[copy.id]? with
    | none => simp [watchField, watchDetails, record]
    | some r =>
        have here : watchDetails copy.id s = some r.details := by simp [watchDetails, record]
        have open' : ¬ f.Unset r.details := fun unset => free (.inr ⟨rfl, _, here, unset⟩)
        have same := (copied rfl _ here f fun set => free (.inl set)).resolve_right open'
        simp [watchField, watchDetails, record, same]
  · rw [watchField, watchDetails_updateVolume_ne mine, watchField]

/-- The copy is written over the record. -/
theorem sole_writeBack_bind {copy : VolumeExternal} {f : Bool → ManagerProg β}
    (copied : Copied v φ x copy) (rest : ∀ found φ' x', SetsSole v (f found) φ' x' post) :
    SetsSole v (updateVolumeIfFound copy.id (fun _ => copy) >>= f) φ x post := by
  refine sole_bind.mpr fun s _ here => ?_
  subst here
  exact ⟨filled v copy.id φ (watchDetails v s), .filled (watchField_writeBack copied),
    rest _ _ _⟩

/-- The copy may be written over the record. -/
theorem sole_writeBack {copy : VolumeExternal} {g : ManagerState → α × ManagerState}
    (copied : Copied v φ x copy)
    (choice : ∀ s, (g s).2 = s ∨ (g s).2 = s.updateVolume copy.id fun _ => copy) :
    SetsSole v (Prog.atomically g) φ x fun _ _ _ => True := by
  intro s _ here
  subst here
  rcases choice s with same | written
  · exact ⟨φ, .stay (congrArg (watchDetails v) same), trivial⟩
  · refine ⟨filled v copy.id φ (watchDetails v s), .filled ?_, trivial⟩
    intro f free
    rw [written]
    exact watchField_writeBack copied free

end Rules

/-! ## The operations -/

/-- Where the uuid is set, so are label and type. -/
def UuidLast (φ : Field → Prop) : Prop := φ .fsUuid → φ .description ∧ φ .fsType

/-- The section of `EnsureFsUuidReady`: the record gets its uuid, the copy also label and type. -/
theorem sole_setUuid_bind {v : CppString} {φ : Field → Prop} {x : Option Details} {β : Type}
    {post : β → (Field → Prop) → Option Details → Prop} {vol : VolumeExternal}
    {uuid : ManagerState → CppString} {f : CppString → ManagerProg β} {label : CppString}
    {fsType : FsType} (empty : vol.fsUuid = []) (last : UuidLast φ) (copied : Copied v φ x vol)
    (rest : ∀ fsUuid φ' x', Copied v φ' x' { vol with fsUuid, description := label, fsType } →
      SetsSole v (f fsUuid) φ' x' post) :
    SetsSole v (Prog.atomically (fun s => (uuid s, s.updateVolume vol.id fun r =>
      { r with fsUuid := uuid s })) >>= f) φ x post := by
  refine sole_bind.mpr fun s _ here => ?_
  subst here
  by_cases mine : vol.id = v
  · subst mine
    cases record : s.volumeMap[vol.id]? with
    | none =>
        have gone : watchDetails vol.id s = none := by simp [watchDetails, record]
        have gone' : watchDetails vol.id (s.updateVolume vol.id fun r =>
            { r with fsUuid := uuid s }) = none := by simp [watchDetails, record]
        refine ⟨φ, .stay (gone'.trans gone.symm), rest _ _ _ ?_⟩
        intro _ d there
        dsimp only at there
        rw [gone'] at there
        cases there
    | some r =>
        have before : watchDetails vol.id s = some r.details := by simp [watchDetails, record]
        have after : watchDetails vol.id (s.updateVolume vol.id fun r =>
            { r with fsUuid := uuid s }) = some { r.details with fsUuid := uuid s } := by
          simp [watchDetails, record, VolumeExternal.details]
        -- The record has no uuid either, unless the operation already set it.
        have unset : ¬ φ .fsUuid → r.fsUuid = [] := by
          intro free
          rcases copied rfl _ before .fsUuid free with same | unset
          · exact same.symm.trans empty
          · exact unset
        refine ⟨filled vol.id vol.id φ (watchDetails vol.id s), .filled ?_, rest _ _ _ ?_⟩
        · intro f free
          have free' : ¬ φ f := fun set => free (.inl set)
          have open' : ¬ f.Unset r.details := fun unset => free (.inr ⟨rfl, _, before, unset⟩)
          rw [watchField, watchField, after, before]
          cases f with
          | fsUuid => exact absurd (unset free') open'
          | description => rfl
          | fsType => rfl
          | extraInfo => rfl
          | mapperPath => rfl
        · intro _ d there f free
          dsimp only at there
          rw [after] at there
          cases there
          have free' : ¬ φ f := fun set => free (.inl set)
          have open' : ¬ f.Unset r.details := fun unset => free (.inr ⟨rfl, _, before, unset⟩)
          cases f with
          | fsUuid => exact .inl rfl
          | description => exact absurd (.inl (unset fun set => free' (last set).1)) open'
          | fsType => exact absurd (unset fun set => free' (last set).2) open'
          | extraInfo => exact copied rfl _ before .extraInfo free'
          | mapperPath => exact copied rfl _ before .mapperPath free'
  · refine ⟨φ, .stay (watchDetails_updateVolume_ne mine), rest _ _ _ ?_⟩
    intro same
    exact absurd same mine

section

variable [JsonLib] {v : CppString} {φ : Field → Prop} {x : Option Details}

omit [JsonLib] in
theorem sole_ensureFsUuidReady {vol : VolumeExternal} (last : UuidLast φ)
    (copied : Copied v φ x vol) :
    SetsSole v (ensureFsUuidReady vol) φ x fun result φ' x' =>
      result.2.1.id = vol.id ∧ Copied v φ' x' result.2.1 := by
  rw [ensureFsUuidReady]
  dsimp only
  split
  · exact ⟨rfl, copied⟩
  next empty =>
    have empty : vol.fsUuid = [] := by simpa using empty
    apply sole_call_bind
    intro metadata
    split
    · exact ⟨rfl, copied⟩
    split
    · exact ⟨rfl, copied⟩
    · exact sole_setUuid_bind empty last copied fun fsUuid φ' x' copied => ⟨rfl, copied⟩

theorem sole_mountVolumeEntry {vol : VolumeExternal} {volumeId : CppString} {readOnly : Bool}
    (last : UuidLast φ) (copied : Copied v φ x vol) :
    SetsSole v (mountVolumeEntry vol volumeId readOnly) φ x fun result φ' x' =>
      result.2.id = vol.id ∧ Copied v φ' x' result.2 := by
  rw [mountVolumeEntry]
  refine sole_seq (sole_ensureFsUuidReady last copied) fun result φ x ready => ?_
  obtain ⟨uuidErr, vol', fsUuid⟩ := result
  obtain ⟨id, copied⟩ : vol'.id = vol.id ∧ Copied v φ x vol' := ready
  dsimp only
  split
  · exact ⟨id, copied.same rfl rfl⟩
  refine sole_core_bind (within_computeVolumeMountPolicy _ _) fun policy _ => ?_
  have mounted : ∀ vol'' : VolumeExternal, vol''.id = vol.id → Copied v φ x vol'' →
      SetsSole v (mountCheckedVolume vol'' vol'.fsType.getFsTypeString fsUuid readOnly) φ x
        fun result φ' x' => result.2.id = vol.id ∧ Copied v φ' x' result.2 := by
    intro vol'' id copied
    refine sole_mono ?_ (sole_core (within_mountCheckedVolume _ _ _ _))
    rintro result φ' x' ⟨rfl, rfl, worked⟩
    exact ⟨worked.id.trans id, copied.worked worked⟩
  split
  · refine sole_core_bind (within_checkBeforeMount _ _ _) fun result checked => ?_
    obtain ⟨checkErr, vol''⟩ := result
    obtain ⟨state, checked⟩ := checked
    have checked : vol'' = { vol' with state } := checked
    subst checked
    dsimp only
    split
    · exact ⟨id, copied.same rfl rfl⟩
    · exact mounted _ id (copied.same rfl rfl)
  · exact mounted _ id copied

omit [JsonLib] in
theorem sole_mountVolumeByPath {diskId volPath : CppString} {mountParam : MountParam}
    (sets : ∀ f : Field, f.fromMetadata → φ f) :
    SetsSole v (mountVolumeByPath diskId volPath mountParam) φ x fun _ _ _ => True := by
  rw [mountVolumeByPath]
  refine sole_core_bind (within_getDiskById _) fun disk _ => ?_
  split
  · trivial
  split
  · trivial
  rw [lookupVolumeByCryptPath]
  refine sole_read_bind fun s ids here => ?_
  split
  · trivial
  next vol found =>
    have copied : Copied v φ x vol := by
      rw [← here]
      exact .fresh (ids.lookup found)
    split
    · trivial
    refine sole_core_bind (within_readPersistUsbReadonlyMountFlagBits _) fun flag _ => ?_
    dsimp only
    refine sole_core_bind (within_initAndMountVolume _ _ _) fun result made => ?_
    obtain ⟨res, vol'⟩ := result
    obtain ⟨fsUuid, description, fsType, path, made⟩ := made
    have made : vol' = { vol with fsUuid, description, fsType, path } := made
    subst made
    dsimp only
    split
    · trivial
    rw [updateVolumeExternal]
    refine sole_bind.mpr (sole_writeBack_bind ?_ fun found φ' x' => ?_)
    · intro id d record f free
      cases f with
      | description => exact absurd (sets .description trivial) free
      | fsUuid => exact absurd (sets .fsUuid trivial) free
      | fsType => exact absurd (sets .fsType trivial) free
      | extraInfo => exact copied id d record .extraInfo free
      | mapperPath => exact copied id d record .mapperPath free
    · have rest : ∀ (err : ErrCode) copy, SetsSole v (if err ≠ E_OK then pure err else do
          call (.publishVolumeChange .mounted copy)
          return E_OK) φ' x' fun _ _ _ => True := by
        intro err copy
        split
        · trivial
        · exact sole_call_bind fun _ => trivial
      split
      · exact rest _ _
      · exact rest _ _

theorem sole_mount {volumeId : CppString} {mountParam : MountParam} (last : UuidLast φ)
    (crypt : CppString.startsWith volumeId CRYPT_VOLUME_PREFIX = true →
      ∀ f : Field, f.fromMetadata → φ f) :
    SetsSole v (mount volumeId mountParam) φ x fun _ _ _ => True := by
  rw [mount]
  apply sole_call_bind
  intro disabled
  split
  · trivial
  rw [findVolume]
  refine sole_read_bind fun s ids here => ?_
  split
  · trivial
  next vol found =>
    have id := ids volumeId vol found
    subst id
    have copied : Copied v φ x vol := by
      rw [← here]
      exact .fresh found
    split
    · trivial
    refine sole_core_bind (within_checkVolId _) fun devPath _ => ?_
    apply sole_call_bind
    intro enabled
    split
    · trivial
    split
    next byPath =>
      have both := Bool.and_eq_true_iff.mp byPath
      exact sole_mountVolumeByPath (crypt both.2)
    refine sole_seq (sole_mountVolumeEntry last copied) fun result φ x ended => ?_
    obtain ⟨mountErr, copy⟩ := result
    obtain ⟨id, copied⟩ : copy.id = vol.id ∧ Copied v φ x copy := ended
    rw [← id]
    refine sole_writeBack copied fun s => ?_
    split
    · exact .inl rfl
    split
    · exact .inl rfl
    · exact .inr rfl

theorem sole_fixUnmounted {vol : VolumeExternal} (last : UuidLast φ) (copied : Copied v φ x vol) :
    SetsSole v (fixUnmounted vol vol.id) φ x fun _ _ _ => True := by
  rw [fixUnmounted]
  refine sole_core_bind (within_repairAndCheckVolume _ _) fun result repaired => ?_
  obtain ⟨rcErr, vol'⟩ := result
  obtain ⟨state, repaired⟩ := repaired
  have repaired : vol' = { vol with state } := repaired
  subst repaired
  dsimp only
  split
  · trivial
  refine sole_seq (sole_mountVolumeEntry last (copied.same rfl rfl)) fun result φ x ended => ?_
  obtain ⟨mountErr, copy⟩ := result
  obtain ⟨id, copied⟩ : copy.id = vol.id ∧ Copied v φ x copy := ended
  rw [← id]
  refine sole_writeBack_bind copied fun found φ' x' => ?_
  split
  · trivial
  · trivial

theorem sole_tryToFix {volumeId : CppString} (last : UuidLast φ) :
    SetsSole v (tryToFix volumeId) φ x fun _ _ _ => True := by
  rw [tryToFix, findVolume]
  refine sole_read_bind fun s ids here => ?_
  split
  · trivial
  next vol found =>
    have id := ids volumeId vol found
    subst id
    have copied : Copied v φ x vol := by
      rw [← here]
      exact .fresh found
    split
    · dsimp only
      refine sole_core_bind (within_notifyVolumeEjecting _ _ _) fun vol' ejecting => ?_
      subst ejecting
      refine sole_core_bind (within_unmountVolumeMountPoints _ _) fun umErr _ => ?_
      split
      · exact sole_updateVolume_bind (fun _ => rfl) trivial
      refine sole_updateVolume_bind (fun _ => rfl) ?_
      exact sole_fixUnmounted last (copied.same rfl rfl)
    · exact sole_fixUnmounted last copied

end

/-! ## Interleavings -/

/-- The operations that write a whole copy back. -/
inductive CopyRequest : Type
  | mount (volumeId : CppString) (mountParam : MountParam)
  | tryToFix (volumeId : CppString)
  | mountVolumeByPath (diskId volPath : CppString) (mountParam : MountParam)

/-- The operations that write single fields. -/
inductive FieldRequest : Type
  | setVolumeDescription (fsUuid description : CppString)
  | updateVolumeMetadata (volumeId fsUuid fsType description : CppString)
  | setVolumeDiscState (volumeId : CppString) (discState : CdromState)
  | destroyDmCryptVolume (mapperName : CppString)

/-- The fields an operation sets whatever it finds. An encrypted volume is mounted by its path. -/
def CopyRequest.replaces : CopyRequest → Field → Prop
  | .mount volumeId _, f =>
      CppString.startsWith volumeId CRYPT_VOLUME_PREFIX = true ∧ f.fromMetadata
  | .tryToFix _, _ => False
  | .mountVolumeByPath .., f => f.fromMetadata

/-- The fields of `v` an operation sets itself, in a run in which it has slot `none`: those it
replaces, and those that a section of it finds unset. -/
def CopyRequest.Sets {ι : Type} (op : CopyRequest) (v : CppString)
    (log : List (Entry (Option ι) ManagerState)) (f : Field) : Prop :=
  op.replaces f ∨
    ∃ e ∈ log, e.slot = none ∧ ∃ d, watchDetails v e.found = some d ∧ f.Unset d

theorem CopyRequest.Sets.cons {ι : Type} {op : CopyRequest} {v : CppString}
    {log : List (Entry (Option ι) ManagerState)} {f : Field} (sets : op.Sets v log f)
    (e : Entry (Option ι) ManagerState) : op.Sets v (e :: log) f := by
  rcases sets with always | ⟨e', mem, found⟩
  · exact .inl always
  · exact .inr ⟨e', List.mem_cons_of_mem e mem, found⟩

section

variable [JsonLib] {ι : Type}

def CopyRequest.prog : CopyRequest → ManagerProg ErrCode
  | .mount volumeId mountParam => DiskManager.mount volumeId mountParam
  | .tryToFix volumeId => DiskManager.tryToFix volumeId
  | .mountVolumeByPath diskId volPath mountParam =>
      DiskManager.mountVolumeByPath diskId volPath mountParam

def FieldRequest.prog : FieldRequest → ManagerProg ErrCode
  | .setVolumeDescription fsUuid description =>
      DiskManager.setVolumeDescription fsUuid description
  | .updateVolumeMetadata volumeId fsUuid fsType description =>
      DiskManager.updateVolumeMetadata volumeId fsUuid fsType description
  | .setVolumeDiscState volumeId discState => DiskManager.setVolumeDiscState volumeId discState
  | .destroyDmCryptVolume mapperName => DiskManager.destroyDmCryptVolume mapperName

/-- One operation is in progress, in slot `none`. -/
def CopyRequest.sys {W : Type} (op : CopyRequest) (s : ManagerState) (w : W) :
    Sys (Option ι) ManagerState W Req Req.Resp ErrCode :=
  ⟨fun i => if i.isNone then some op.prog else none, s, w⟩

/-- Field writers come and go meanwhile. -/
def UpdateRun {W : Type} [DecidableEq ι] (op : CopyRequest) (env : Env ManagerState W Req Req.Resp)
    (s : ManagerState) (w : W) (c : Sys (Option ι) ManagerState W Req Req.Resp ErrCode)
    (log : List (Entry (Option ι) ManagerState)) : Prop :=
  PoolRun (· ≠ none) FieldRequest.prog env (op.sys s w) c log

/-- What the field writers last wrote to the record of `v` is still there, unless it is a field
that the operation sets itself and it wrote it afterwards. -/
def UpdatesKept (op : CopyRequest) (v : CppString) (s : ManagerState)
    (log : List (Entry (Option ι) ManagerState)) : Prop :=
  ∀ (f : Field) (x : Option f.Value), lastWrite (watchField v f) none log = some x →
    watchField v f s = x ∨ op.Sets v log f ∧
      ∃ e ∈ sinceWrite (watchField v f) none log, e.slot = none ∧ Writes (watchField v f) e.upd

theorem CopyRequest.keyIds (op : CopyRequest) : Keeps KeyIds op.prog fun _ => True := by
  rw [keyIds_eq_filed]
  cases op with
  | mount volumeId mountParam => exact filed_mount (fun _ _ id => id) _ _
  | tryToFix volumeId => exact filed_tryToFix _
  | mountVolumeByPath diskId volPath mountParam =>
      exact filed_mountVolumeByPath (fun _ _ id => id) _ _ _

theorem FieldRequest.keyIds (op : FieldRequest) : Keeps KeyIds op.prog fun _ => True := by
  rw [keyIds_eq_filed]
  cases op with
  | setVolumeDescription fsUuid description =>
      exact filed_of_sameIndex (sameIndex_setVolumeDescription _ _)
  | updateVolumeMetadata volumeId fsUuid fsType description =>
      exact filed_of_sameIndex (sameIndex_updateVolumeMetadata _ _ _ _)
  | setVolumeDiscState volumeId discState =>
      exact filed_of_sameIndex (sameIndex_setVolumeDiscState _ _)
  | destroyDmCryptVolume mapperName => exact filed_of_sameIndex (sameIndex_destroyDmCryptVolume _)

theorem CopyRequest.sole (op : CopyRequest) (v : CppString) (x : Option Details) :
    SetsSole v op.prog op.replaces x fun _ _ _ => True := by
  cases op with
  | mount volumeId mountParam =>
      refine sole_mount (fun set => ⟨⟨set.1, trivial⟩, ⟨set.1, trivial⟩⟩) ?_
      exact fun crypt f given => ⟨crypt, given⟩
  | tryToFix volumeId => exact sole_tryToFix fun set => set.elim
  | mountVolumeByPath diskId volPath mountParam =>
      exact sole_mountVolumeByPath fun f given => given

/-- The invariant of undisturbed runs: the operation has set the fields in `φ`. -/
structure FieldsKept (op : CopyRequest) (v : CppString) (φ : Field → Prop) (s : ManagerState)
    (log : List (Entry (Option ι) ManagerState)) : Prop where
  sets : ∀ {f}, φ f → op.Sets v log f
  kept : ∀ (f : Field) (x : Option f.Value), lastWrite (watchField v f) none log = some x →
    watchField v f s = x ∨ φ f ∧
      ∃ e ∈ sinceWrite (watchField v f) none log, e.slot = none ∧ Writes (watchField v f) e.upd

omit [JsonLib] in
theorem FieldsKept.own {op : CopyRequest} {v : CppString} {φ φ' : Field → Prop} {s : ManagerState}
    {log : List (Entry (Option ι) ManagerState)} {upd : ManagerState → ManagerState}
    (held : FieldsKept op v φ s log) (move : SetsOnly v φ upd s φ') :
    FieldsKept op v φ' (upd s) (⟨none, upd, s⟩ :: log) where
  sets set := by
    rcases move.unset set with old | unset
    · exact (held.sets old).cons _
    · exact .inr ⟨_, List.mem_cons_self, rfl, unset⟩
  kept f x written := by
    rw [lastWrite_own] at written
    rw [sinceWrite_own]
    by_cases same : watchField v f (upd s) = watchField v f s
    · rcases held.kept f x written with still | ⟨set, e, mem, wrote⟩
      · exact .inl (same.trans still)
      · exact .inr ⟨move.grows set, e, List.mem_cons_of_mem _ mem, wrote⟩
    · refine .inr ⟨?_, _, List.mem_cons_self, rfl, s, same⟩
      by_contra free
      exact same (move.kept free)

omit [JsonLib] in
theorem FieldsKept.idle {op : CopyRequest} {v : CppString} {φ : Field → Prop} {s : ManagerState}
    {log : List (Entry (Option ι) ManagerState)} {upd : ManagerState → ManagerState}
    (held : FieldsKept op v φ s log) (idle : ¬ Writes (watchDetails v) upd) :
    FieldsKept op v φ (upd s) (⟨none, upd, s⟩ :: log) :=
  held.own (.stay (look_of_not_writes idle s))

omit [JsonLib] in
theorem FieldsKept.other {op : CopyRequest} {v : CppString} {φ : Field → Prop} {s : ManagerState}
    {log : List (Entry (Option ι) ManagerState)} {upd : ManagerState → ManagerState}
    {i : Option ι} (ne : i ≠ none) (held : FieldsKept op v φ s log) :
    FieldsKept op v φ (upd s) (⟨i, upd, s⟩ :: log) where
  sets set := (held.sets set).cons _
  kept f x written := by
    by_cases writes : Writes (watchField v f) upd
    · rw [lastWrite_writes ne writes] at written
      exact .inl (Option.some.inj written)
    · rw [lastWrite_other writes] at written
      rw [sinceWrite_other writes, look_of_not_writes writes]
      rcases held.kept f x written with still | ⟨set, e, mem, wrote⟩
      · exact .inl still
      · exact .inr ⟨set, e, List.mem_cons_of_mem _ mem, wrote⟩

/-- As long as the operation writes the fields of `v` only where nobody else changed them since its
first section, no field update is lost. -/
theorem updates_kept {W : Type} [DecidableEq ι] {env : Env ManagerState W Req Req.Resp}
    {op : CopyRequest} {v : CppString} {s : ManagerState} {w : W}
    {c : Sys (Option ι) ManagerState W Req Req.Resp ErrCode}
    {log : List (Entry (Option ι) ManagerState)} (ids : KeyIds s)
    (run : UpdateRun op env s w c log) (calm : Undisturbed (watchDetails v) none log) :
    UpdatesKept op v c.s log := by
  have pool : (op.sys s w : Sys (Option ι) _ _ _ _ _).Keeps KeyIds := by
    intro i p here
    cases i with
    | none =>
        cases here
        exact op.keyIds
    | some i => cases here
  have sole : ∀ p, (op.sys s w : Sys (Option ι) _ _ _ _ _).pool none = some p → ∀ x,
      SetsSole v p op.replaces x fun _ _ _ => True := by
    intro p here x
    cases here
    exact op.sole v x
  have start : FieldsKept (ι := ι) op v op.replaces s [] :=
    ⟨.inl, fun f x written => (by cases written)⟩
  obtain ⟨-, -, φ, held, -⟩ := PoolRun.undisturbed (FieldsKept op v) FieldRequest.keyIds
    (fun _ held move => held.own move) FieldsKept.idle FieldsKept.other (fun _ seat => seat) pool
    sole ids start run calm
  intro f x written
  rcases held.kept f x written with still | ⟨set, wrote⟩
  · exact .inl still
  · exact .inr ⟨held.sets set, wrote⟩

end

/-- A volume with a label, on a USB stick. -/
def labelledVolume : ManagerState :=
  { ManagerState.boot with
    diskMap := (∅ : StdMap Disk).insert "disk-8-0" (.create "disk-8-0" 0 "sda" USB_FLAG)
    volumeMap := (∅ : VolumeMap).insert "vol-8-1"
      { id := "vol-8-1", diskId := "disk-8-0", fsUuid := "1234-ABCD", fsType := .ntfs
        description := "old" } }

theorem labelledVolume_keyIds : KeyIds labelledVolume := by
  intro k r found
  change ((∅ : VolumeMap).insert _ _)[k]? = some r at found
  rw [StdMap.get_insert] at found
  split at found
  next same =>
    cases found
    exact same
  · simp at found

/-- `Mount` in progress, `rounds` steps of it, then `SetVolumeDescription` from start to end, then
the rest of `Mount`. -/
def relabelled (rounds : Nat) :
    Sys (Option Unit) ManagerState MountTable Req Req.Resp ErrCode ×
      List (Entry (Option Unit) ManagerState) :=
  letI := tableJson
  Sys.play FieldRequest.prog (daemon okAnswer)
    ((CopyRequest.mount "vol-8-1" {}).sys labelledVolume [], [])
    (List.replicate rounds (.run none) ++
      .enter (some ()) (.setVolumeDescription "1234-ABCD" "new") ::
      List.replicate 20 (.run (some ())) ++ List.replicate 30 (.run none))

theorem relabelled_run (rounds : Nat) :
    letI := tableJson
    UpdateRun (.mount "vol-8-1" {}) (daemonEnv (.of okAnswer)) labelledVolume []
      (relabelled rounds).1 (relabelled rounds).2 := by
  let _ := tableJson
  refine PoolRun.play (daemon_obeys okAnswer)
    (c := ((CopyRequest.mount "vol-8-1" {}).sys labelledVolume [], [])) .start ?_
  intro t mem
  cases t with
  | run i => trivial
  | enter i op =>
      rintro rfl
      simp at mem

theorem relabelled_undisturbed :
    Undisturbed (watchDetails "vol-8-1") none (relabelled 0).2 := by
  have own : ∀ e ∈ (relabelled 0).2.take 7, e.slot = none := by decide +kernel
  have others : ∀ e ∈ (relabelled 0).2.drop 7, e.slot ≠ none := by decide +kernel
  exact undisturbed_of_last 7 own others

/-- The description is set before `Mount` makes its copy, and stays. -/
theorem updates_kept_relabelled :
    letI := tableJson
    UpdateRun (.mount "vol-8-1" {}) (daemonEnv (.of okAnswer)) labelledVolume []
        (relabelled 0).1 (relabelled 0).2 ∧
      (relabelled 0).1.s.volumeMap["vol-8-1".toList]?.map
        (fun r => (r.state, r.description)) = some (.mounted, "new".toList) ∧
      UpdatesKept (.mount "vol-8-1" {}) "vol-8-1" (relabelled 0).1.s (relabelled 0).2 := by
  let _ := tableJson
  have ended : (relabelled 0).1.s.volumeMap["vol-8-1".toList]?.map
      (fun r => (r.state, r.description)) = some (.mounted, "new".toList) := by decide +kernel
  exact ⟨relabelled_run 0, ended, updates_kept labelledVolume_keyIds (relabelled_run 0)
    relabelled_undisturbed⟩

/-- The description is set while `Mount` works on its copy, which has the old one. -/
theorem update_lost_relabelled :
    letI := tableJson
    KeyIds labelledVolume ∧
      UpdateRun (.mount "vol-8-1" {}) (daemonEnv (.of okAnswer)) labelledVolume []
        (relabelled 3).1 (relabelled 3).2 ∧
      (relabelled 3).1.quiet ∧
      ¬ UpdatesKept (.mount "vol-8-1" {}) "vol-8-1" (relabelled 3).1.s (relabelled 3).2 := by
  let _ := tableJson
  refine ⟨labelledVolume_keyIds, relabelled_run 3, fun i => ?_, fun kept => ?_⟩
  · apply Option.isNone_iff_eq_none.mp
    cases i with
    | none => decide +kernel
    | some i =>
        cases i
        decide +kernel
  have own : ∀ e ∈ (relabelled 3).2.take 5, e.slot = none := by decide +kernel
  have written : ((relabelled 3).2.drop 5).head?.map (fun e => (e.slot,
      watchField "vol-8-1" .description (e.upd e.found),
      watchField "vol-8-1" .description e.found)) =
        some (some (), some "new".toList, some "old".toList) := by decide +kernel
  have unset : ∀ e ∈ (relabelled 3).2, (watchDetails "vol-8-1" e.found).map
      (fun d => (d.fsUuid, d.description)) ∈
        [some ("1234-ABCD".toList, "old".toList), some ("1234-ABCD".toList, "new".toList)] := by
    decide +kernel
  have ended : watchField "vol-8-1" .description (relabelled 3).1.s = some "old".toList := by
    decide +kernel
  rw [Option.map_eq_some_iff] at written
  obtain ⟨e, first, written⟩ := written
  simp only [Prod.mk.injEq] at written
  obtain ⟨slot, after, before⟩ := written
  have changed : watchField "vol-8-1" .description (e.upd e.found) ≠
      watchField "vol-8-1" .description e.found := by
    rw [after, before]
    decide
  have other : e.slot ≠ none := by
    rw [slot]
    exact Option.some_ne_none ()
  have last := lastWrite_of_changed 5 own first other changed
  rw [after] at last
  rcases kept .description _ last with still | ⟨always | ⟨e', mem, -, d, found, empty⟩, -⟩
  · rw [ended] at still
    exact absurd still (by decide)
  · exact absurd always.1 (by decide)
  · have there := unset e' mem
    rw [found] at there
    rcases empty with none | none <;> simp [none] at there

end DiskManager
