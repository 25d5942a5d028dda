import DiskManager.JsonCodec
import DiskManager.Manager.Core
import DiskManager.Manager.Daemon
import DiskManager.Voldata.Durable
import DiskManager.Voldata.Reservation

/-!
# Formatting and the voldata mapping

A format gives the volume a new uuid. `UpdateVoldataMappingAfterFormat` lets it take over the slot
of the old one, or gives the slot up when the volume is no longer mounted under a voldata path.

* `StoreState.Reached`: a store after any operations, on files of any content that may fail.
* `SlotCarried`: what a format makes of the mapping.
* `format_carries_slot`: every format that succeeds does so when its saves do.
-/

namespace DiskManager

open Interact

/-! ## Reached stores -/

/-- The store after some operations, whatever the files hold and however they answer. -/
def StoreState.Reached [JsonLib] (store : StoreState) : Prop :=
  ∃ ops, Runs StoreOp.prog (fun _ => (Contract.free).env) .boot () ops store ()

/-- Only valid uuids are ever mapped. -/
theorem StoreState.Reached.validKeys [JsonLib] {store : StoreState} (reached : store.Reached) :
    Entries (fun k _ => isUuidValid k = true) store.uuidMap := by
  obtain ⟨ops, run⟩ := reached
  let inv (s : StoreState) (_ : Unit) : Prop := Entries (fun k _ => isUuidValid k = true) s.uuidMap
  have kept : ∀ (op : StoreOp) s w, inv s w → wp Contract.free op.prog (fun _ => inv) s w := by
    intro op s w entries
    have keeps : Keeps (StoreState.entries fun k _ => isUuidValid k = true) op.prog
        fun _ => True := by
      cases op with
      | init => exact keepsEntries_init validKeys_rule
      | unInit =>
          rw [StoreOp.prog, unInit]
          refine keeps_read_bind fun s _ => ?_
          split
          · trivial
          · exact keeps_modify_bind (fun _ _ => .empty) trivial
      | resolveMountPath u =>
          exact keeps_seq (keepsEntries_resolveMountPath validKeys_rule u) fun _ _ => trivial
      | removeByFsUuid u => exact keepsEntries_removeByFsUuid validKeys_rule u
      | replaceFsUuid old new => exact keepsEntries_replaceFsUuid validKeys_rule old new
    exact wp_mono (fun _ _ _ ended => ended.1) (wp_of_keeps keeps entries)
  exact Runs.invariant (C := fun _ => Contract.free) inv kept .empty run

/-! ## The mapping -/

/-- The volume is mounted under a voldata path once it holds `fsType`. -/
def UsesVoldataPath (s : ManagerState) (diskId fsType : CppString) : Prop :=
  ∃ disk, s.diskMap[diskId]? = some disk ∧ disk.isInternalDataDisk = true ∧
    CppString.toLower fsType = ("f2fs" : CppString)

theorem shouldUseVoldataMountPath_iff {s : ManagerState} {diskId fsType : CppString} :
    shouldUseVoldataMountPathForDiskUnlocked s.diskMap diskId (CppString.toLower fsType) = true ↔
      UsesVoldataPath s diskId fsType := by
  unfold shouldUseVoldataMountPathForDiskUnlocked UsesVoldataPath
  cases s.diskMap[diskId]? with
  | none => simp
  | some disk => simp

/-- What a format makes of the mapping `m` when the volume had `old` and gets `new`. -/
structure SlotCarried (uses : Prop) (old new : CppString) (m m' : UuidMap) : Prop where
  moved : uses → ∀ e, m[old]? = some e → ∃ e', m'[new]? = some e' ∧
    e'.slotIndex = e.slotIndex ∧ e'.mountPath = e.mountPath
  left : uses → new ≠ old → m'[old]? = none
  dropped : ¬ uses → m'[old]? = none
  others : ∀ k, k ≠ old → k ≠ new → m'[k]? = m[k]?
  unmoved : (uses → m[old]? = none) → ∀ k, k ≠ old → m'[k]? = m[k]?

section

variable {uses : Prop} {old new : CppString} {m : UuidMap}

theorem SlotCarried.erase (other : ¬ uses) : SlotCarried uses old new m (m.erase old) where
  moved used := absurd used other
  left used := absurd used other
  dropped _ := StdMap.get_erase_self _ _
  others _ ne _ := StdMap.get_erase_ne (Ne.symm ne)
  unmoved _ _ ne := StdMap.get_erase_ne (Ne.symm ne)

theorem SlotCarried.of_unmapped (absent : m[old]? = none) : SlotCarried uses old new m m where
  moved _ e there := by
    rw [absent] at there
    cases there
  left _ _ := absent
  dropped _ := absent
  others _ _ _ := rfl
  unmoved _ _ _ := rfl

theorem SlotCarried.rename (used : uses) {e : VoldataUuidEntry} (there : m[old]? = some e)
    (free : new ≠ old → m[new]? = none) : SlotCarried uses old new m (renameKey m old new) := by
  by_cases same : new = old
  · subst same
    have unchanged : renameKey m new new = m := by
      rw [renameKey, there]
    rw [unchanged]
    exact {
      moved := fun _ e' there' => ⟨e', there', rfl, rfl⟩
      left := fun _ ne => absurd rfl ne
      dropped := fun no => absurd used no
      others := fun _ _ _ => rfl
      unmoved := fun _ _ _ => rfl }
  · have moved : renameKey m old new =
        (m.erase old).insert new { e with fsUuid := new } := by
      rw [renameKey, there, free same]
    rw [moved]
    exact {
      moved := by
        intro _ e' there'
        cases there.symm.trans there'
        exact ⟨_, StdMap.get_insert_self _ _ _, rfl, rfl⟩
      left := by
        intro _ _
        rw [StdMap.get_insert_ne same, StdMap.get_erase_self]
      dropped := fun no => absurd used no
      others := by
        intro k ne ne'
        rw [StdMap.get_insert_ne (Ne.symm ne'), StdMap.get_erase_ne (Ne.symm ne)]
      unmoved := by
        intro none
        rw [none used] at there
        cases there }

end

/-! ## The operations -/

/-- Every save of the store succeeds. -/
def SavesSucceed {W : Type} (env : Env ManagerState W Req Req.Resp) : Prop :=
  ∀ {s w q r w'}, env s w (.file q) r w' → q.answered true r

section

variable {W : Type} {env : Env ManagerState W Req Req.Resp} {s : ManagerState} {w : W}

/-- An operation of the store whose saves succeed. -/
theorem wp_onStore_saved {α : Type} (saves : SavesSucceed env) {p : StoreProg α}
    {mid : α → StoreState → Prop}
    (inner : wp (diskContract true) p (fun a t _ => mid a t) s.voldata ()) :
    wp (.ofEnv env) (onStore p) (fun a s' _ => ∃ t, s' = { s with voldata := t } ∧ mid a t)
      s w := by
  refine wp_lift_keeping (fun _ => True) (fun _ _ => rfl) (fun _ _ _ => rfl) (fun _ => rfl) ?_
    (fun _ => trivial) (fun _ => trivial) inner trivial ?_
  · exact fun _ answered => ⟨trivial, saves answered⟩
  · exact fun a t _ _ ended => ⟨t, rfl, ended⟩

variable [JsonLib] {diskId fsType old new v : CppString}

theorem wp_updateVoldataMappingAfterFormat_carried (saves : SavesSucceed env)
    (up : s.voldata.initialized = true)
    (keys : Entries (fun k _ => isUuidValid k = true) s.voldata.uuidMap) :
    wp (.ofEnv env) (updateVoldataMappingAfterFormat diskId old new fsType)
      (fun _ s' _ => ∃ t, s' = { s with voldata := t } ∧
        (isUuidValid new = true → (new ≠ old → s.voldata.uuidMap[new]? = none) →
          SlotCarried (UsesVoldataPath s diskId fsType) old new s.voldata.uuidMap t.uuidMap))
      s w := by
  -- An uuid that is not valid is not mapped.
  have unmapped : isUuidValid old = false → s.voldata.uuidMap[old]? = none := by
    intro invalid
    cases there : s.voldata.uuidMap[old]? with
    | none => rfl
    | some e =>
        have valid : isUuidValid old = true := keys old e there
        rw [invalid] at valid
        cases valid
  rw [updateVoldataMappingAfterFormat]
  apply wp_look_bind
  dsimp only
  split
  next other =>
    have other : ¬ UsesVoldataPath s diskId fsType := by
      rw [← shouldUseVoldataMountPath_iff]
      simpa using other
    cases valid : isUuidValid old with
    | false =>
        rw [Bool.and_false, if_neg (by decide)]
        exact ⟨s.voldata, rfl, fun _ _ => .of_unmapped (unmapped valid)⟩
    | true =>
        have nonempty : old.isEmpty = false := by
          simpa using ne_nil_of_isUuidValid valid
        rw [nonempty, if_pos (by decide)]
        refine wp_seq (wp_onStore_saved saves (wp_removeByFsUuid_done up valid)) ?_
        rintro _ _ _ ⟨t, rfl, -, erased⟩
        refine ⟨t, rfl, fun _ _ => ?_⟩
        rw [erased]
        exact .erase other
  next used =>
    have used : UsesVoldataPath s diskId fsType := by
      rw [← shouldUseVoldataMountPath_iff]
      simpa using used
    split
    next invalid =>
      refine ⟨s.voldata, rfl, fun valid _ => .of_unmapped (unmapped ?_)⟩
      have nonempty := ne_nil_of_isUuidValid valid
      cases validOld : isUuidValid old with
      | false => rfl
      | true =>
          have nonemptyOld := ne_nil_of_isUuidValid validOld
          simp [valid, validOld, nonempty, nonemptyOld] at invalid
    next both =>
      simp only [Bool.or_eq_true, Bool.not_eq_true', not_or, Bool.not_eq_false] at both
      obtain ⟨⟨-, validOld⟩, validNew⟩ := both
      rw [tryGetMountPath]
      apply wp_look_bind
      cases there : s.voldata.uuidMap[old]? with
      | none => exact ⟨s.voldata, rfl, fun _ _ => .of_unmapped there⟩
      | some e =>
          rw [Option.map_some, Option.isNone_some, if_neg Bool.false_ne_true]
          refine wp_seq (wp_onStore_saved saves (wp_replaceFsUuid_done up validOld validNew)) ?_
          rintro _ _ _ ⟨t, rfl, -, renamed⟩
          refine ⟨t, rfl, fun _ free => ?_⟩
          rw [renamed]
          exact .rename used there free

/-- What a format that succeeds makes of the record and the mapping. -/
def FormatCarried (v diskId fsType old : CppString) (s s' : ManagerState) : Prop :=
  s'.diskMap = s.diskMap ∧ ∃ vol, s'.volumeMap[v]? = some vol ∧
    (isUuidValid vol.fsUuid = true →
      (vol.fsUuid ≠ old → s.voldata.uuidMap[vol.fsUuid]? = none) →
      SlotCarried (UsesVoldataPath s diskId fsType) old vol.fsUuid s.voldata.uuidMap
        s'.voldata.uuidMap)

theorem wp_updateVolumeAfterFormat_carried (saves : SavesSucceed env)
    (up : s.voldata.initialized = true)
    (keys : Entries (fun k _ => isUuidValid k = true) s.voldata.uuidMap) {devPath : CppString} :
    wp (.ofEnv env) (updateVolumeAfterFormat v fsType diskId old devPath)
      (fun err s' _ => err = E_OK → FormatCarried v diskId fsType old s s') s w := by
  rw [updateVolumeAfterFormat]
  refine wp_called_bind fun metadata w₁ _ => ?_
  split
  · exact fun ok => absurd ok (by decide)
  apply wp_look_bind
  refine wp_seq (wp_updateVoldataMappingAfterFormat_carried saves up keys) ?_
  rintro _ _ w₂ ⟨t, rfl, carried⟩
  rw [wp_bind, updateVolumeIfFound]
  apply wp_section
  dsimp only
  split
  next found =>
    obtain ⟨vol, there⟩ := Option.isSome_iff_exists.mp found
    let formatted : VolumeExternal := { vol with
      fsUuid := dedupFsUuidUnlocked s.volumeMap v metadata.uuid
      description := metadata.label
      fsType := getFsTypeByStr fsType
      state := .unmounted }
    refine fun _ => ⟨rfl, formatted, ?_, carried⟩
    rw [ManagerState.get_updateVolume_self, there]
    rfl
  next => exact fun ok => absurd ok (by decide)

theorem wp_format_carried (saves : SavesSucceed env) (up : s.voldata.initialized = true)
    (keys : Entries (fun k _ => isUuidValid k = true) s.voldata.uuidMap) {vol : VolumeExternal}
    (there : s.volumeMap[v]? = some vol) :
    wp (.ofEnv env) (format v fsType)
      (fun err s' _ => err = E_OK → FormatCarried v vol.diskId fsType vol.fsUuid s s') s w := by
  rw [format, findVolume]
  apply wp_look_bind
  rw [there]
  dsimp only
  split
  · exact fun ok => absurd ok (by decide)
  refine wp_reads_bind (reads_isDiskSupported _) fun supported w₁ => ?_
  split
  · exact fun ok => absurd ok (by decide)
  split
  · exact fun ok => absurd ok (by decide)
  apply wp_look_bind
  refine wp_reads_bind (reads_checkVolId v) fun devPath w₂ => ?_
  split
  · exact fun ok => absurd ok (by decide)
  refine wp_called_bind fun err w₃ _ => ?_
  split
  next failed =>
    refine wp_core_bind (within_publishFormatFailEvent v) fun _ s₁ w₄ _ _ => ?_
    exact fun ok => absurd ok failed
  · exact wp_updateVolumeAfterFormat_carried saves up keys

omit [JsonLib] in
/-- The mount policy agrees with what the format looked at. -/
theorem wp_computeVolumeMountPolicy_uses :
    wp (.ofEnv env) (computeVolumeMountPolicy diskId fsType)
      (fun policy _ _ => policy.useVoldataPath = true ↔ UsesVoldataPath s diskId fsType) s w := by
  rw [computeVolumeMountPolicy]
  apply wp_look_bind
  dsimp only
  split
  · exact wp_called_bind fun _ _ _ => shouldUseVoldataMountPath_iff
  · exact shouldUseVoldataMountPath_iff

end

/-- A format that succeeds, on an initialised store whose saves succeed: a volume that is mounted
under a voldata path afterwards takes its slot over to its new uuid, any other volume gives its slot
up, and nothing else of the mapping changes. -/
theorem format_carries_slot [JsonLib] {W : Type} {env : Env ManagerState W Req Req.Resp}
    (saves : SavesSucceed env) (volumeId fsType : CppString) {s s' : ManagerState} {w w' : W}
    {vol : VolumeExternal} (reached : s.voldata.Reached) (up : s.voldata.initialized = true)
    (there : s.volumeMap[volumeId]? = some vol)
    (run : Returns env (format volumeId fsType) s w E_OK s' w') :
    (∀ policy t w'', Returns env (computeVolumeMountPolicy vol.diskId fsType) s' w' policy t w'' →
      (policy.useVoldataPath = true ↔ UsesVoldataPath s vol.diskId fsType)) ∧
    ∃ vol', s'.volumeMap[volumeId]? = some vol' ∧
      (isUuidValid vol'.fsUuid = true →
        (vol'.fsUuid ≠ vol.fsUuid → s.voldata.uuidMap[vol'.fsUuid]? = none) →
        SlotCarried (UsesVoldataPath s vol.diskId fsType) vol.fsUuid vol'.fsUuid
          s.voldata.uuidMap s'.voldata.uuidMap) := by
  obtain ⟨disks, carried⟩ :=
    wp_returns (wp_format_carried saves up reached.validKeys there) run rfl
  refine ⟨fun policy t w'' computed => ?_, carried⟩
  have agrees := wp_returns wp_computeVolumeMountPolicy_uses computed
  rw [UsesVoldataPath, disks] at agrees
  exact agrees

/-! ## A data disk -/

/-- The store after one uuid was mapped. -/
def mappedStore : StoreState :=
  letI := tableJson
  ((StoreOp.resolveMountPath "1234-ABCD").prog.exec (fun (w : Unit) q => (emptyFileAnswer q, w))
    .boot ()).2.1

theorem mappedStore_reached : @StoreState.Reached tableJson mappedStore := by
  let _ := tableJson
  exact ⟨[.resolveMountPath "1234-ABCD"],
    .next .start (Prog.exec_returns (fun _ _ _ => trivial) _ _ _)⟩

/-- The volume with that uuid, on an internal disk. -/
def mappedVolume : VolumeExternal :=
  { id := "vol-259-1", diskId := "disk-259-0", fsType := .f2fs, fsUuid := "1234-ABCD" }

def mappedState : ManagerState :=
  { ManagerState.boot with
    diskMap := (∅ : StdMap Disk).insert "disk-259-0"
      (.create "disk-259-0" 1024 "nvme0n1" DATA_DISK_SSD)
    volumeMap := (∅ : VolumeMap).insert "vol-259-1" mappedVolume
    voldata := mappedStore }

/-- Every call succeeds, and the new file system has the uuid `5678-EF01`. -/
def formatAnswer : (q : Req) → q.Resp
  | .readMetadata _ => ⟨E_OK, "5678-EF01", "f2fs", []⟩
  | q => okAnswer [] q

def formatEnv : Env ManagerState Unit Req Req.Resp := fun _ _ q r _ => r = formatAnswer q

theorem formatEnv_saves : SavesSucceed formatEnv := by
  intro s w q r w' answered
  rw [answered]
  exact emptyFileAnswer_answered q

def formattedState : ErrCode × ManagerState × Unit :=
  letI := tableJson
  (format "vol-259-1" "F2FS").exec (fun (w : Unit) q => (formatAnswer q, w)) mappedState ()

/-- The new uuid has the slot of the old one. -/
theorem format_carries_slot_mapped :
    ∃ vol' e', formattedState.2.1.volumeMap["vol-259-1".toList]? = some vol' ∧
      vol'.fsUuid = ("5678-EF01" : CppString) ∧
      formattedState.2.1.voldata.uuidMap[vol'.fsUuid]? = some e' ∧ e'.slotIndex = 1 ∧
      formattedState.2.1.voldata.uuidMap["1234-ABCD".toList]? = none := by
  let _ := tableJson
  have run : Returns formatEnv (format "vol-259-1" "F2FS") mappedState () E_OK
      formattedState.2.1 () := by
    have ok : formattedState.1 = E_OK := by decide +kernel
    have obeys : ∀ s w q, formatEnv s w q (formatAnswer q, w).1 (formatAnswer q, w).2 :=
      fun _ _ _ => rfl
    have returned := Prog.exec_returns obeys (format "vol-259-1" "F2FS") mappedState ()
    rwa [← ok]
  have up : mappedStore.initialized = true := by decide +kernel
  have uuid : formattedState.2.1.volumeMap["vol-259-1".toList]?.map (·.fsUuid) =
      some ("5678-EF01" : CppString) := by decide +kernel
  have slot : mappedStore.uuidMap["1234-ABCD".toList]?.map (·.slotIndex) = some 1 := by
    decide +kernel
  have free : mappedStore.uuidMap["5678-EF01".toList]? = none := by decide +kernel
  obtain ⟨-, vol', there, carried⟩ := format_carries_slot formatEnv_saves "vol-259-1" "F2FS"
    mappedStore_reached up (StdMap.get_insert_self _ _ _) run
  rw [there, Option.map_some, Option.some_inj] at uuid
  rw [uuid] at carried
  obtain ⟨e, mapped, one⟩ := Option.map_eq_some_iff.mp slot
  have uses : UsesVoldataPath mappedState mappedVolume.diskId "F2FS" :=
    ⟨_, StdMap.get_insert_self _ _ _, rfl, by decide⟩
  have moved := carried (by decide) fun _ => free
  obtain ⟨e', new, same, -⟩ := moved.moved uses e mapped
  exact ⟨vol', e', there, uuid, uuid ▸ new, same.trans one, moved.left uses (by decide)⟩

end DiskManager
