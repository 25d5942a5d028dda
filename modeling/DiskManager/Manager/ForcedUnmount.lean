import DiskManager.Manager.UnmountSpec
import DiskManager.Manager.Core
import DiskManager.Manager.Requests

/-!
# What a forced unmount leaves mounted

`ForceUnmount` against a daemon whose results depend on what is mounted: the mount points of the
record are unmounted one after another until the daemon refuses one, and none of them where the
volume of an internal data disk is in use.

* `ManagerState.letsGo`: the mount points that are taken away.
* `watching`: the contract that a device node is destroyed, and a record erased, only where the
  devices of the volume are not mounted.
* `wp_forceUnmount_letsGo`: the mount table, the record and the others afterwards.
-/

namespace DiskManager

open Interact

/-! ## The mount points of a record -/

/-- Where `UnmountVolumeMountPoints` unmounts, in this order, and the type it names. -/
def VolumeExternal.mountPoints (vol : VolumeExternal) : List (CppString × CppString) :=
  let fsType := vol.fsType.getFsTypeString
  if !vol.path.isEmpty && CppString.startsWith vol.path EXTERNAL_FUSE_DATA_ROOT then
    let fuseMountPath := buildSafeExternalMountPath vol.fsUuid
    (vol.path, fsType) ::
      if fuseMountPath.isEmpty then [] else [(fuseMountPath, FUSE_UMOUNT_FS_TYPE)]
  else if !vol.path.isEmpty then [(vol.path, fsType)]
  else if fsType = "mtp" ∨ fsType = "ptp" then
    let mountPath := buildSafeExternalMountPath vol.id
    if mountPath.isEmpty then [] else [(mountPath, fsType)]
  else []

/-- The path the in-use query of an internal data disk is about. -/
def ManagerState.inUsePath (s : ManagerState) (vol : VolumeExternal) : CppString :=
  let fsNormLower := CppString.toLower vol.fsType.getFsTypeString
  let external : CppString :=
    if isUuidValid vol.fsUuid then EXTERNAL_MOUNT_ROOT ++ vol.fsUuid else []
  if !vol.path.isEmpty then vol.path
  else if fsNormLower = "f2fs" && isUuidValid vol.fsUuid then
    (s.voldata.uuidMap[vol.fsUuid]?.map (·.mountPath)).getD external
  else external

section

variable (answer : MountTable → (q : Req) → q.Resp)

/-- The mount points that are unmounted before the daemon refuses one. -/
def takenAway (force : Bool) : List (CppString × CppString) → MountTable → List CppString
  | [], _ => []
  | (path, fsType) :: points, w =>
      if answer w (.unmount path fsType force) = E_OK then
        path :: takenAway force points (w.filter fun m => m.2 ≠ path)
      else []

/-- The volume is on an internal data disk. -/
def ManagerState.onDataDisk (s : ManagerState) (vol : VolumeExternal) : Bool :=
  s.diskMap[vol.diskId]?.any (·.isInternalDataDisk)

/-- The in-use query lets the unmount go on. -/
def ManagerState.mayUnmount (s : ManagerState) (vol : VolumeExternal) (w : MountTable) : Bool :=
  !s.onDataDisk vol || (!(s.inUsePath vol).isEmpty &&
    answer w (.queryUsbIsInUse (s.inUsePath vol)) = (E_OK, false))

/-- The mount points `ForceUnmount` takes away. -/
def ManagerState.takes (s : ManagerState) (vol : VolumeExternal) (w : MountTable) :
    List CppString :=
  if s.mayUnmount answer vol w then takenAway answer (!s.onDataDisk vol) vol.mountPoints w else []

/-- The mount points that are taken away before the node goes: a record that says UNMOUNTED is left
alone. -/
def ManagerState.letsGo (s : ManagerState) (vol : VolumeExternal) (w : MountTable) :
    List CppString :=
  if vol.state = .unmounted then [] else s.takes answer vol w

end

/-- The table without what was at these mount points. -/
def MountTable.without (w : MountTable) (paths : List CppString) : MountTable :=
  w.filter fun m => !paths.contains m.2

theorem MountTable.without_nil (w : MountTable) : w.without [] = w :=
  List.filter_eq_self.mpr fun _ _ => rfl

theorem MountTable.mem_without {w : MountTable} {paths : List CppString}
    {m : CppString × CppString} : m ∈ w.without paths ↔ m ∈ w ∧ m.2 ∉ paths := by
  rw [MountTable.without, List.mem_filter, Bool.not_eq_true', ← Bool.not_eq_true,
    List.contains_iff_mem]

theorem MountTable.without_cons (w : MountTable) (path : CppString) (paths : List CppString) :
    w.without (path :: paths) = MountTable.without (w.filter fun m => m.2 ≠ path) paths := by
  rw [MountTable.without, MountTable.without, List.filter_filter]
  refine List.filter_congr fun m _ => ?_
  rw [Bool.eq_iff_iff, Bool.and_eq_true, Bool.not_eq_true', ← Bool.not_eq_true,
    List.contains_iff_mem, Bool.not_eq_true', ← Bool.not_eq_true, List.contains_iff_mem,
    decide_eq_true_eq, List.mem_cons, not_or, and_comm]

/-! ## Devices -/

/-- A device of the volume: its node, and the loop device and the mapper of a container. -/
def VolumeExternal.HasDevice (vol : VolumeExternal) (dev : CppString) : Prop :=
  dev = DEV_BLOCK_PREFIX ++ vol.id ∨ dev ≠ [] ∧ (dev = vol.loopPath ∨ dev = vol.mapperPath)

/-- A device node is destroyed, and a record erased, only where the devices that go with them are
not mounted. -/
def watching (answer : MountTable → (q : Req) → q.Resp) (nodes records : CppString → CppString → Prop) :
    Contract ManagerState MountTable Req Req.Resp where
  env := daemonEnv (.of answer)
  ok _ w q := ∀ v dev, nodes v dev → q = .destroyBlockDeviceNode (DEV_BLOCK_PREFIX ++ v) →
    ¬ w.mounted dev
  guar w s s' := ∀ v dev, records v dev → s.volumeMap[v]?.isSome → s'.volumeMap[v]? = none →
    ¬ w.mounted dev

/-- Everything but the record of volume `v` is as before. -/
structure Beside (v : CppString) (s s' : ManagerState) : Prop where
  disks : s'.diskMap = s.diskMap
  voldata : s'.voldata = s.voldata
  others {k : CppString} : k ≠ v → s'.volumeMap[k]? = s.volumeMap[k]?

theorem Beside.refl (v : CppString) (s : ManagerState) : Beside v s s := ⟨rfl, rfl, fun _ => rfl⟩

theorem Beside.trans {v : CppString} {s₁ s₂ s₃ : ManagerState} (first : Beside v s₁ s₂)
    (rest : Beside v s₂ s₃) : Beside v s₁ s₃ :=
  ⟨rest.disks.trans first.disks, rest.voldata.trans first.voldata,
    fun ne => (rest.others ne).trans (first.others ne)⟩

theorem beside_updateVolume (v : CppString) (s : ManagerState)
    (f : VolumeExternal → VolumeExternal) : Beside v s (s.updateVolume v f) :=
  ⟨rfl, rfl, fun ne => ManagerState.get_updateVolume_ne (Ne.symm ne)⟩

theorem beside_eraseVolume (v : CppString) (s : ManagerState) : Beside v s (s.eraseVolume v) :=
  ⟨rfl, rfl, fun ne => StdMap.get_erase_ne (Ne.symm ne)⟩

section

variable {answer : MountTable → (q : Req) → q.Resp} {nodes records : CppString → CppString → Prop}
  {s : ManagerState} {w : MountTable} {α : Type} {post : α → ManagerState → MountTable → Prop}

/-! ## Rules -/

theorem wp_watched {q : Req} {post : q.Resp → ManagerState → MountTable → Prop}
    (other : ∀ dev, q ≠ .destroyBlockDeviceNode dev)
    (rest : post (answer w q) s (w.after q (answer w q))) :
    wp (watching answer nodes records) (call q) post s w := by
  refine ⟨fun v dev _ same => absurd same (other _), ?_⟩
  rintro r _ ⟨rfl, rfl⟩
  exact rest

theorem wp_watched_bind {q : Req} {f : q.Resp → ManagerProg α}
    (other : ∀ dev, q ≠ .destroyBlockDeviceNode dev)
    (rest : wp (watching answer nodes records) (f (answer w q)) post s (w.after q (answer w q))) :
    wp (watching answer nodes records) (call q >>= f) post s w :=
  wp_bind.mpr (wp_watched other rest)

theorem Req.ne_destroy_of_quiet {q : Req} (quiet : q.quiet = true) (dev : CppString) :
    q ≠ .destroyBlockDeviceNode dev := by
  rintro rfl
  cases quiet

/-- A request that leaves the table as it is. -/
theorem wp_watched_quiet_bind {q : Req} {f : q.Resp → ManagerProg α} (quiet : q.quiet = true)
    (rest : wp (watching answer nodes records) (f (answer w q)) post s w) :
    wp (watching answer nodes records) (call q >>= f) post s w := by
  refine wp_watched_bind (Req.ne_destroy_of_quiet quiet) ?_
  rw [MountTable.after_quiet quiet]
  exact rest

/-- A section after which every record is still there. -/
theorem guar_of_kept {s' : ManagerState}
    (kept : ∀ v : CppString, s.volumeMap[v]?.isSome → s'.volumeMap[v]?.isSome) :
    (watching answer nodes records).guar w s s' := by
  intro v dev _ there gone
  have still := kept v there
  rw [gone] at still
  cases still

/-- A section that erases the record of a volume without a mount. -/
theorem guar_of_beside {s' : ManagerState} {v : CppString} (beside : Beside v s s')
    (clean : ∀ dev, records v dev → ¬ w.mounted dev) :
    (watching answer nodes records).guar w s s' := by
  intro k dev recorded there gone
  by_cases same : k = v
  · subst same
    exact clean dev recorded
  · rw [beside.others same] at gone
    rw [gone] at there
    cases there

theorem isSome_updateVolume {v k : CppString} {f : VolumeExternal → VolumeExternal}
    (there : s.volumeMap[k]?.isSome) : (s.updateVolume v f).volumeMap[k]?.isSome := by
  by_cases same : v = k
  · subst same
    rw [ManagerState.get_updateVolume_self, Option.isSome_map]
    exact there
  · rw [ManagerState.get_updateVolume_ne same]
    exact there

theorem wp_watched_update_bind {v : CppString} {g : VolumeExternal → VolumeExternal}
    {f : Unit → ManagerProg α}
    (rest : wp (watching answer nodes records) (f ()) post (s.updateVolume v g) w) :
    wp (watching answer nodes records) (updateVolume v g >>= f) post s w :=
  wp_bind.mpr ⟨guar_of_kept fun _ => isSome_updateVolume, rest⟩

theorem wp_watched_read_bind {β : Type} {g : ManagerState → β} {f : β → ManagerProg α}
    (rest : wp (watching answer nodes records) (f (g s)) post s w) :
    wp (watching answer nodes records) (Prog.read g >>= f) post s w :=
  wp_bind.mpr ⟨guar_of_kept fun _ => id, rest⟩

/-- An operation that reads memory and whose requests leave the table as it is. -/
theorem wp_watched_aside_bind {β : Type} {p : ManagerProg β} {kept : β → Prop}
    {f : β → ManagerProg α} (reads : Within Eq p kept) (aside : Asks (fun q => q.quiet = true) p)
    (rest : ∀ a, kept a → wp (watching answer nodes records) (f a) post s w) :
    wp (watching answer nodes records) (p >>= f) post s w := by
  have first : wp (watching answer nodes records) p
      (fun a s' w' => s = s' ∧ kept a ∧ w' = w) s w := by
    refine wp_asks reads aside (fun _ => rfl) .trans ?_ ?_ ?_
    · exact fun quiet v dev _ same => absurd same (Req.ne_destroy_of_quiet quiet _)
    · rintro s w q r _ quiet ⟨-, rfl⟩
      exact MountTable.after_quiet quiet r
    · rintro w s _ rfl
      exact guar_of_kept fun _ => id
  refine wp_seq first ?_
  rintro a _ _ ⟨rfl, held, rfl⟩
  exact rest a held

/-! ## The unmount -/

theorem wp_notifyVolumeEjecting_watched {volumeId : CppString} {vol : VolumeExternal}
    {umountResult : CppString} {f : VolumeExternal → ManagerProg α}
    (rest : wp (watching answer nodes records) (f { vol with state := .ejecting, umountResult }) post
      (s.updateVolume volumeId fun r => { r with state := .ejecting, umountResult }) w) :
    wp (watching answer nodes records) (notifyVolumeEjecting volumeId vol umountResult >>= f) post
      s w := by
  rw [notifyVolumeEjecting, wp_bind]
  apply wp_watched_update_bind
  apply wp_watched_quiet_bind rfl
  exact rest

/-- The in-use query, and the flag for the daemon. -/
theorem wp_resolveUnmountForceFlag_watched {vol : VolumeExternal} {force : Bool}
    {f : ErrCode × Bool → ManagerProg α}
    (goes : s.mayUnmount answer vol w = true →
      wp (watching answer nodes records) (f (E_OK, !s.onDataDisk vol && force)) post s w)
    (stops : s.mayUnmount answer vol w = false → ∀ err flag, err ≠ E_OK →
      wp (watching answer nodes records) (f (err, flag)) post s w) :
    wp (watching answer nodes records) (resolveUnmountForceFlag vol force >>= f) post s w := by
  rw [resolveUnmountForceFlag, wp_bind]
  apply wp_watched_read_bind
  have path : ∀ {g : CppString → ManagerProg (ErrCode × Bool)}
      {post : ErrCode × Bool → ManagerState → MountTable → Prop},
      wp (watching answer nodes records) (g (s.inUsePath vol)) post s w →
      wp (watching answer nodes records) (resolveQueryUsbIsInUseMountPath vol true >>= g) post
        s w := by
    intro g post rest
    unfold ManagerState.inUsePath at rest
    rw [resolveQueryUsbIsInUseMountPath, wp_bind]
    dsimp only at rest ⊢
    split
    next some' =>
      rw [if_pos some'] at rest
      exact rest
    next empty =>
      rw [if_neg empty] at rest
      have external : wp (watching answer nodes records) (g (if isUuidValid vol.fsUuid then
          EXTERNAL_MOUNT_ROOT ++ vol.fsUuid else [])) post s w →
          wp (watching answer nodes records) (if isUuidValid vol.fsUuid then
            pure (EXTERNAL_MOUNT_ROOT ++ vol.fsUuid) else pure [] : ManagerProg CppString)
            (fun a => wp (watching answer nodes records) (g a) post) s w := by
        split
        · exact id
        · exact id
      rw [Bool.true_and]
      split
      next data =>
        rw [if_pos data] at rest
        rw [tryGetMountPath]
        apply wp_watched_read_bind
        cases found : s.voldata.uuidMap[vol.fsUuid]?.map (·.mountPath) with
        | some voldataPath =>
            rw [found] at rest
            exact rest
        | none =>
            rw [found] at rest
            exact external rest
      next other =>
        rw [if_neg other] at rest
        exact external rest
  have disk : s.diskMap[vol.diskId]?.any (·.isInternalDataDisk) = s.onDataDisk vol := rfl
  rw [disk]
  unfold ManagerState.mayUnmount at goes stops
  cases data : s.onDataDisk vol with
  | false =>
      rw [data] at goes
      exact goes rfl
  | true =>
      rw [data] at goes stops
      simp only [Bool.not_true, Bool.false_or, Bool.false_and] at goes stops
      refine path ?_
      cases known : (s.inUsePath vol).isEmpty with
      | true =>
          rw [known] at stops
          exact stops rfl _ _ (by decide)
      | false =>
          rw [known] at goes stops
          simp only [Bool.not_false, Bool.true_and] at goes stops
          refine wp_watched_quiet_bind rfl ?_
          generalize answer w (.queryUsbIsInUse (s.inUsePath vol)) = answered at goes stops
          obtain ⟨queryErr, isInUse⟩ := answered
          dsimp only at goes stops ⊢
          split
          next failed =>
            exact stops (decide_eq_false fun same => failed (congrArg Prod.fst same)) _ _ failed
          next ok =>
            obtain rfl : queryErr = E_OK := not_not.mp ok
            cases isInUse with
            | true => exact stops (decide_eq_false fun same => by cases same) _ _ (by decide)
            | false => exact goes (decide_eq_true rfl)

/-- The table after the unmounts, one mount point at a time. -/
theorem without_takenAway_cons {force : Bool} {path fsType : CppString}
    {points : List (CppString × CppString)} :
    w.without (takenAway answer force ((path, fsType) :: points) w) =
      if answer w (.unmount path fsType force) = E_OK then
        let w' := w.after (.unmount path fsType force) (answer w (.unmount path fsType force))
        w'.without (takenAway answer force points w')
      else w := by
  rw [takenAway]
  by_cases ok : answer w (.unmount path fsType force) = E_OK
  · rw [if_pos ok, if_pos ok, ok, MountTable.after_unmount, MountTable.without_cons]
  · rw [if_neg ok, if_neg ok, MountTable.without_nil]

theorem without_takenAway_single {force : Bool} {path fsType : CppString} :
    w.without (takenAway answer force [(path, fsType)] w) =
      w.after (.unmount path fsType force) (answer w (.unmount path fsType force)) := by
  rw [without_takenAway_cons]
  by_cases ok : answer w (.unmount path fsType force) = E_OK
  · rw [if_pos ok]
    exact MountTable.without_nil _
  · rw [if_neg ok, MountTable.after_unmount_failed ok]

/-- One mount point after another. -/
theorem wp_unmountVolumeMountPoints_watched {vol : VolumeExternal} {force : Bool} :
    wp (watching answer nodes records) (unmountVolumeMountPoints vol force)
      (fun _ s' w' => s' = s ∧ w' = w.without (takenAway answer force vol.mountPoints w)) s w := by
  have last : ∀ {path fsType : CppString} {w : MountTable},
      wp (watching answer nodes records) (call (.unmount path fsType force)) (fun _ s' w' => s' = s ∧
        w' = w.without (takenAway answer force [(path, fsType)] w)) s w := by
    intro path fsType w
    exact wp_watched (fun _ same => by cases same) ⟨rfl, without_takenAway_single.symm⟩
  have notified : ∀ {w : MountTable}, wp (watching answer nodes records)
      (call (.notifyUsbFuseUmount vol.id)) (fun _ s' w' => s' = s ∧ w' = w) s w :=
    wp_watched (fun _ same => by cases same) ⟨rfl, rfl⟩
  unfold VolumeExternal.mountPoints
  rw [unmountVolumeMountPoints]
  dsimp only
  split
  · refine wp_watched_bind (fun _ same => by cases same) ?_
    rw [without_takenAway_cons]
    dsimp only
    split
    next failed =>
      exact ⟨rfl, MountTable.after_unmount_failed failed⟩
    next ok =>
      rw [if_pos (not_not.mp ok)]
      generalize w.after (.unmount vol.path vol.fsType.getFsTypeString force)
        (answer w (.unmount vol.path vol.fsType.getFsTypeString force)) = w'
      cases known : (buildSafeExternalMountPath vol.fsUuid).isEmpty with
      | true =>
          rw [if_pos rfl]
          refine wp_mono ?_ notified
          rintro _ s' _ ⟨same, rfl⟩
          exact ⟨same, (MountTable.without_nil _).symm⟩
      | false =>
          rw [if_neg Bool.false_ne_true]
          refine wp_seq last ?_
          rintro err _ w'' ⟨rfl, rfl⟩
          split
          · exact ⟨rfl, rfl⟩
          · exact notified
  split
  · exact last
  split
  · split
    · exact ⟨rfl, (MountTable.without_nil w).symm⟩
    · exact last
  · exact ⟨rfl, (MountTable.without_nil w).symm⟩

variable [JsonLib]

/-- What a forced unmount takes away, and that it leaves the other records alone. Where the record
goes, nothing of its volume may be mounted any more. -/
theorem wp_doUnmountVolume_takes {vol : VolumeExternal}
    (clean : ∀ dev, records vol.id dev → ¬ MountTable.mounted (w.without (s.takes answer vol w)) dev) :
    wp (watching answer nodes records) (doUnmountVolume vol true)
      (fun _ s' w' => w' = w.without (s.takes answer vol w) ∧ Beside vol.id s s') s w := by
  -- The record once the volume is marked as ejecting.
  let ejecting : ManagerState := s.updateVolume vol.id fun r =>
    { r with state := .ejecting, umountResult := [] }
  have marked : Beside vol.id s ejecting := beside_updateVolume vol.id s _
  have restored : ∀ {err : ErrCode} {copy : VolumeExternal} {w' : MountTable}, copy.id = vol.id →
      wp (watching answer nodes records) (do
        let copy ← notifyVolumeEjecting vol.id copy "umountFail"
        restoreVolumeState copy.id vol.state
        return err) (fun _ s' w'' => w'' = w' ∧ Beside vol.id s s') ejecting w' := by
    intro err copy w' same
    apply wp_notifyVolumeEjecting_watched
    dsimp only
    rw [same]
    apply wp_watched_update_bind
    refine ⟨rfl, marked.trans ?_⟩
    exact (beside_updateVolume vol.id _ _).trans (beside_updateVolume vol.id _ _)
  rw [doUnmountVolume]
  dsimp only
  refine wp_watched_aside_bind (reads_saveVolumeFreeSize vol)
    (asks_freeSize (fun _ => rfl) (fun _ => rfl) vol) fun copy saved => ?_
  obtain ⟨freeSize, rfl⟩ := saved
  apply wp_notifyVolumeEjecting_watched
  unfold ManagerState.takes at clean ⊢
  refine wp_resolveUnmountForceFlag_watched (fun goes => ?_) fun stops err flag failed => ?_
  · have goes : s.mayUnmount answer vol w = true := goes
    rw [if_pos goes] at clean ⊢
    dsimp only
    rw [if_neg fun bad => bad rfl]
    refine wp_seq wp_unmountVolumeMountPoints_watched ?_
    rintro err _ w' ⟨rfl, gone⟩
    have gone : w' = w.without (takenAway answer (!s.onDataDisk vol) vol.mountPoints w) := by
      rw [gone]
      have flag : (!s.onDataDisk vol && true) = !s.onDataDisk vol := Bool.and_true _
      rw [← flag]
      rfl
    split
    · refine wp_mono ?_ (restored rfl)
      rintro _ s' _ ⟨rfl, beside⟩
      exact ⟨gone, beside⟩
    · refine wp_watched_quiet_bind rfl ?_
      rw [← gone] at clean
      unfold unmountWriteBack
      refine ⟨?_, gone, ?_⟩
      · dsimp only
        split
        · exact guar_of_kept fun _ => id
        split
        · exact guar_of_beside (beside_eraseVolume vol.id _) clean
        · exact guar_of_kept fun _ => isSome_updateVolume
      · dsimp only
        split
        · exact marked
        split
        · exact marked.trans (beside_eraseVolume vol.id _)
        · exact marked.trans (beside_updateVolume vol.id _ _)
  · have stops : s.mayUnmount answer vol w = false := stops
    dsimp only
    rw [if_pos failed]
    refine wp_mono ?_ (restored rfl)
    rintro _ s' _ ⟨rfl, beside⟩
    refine ⟨?_, beside⟩
    rw [stops, if_neg Bool.false_ne_true, MountTable.without_nil]

/-- The same through `ForceUnmount`, whose lookup is by id. -/
theorem wp_forceUnmount_takes {v : CppString} {r : VolumeExternal} (found : s.volumeMap[v]? = some r)
    (id : r.id = v)
    (clean : ∀ dev, records v dev → ¬ MountTable.mounted (w.without (s.takes answer r w)) dev) :
    wp (watching answer nodes records) (forceUnmount v)
      (fun _ s' w' => w' = w.without (s.takes answer r w) ∧ Beside v s s') s w := by
  subst id
  rw [forceUnmount, findVolume]
  apply wp_watched_read_bind
  rw [found]
  exact wp_doUnmountVolume_takes clean

end

end DiskManager
