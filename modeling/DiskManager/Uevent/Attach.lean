import DiskManager.Uevent.Devices

/-!
# Events of one disk

A run of add, change and remove uevents of a disk that is not optical, while every call to
storage_daemon succeeds. An event comes with the dump of the partition table that is read while it
is handled.
-/

namespace DiskManager

open Interact

/-- The result code of a call to storage_daemon; other requests have none. -/
def Req.err : (q : Req) → q.Resp → ErrCode
  | .mount .., err => err
  | .unmount .., err => err
  | .formatVolume .., err => err
  | .check .., err => err
  | .repair .., err => err
  | .setLabel .., err => err
  | .readMetadata _, metadata => metadata.err
  | .queryUsbIsInUse _, (err, _) => err
  | .mountFuseDevice _, (err, _) => err
  | .getCapacity _, (err, _) => err
  | .createBlockDeviceNode .., err => err
  | .destroyBlockDeviceNode _, err => err
  | .readPartitionTable _, (err, _) => err
  | .getDiskSize _, (err, _) => err
  | .createDmLinear .., (err, _) => err
  | .partition .., err => err
  | .formatPartition .., err => err
  | .getPartitionTableInfo _, (err, _) => err
  | .createPartition .., err => err
  | .deletePartition .., err => err
  | .executeCommand _, (err, _) => err
  | .queryCDStatus _, (err, _) => err
  | .eject _, err => err
  | _, _ => E_OK

inductive UeventAction : Type
  | add
  | change
  | remove
deriving DecidableEq

structure DiskEvent : Type where
  action : UeventAction
  uevent : UeventEnv
  dump : CppString := []

namespace DiskEvent

def diskId (e : DiskEvent) : CppString := diskIdFrom e.uevent.major e.uevent.minor

def prog [JsonLib] (e : DiskEvent) : ManagerProg ErrCode :=
  match e.action with
  | .add => handleDiskAdd e.uevent
  | .change => handleDiskChange e.uevent
  | .remove => handleDiskRemove e.uevent

/-- The partition table read is that of the event. -/
def Reads (e : DiskEvent) : (q : Req) → q.Resp → Prop
  | .readPartitionTable _, (_, dump) => dump = e.dump
  | _, _ => True

/-- Every call succeeds. -/
def env (e : DiskEvent) : Env ManagerState Unit Req Req.Resp :=
  fun _ _ q r _ => q.err r = E_OK ∧ e.Reads q r

theorem nodesOk (e : DiskEvent) : NodesOk e.env := ⟨fun answered => answered.1, fun answered => answered.1⟩

theorem tableRead (e : DiskEvent) : TableRead e.env e.dump := by
  intro s w devPath r w' answered
  obtain ⟨err, dump⟩ := r
  obtain ⟨rfl, rfl⟩ := answered
  rfl

end DiskEvent

/-! ## Volumes of a disk -/

namespace Index

variable {i i' : Index} {diskId : CppString} {n : Int}

theorem HasVolume.of_insert {place : Place} (has : (i.insert place).HasVolume diskId n) :
    i.HasVolume diskId n ∨ place.diskId = diskId ∧ place.partitionNum = n := by
  obtain ⟨k, found, there, of, number⟩ := has
  rcases insert_cases there with old | ⟨-, rfl⟩
  · exact .inl ⟨k, found, old, of, number⟩
  · exact .inr ⟨of, number⟩

theorem HasVolume.insert (has : i.HasVolume diskId n) (place : Place) :
    (i.insert place).HasVolume diskId n := by
  obtain ⟨k, found, there, of, number⟩ := has
  refine ⟨k, found, ?_, of, number⟩
  by_cases same : k = place.id
  · subst same
    rw [insert_places_self, there]
    rfl
  · rw [insert_places_ne same]
    exact there

theorem HasVolume.of_erase {k : CppString} (has : (i.erase k).HasVolume diskId n) :
    i.HasVolume diskId n := by
  obtain ⟨a, found, there, of, number⟩ := has
  by_cases same : a = k
  · subst same
    rw [erase_places_self] at there
    cases there
  · rw [erase_places_ne same] at there
    exact ⟨a, found, there, of, number⟩

theorem not_hasVolume_eraseDisk (i : Index) (diskId : CppString) (n : Int) :
    ¬ (i.eraseDisk diskId).HasVolume diskId n := by
  rintro ⟨k, place, there, of, -⟩
  obtain ⟨-, other⟩ := Option.filter_eq_some_iff.mp there
  simp [of] at other

theorem HasVolume.of_removes {m : Int} (removes : Removes diskId m i i')
    (has : i'.HasVolume diskId n) : i.HasVolume diskId n := by
  cases removes with
  | none => exact has
  | some => exact has.of_erase

/-- The loop over the partitions that went makes no volume. -/
theorem HasVolume.of_removeRounds {parts : List PartitionRecord}
    (rounds : Rounds (fun rp => Removes diskId (toInt32 rp.partitionNumber)) parts i i')
    (has : i'.HasVolume diskId n) : i.HasVolume diskId n := by
  by_contra none
  exact rounds.invariant (fun j => ¬ j.HasVolume diskId n)
    (fun _ _ _ _ none removes has => none (has.of_removes removes)) none has

theorem Sound.insert (sound : i.Sound) (dev : Dev) (n : Int) :
    (i.insert (.volumeOn diskId dev n)).Sound := by
  refine ⟨sound.keys.insert _, fun {k p} found loop => ?_, fun {k p} found of => ?_⟩
  · rcases insert_cases found with old | ⟨rfl, rfl⟩
    · exact sound.loops old loop
    · exact absurd rfl loop
  · rcases insert_cases found with old | ⟨rfl, rfl⟩
    · exact sound.named old of
    · intro eq
      cases eq

/-- Fewer volumes are sound as well. -/
theorem Sound.of_le (sound : i.Sound)
    (le : ∀ {k : CppString} {place : Place}, i'.places k = some place → i.places k = some place) :
    i'.Sound :=
  ⟨fun k place found => sound.keys k place (le found), fun found => sound.loops (le found),
    fun found => sound.named (le found)⟩

theorem Sound.erase (sound : i.Sound) (k : CppString) : (i.erase k).Sound := by
  refine sound.of_le fun {a place} found => ?_
  by_cases same : a = k
  · subst same
    rw [erase_places_self] at found
    cases found
  · rwa [erase_places_ne same] at found

theorem Sound.eraseDisk (sound : i.Sound) (diskId : CppString) : (i.eraseDisk diskId).Sound :=
  sound.of_le fun found => (Option.filter_eq_some_iff.mp found).1

theorem Sound.removes (sound : i.Sound) (removes : Removes diskId n i i') : i'.Sound := by
  cases removes with
  | none => exact sound
  | some => exact sound.erase _

end Index

/-! ## Events as steps of the index -/

namespace Index

/-- What an add or change event does, with the disks it may record and the devices it may use. -/
def Arrives (record : Disk → Prop) (device : Index → PartitionRecord → Dev → Prop) (e : DiskEvent)
    (i i' : Index) : Prop :=
  Discovered record device (makedev e.uevent.major e.uevent.minor) e.diskId e.dump i
    (!i.diskMap[e.diskId]?.isSome) i'

/-- What an event does. -/
inductive Handles (record : Disk → Prop) (device : Index → PartitionRecord → Dev → Prop)
    (e : DiskEvent) (i : Index) : Index → Prop
  | skipped : e.action = .change → i.Repartitioned e.diskId → Handles record device e i i
  | arrives {i' : Index} : e.action ≠ .remove → Arrives record device e i i' →
    Handles record device e i i'
  | unplugs : e.action = .remove → Handles record device e i (i.unplug e.diskId)

theorem Handles.eq_unplug {record : Disk → Prop} {device : Index → PartitionRecord → Dev → Prop}
    {e : DiskEvent} {i i' : Index} (handles : Handles record device e i i')
    (removed : e.action = .remove) : i' = i.unplug e.diskId := by
  cases handles with
  | skipped changed => exact absurd (changed.symm.trans removed) (by decide)
  | arrives comes => exact absurd removed comes
  | unplugs => rfl

end Index

section

variable [JsonLib] {W : Type} {env : Env ManagerState W Req Req.Resp} {s : ManagerState} {w : W}

/-- The handlers are steps of the index. -/
theorem index_prog {e : DiskEvent} (nodes : NodesOk env) (table : TableRead env e.dump)
    (sound : s.index.Sound) (ids : s.index.DiskIds) (block : e.uevent.major ≠ DISK_CD_MAJOR)
    {device : Index → PartitionRecord → Dev → Prop}
    (devices : ∀ s p dev, Resolves env e.uevent e.diskId (rewriteUserData e.dump).2 p s dev →
      device s.index p dev) :
    wp (.ofEnv env) e.prog (fun _ s' _ => Index.Handles (Records env e.uevent e.diskId) device e
      s.index s'.index) s w := by
  unfold DiskEvent.prog
  cases action : e.action with
  | add =>
      have comes : e.action ≠ .remove := by simp [action]
      refine wp_mono ?_ (index_handleDiskAdd nodes table sound ids block rfl devices)
      exact fun _ _ _ discovered => .arrives comes discovered
  | change =>
      have comes : e.action ≠ .remove := by simp [action]
      refine wp_mono ?_ (index_handleDiskChange nodes table sound ids block rfl devices)
      intro _ s' _ changed
      rcases changed with ⟨marked, same⟩ | discovered
      · rw [same]
        exact .skipped action marked
      · exact .arrives comes discovered
  | remove =>
      refine wp_mono ?_ (index_handleDiskRemove nodes sound e.uevent rfl)
      intro _ s' _ unplugged
      rw [unplugged]
      exact .unplugs action

end

end DiskManager
