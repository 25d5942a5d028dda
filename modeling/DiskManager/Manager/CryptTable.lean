import DiskManager.Manager.CryptWorld
import DiskManager.Manager.Core

/-!
# The crypt volume table

What the records under `vol-crypt-` say of the loop devices, the mappers and the mounts, and what
of it is kept when one record and the devices it stands for change.
-/

namespace DiskManager

/-- A device the record stands for. -/
def VolumeExternal.On (v : VolumeExternal) (dev : CppString) : Prop :=
  dev = v.loopPath ∨ dev = v.mapperPath ∧ dev ≠ []

/-- What the state of a record says: nothing of it is mounted, or one device at the path of the
record, which holds nothing else. -/
inductive MountShown (w : CryptWorld) (v : VolumeExternal) : Prop
  | unmounted (state : v.state = .unmounted) (idle : ∀ dev, v.On dev → ¬ w.mounts.mounted dev)
  | mounted {dev : CppString} (state : v.state = .mounted) (plain : PlainPath v.path)
      (on : v.On dev) (there : (dev, v.path) ∈ w.mounts)
      (only : ∀ d p, v.On d → (d, p) ∈ w.mounts → d = dev ∧ p = v.path)
      (alone : ∀ d, (d, v.path) ∈ w.mounts → d = dev)

/-- A record under `vol-crypt-` is about a bound loop device. -/
structure CryptRecord (w : CryptWorld) (v : VolumeExternal) : Prop where
  id : v.id = cryptVolumeId v.loopPath
  loop : LoopDevice v.loopPath
  range : w.loops v.loopPath = some (v.offset, v.sizeLimit)
  mapper : ∀ m, w.mappers m = some v.loopPath ↔ m = v.mapperPath ∧ m ≠ []
  block : v.fsType.block
  shown : MountShown w v

/-- The id of a crypt volume. -/
abbrev CryptId (k : CppString) : Prop := CppString.startsWith k CRYPT_VOLUME_PREFIX = true

/-- The records and the devices agree. -/
structure CryptTable (s : ManagerState) (w : CryptWorld) : Prop where
  ids {k : CppString} {v : VolumeExternal} : s.volumeMap[k]? = some v → v.id = k
  bound {loop : CppString} : w.loops loop ≠ none →
    ∃ v, s.volumeMap[cryptVolumeId loop]? = some v ∧ v.loopPath = loop
  record {k : CppString} {v : VolumeExternal} : s.volumeMap[k]? = some v → CryptId k →
    CryptRecord w v
  plain {k : CppString} {v : VolumeExternal} : s.volumeMap[k]? = some v → ¬ CryptId k →
    v.loopPath = [] ∧ v.mapperPath = []
  mapper {m loop : CppString} : w.mappers m = some loop →
    CppString.startsWith m DEV_MAPPER_PREFIX = true ∧ w.loops loop ≠ none
  loopThere {dev : CppString} : w.mounts.mounted dev → LoopDevice dev → w.loops dev ≠ none
  mapperThere {dev : CppString} : w.mounts.mounted dev →
    CppString.startsWith dev DEV_MAPPER_PREFIX = true → w.mappers dev ≠ none

section

variable {s : ManagerState} {w w' : CryptWorld} {k k' : CppString} {v v' : VolumeExternal}

/-! ## A record and its devices -/

theorem VolumeExternal.On.ne_nil {dev : CppString} (on : v.On dev) (loop : LoopDevice v.loopPath) :
    dev ≠ [] := by
  rcases on with rfl | mapper
  · exact loopDevice_ne_nil loop
  · exact mapper.2

theorem MountShown.mounted_iff (shown : MountShown w v) :
    v.state = .mounted ↔ ∃ dev, v.On dev ∧ w.mounts.mounted dev := by
  constructor
  · intro mounted
    cases shown with
    | unmounted state idle =>
        rw [state] at mounted
        cases mounted
    | mounted _ _ on there _ _ => exact ⟨_, on, _, there⟩
  · rintro ⟨dev, on, mounted⟩
    cases shown with
    | unmounted _ idle => exact absurd mounted (idle dev on)
    | mounted state _ _ _ _ _ => exact state

/-- Nothing about the devices of a record changes, and nothing comes to its path. -/
theorem CryptRecord.frame (record : CryptRecord w v) (loops : w'.loops v.loopPath = w.loops v.loopPath)
    (mappers : ∀ m, w'.mappers m = some v.loopPath ↔ w.mappers m = some v.loopPath)
    (mounts : ∀ d p, v.On d → ((d, p) ∈ w'.mounts ↔ (d, p) ∈ w.mounts))
    (path : v.state = .mounted → ∀ d, (d, v.path) ∈ w'.mounts → (d, v.path) ∈ w.mounts) :
    CryptRecord w' v where
  id := record.id
  loop := record.loop
  range := loops.trans record.range
  mapper m := (mappers m).trans (record.mapper m)
  block := record.block
  shown := by
    cases record.shown with
    | unmounted state idle =>
        refine .unmounted state fun dev on mounted => ?_
        obtain ⟨p, mem⟩ := mounted
        exact idle dev on ⟨p, (mounts dev p on).mp mem⟩
    | mounted state plain on there only alone =>
        refine .mounted state plain on ((mounts _ _ on).mpr there) ?_ ?_
        · exact fun d p on' mem => only d p on' ((mounts d p on').mp mem)
        · exact fun d mem => alone d (path state d mem)

theorem CryptTable.key (table : CryptTable s w) (found : s.volumeMap[k]? = some v)
    (crypt : CryptId k) : k = cryptVolumeId v.loopPath :=
  (table.ids found).symm.trans (table.record found crypt).id

/-- Two records do not stand for one device. -/
theorem CryptTable.on_unique (table : CryptTable s w) {dev : CppString}
    (found : s.volumeMap[k]? = some v) (crypt : CryptId k) (on : v.On dev)
    (found' : s.volumeMap[k']? = some v') (crypt' : CryptId k') (on' : v'.On dev) : k = k' := by
  have record := table.record found crypt
  have record' := table.record found' crypt'
  have one : v.loopPath = v'.loopPath → k = k' := fun same => by
    rw [table.key found crypt, table.key found' crypt', same]
  have apart : ∀ {u u' : VolumeExternal}, CryptRecord w u → CryptRecord w u' →
      dev = u.loopPath → ¬ (dev = u'.mapperPath ∧ dev ≠ []) := by
    intro u u' record record' loop mapper
    have named := (table.mapper ((record'.mapper dev).mpr mapper)).1
    rw [loop, loopDevice_not_mapper record.loop] at named
    cases named
  rcases on with loop | mapper
  · rcases on' with loop' | mapper'
    · exact one (loop.symm.trans loop')
    · exact absurd mapper' (apart record record' loop)
  · rcases on' with loop' | mapper'
    · exact absurd mapper (apart record' record loop')
    · have there := (record.mapper dev).mpr mapper
      rw [(record'.mapper dev).mpr mapper', Option.some.injEq] at there
      exact one there.symm

/-- The record of a bound loop device. -/
theorem CryptTable.of_bound (table : CryptTable s w) {loop : CppString}
    (bound : w.loops loop ≠ none) :
    ∃ v, s.volumeMap[cryptVolumeId loop]? = some v ∧ v.loopPath = loop ∧ CryptRecord w v := by
  obtain ⟨v, found, path⟩ := table.bound bound
  exact ⟨v, found, path, table.record found (startsWith_cryptVolumeId loop)⟩

/-- The record of a loop device that is not bound is not there. -/
theorem CryptTable.not_bound (table : CryptTable s w) {loop : CppString} (path : LoopDevice loop)
    (free : w.loops loop = none) : s.volumeMap[cryptVolumeId loop]? = none := by
  cases found : s.volumeMap[cryptVolumeId loop]? with
  | none => rfl
  | some v =>
      have crypt := startsWith_cryptVolumeId loop
      have record := table.record found crypt
      have same := cryptVolumeId_injective path record.loop (table.key found crypt)
      rw [same, record.range] at free
      cases free

/-! ## One record changes -/

/-- A record is changed and keeps its loop device; the other records keep theirs. -/
theorem CryptTable.update (table : CryptTable s w) (found : s.volumeMap[k]? = some v)
    (crypt : CryptId k) {f : VolumeExternal → VolumeExternal} (record : CryptRecord w' (f v))
    (loop : (f v).loopPath = v.loopPath) (loops : w'.loops = w.loops)
    (others : ∀ {k' v'}, k' ≠ k → s.volumeMap[k']? = some v' → CryptId k' → CryptRecord w' v')
    (mapper : ∀ {m l}, w'.mappers m = some l →
      CppString.startsWith m DEV_MAPPER_PREFIX = true ∧ w.loops l ≠ none)
    (loopThere : ∀ {dev}, w'.mounts.mounted dev → LoopDevice dev → w.loops dev ≠ none)
    (mapperThere : ∀ {dev}, w'.mounts.mounted dev →
      CppString.startsWith dev DEV_MAPPER_PREFIX = true → w'.mappers dev ≠ none) :
    CryptTable (s.updateVolume k f) w' := by
  have here : (s.updateVolume k f).volumeMap[k]? = some (f v) := by
    rw [ManagerState.get_updateVolume_self, found]
    rfl
  have key : k = cryptVolumeId v.loopPath := table.key found crypt
  have cases' : ∀ {k' v'}, (s.updateVolume k f).volumeMap[k']? = some v' →
      k' = k ∧ v' = f v ∨ k' ≠ k ∧ s.volumeMap[k']? = some v' := by
    intro k' v' found'
    by_cases same : k' = k
    · subst same
      rw [here, Option.some.injEq] at found'
      exact .inl ⟨rfl, found'.symm⟩
    · rw [ManagerState.get_updateVolume_ne (Ne.symm same)] at found'
      exact .inr ⟨same, found'⟩
  refine ⟨fun found' => ?_, fun {l} bound => ?_, fun found' crypt' => ?_, fun found' plain => ?_,
    fun open' => ?_, fun mounted path => ?_, mapperThere⟩
  · rcases cases' found' with ⟨rfl, rfl⟩ | ⟨-, before⟩
    · rw [record.id, loop, key]
    · exact table.ids before
  · rw [loops] at bound
    obtain ⟨u, before, path⟩ := table.bound bound
    by_cases same : cryptVolumeId l = k
    · rw [same] at before ⊢
      rw [found, Option.some.injEq] at before
      subst before
      exact ⟨f v, here, loop.trans path⟩
    · rw [ManagerState.get_updateVolume_ne (Ne.symm same)]
      exact ⟨u, before, path⟩
  · rcases cases' found' with ⟨rfl, rfl⟩ | ⟨other, before⟩
    · exact record
    · exact others other before crypt'
  · rcases cases' found' with ⟨rfl, rfl⟩ | ⟨-, before⟩
    · exact absurd crypt plain
    · exact table.plain before plain
  · rw [loops]
    exact mapper open'
  · rw [loops]
    exact loopThere mounted path

/-- A mapper is opened over the loop device of a record without one. -/
theorem CryptTable.openMapper (table : CryptTable s w) (found : s.volumeMap[k]? = some v)
    (crypt : CryptId k) (none' : v.mapperPath = []) {name : CppString}
    (free : w.mappers (DEV_MAPPER_PREFIX ++ name) = none) :
    CryptTable (s.updateVolume k fun _ => { v with mapperPath := DEV_MAPPER_PREFIX ++ name })
      (w.openMapper (DEV_MAPPER_PREFIX ++ name) v.loopPath) := by
  have record := table.record found crypt
  have named : CppString.startsWith (DEV_MAPPER_PREFIX ++ name) DEV_MAPPER_PREFIX = true :=
    List.isPrefixOf_iff_prefix.mpr (List.prefix_append _ _)
  have some' : DEV_MAPPER_PREFIX ++ name ≠ [] :=
    List.append_ne_nil_of_left_ne_nil (by decide) _
  generalize DEV_MAPPER_PREFIX ++ name = m at *
  have idle : ¬ w.mounts.mounted m := fun mounted => table.mapperThere mounted named free
  have opened := w.mappers_openMapper m v.loopPath
  have onLoop : ∀ {dev}, v.On dev → dev = v.loopPath := fun on =>
    on.resolve_right fun mapper => mapper.2 (mapper.1.trans none')
  have fewer : ∀ {dev}, w.mounts.mounted dev →
      VolumeExternal.On { v with mapperPath := m } dev → v.On dev := fun {dev} mounted on =>
    .inl (on.resolve_right fun mapper => by
      have same : dev = m := mapper.1
      exact idle (same ▸ mounted))
  refine table.update found crypt ?_ rfl rfl ?_ ?_ table.loopThere ?_
  · refine ⟨record.id, record.loop, record.range, fun m' => ?_, record.block, ?_⟩
    · dsimp only
      rw [opened]
      split
      next same =>
        subst same
        exact ⟨fun _ => ⟨rfl, some'⟩, fun _ => rfl⟩
      next other =>
        have before := record.mapper m'
        rw [none'] at before
        rw [before]
        exact ⟨fun both => absurd both.1 both.2, fun both => absurd both.1 other⟩
    · cases record.shown with
      | unmounted state idle' =>
          exact .unmounted state fun dev on mounted => idle' dev (fewer mounted on) mounted
      | mounted state plain on there only alone =>
          refine .mounted state plain (.inl (onLoop on)) there (fun d p on' mem => ?_) alone
          exact only d p (fewer ⟨p, mem⟩ on') mem
  · intro k' v' other found' crypt'
    have record' := table.record found' crypt'
    refine record'.frame rfl (fun m' => ?_) (fun _ _ _ => Iff.rfl) fun _ _ mem => mem
    rw [opened]
    split
    next same =>
      subst same
      rw [free]
      refine ⟨fun same => ?_, fun absent => (by cases absent)⟩
      rw [Option.some.injEq] at same
      exact absurd ((table.key found' crypt').trans
        (same ▸ (table.key found crypt).symm)) other
    · exact Iff.rfl
  · intro m' l open'
    rw [opened] at open'
    split at open'
    next same =>
      subst same
      cases open'
      exact ⟨named, by rw [record.range]; exact Option.some_ne_none _⟩
    · exact table.mapper open'
  · intro dev mounted path
    rw [opened]
    split
    · exact Option.some_ne_none _
    · exact table.mapperThere mounted path

/-- A mapper that is not mounted is closed. -/
theorem CryptTable.closeMapper (table : CryptTable s w) (found : s.volumeMap[k]? = some v)
    (crypt : CryptId k) (some' : v.mapperPath ≠ []) (idle : ¬ w.mounts.mounted v.mapperPath) :
    CryptTable (s.updateVolume k fun v => { v with mapperPath := [] })
      (w.closeMapper v.mapperPath) := by
  have record := table.record found crypt
  have isOpen : w.mappers v.mapperPath = some v.loopPath :=
    (record.mapper v.mapperPath).mpr ⟨rfl, some'⟩
  have closed := w.mappers_closeMapper v.mapperPath
  have still : ∀ {dev}, VolumeExternal.On { v with mapperPath := [] } dev → v.On dev := fun on =>
    .inl (on.resolve_right fun mapper => mapper.2 mapper.1)
  refine table.update found crypt ?_ rfl rfl ?_ ?_ table.loopThere ?_
  · refine ⟨record.id, record.loop, record.range, fun m' => ?_, record.block, ?_⟩
    · dsimp only
      rw [closed]
      split
      · exact ⟨fun absent => (by cases absent), fun both => absurd both.1 both.2⟩
      next other =>
        rw [record.mapper m']
        exact ⟨fun both => absurd both.1 other, fun both => absurd both.1 both.2⟩
    · cases record.shown with
      | unmounted state idle' => exact .unmounted state fun dev on => idle' dev (still on)
      | @mounted dev state plain on there only alone =>
          have onLoop : dev = v.loopPath := on.resolve_right fun mapper =>
            idle ⟨_, mapper.1 ▸ there⟩
          exact .mounted state plain (.inl onLoop) there (fun d p on' => only d p (still on')) alone
  · intro k' v' other found' crypt'
    have record' := table.record found' crypt'
    refine record'.frame rfl (fun m' => ?_) (fun _ _ _ => Iff.rfl) fun _ _ mem => mem
    rw [closed]
    split
    next same =>
      subst same
      rw [isOpen, Option.some.injEq]
      refine ⟨fun absent => (by cases absent), fun same => ?_⟩
      exact absurd ((table.key found' crypt').trans
        (same ▸ (table.key found crypt).symm)) other
    · exact Iff.rfl
  · intro m' l open'
    rw [closed] at open'
    split at open'
    · cases open'
    · exact table.mapper open'
  · intro dev mounted path
    rw [closed]
    split
    next same => exact absurd (same ▸ mounted) idle
    · exact table.mapperThere mounted path

/-- The same devices, and a type of a block volume. -/
structure SameDevices (v r : VolumeExternal) : Prop where
  id : r.id = v.id
  loopPath : r.loopPath = v.loopPath
  mapperPath : r.mapperPath = v.mapperPath
  offset : r.offset = v.offset
  sizeLimit : r.sizeLimit = v.sizeLimit
  block : r.fsType.block

theorem SameDevices.on {r : VolumeExternal} (same : SameDevices v r) {dev : CppString} :
    r.On dev ↔ v.On dev := by
  rw [VolumeExternal.On, VolumeExternal.On, same.loopPath, same.mapperPath]

theorem SameDevices.record {r : VolumeExternal} (same : SameDevices v r)
    (record : CryptRecord w v) (loops : w'.loops = w.loops) (mappers : w'.mappers = w.mappers)
    (shown : MountShown w' r) : CryptRecord w' r where
  id := by rw [same.id, same.loopPath, record.id]
  loop := by
    rw [same.loopPath]
    exact record.loop
  range := by rw [loops, same.loopPath, same.offset, same.sizeLimit, record.range]
  mapper m := by rw [mappers, same.loopPath, same.mapperPath, record.mapper]
  block := same.block
  shown := shown

/-- The details of a record change, and the mounts with it. -/
theorem CryptTable.remount (table : CryptTable s w) (found : s.volumeMap[k]? = some v)
    (crypt : CryptId k) {f : VolumeExternal → VolumeExternal} (same : SameDevices v (f v))
    {mounts : MountTable} (shown : MountShown { w with mounts } (f v))
    (others : ∀ {k' v'}, k' ≠ k → s.volumeMap[k']? = some v' → CryptId k' → CryptRecord w v' →
      CryptRecord { w with mounts } v')
    (mounted : ∀ {dev}, mounts.mounted dev → w.mounts.mounted dev ∨ v.On dev) :
    CryptTable (s.updateVolume k f) { w with mounts } := by
  have record := table.record found crypt
  refine table.update found crypt (same.record record rfl rfl shown) same.loopPath rfl
    (fun other found' crypt' => others other found' crypt' (table.record found' crypt'))
    table.mapper (fun isMounted path => ?_) fun {dev} isMounted named => ?_
  · rcases mounted isMounted with before | on
    · exact table.loopThere before path
    · rcases on with rfl | mapper
      · rw [record.range]
        exact Option.some_ne_none _
      · have named := (table.mapper ((record.mapper _).mpr mapper)).1
        rw [loopDevice_not_mapper path] at named
        cases named
  · rcases mounted isMounted with before | on
    · exact table.mapperThere before named
    · rcases on with rfl | mapper
      · rw [loopDevice_not_mapper record.loop] at named
        cases named
      · change w.mappers dev ≠ none
        rw [(record.mapper dev).mpr mapper]
        exact Option.some_ne_none _

/-- A device of a record that is not mounted is mounted at a free path. -/
theorem CryptTable.mount (table : CryptTable s w) (found : s.volumeMap[k]? = some v)
    (crypt : CryptId k) (state : v.state ≠ .mounted) {dev path : CppString} (on : v.On dev)
    (free : ∀ d, (d, path) ∉ w.mounts) {r : VolumeExternal} (same : SameDevices v r)
    (mounted : r.state = .mounted) (plain : PlainPath r.path) (at' : r.path = path) :
    CryptTable (s.updateVolume k fun _ => r) { w with mounts := (dev, path) :: w.mounts } := by
  subst at'
  have record := table.record found crypt
  have idle : ∀ d, v.On d → ¬ w.mounts.mounted d := by
    cases record.shown with
    | unmounted _ idle => exact idle
    | mounted was _ _ _ _ _ => exact absurd was state
  refine table.remount found crypt same ?_ ?_ ?_
  · refine .mounted mounted plain (same.on.mpr on) List.mem_cons_self (fun d p on' mem => ?_)
      fun d mem => ?_
    · rcases List.mem_cons.mp mem with new | old
      · exact Prod.mk.inj new
      · exact absurd ⟨p, old⟩ (idle d (same.on.mp on'))
    · rcases List.mem_cons.mp mem with new | old
      · exact (Prod.mk.inj new).1
      · exact absurd old (free d)
  · intro k' v' other found' crypt' record'
    refine record'.frame rfl (fun _ => Iff.rfl) (fun d p on' => ?_) fun state' d mem => ?_
    · rw [List.mem_cons]
      refine ⟨fun mem => mem.resolve_left fun new => ?_, .inr⟩
      obtain ⟨rfl, -⟩ := Prod.mk.inj new
      exact other (table.on_unique found' crypt' on' found crypt on)
    · rcases List.mem_cons.mp mem with new | old
      · cases record'.shown with
        | unmounted was _ =>
            rw [was] at state'
            cases state'
        | mounted _ _ _ there _ _ =>
            rw [(Prod.mk.inj new).2] at there
            exact absurd there (free _)
      · exact old
  · rintro d ⟨p, mem⟩
    rcases List.mem_cons.mp mem with new | old
    · obtain ⟨rfl, -⟩ := Prod.mk.inj new
      exact .inr on
    · exact .inl ⟨p, old⟩

/-- What is at the path of a mounted record is unmounted. -/
theorem CryptTable.unmount (table : CryptTable s w) (found : s.volumeMap[k]? = some v)
    (crypt : CryptId k) (state : v.state = .mounted) {f : VolumeExternal → VolumeExternal}
    (same : SameDevices v (f v)) (unmounted : (f v).state = .unmounted) :
    CryptTable (s.updateVolume k f) { w with mounts := w.mounts.filter fun m => m.2 ≠ v.path } := by
  have record := table.record found crypt
  have kept : ∀ {d p}, (d, p) ∈ w.mounts.filter (fun m => m.2 ≠ v.path) ↔
      (d, p) ∈ w.mounts ∧ p ≠ v.path := by
    intro d p
    rw [List.mem_filter, decide_eq_true_iff]
  cases record.shown with
  | unmounted was _ =>
      rw [was] at state
      cases state
  | @mounted dev _ plain on there only alone =>
      refine table.remount found crypt same ?_ ?_ ?_
      · refine .unmounted unmounted fun d on' mounted => ?_
        obtain ⟨p, mem⟩ := mounted
        have mem := kept.mp mem
        exact mem.2 (only d p (same.on.mp on') mem.1).2
      · intro k' v' other found' crypt' record'
        refine record'.frame rfl (fun _ => Iff.rfl) (fun d p on' => ?_)
          fun _ d mem => (kept.mp mem).1
        refine ⟨fun mem => (kept.mp mem).1, fun mem => kept.mpr ⟨mem, fun at' => ?_⟩⟩
        obtain rfl := alone d (at' ▸ mem)
        exact other (table.on_unique found' crypt' on' found crypt on)
      · rintro d ⟨p, mem⟩
        exact .inl ⟨p, (kept.mp mem).1⟩

/-- A part of a record changes that says nothing of its devices. -/
theorem CryptTable.detail (table : CryptTable s w) (found : s.volumeMap[k]? = some v)
    (crypt : CryptId k) {f : VolumeExternal → VolumeExternal} (same : SameDevices v (f v))
    (state : (f v).state = v.state) (path : (f v).path = v.path) :
    CryptTable (s.updateVolume k f) w := by
  refine table.remount found crypt same ?_ (fun _ _ _ record => record) fun mounted => .inl mounted
  cases (table.record found crypt).shown with
  | unmounted was idle =>
      exact .unmounted (state.trans was) fun dev on => idle dev (same.on.mp on)
  | mounted was plain on there only alone =>
      refine .mounted (state.trans was) (path ▸ plain) (same.on.mpr on) (path ▸ there)
        (fun d p on' mem => ?_) (path ▸ alone)
      rw [path]
      exact only d p (same.on.mp on') mem

/-! ## Records come and go -/

/-- A loop device is bound. -/
theorem CryptTable.bind (table : CryptTable s w) {loop : CppString} (path : LoopDevice loop)
    (fresh : w.loops loop = none) {r : VolumeExternal} (id : r.id = cryptVolumeId loop)
    (loopPath : r.loopPath = loop) (none' : r.mapperPath = []) (state : r.state = .unmounted)
    (block : r.fsType.block) :
    CryptTable (s.insertVolume r) (w.bind loop (r.offset, r.sizeLimit)) := by
  subst loopPath
  have absent : s.volumeMap[r.id]? = none := id ▸ table.not_bound path fresh
  have memory : (s.insertVolume r).volumeMap = s.volumeMap.insert r.id r := by
    rw [ManagerState.insertVolume, absent, if_neg (by simp)]
  have loops := w.loops_bind r.loopPath
  have grows : ∀ {l}, w.loops l ≠ none →
      (w.bind r.loopPath (r.offset, r.sizeLimit)).loops l ≠ none := by
    intro l bound
    rw [loops]
    split
    · exact Option.some_ne_none _
    · exact bound
  have record : CryptRecord (w.bind r.loopPath (r.offset, r.sizeLimit)) r := by
    refine ⟨id, path, ?_, fun m => ?_, block, .unmounted state fun dev on mounted => ?_⟩
    · rw [loops, if_pos rfl]
    · refine ⟨fun open' => absurd fresh (table.mapper open').2, fun both => ?_⟩
      exact absurd (both.1.trans none') both.2
    · obtain rfl : dev = r.loopPath := on.resolve_right fun mapper =>
        mapper.2 (mapper.1.trans none')
      exact table.loopThere mounted path fresh
  have cases' : ∀ {k' v'}, (s.insertVolume r).volumeMap[k']? = some v' →
      k' = r.id ∧ v' = r ∨ s.volumeMap[k']? = some v' := by
    intro k' v' found
    rw [memory] at found
    by_cases same : r.id = k'
    · subst same
      rw [StdMap.get_insert_self, Option.some.injEq] at found
      exact .inl ⟨rfl, found.symm⟩
    · rw [StdMap.get_insert_ne same] at found
      exact .inr found
  refine ⟨fun found => ?_, fun {l} bound => ?_, fun found crypt => ?_, fun found plain => ?_,
    fun open' => ?_, fun mounted path' => grows (table.loopThere mounted path'),
    table.mapperThere⟩
  · rcases cases' found with ⟨rfl, rfl⟩ | before
    · rfl
    · exact table.ids before
  · rw [loops] at bound
    split at bound
    next same =>
      subst same
      rw [memory, ← id]
      exact ⟨r, StdMap.get_insert_self _ _ _, rfl⟩
    · obtain ⟨u, before, path'⟩ := table.bound bound
      have other : r.id ≠ cryptVolumeId l := fun same => by
        rw [← same, absent] at before
        cases before
      rw [memory, StdMap.get_insert_ne other]
      exact ⟨u, before, path'⟩
  · rcases cases' found with ⟨rfl, rfl⟩ | before
    · exact record
    · have record' := table.record before crypt
      refine record'.frame ?_ (fun _ => Iff.rfl) (fun _ _ _ => Iff.rfl) fun _ _ mem => mem
      rw [loops, if_neg]
      intro same
      have range := record'.range
      rw [same, fresh] at range
      cases range
  · rcases cases' found with ⟨rfl, rfl⟩ | before
    · exact absurd (id ▸ startsWith_cryptVolumeId _) plain
    · exact table.plain before plain
  · exact ⟨(table.mapper open').1, grows (table.mapper open').2⟩

/-- A loop device without a mapper that is not mounted is unbound. -/
theorem CryptTable.unbind (table : CryptTable s w) {loop : CppString} (bound : w.loops loop ≠ none)
    (closed : ∀ m, w.mappers m ≠ some loop) (idle : ¬ w.mounts.mounted loop) :
    CryptTable (s.eraseVolume (cryptVolumeId loop)) (w.unbind loop) := by
  obtain ⟨v, found, rfl, record⟩ := table.of_bound bound
  have loops := w.loops_unbind v.loopPath
  have before : ∀ {k' v'}, (s.eraseVolume (cryptVolumeId v.loopPath)).volumeMap[k']? = some v' →
      k' ≠ cryptVolumeId v.loopPath ∧ s.volumeMap[k']? = some v' := by
    intro k' v' found'
    by_cases same : cryptVolumeId v.loopPath = k'
    · rw [ManagerState.eraseVolume, same, StdMap.get_erase_self] at found'
      cases found'
    · rw [ManagerState.eraseVolume, StdMap.get_erase_ne same] at found'
      exact ⟨Ne.symm same, found'⟩
  have stays : ∀ {l}, l ≠ v.loopPath → w.loops l ≠ none → (w.unbind v.loopPath).loops l ≠ none := by
    intro l other bound
    rw [loops, if_neg other]
    exact bound
  refine ⟨fun found' => table.ids (before found').2, fun {l} bound' => ?_, fun found' crypt => ?_,
    fun found' => table.plain (before found').2, fun open' => ?_, fun {dev} mounted path => ?_,
    table.mapperThere⟩
  · rw [loops] at bound'
    split at bound'
    · exact absurd rfl bound'
    next other =>
      obtain ⟨u, found', path, record'⟩ := table.of_bound bound'
      refine ⟨u, ?_, path⟩
      rw [ManagerState.eraseVolume, StdMap.get_erase_ne]
      · exact found'
      · intro same
        exact other (path ▸ (cryptVolumeId_injective record.loop (path ▸ record'.loop) same).symm)
  · obtain ⟨other, found'⟩ := before found'
    have record' := table.record found' crypt
    refine record'.frame ?_ (fun _ => Iff.rfl) (fun _ _ _ => Iff.rfl) fun _ _ mem => mem
    rw [loops, if_neg]
    intro same
    exact other ((table.key found' crypt).trans (congrArg cryptVolumeId same))
  · refine ⟨(table.mapper open').1, stays (fun same => ?_) (table.mapper open').2⟩
    exact closed _ (same ▸ open')
  · refine stays (fun same => ?_) (table.loopThere mounted path)
    exact idle (same ▸ mounted)

end

end DiskManager
