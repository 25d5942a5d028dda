import DiskManager.Manager.Index
import DiskManager.Uevent.Events

/-!
# What events do to the index

Volumes come and go in few places of `uevent_bootstrap.cpp`. The lemmas say what each function does
to the index when device nodes are made and removed without fail, whatever the daemon answers
otherwise; a loop over partitions or volumes becomes the rounds of its body.
-/

namespace DiskManager

open Interact

/-- The place of the volume on a device of the disk. -/
def Place.volumeOn (diskId : CppString) (dev : Dev) (partitionNum : Int) : Place :=
  ⟨volIdFromDev dev, diskId, partitionNum, []⟩

namespace Index

/-- The volumes with these keys go. -/
def eraseAll (i : Index) (ks : List CppString) : Index := ks.foldl erase i

/-- All volumes of the disk go. -/
def eraseDisk (i : Index) (diskId : CppString) : Index :=
  { i with places := fun k => (i.places k).filter fun place => place.diskId ≠ diskId }

/-- The disk has a volume with that partition number. -/
def HasVolume (i : Index) (diskId : CppString) (partitionNum : Int) : Prop :=
  ∃ k place, i.places k = some place ∧ place.diskId = diskId ∧ place.partitionNum = partitionNum

/-- A volume of the disk with that partition number goes, if there is one. -/
inductive Removes (diskId : CppString) (partitionNum : Int) (i : Index) : Index → Prop
  | none : ¬ i.HasVolume diskId partitionNum → Removes diskId partitionNum i i
  | some {k : CppString} {place : Place} : i.places k = some place → place.diskId = diskId →
    place.partitionNum = partitionNum → Removes diskId partitionNum i (i.erase k)

/-- What is promised of the volumes of the disks: the keys are the ids, the volume of a container is
named after its loop device, and only volumes without a disk have the id of a made-up volume. -/
structure Sound (i : Index) : Prop where
  keys : i.KeyIds
  loops : ∀ {k : CppString} {place : Place}, i.places k = some place → place.loopPath ≠ [] →
    cryptVolumeId place.loopPath = k
  named : ∀ {k : CppString} {place : Place}, i.places k = some place → place.diskId ≠ [] → k ≠ "0"

theorem eraseAll_places (i : Index) (ks : List CppString) (k : CppString) :
    (i.eraseAll ks).places k = if k ∈ ks then none else i.places k := by
  unfold eraseAll
  induction ks generalizing i with
  | nil => rfl
  | cons a ks ih =>
      rw [List.foldl_cons, ih]
      by_cases same : k = a
      · subst same
        simp
      · rw [erase_places_ne same]
        simp [same]

theorem eraseAll_rest (i : Index) (ks : List CppString) :
    (i.eraseAll ks).diskMap = i.diskMap ∧
      (i.eraseAll ks).partitioningDiskIds = i.partitioningDiskIds ∧
      (i.eraseAll ks).diskPartsSnapshot = i.diskPartsSnapshot ∧
      (i.eraseAll ks).partitionTableMap = i.partitionTableMap := by
  unfold eraseAll
  induction ks generalizing i with
  | nil => exact ⟨rfl, rfl, rfl, rfl⟩
  | cons a ks ih => exact ih (i.erase a)

/-- The keys of the volumes of a disk. -/
theorem eraseAll_eq_eraseDisk {i : Index} {ks : List CppString} {diskId : CppString}
    (keys : ∀ k place, i.places k = some place → (k ∈ ks ↔ place.diskId = diskId)) :
    i.eraseAll ks = i.eraseDisk diskId := by
  obtain ⟨diskMap, partitioning, snapshot, tables⟩ := i.eraseAll_rest ks
  refine Index.ext (funext fun k => ?_) diskMap partitioning snapshot tables
  rw [eraseAll_places]
  change _ = (i.places k).filter fun place => place.diskId ≠ diskId
  cases found : i.places k with
  | none => simp
  | some place =>
      by_cases of : place.diskId = diskId
      · rw [if_pos ((keys k place found).mpr of), Option.filter_some_neg]
        simp [of]
      · rw [if_neg (mt (keys k place found).mp of), Option.filter_some_pos]
        simp [of]

/-- Rounds that erase one key each. -/
theorem eraseAll_of_rounds {γ : Type} {key : γ → CppString} {xs : List γ} {i i' : Index}
    (rounds : Rounds (fun x i i' => i' = erase i (key x)) xs i i') : i' = i.eraseAll (xs.map key) := by
  induction rounds with
  | nil => rfl
  | cons first _ ih =>
      rw [ih, first]
      rfl

end Index

/-! ## Rules -/

/-- Device nodes are made and removed without fail. -/
structure NodesOk {W : Type} (env : Env ManagerState W Req Req.Resp) : Prop where
  create {s : ManagerState} {w w' : W} {devPath : CppString} {mode : Nat} {major minor : Int}
    {r : ErrCode} : env s w (.createBlockDeviceNode devPath mode major minor) r w' → r = E_OK
  destroy {s : ManagerState} {w w' : W} {devPath : CppString} {r : ErrCode} :
    env s w (.destroyBlockDeviceNode devPath) r w' → r = E_OK

section Wp

variable {W : Type} {env : Env ManagerState W Req Req.Resp} {s : ManagerState} {w : W}
  {α β : Type} {post : β → ManagerState → W → Prop}

theorem getDiskById_bind_none {diskId : CppString} {f : Option Disk → ManagerProg β}
    (gone : s.diskMap[diskId]? = none) (rest : wp (.ofEnv env) (f none) post s w) :
    wp (.ofEnv env) (getDiskById diskId >>= f) post s w := by
  rw [getDiskById, wp_bind]
  refine wp_look_bind ?_
  rw [gone]
  exact rest

/-- The disk that is shown: the volumes are those that name it. -/
theorem getDiskById_bind_some {diskId : CppString} {disk : Disk} {f : Option Disk → ManagerProg β}
    (there : s.diskMap[diskId]? = some disk)
    (rest : ∀ extraInfo w', wp (.ofEnv env)
      (f (some { attachVolumeIdsToDisk s.volumeMap disk with extraInfo })) post s w') :
    wp (.ofEnv env) (getDiskById diskId >>= f) post s w := by
  have plain : ∀ w', wp (.ofEnv env) (f (some (attachVolumeIdsToDisk s.volumeMap disk))) post s w' :=
    fun w' => rest (attachVolumeIdsToDisk s.volumeMap disk).extraInfo w'
  rw [getDiskById, wp_bind]
  refine wp_look_bind ?_
  rw [there]
  dsimp only
  split
  · rw [queryAndAppendEncryptionStatusUnlocked]
    split
    · exact plain w
    · refine wp_bind.mpr (wp_called_bind fun extraInfo w' _ => ?_)
      split
      · exact plain w'
      · exact rest _ w'
  · exact plain w

theorem wp_isInternalDataDiskById {diskId : CppString} {post : Bool → ManagerState → W → Prop}
    (rest : ∀ w', post (s.diskMap[diskId]?.any (·.isInternalDataDisk)) s w') :
    wp (.ofEnv env) (isInternalDataDiskById diskId) post s w := by
  rw [isInternalDataDiskById]
  cases there : s.diskMap[diskId]? with
  | none =>
      rw [there] at rest
      exact getDiskById_bind_none there (rest w)
  | some disk =>
      rw [there] at rest
      exact getDiskById_bind_some there fun extraInfo w' => rest w'

theorem isInternalDataDiskById_bind {diskId : CppString} {f : Bool → ManagerProg β}
    (rest : ∀ w', wp (.ofEnv env) (f (s.diskMap[diskId]?.any (·.isInternalDataDisk))) post s w') :
    wp (.ofEnv env) (isInternalDataDiskById diskId >>= f) post s w :=
  wp_bind.mpr (wp_isInternalDataDiskById rest)

theorem isPartitioning_bind {diskId : CppString} {f : Bool → ManagerProg β}
    (rest : wp (.ofEnv env) (f (s.partitioningDiskIds.contains diskId)) post s w) :
    wp (.ofEnv env) (isPartitioning diskId >>= f) post s w :=
  wp_look_bind rest

theorem hasDisk_bind {diskId : CppString} {f : Bool → ManagerProg β}
    (rest : wp (.ofEnv env) (f s.diskMap[diskId]?.isSome) post s w) :
    wp (.ofEnv env) (hasDisk diskId >>= f) post s w :=
  wp_look_bind rest

/-- The loop over the volumes of the disk finds the first one with the number. -/
theorem findVolumeByPartNum_bind {partNum : Int}
    {volumeIds : List CppString} {f : Option VolumeExternal → ManagerProg β}
    (none : (∀ item ∈ volumeIds, ∀ vol, s.volumeMap[item]? = some vol → vol.partitionNum ≠ partNum) →
      wp (.ofEnv env) (f none) post s w)
    (some : ∀ item ∈ volumeIds, ∀ vol, s.volumeMap[item]? = some vol → vol.partitionNum = partNum →
      wp (.ofEnv env) (f (some vol)) post s w) :
    wp (.ofEnv env) (findVolumeByPartNum partNum volumeIds >>= f) post s w := by
  induction volumeIds with
  | nil => exact none fun item mem => absurd mem List.not_mem_nil
  | cons item volumeIds ih =>
      rw [findVolumeByPartNum, getVolumeById, findVolume, wp_bind]
      refine wp_look_bind ?_
      have later : (∀ vol, s.volumeMap[item]? = Option.some vol → vol.partitionNum ≠ partNum) →
          wp (.ofEnv env) (findVolumeByPartNum partNum volumeIds >>= f) post s w := by
        intro first
        refine ih (fun rest => none ?_) fun item' mem => some item' (List.mem_cons_of_mem item mem)
        intro item' mem
        rcases List.mem_cons.mp mem with rfl | mem
        · exact first
        · exact rest item' mem
      cases found : s.volumeMap[item]? with
      | none =>
          rw [found] at later
          exact wp_bind.mp (later fun vol there => by cases there)
      | some vol =>
          dsimp only
          split
          next same => exact some item List.mem_cons_self vol found same
          next other =>
            refine wp_bind.mp (later fun vol' there => ?_)
            rw [found] at there
            cases there
            exact other

theorem index_onVolumeDestroyed (v : CppString) :
    wp (.ofEnv env) (onVolumeDestroyed v) (fun _ s' _ => s'.index = s.index.erase v) s w := by
  refine wp_section ?_
  split
  next gone =>
    have none : s.index.places v = none :=
      Option.map_eq_none_iff.mpr (Option.isNone_iff_eq_none.mp gone)
    exact (Index.erase_of_none none).symm
  · exact index_eraseVolume s v

theorem index_onVolumeCreated (vol : VolumeExternal) :
    wp (.ofEnv env) (onVolumeCreated vol) (fun _ s' _ => s'.index = s.index.insert vol.place) s w := by
  rw [onVolumeCreated]
  refine wp_look_bind ?_
  exact ⟨trivial, index_insertVolume s _⟩

/-! ## A volume comes -/

theorem reads_tryLoadBlockInfoForVolume (disk : Disk) :
    Within Eq (tryLoadBlockInfoForVolume disk) fun _ => True := by
  rw [tryLoadBlockInfoForVolume]
  split
  · exact fun _ => trivial
  · exact fun _ => trivial

theorem index_createAndSetupVolume (nodes : NodesOk env) {diskId : CppString}
    (there : s.diskMap[diskId]?.isSome) (pDev : Dev) (isUserData : Bool) (partitionNum : Int) :
    wp (.ofEnv env) (createAndSetupVolume diskId pDev isUserData partitionNum)
      (fun err s' _ => err = E_OK ∧
        s'.index = s.index.insert (.volumeOn diskId pDev partitionNum)) s w := by
  obtain ⟨disk, there⟩ := Option.isSome_iff_exists.mp there
  rw [createAndSetupVolume]
  refine wp_called_bind fun err w' answered => ?_
  rw [nodes.create answered]
  simp only [ne_eq, not_true_eq_false, if_false]
  refine getDiskById_bind_some there fun extraInfo w' => ?_
  dsimp only
  refine wp_reads_bind (reads_tryLoadBlockInfoForVolume _) fun blockInfo w' => ?_
  refine wp_seq (index_onVolumeCreated _) fun _ s' w' inserted => ?_
  exact ⟨rfl, inserted⟩

theorem sameIndex_readAndUpdateMetadata (volId volDevPath : CppString) :
    Within SameIndex (readAndUpdateMetadata volId volDevPath) fun _ => True := by
  rw [readAndUpdateMetadata]
  apply within_call_bind
  intro metadata
  split
  · exact within_seq (sameIndex_updateVolumeMetadata _ _ _ _) fun _ _ => trivial
  · trivial

theorem sameIndex_evaluateVolumeMetadataAbnormal (volId : CppString) (isUserData : Bool)
    (uuid type : CppString) (metadataErr : ErrCode) :
    Within SameIndex (evaluateVolumeMetadataAbnormal volId isUserData uuid type metadataErr)
      fun _ => True := by
  rw [evaluateVolumeMetadataAbnormal]
  dsimp only
  split
  · trivial
  split
  · trivial
  split
  · exact within_seq (sameIndex_markVolumeAbnormal _ _) fun _ _ => trivial
  split
  · exact within_seq (sameIndex_markVolumeAbnormal _ _) fun _ _ => trivial
  · trivial

end Wp

section

variable [JsonLib] {W : Type} {env : Env ManagerState W Req Req.Resp} {s : ManagerState} {w : W}

theorem index_mountDiscoveredVolume (ids : KeyIds s) (volId : CppString) (isUserData : Bool)
    (uuid type : CppString) :
    wp (.ofEnv env) (mountDiscoveredVolume volId isUserData uuid type)
      (fun _ s' _ => s'.index = s.index) s w := by
  rw [mountDiscoveredVolume]
  split
  · exact rfl
  refine wp_seq (index_mount ids volId {}) fun err s' w' same => ?_
  split
  · split
    · refine index_bind (sameIndex_markVolumeAbnormal _ _) fun _ s'' w'' same' _ => ?_
      exact same'.trans same
    · exact same
  · exact same

/-- The volume of a partition comes, unless there is one on its device. -/
theorem index_discoverPartitionOn (nodes : NodesOk env) (ids : KeyIds s) {diskId : CppString}
    (there : s.diskMap[diskId]?.isSome) (pDev : Dev) (p : PartitionRecord) (isUserData : Bool) :
    wp (.ofEnv env) (discoverPartitionOn pDev diskId p isUserData)
      (fun _ s' _ =>
        s'.index = s.index.insert (.volumeOn diskId pDev (toInt32 p.partitionNumber))) s w := by
  rw [discoverPartitionOn]
  rw [getVolumeById, findVolume]
  refine wp_look_bind ?_
  split
  next mounted =>
    obtain ⟨vol, found, -⟩ := (Option.any_eq_true _ _).mp mounted
    have taken : s.index.places (Place.volumeOn diskId pDev (toInt32 p.partitionNumber)).id =
        some vol.place := Option.map_eq_some_iff.mpr ⟨vol, found, rfl⟩
    exact (Index.insert_of_taken taken).symm
  refine wp_seq (index_createAndSetupVolume nodes there _ _ _) fun err s₁ w₁ created => ?_
  obtain ⟨rfl, created⟩ := created
  simp only [ne_eq, not_true_eq_false, if_false]
  refine index_bind (sameIndex_readAndUpdateMetadata _ _) fun metadata s₂ w₂ same₂ _ => ?_
  refine isPartitioning_bind ?_
  split
  · refine index_bind (sameIndex_format _ _) fun _ s₃ w₃ same₃ _ => ?_
    exact same₃.trans (same₂.trans created)
  refine index_bind (sameIndex_evaluateVolumeMetadataAbnormal _ _ _ _ _)
    fun abnormal s₃ w₃ same₃ _ => ?_
  have same : s₃.index = s.index.insert (.volumeOn diskId pDev (toInt32 p.partitionNumber)) :=
    same₃.trans (same₂.trans created)
  split
  · exact same
  have ids₃ : KeyIds s₃ := by
    rw [keyIds_index, same]
    exact (keyIds_index.mp ids).insert _
  refine wp_mono ?_ (index_mountDiscoveredVolume ids₃ _ _ _ _)
  exact fun _ s₄ _ same₄ => same₄.trans same

end

/-! ## The device of a partition -/

/-- The device of a partition without a dm-linear device; `maxMinor` is the largest minor number
of a volume node. -/
def plainDev (uevent : UeventEnv) (maxMinor : Int) (isUserData : Bool) (p : PartitionRecord) : Dev :=
  if isUserData then userDataDev maxMinor p.partitionNumber
  else partitionDev uevent.major uevent.minor p.partitionNumber

/-- `GetMaxMinor`, with the entries of the directory. -/
def maxMinorAmong (major : Int) (nodes : Option (List (CppString × Option Dev))) : Int :=
  nodes.elim (-1) (maxMinorOf major)

/-- The disk is recorded as an internal data disk. -/
def Index.internal (i : Index) (diskId : CppString) : Bool :=
  i.diskMap[diskId]?.any (·.isInternalDataDisk)

/-- The devices `ResolvePartitionDev` may choose. -/
inductive Resolves {W : Type} (env : Env ManagerState W Req Req.Resp) (uevent : UeventEnv)
    (diskId : CppString) (isUserData : Bool) (p : PartitionRecord) (s : ManagerState) : Dev → Prop
  | plain (maxMinor : Int) :
    (isUserData = true → ∃ w nodes w', env s w .blockNodes nodes w' ∧
      maxMinor = maxMinorAmong MAJORID_BLKEXT nodes) →
    Resolves env uevent diskId isUserData p s (plainDev uevent maxMinor isUserData p)
  | linear {w w' : W} {source : CppString} {start count : Nat} {dev : Dev} :
    s.index.internal diskId = true → env s w (.createDmLinear source start count) (E_OK, dev) w' →
    dev ≠ makedev 0 0 → Resolves env uevent diskId isUserData p s dev

theorem Resolves.mono {W : Type} {env env' : Env ManagerState W Req Req.Resp} {uevent : UeventEnv}
    {diskId : CppString} {isUserData : Bool} {p : PartitionRecord} {s : ManagerState} {dev : Dev}
    (imp : ∀ {s w q r w'}, env s w q r w' → env' s w q r w')
    (resolves : Resolves env uevent diskId isUserData p s dev) :
    Resolves env' uevent diskId isUserData p s dev := by
  cases resolves with
  | plain maxMinor listed =>
      refine .plain maxMinor fun user => ?_
      obtain ⟨w, nodes, w', answered, largest⟩ := listed user
      exact ⟨w, nodes, w', imp answered, largest⟩
  | linear internal answered some' => exact .linear internal (imp answered) some'

section Wp

variable {W : Type} {env : Env ManagerState W Req Req.Resp} {s : ManagerState} {w : W}
  {β : Type} {post : β → ManagerState → W → Prop}

theorem getMaxMinor_bind {major : Int} {f : Int → ManagerProg β}
    (rest : ∀ nodes w', env s w .blockNodes nodes w' →
      wp (.ofEnv env) (f (maxMinorAmong major nodes)) post s w') :
    wp (.ofEnv env) (getMaxMinor major >>= f) post s w := by
  rw [getMaxMinor, wp_bind]
  refine wp_called_bind fun nodes w' answered => ?_
  cases nodes with
  | none => exact rest none w' answered
  | some nodes => exact rest (some nodes) w' answered

theorem createDmLinearForPartition_bind {devName : CppString} {n : Nat} {f : Dev → ManagerProg β}
    (rest : ∀ dev w', (dev = makedev 0 0 ∨ ∃ w₁ w₂ source start count,
      env s w₁ (.createDmLinear source start count) (E_OK, dev) w₂ ∧ dev ≠ makedev 0 0) →
      wp (.ofEnv env) (f dev) post s w') :
    wp (.ofEnv env) (createDmLinearForPartition devName n >>= f) post s w := by
  rw [createDmLinearForPartition]
  dsimp only
  rw [wp_bind]
  refine wp_called_bind fun size w₁ _ => ?_
  obtain ⟨sizeErr, totalBytes⟩ := size
  dsimp only
  split
  · exact rest _ w₁ (.inl rfl)
  split
  · exact rest _ w₁ (.inl rfl)
  refine wp_called_bind fun made w₂ answered => ?_
  obtain ⟨err, dev⟩ := made
  dsimp only
  split
  · exact rest _ w₂ (.inl rfl)
  next both =>
    have both := not_or.mp both
    have ok : err = E_OK := not_not.mp both.1
    subst ok
    exact rest dev w₂ (.inr ⟨w₁, w₂, _, _, _, answered, both.2⟩)

theorem resolvePartitionDev_bind {uevent : UeventEnv} {diskId : CppString} {p : PartitionRecord}
    {isUserData : Bool} {f : Dev → ManagerProg β}
    (rest : ∀ dev w', Resolves env uevent diskId isUserData p s dev →
      wp (.ofEnv env) (f dev) post s w') :
    wp (.ofEnv env) (resolvePartitionDev uevent diskId p isUserData >>= f) post s w := by
  have plain : ∀ w', wp (.ofEnv env) (do
      if isUserData then
        return userDataDev (← getMaxMinor MAJORID_BLKEXT) p.partitionNumber
      return partitionDev uevent.major uevent.minor p.partitionNumber)
      (fun dev => wp (.ofEnv env) (f dev) post) s w' := by
    intro w'
    cases isUserData with
    | true =>
        refine getMaxMinor_bind fun nodes w₁ answered => ?_
        exact rest _ w₁ (.plain _ fun _ => ⟨w', nodes, w₁, answered, rfl⟩)
    | false => exact rest _ w' (.plain 0 fun user => by cases user)
  rw [resolvePartitionDev, wp_bind]
  refine isInternalDataDiskById_bind fun w' => ?_
  split
  next internal =>
    refine createDmLinearForPartition_bind fun dev w₁ made => ?_
    split
    next some' =>
      rcases made with none | ⟨w₂, w₃, source, start, count, answered, -⟩
      · exact absurd none some'
      · exact rest dev w₁ (.linear internal answered some')
    · exact plain w₁
  · exact plain w'

end Wp

section

variable [JsonLib] {W : Type} {env : Env ManagerState W Req Req.Resp} {s : ManagerState} {w : W}

/-- The volume of a partition comes on one of the devices it may have. -/
theorem index_discoverSinglePartitionVolume (nodes : NodesOk env) (ids : KeyIds s)
    {diskId : CppString} (there : s.diskMap[diskId]?.isSome) (uevent : UeventEnv)
    (p : PartitionRecord) (isUserData : Bool) :
    wp (.ofEnv env) (discoverSinglePartitionVolume uevent diskId p isUserData)
      (fun _ s' _ => ∃ dev, Resolves env uevent diskId isUserData p s dev ∧
        s'.index = s.index.insert (.volumeOn diskId dev (toInt32 p.partitionNumber))) s w := by
  rw [discoverSinglePartitionVolume]
  refine resolvePartitionDev_bind fun dev w' resolves => ?_
  refine wp_mono ?_ (index_discoverPartitionOn nodes ids there dev p isUserData)
  exact fun _ s' _ inserted => ⟨dev, resolves, inserted⟩

theorem index_setupWholeDiskVolume (nodes : NodesOk env) (ids : KeyIds s) {diskId : CppString}
    (there : s.diskMap[diskId]?.isSome) (uevent : UeventEnv) (metadata : Option Metadata) :
    wp (.ofEnv env) (setupWholeDiskVolume uevent diskId metadata)
      (fun _ s' _ => s'.index =
        s.index.insert (.volumeOn diskId (makedev uevent.major uevent.minor) 0)) s w := by
  unfold setupWholeDiskVolume
  dsimp only
  refine wp_seq (index_createAndSetupVolume nodes there _ _ _) fun err s₁ w₁ created => ?_
  obtain ⟨rfl, created⟩ := created
  simp only [ne_eq, not_true_eq_false, if_false]
  cases metadata with
  | none =>
      refine index_bind (sameIndex_format _ _) fun _ s₂ w₂ same₂ _ => ?_
      exact same₂.trans created
  | some metadata =>
      refine index_bind (sameIndex_updateVolumeMetadata _ _ _ _) fun _ s₂ w₂ same₂ _ => ?_
      refine index_bind (sameIndex_evaluateVolumeMetadataAbnormal _ _ _ _ _)
        fun abnormal s₃ w₃ same₃ _ => ?_
      have same := same₃.trans (same₂.trans created)
      split
      · exact same
      have ids₃ : KeyIds s₃ := by
        rw [keyIds_index, same]
        exact (keyIds_index.mp ids).insert _
      refine wp_mono ?_ (index_mountDiscoveredVolume ids₃ _ _ _ _)
      exact fun _ s₄ _ same₄ => same₄.trans same

/-- The whole-disk volume comes or not. -/
theorem index_discoverWholeDiskVolume (nodes : NodesOk env) (ids : KeyIds s) {diskId : CppString}
    (there : s.diskMap[diskId]?.isSome) (uevent : UeventEnv) (isUserData : Bool)
    (tableType : CppString) :
    wp (.ofEnv env) (discoverWholeDiskVolume uevent diskId isUserData tableType)
      (fun _ s' _ => s'.index = s.index ∨ s'.index =
        s.index.insert (.volumeOn diskId (makedev uevent.major uevent.minor) 0)) s w := by
  have comes : ∀ metadata w', wp (.ofEnv env) (setupWholeDiskVolume uevent diskId metadata)
      (fun _ s' _ => s'.index = s.index ∨ s'.index =
        s.index.insert (.volumeOn diskId (makedev uevent.major uevent.minor) 0)) s w' :=
    fun metadata w' => wp_mono (fun _ _ _ inserted => .inr inserted)
      (index_setupWholeDiskVolume nodes ids there uevent metadata)
  rw [discoverWholeDiskVolume]
  refine isPartitioning_bind ?_
  split
  · exact comes none w
  refine wp_called_bind fun metadata w₁ _ => ?_
  split
  · split
    · exact .inl rfl
    refine isInternalDataDiskById_bind fun w₂ => ?_
    split
    · exact .inl rfl
    split
    · exact .inl rfl
    · exact ⟨trivial, fun _ _ _ => .inl rfl⟩
  · exact comes (some metadata) w₁

end

/-! ## Volumes go -/

/-- Gone or not, what is erased in the end is gone. -/
theorem Index.erase_of_same_or_erase {i i' : Index} {k : CppString}
    (same : i' = i ∨ i' = i.erase k) : i'.erase k = i.erase k := by
  rcases same with rfl | rfl
  · rfl
  · exact erase_erase i k

theorem index_unbindContainer {W : Type} {env : Env ManagerState W Req Req.Resp} {s : ManagerState}
    {w : W} {vol : VolumeExternal} (loop : vol.loopPath ≠ [] → cryptVolumeId vol.loopPath = vol.id) :
    wp (.ofEnv env) (unbindContainer vol)
      (fun _ s' _ => s'.index = s.index ∨ s'.index = s.index.erase vol.id) s w := by
  rw [unbindContainer]
  split
  next some' =>
    have crypt : cryptVolumeId vol.loopPath = vol.id := loop (by simpa using some')
    rw [unbindBlockLoopDev, crypt, wp_bind]
    refine wp_called_bind fun result w' _ => ?_
    obtain ⟨ret, output⟩ := result
    dsimp only
    split
    · exact .inl rfl
    · exact wp_seq (index_onVolumeDestroyed _) fun _ _ _ erased => .inr erased
  · exact .inl rfl

theorem sameIndex_closeContainer (vol : VolumeExternal) :
    Within SameIndex (closeContainer vol) fun _ => True := by
  rw [closeContainer]
  split
  · exact within_seq (sameIndex_destroyDmCryptVolume _) fun _ _ => trivial
  · trivial

theorem index_removeVolumeNode {W : Type} {env : Env ManagerState W Req Req.Resp} {s : ManagerState}
    {w : W} (nodes : NodesOk env) (vol : VolumeExternal) :
    wp (.ofEnv env) (removeVolumeNode vol) (fun _ s' _ => s'.index = s.index.erase vol.id) s w := by
  rw [removeVolumeNode]
  refine wp_called_bind fun ret w₁ answered => ?_
  rw [nodes.destroy answered]
  simp only [ne_eq, not_true_eq_false, if_false]
  refine wp_called_bind fun _ w₂ _ => ?_
  exact wp_seq (index_onVolumeDestroyed _) fun _ _ _ erased => erased

section

variable [JsonLib] {W : Type} {env : Env ManagerState W Req Req.Resp} {s : ManagerState} {w : W}

/-- The record is unmounted first where it is not, and may be gone after that. -/
theorem index_unmountUnlessEjected (ids : KeyIds s) (vol : VolumeExternal) :
    wp (.ofEnv env) (unmountUnlessEjected vol)
      (fun _ s' _ => s'.index = s.index ∨ s'.index = s.index.erase vol.id) s w := by
  rw [unmountUnlessEjected]
  split
  · exact wp_seq (index_forceUnmount ids vol.id) fun _ _ _ same => same
  · exact .inl rfl

theorem index_destroyVolume (nodes : NodesOk env) (ids : KeyIds s) {vol : VolumeExternal}
    (loop : vol.loopPath ≠ [] → cryptVolumeId vol.loopPath = vol.id) :
    wp (.ofEnv env) (destroyVolume vol) (fun _ s' _ => s'.index = s.index.erase vol.id) s w := by
  rw [destroyVolume]
  refine wp_seq (index_unmountUnlessEjected ids vol) fun _ s₁ w₁ unmounted => ?_
  refine index_bind (sameIndex_closeContainer vol) fun _ s₂ w₂ same _ => ?_
  rw [← same] at unmounted
  refine wp_seq (index_unbindContainer loop) fun _ s₃ w₃ unbound => ?_
  refine wp_mono ?_ (index_removeVolumeNode nodes vol)
  intro _ s₄ w₄ erased
  rw [erased, Index.erase_of_same_or_erase unbound, Index.erase_of_same_or_erase unmounted]

/-- The volumes that are taken down are the records that name the disk. -/
theorem mem_volumesOfDisk {diskId : CppString} {vol : VolumeExternal} :
    vol ∈ volumesOfDisk diskId s.allVolumes ↔
      (∃ k : CppString, s.volumeMap[k]? = some vol) ∧ vol.diskId = diskId ∧ vol.id ≠ "0" := by
  have records : ∀ vol : VolumeExternal, vol ∈ s.volumeMap.toList.map (·.2) ↔
      ∃ k : CppString, s.volumeMap[k]? = some vol := by
    intro vol
    rw [List.mem_map]
    refine ⟨?_, ?_⟩
    · rintro ⟨⟨k, r⟩, mem, rfl⟩
      exact ⟨k, StdMap.mem_toList.mp mem⟩
    · rintro ⟨k, found⟩
      exact ⟨(k, vol), StdMap.mem_toList.mpr found, rfl⟩
  rw [volumesOfDisk, List.mem_filter, ManagerState.allVolumes, List.mem_append, records]
  simp only [Bool.and_eq_true, decide_eq_true_eq]
  refine ⟨?_, fun ⟨here, of, named⟩ => ⟨.inl here, of, named⟩⟩
  rintro ⟨here | made, of, named⟩
  · exact ⟨here, of, named⟩
  · obtain ⟨disk, -, rfl⟩ := List.mem_map.mp made
    exact absurd rfl named

theorem index_destroyALLVolume (nodes : NodesOk env) (sound : s.index.Sound) {diskId : CppString}
    (some' : diskId ≠ []) :
    wp (.ofEnv env) (destroyALLVolume diskId)
      (fun _ s' _ => s'.index = s.index.eraseDisk diskId) s w := by
  rw [destroyALLVolume, getAllVolumes]
  refine wp_look_bind ?_
  have ids : KeyIds s := keyIds_index.mpr sound.keys
  have place : ∀ vol ∈ volumesOfDisk diskId s.allVolumes,
      s.index.places vol.id = some vol.place := by
    intro vol mem
    obtain ⟨⟨k, found⟩, -, -⟩ := mem_volumesOfDisk.mp mem
    have id := ids k vol found
    subst id
    exact Option.map_eq_some_iff.mpr ⟨vol, found, rfl⟩
  have round : ∀ vol ∈ volumesOfDisk diskId s.allVolumes, ∀ s' w', KeyIds s' →
      wp (.ofEnv env) (destroyVolume vol)
        (fun _ s'' _ => KeyIds s'' ∧ s''.index = s'.index.erase vol.id) s' w' := by
    intro vol mem s' w' ids'
    refine wp_mono ?_ (index_destroyVolume nodes ids' fun some' => sound.loops (place vol mem) some')
    intro _ s'' w'' erased
    refine ⟨?_, erased⟩
    rw [keyIds_index, erased]
    exact (keyIds_index.mp ids').erase _
  refine wp_mono ?_ (wp_rounds KeyIds ManagerState.index (fun vol i i' => i' = i.erase vol.id) _
    round ids)
  intro _ s' w' ended
  rw [Index.eraseAll_of_rounds ended.2]
  apply Index.eraseAll_eq_eraseDisk
  intro k p found
  obtain ⟨vol, there, rfl⟩ := Option.map_eq_some_iff.mp found
  rw [List.mem_map]
  refine ⟨?_, fun of => ?_⟩
  · rintro ⟨vol', mem, rfl⟩
    have same := Option.some.inj ((place vol' mem).symm.trans found)
    exact (congrArg Place.diskId same).symm.trans (mem_volumesOfDisk.mp mem).2.1
  · have named := sound.named found (of.trans_ne some')
    have id := ids k vol there
    exact ⟨vol, mem_volumesOfDisk.mpr ⟨⟨k, there⟩, of, id.trans_ne named⟩, id⟩

theorem index_destroyFoundVolume (nodes : NodesOk env) (ids : KeyIds s) (vol : VolumeExternal) :
    wp (.ofEnv env) (destroyFoundVolume vol)
      (fun _ s' _ => s'.index = s.index.erase vol.id) s w := by
  have last : ∀ s' w', s'.index = s.index ∨ s'.index = s.index.erase vol.id →
      wp (.ofEnv env) (do
        let ret ← call (.destroyBlockDeviceNode (DEV_BLOCK_PREFIX ++ vol.id))
        if ret ≠ E_OK then
          return false
        call (.publishVolumeChange (if vol.state = .unmounted then .removed else .badRemoval) vol)
        let _ ← onVolumeDestroyed vol.id
        return true) (fun _ s' _ => s'.index = s.index.erase vol.id) s' w' := by
    intro s' w' same
    refine wp_called_bind fun ret w₁ answered => ?_
    rw [nodes.destroy answered]
    simp only [ne_eq, not_true_eq_false, if_false]
    refine wp_called_bind fun _ w₂ _ => ?_
    refine wp_seq (index_onVolumeDestroyed _) fun _ _ _ erased => ?_
    exact erased.trans (Index.erase_of_same_or_erase same)
  rw [destroyFoundVolume]
  dsimp only
  split
  · exact wp_seq (index_forceUnmount ids vol.id) fun _ s' w' same => last s' w' same
  · exact last s w (.inl rfl)

theorem index_destroyVolumeByDiskIdAndPartNum (nodes : NodesOk env) (ids : KeyIds s)
    {diskId : CppString} {disk : Disk} (there : s.diskMap[diskId]? = some disk)
    (id : disk.diskId = diskId) (partNum : Int) :
    wp (.ofEnv env) (destroyVolumeByDiskIdAndPartNum diskId partNum)
      (fun _ s' _ => Index.Removes diskId partNum s.index s'.index) s w := by
  have volumes : ∀ item, item ∈ (attachVolumeIdsToDisk s.volumeMap disk).volumeIds ↔
      ∃ vol, s.volumeMap[item]? = some vol ∧ vol.diskId = diskId := by
    intro item
    simp only [attachVolumeIdsToDisk, List.mem_map, List.mem_filter, decide_eq_true_eq, id]
    refine ⟨?_, ?_⟩
    · rintro ⟨⟨k, vol⟩, ⟨mem, of⟩, rfl⟩
      have found := StdMap.mem_toList.mp mem
      exact ⟨vol, by rwa [ids k vol found], of⟩
    · rintro ⟨vol, found, of⟩
      exact ⟨(item, vol), ⟨StdMap.mem_toList.mpr found, of⟩, ids item vol found⟩
  rw [destroyVolumeByDiskIdAndPartNum]
  refine getDiskById_bind_some there fun extraInfo w' => ?_
  dsimp only
  refine findVolumeByPartNum_bind (fun none => .none ?_) fun item mem vol found number => ?_
  · rintro ⟨k, place, at', of, number⟩
    obtain ⟨vol, found, rfl⟩ := Option.map_eq_some_iff.mp at'
    exact none k ((volumes k).mpr ⟨vol, found, of⟩) vol found number
  · obtain ⟨vol', found', of⟩ := (volumes item).mp mem
    rw [found] at found'
    cases found'
    refine wp_mono ?_ (index_destroyFoundVolume nodes ids vol)
    intro _ s' _ erased
    rw [erased, ids item vol found]
    exact .some (Option.map_eq_some_iff.mpr ⟨vol, found, rfl⟩) of number

end

end DiskManager
