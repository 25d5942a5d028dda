import DiskManager.JsonCodec
import DiskManager.Uevent.InStep
import DiskManager.Uevent.Requests
import DiskManager.Uevent.Service

/-!
# The prohibition of external storage

While `persist.edm.external_storage_card_disable` is `true`, `DiskManager::Mount` refuses. The
discovery of volumes mounts through it. `TryToFix` and `MountVolumeByPath` end in a mount of their
own, which does not look at the parameter.
-/

namespace DiskManager

open Interact

def EXTERNAL_STORAGE_CARD_DISABLE : CppString := "persist.edm.external_storage_card_disable"

def Req.isMount : Req → Bool
  | .mount .. => true
  | _ => false

/-- The parameter is set whenever it is read. -/
def Prohibits {W : Type} (env : Env ManagerState W Req Req.Resp) : Prop :=
  ∀ s w value w', env s w (.getParameter EXTERNAL_STORAGE_CARD_DISABLE) value w' → value = "true"

/-- The request repairs no volume that is recorded, and mounts none by its path that is recorded and
not mounted. -/
def ServiceOp.Checked (op : ServiceOp) (h : History ManagerState Req Req.Resp) : Prop :=
  match op with
  | .tryToFix volumeId => ∀ s ∈ h.found.head?, s.volumeMap[volumeId]? = none
  | .mountVolumeByPath diskId volPath _ => ∀ s ∈ h.found[1]?, ∀ vol,
      s.volumeByCryptPath diskId volPath = some vol → vol.state = .mounted
  | _ => True

/-- No move mounts. -/
def Unmounting (_ : History ManagerState Req Req.Resp) : Move ManagerState Req → Prop
  | .run _ => True
  | .ask q => q.isMount = false

theorem not_isMount_of_mild (q : Req) (mild : q.mild = true) : q.isMount = false := by
  cases q with
  | mount => cases mild
  | _ => rfl

section

variable {W : Type} {env : Env ManagerState W Req Req.Resp}
  {allowed : History ManagerState Req Req.Resp → Prop} {h : History ManagerState Req Req.Resp}
  {α : Type}

theorem unmounting_of_asks {p : ManagerProg α} (asks : Asks (fun q => q.isMount = false) p) :
    Along allowed Unmounting p (fun _ _ => True) h :=
  along_of_asks (fun _ => True) asks (fun _ _ _ => trivial) (fun _ _ _ other => other)
    (fun _ _ _ _ => trivial) (fun _ _ _ _ => trivial) (fun _ _ _ _ _ _ => trivial) trivial

theorem unmounting_getDiskById {diskId : CppString} {f : Option Disk → ManagerProg α}
    (rest : ∀ shown h', h'.found.length = h.found.length + 1 →
      Along allowed Unmounting (f shown) (fun _ _ => True) h') :
    Along allowed Unmounting (getDiskById diskId >>= f) (fun _ _ => True) h := by
  have one : ∀ {h' : History ManagerState Req Req.Resp} {s}, h.Since allowed h' →
      (History.own h' s).found.length = h.found.length + 1 := by
    intro h' s since
    rw [History.found, since.found, List.length_append]
    rfl
  rw [getDiskById, along_bind]
  refine along_read_bind fun h' since => ⟨trivial, ?_⟩
  dsimp only
  split
  · exact rest _ _ (one since)
  split
  · rw [queryAndAppendEncryptionStatusUnlocked]
    split
    · exact rest _ _ (one since)
    · refine fun h'' later => ⟨rfl, fun extraInfo _ => ?_⟩
      have count : (History.answer h'' _ extraInfo).found.length = h.found.length + 1 :=
        (congrArg List.length later.found).trans (one since)
      cases extraInfo with
      | none => exact rest _ _ count
      | some extraInfo => exact rest _ _ count
  · exact rest _ _ (one since)

variable [JsonLib]

/-- A mount looks at the parameter first. -/
theorem unmounting_mount (prohibits : Prohibits env)
    (answerable : ∀ h, allowed h → h.Answerable env) (volumeId : CppString)
    (mountParam : MountParam) :
    Along allowed Unmounting (mount volumeId mountParam) (fun _ _ => True) h := by
  rw [mount]
  refine fun h' since => ⟨rfl, fun disabled fine => ?_⟩
  obtain ⟨s, w, w', answered⟩ := answerable _ fine
  have set : disabled = "true" := prohibits s w disabled w' answered
  change Along _ _ (if _ then _ else _) _ _
  rw [if_pos set]
  trivial

theorem unmounting_built (prohibits : Prohibits env)
    (answerable : ∀ h, allowed h → h.Answerable env) {p : ManagerProg α}
    (built : Built (fun q => q.isMount = false) Discovered p) :
    Along allowed Unmounting p (fun _ _ => True) h := by
  refine built.along (fun _ => True) (fun _ _ _ => trivial) (fun _ _ _ other => other)
    (fun _ _ _ _ => trivial) (fun _ _ _ _ => trivial) (fun _ _ _ _ _ _ => trivial) ?_ trivial
  intro β p h' part _
  cases part with
  | mount volId => exact unmounting_mount prohibits answerable volId {}
  | format volId =>
      exact unmounting_of_asks (asks_format not_isMount_of_mild _ _ (fun _ _ _ _ => rfl)
        fun _ => rfl)

theorem unmounting_tryToFix {volumeId : CppString} {s : ManagerState}
    (checked : ∀ h, allowed h → ∀ s ∈ h.found.head?, s.volumeMap[volumeId]? = none) :
    Along allowed Unmounting (tryToFix volumeId) (fun _ _ => True) (.came s) := by
  rw [tryToFix, findVolume]
  refine fun h' since => ⟨trivial, fun fine => ?_⟩
  have unknown : h'.now.volumeMap[volumeId]? = none := by
    refine checked _ fine h'.now ?_
    change h'.now ∈ (h'.found ++ [h'.now]).head?
    rw [since.found]
    rfl
  dsimp only [Prog.bind]
  rw [unknown]
  trivial

omit [JsonLib] in
theorem unmounting_mountVolumeByPath {diskId volPath : CppString} {param : MountParam}
    {s : ManagerState} (checked : ∀ h, allowed h → ∀ s ∈ h.found[1]?, ∀ vol,
      s.volumeByCryptPath diskId volPath = some vol → vol.state = .mounted) :
    Along allowed Unmounting (mountVolumeByPath diskId volPath param) (fun _ _ => True) (.came s) := by
  rw [mountVolumeByPath]
  refine unmounting_getDiskById fun shown h one => ?_
  split
  · trivial
  split
  · trivial
  rw [lookupVolumeByCryptPath]
  refine fun h' since => ⟨trivial, fun fine => ?_⟩
  have mounted : ∀ vol, h'.now.volumeByCryptPath diskId volPath = some vol →
      vol.state = .mounted := by
    refine checked _ fine h'.now ?_
    change h'.now ∈ (h'.found ++ [h'.now])[1]?
    have length : h'.found.length = 1 := (congrArg List.length since.found).trans one
    rw [List.getElem?_append_right (Nat.le_of_eq length), length]
    rfl
  dsimp only [Prog.bind]
  split
  · trivial
  next vol found =>
    rw [if_pos (mounted vol found)]
    trivial

/-! ## Every run -/

theorem ServiceOp.unmounting (prohibits : Prohibits env) (op : ServiceOp) (s : ManagerState) :
    Along (fun h => op.Checked h ∧ h.Answerable env) Unmounting op.prog (fun _ _ => True)
      (.came s) := by
  have mild := not_isMount_of_mild
  have answerable : ∀ h, op.Checked h ∧ h.Answerable env → h.Answerable env := fun _ => And.right
  have inert : ∀ {β : Type} {p : ManagerProg β}, Asks (fun q => q.isMount = false) p →
      Along (fun h => op.Checked h ∧ h.Answerable env) Unmounting (ManagerProg.run p)
        (fun _ _ => True) (.came s) :=
    fun asks => along_seq (unmounting_of_asks asks) fun _ _ _ => trivial
  have built : ∀ {β : Type} {p : ManagerProg β}, Built (fun q => q.isMount = false) Discovered p →
      Along (fun h => op.Checked h ∧ h.Answerable env) Unmounting (ManagerProg.run p)
        (fun _ _ => True) (.came s) :=
    fun built => along_seq (unmounting_built prohibits answerable built) fun _ _ _ => trivial
  have reads : ∀ devPath, (Req.readMetadata devPath).isMount = false := fun _ => rfl
  cases op with
  | uevent e =>
      refine built ?_
      rw [DiskEvent.prog]
      split
      · exact built_handleDiskAdd mild reads _
      · exact built_handleDiskChange mild reads _
      · exact built_handleDiskRemove mild _
  | mount volumeId mountParam =>
      exact along_seq (unmounting_mount prohibits answerable _ _) fun _ _ _ => trivial
  | unmount => exact inert (asks_unmount mild _)
  | forceUnmount => exact inert (asks_forceUnmount mild _)
  | tryToFix volumeId =>
      exact along_seq (unmounting_tryToFix fun h fine => fine.1) fun _ _ _ => trivial
  | format => exact inert (asks_format mild _ _ (fun _ _ _ _ => rfl) reads)
  | setVolumeDescription => exact inert (asks_setVolumeDescription mild _ _ fun _ _ _ => rfl)
  | partition => exact built (built_partition mild reads (fun _ _ => rfl) _)
  | getPartitionTable => exact inert (asks_getPartitionTable mild _)
  | createPartition => exact inert (asks_createPartition mild _ _)
  | deletePartition => exact inert (asks_deletePartition mild _ _)
  | formatPartition =>
      exact inert (asks_formatPartition mild _ _ _ (fun _ _ _ _ _ => rfl) reads)
  | eject => exact inert (asks_eject mild _)
  | notifyMtpMounted => exact inert (asks_notifyMtpMounted mild _ _ _ _ _)
  | notifyMtpUnmounted => exact inert (asks_notifyMtpUnmounted mild _ _)
  | bindBlockLoopDev => exact inert (asks_bindBlockLoopDev mild _ _ _)
  | unbindBlockLoopDev => exact inert (asks_unbindBlockLoopDev mild _)
  | createDmCryptVolume => exact inert (asks_createDmCryptVolume mild _ _ _)
  | destroyDmCryptVolume => exact inert (asks_destroyDmCryptVolume mild _)
  | mountVolumeByPath =>
      exact along_seq (unmounting_mountVolumeByPath fun h fine => fine.1) fun _ _ _ => trivial
  | umountVolumeByPath => exact inert (asks_umountVolumeByPath mild _ _)

end

end DiskManager
