import Pidnl.Ratelimit.InstallOutcome
import Pidnl.Ratelimit.Removal

/-! # What the calls do to the bpffs

Few calls touch a pin or a directory, and those that touch a pin name one of the
two directions last. Other pins stay where they are.
-/

namespace Pidnl.Ratelimit

open Pidnl.Foundation Pidnl.System

/-! ## Single calls -/

/-- The calls of setting a limit that touch no pin and no directory. -/
def LeavesBpffs : {Reply : Type} → KernelCall Reply → Prop
  | _, .cgroupNewCgroup _ => True
  | _, .cgroupCreateCgroup _ => True
  | _, .cgroupAttachTaskPid _ _ => True
  | _, .cgroupDeleteCgroup _ => True
  | _, .getCgroup2Mount => True
  | _, .getBpffsMount => True
  | _, .calloc => True
  | _, .openReadOnly _ => True
  | _, .close _ => True
  | _, .bpfObjGet _ => True
  | _, .bpfLinkDetach _ => True
  | _, .ratelimitBpfOpen => True
  | _, .ratelimitBpfLoad => True
  | _, .ratelimitBpfDestroy _ => True
  | _, .bpfMapUpdateElem _ _ _ => True
  | _, .bpfProgramAttachCgroup _ _ _ => True
  | _, .bpfLinkDestroy _ => True
  | _, _ => False

def NamesDirection (path : Path) : Prop :=
  ∃ directory attachType, path = directory ++ [AttachType.pinName attachType]

/-- The calls of setting a limit: pins are made and removed under the names of the
directions. -/
def PinsDirections : {Reply : Type} → KernelCall Reply → Prop
  | _, .mkdir _ => True
  | _, .rmdir _ => True
  | _, .unlink path => NamesDirection path
  | _, .bpfLinkPin _ path => NamesDirection path
  | _, call => LeavesBpffs call

/-- Of these, the calls that neither make nor remove a cgroup. -/
def ReplacesLinks : {Reply : Type} → KernelCall Reply → Prop
  | _, .cgroupCreateCgroup _ => False
  | _, .cgroupDeleteCgroup _ => False
  | _, call => PinsDirections call

theorem ReplacesLinks.pinsDirections {Reply : Type} {call : KernelCall Reply}
    (replaces : ReplacesLinks call) : PinsDirections call := by
  cases call with
  | cgroupCreateCgroup _ | cgroupDeleteCgroup _ => trivial
  | _ => exact replaces

variable {kernel : Kernel} (owner : Process) (fails : Bool)

theorem closeDescriptor_bpffs (kernel : Kernel) (fd : Fd) :
    (kernel.closeDescriptor fd).pins = kernel.pins ∧
      (kernel.closeDescriptor fd).directories = kernel.directories := by
  rw [Kernel.closeDescriptor]
  split <;> exact ⟨rfl, rfl⟩

theorem closeDescriptors_bpffs (kernel : Kernel) (fds : List Fd) :
    (fds.foldl Kernel.closeDescriptor kernel).pins = kernel.pins ∧
      (fds.foldl Kernel.closeDescriptor kernel).directories = kernel.directories := by
  induction fds generalizing kernel with
  | nil => exact ⟨rfl, rfl⟩
  | cons fd fds induction =>
      rcases closeDescriptor_bpffs kernel fd with ⟨pins, directories⟩
      rcases induction (kernel.closeDescriptor fd) with ⟨pinsRest, directoriesRest⟩
      exact ⟨pinsRest.trans pins, directoriesRest.trans directories⟩

theorem ensureCgroup_bpffs (kernel : Kernel) (name : Path) :
    (kernel.ensureCgroup name).pins = kernel.pins ∧
      (kernel.ensureCgroup name).directories = kernel.directories := by
  rw [Kernel.ensureCgroup]
  split <;> exact ⟨rfl, rfl⟩

theorem createCgroup_bpffs (kernel : Kernel) (name : Path) :
    (kernel.createCgroup name).pins = kernel.pins ∧
      (kernel.createCgroup name).directories = kernel.directories := by
  rw [Kernel.createCgroup]
  induction name.inits.tail generalizing kernel with
  | nil => exact ⟨rfl, rfl⟩
  | cons first rest induction =>
      rcases ensureCgroup_bpffs kernel first with ⟨pins, directories⟩
      rcases induction (kernel.ensureCgroup first) with ⟨pinsRest, directoriesRest⟩
      exact ⟨pinsRest.trans pins, directoriesRest.trans directories⟩

theorem removeCgroup_bpffs (kernel : Kernel) (name : Path) :
    (kernel.removeCgroup name).pins = kernel.pins ∧
      (kernel.removeCgroup name).directories = kernel.directories := by
  rw [Kernel.removeCgroup]
  split <;> exact ⟨rfl, rfl⟩

theorem exec_bpffs {Reply : Type} {call : KernelCall Reply} (leaves : LeavesBpffs call) :
    (Kernel.exec owner fails kernel call).2.pins = kernel.pins ∧
      (Kernel.exec owner fails kernel call).2.directories = kernel.directories := by
  cases call with
  | cgroupNewCgroup name => exact ⟨rfl, rfl⟩
  | cgroupAttachTaskPid name pid => exact ⟨rfl, rfl⟩
  | getCgroup2Mount => exact ⟨rfl, rfl⟩
  | getBpffsMount => exact ⟨rfl, rfl⟩
  | calloc => exact ⟨rfl, rfl⟩
  | ratelimitBpfOpen => exact ⟨rfl, rfl⟩
  | close fd => exact closeDescriptor_bpffs kernel fd
  | bpfLinkDestroy link => exact closeDescriptor_bpffs kernel link
  | ratelimitBpfDestroy skel =>
      cases skel with
      | none => exact ⟨rfl, rfl⟩
      | some skel => exact closeDescriptors_bpffs kernel _
  | cgroupCreateCgroup name =>
      rw [Kernel.exec]
      split
      · exact ⟨rfl, rfl⟩
      · split
        · exact ⟨rfl, rfl⟩
        · exact createCgroup_bpffs kernel name
  | cgroupDeleteCgroup name =>
      rw [Kernel.exec]
      split
      · exact ⟨rfl, rfl⟩
      · exact removeCgroup_bpffs kernel name
  | openReadOnly path =>
      rw [Kernel.exec]
      split
      · exact ⟨rfl, rfl⟩
      · split <;> exact ⟨rfl, rfl⟩
  | bpfObjGet path =>
      rw [Kernel.exec]
      split <;> exact ⟨rfl, rfl⟩
  | bpfLinkDetach fd =>
      rw [Kernel.exec]
      split <;> exact ⟨rfl, rfl⟩
  | ratelimitBpfLoad =>
      rw [Kernel.exec]
      split <;> exact ⟨rfl, rfl⟩
  | bpfMapUpdateElem mapFd key value =>
      rw [Kernel.exec]
      split <;> exact ⟨rfl, rfl⟩
  | bpfProgramAttachCgroup skel attachType cgroupFd =>
      rw [Kernel.exec]
      split
      · split <;> exact ⟨rfl, rfl⟩
      · exact ⟨rfl, rfl⟩
  | _ => exact leaves.elim

theorem LeavesBpffs.pinsDirections {Reply : Type} {call : KernelCall Reply}
    (leaves : LeavesBpffs call) : PinsDirections call := by
  cases call with
  | mkdir path => trivial
  | rmdir path => trivial
  | unlink path => exact leaves.elim
  | bpfLinkPin link path => exact leaves.elim
  | _ => exact leaves

theorem exec_otherPin {Reply : Type} {call : KernelCall Reply}
    (pins : PinsDirections call) {path : Path} (other : ¬ NamesDirection path) :
    (Kernel.exec owner fails kernel call).2.pins.lookup path =
      kernel.pins.lookup path := by
  cases call with
  | unlink unlinked =>
      simp only [Kernel.exec]
      split
      · rfl
      · rw [lookup_unpin, if_neg]
        intro same
        exact other (same ▸ pins)
  | bpfLinkPin link pinned =>
      have different : path ≠ pinned := fun same => other (same ▸ pins)
      simp only [Kernel.exec]
      split
      · split
        · exact AList.lookup_insert_ne different
        · rfl
      · rfl
  | mkdir made =>
      simp only [Kernel.exec]
      split
      · rfl
      · split
        · rfl
        · split <;> rfl
  | rmdir removed =>
      simp only [Kernel.exec]
      split <;> rfl
  | _ =>
      rw [(exec_bpffs owner fails _).1]
      exact pins

/-! ## Programs -/

section Programs

variable (owner : Process) (faults : Faults) {program : KernelProgram α}

theorem execute_bpffs (makes : program.Makes fun _ call => LeavesBpffs call)
    (kernel : Kernel) :
    (Kernel.execute owner faults program kernel).2.pins = kernel.pins ∧
      (Kernel.execute owner faults program kernel).2.directories =
        kernel.directories := by
  have preserved : ∀ {Reply : Type} (site : List Frame) (call : KernelCall Reply)
      (state : Kernel), LeavesBpffs call →
      state.pins = kernel.pins ∧ state.directories = kernel.directories →
      (Kernel.environment owner faults site call state).2.pins = kernel.pins ∧
        (Kernel.environment owner faults site call state).2.directories =
          kernel.directories := by
    intro Reply site call state leaves same
    rcases exec_bpffs owner (faults site call.function) leaves with ⟨pins, directories⟩
    exact ⟨pins.trans same.1, directories.trans same.2⟩
  exact Program.Makes.run_preserves makes preserved ⟨rfl, rfl⟩

theorem execute_otherPin (makes : program.Makes fun _ call => PinsDirections call)
    (kernel : Kernel) {path : Path} (other : ¬ NamesDirection path) :
    (Kernel.execute owner faults program kernel).2.pins.lookup path =
      kernel.pins.lookup path := by
  have preserved : ∀ {Reply : Type} (site : List Frame) (call : KernelCall Reply)
      (state : Kernel), PinsDirections call →
      state.pins.lookup path = kernel.pins.lookup path →
      (Kernel.environment owner faults site call state).2.pins.lookup path =
        kernel.pins.lookup path := by
    intro Reply site call state pins same
    exact (exec_otherPin owner (faults site call.function) pins other).trans same
  exact Program.Makes.run_preserves makes preserved rfl

end Programs

theorem DetachingCall.replacesLinks {Reply : Type} {call : KernelCall Reply} {pid : Int32}
    (detaches : DetachingCall pid call) : ReplacesLinks call := by
  cases call with
  | getBpffsMount | bpfObjGet path | bpfLinkDetach fd | close fd | rmdir path => trivial
  | unlink path =>
      rcases detaches with ⟨root, attachType, rfl⟩
      exact ⟨_, attachType, rfl⟩
  | _ => exact detaches.elim

theorem makes_detachPinnedLinks (pid : Int32) :
    (detachPinnedLinks pid).Makes fun _ call => ReplacesLinks call :=
  (detachingCalls_detachPinnedLinks pid).weaken fun _ _ detaches => detaches.replacesLinks

theorem makes_deleteCgroup (name : Path) (cgroupFd : Option Fd) (pid : Int32) :
    (deleteCgroup name cgroupFd pid).Makes fun _ call => PinsDirections call := by
  cases cgroupFd with
  | none =>
      rw [deleteCgroup, Program.makes_inside]
      apply Program.makes_bind ((Program.makes_request _).mpr trivial)
      intro _
      exact Program.makes_pure _
  | some fd =>
      rw [deleteCgroup, Program.makes_inside]
      apply Program.makes_bind
        ((makes_detachPinnedLinks pid).weaken fun _ _ replaces => replaces.pinsDirections)
      intro _
      apply Program.makes_bind ((Program.makes_request _).mpr trivial)
      intro _
      apply Program.makes_bind ((Program.makes_request _).mpr trivial)
      intro _
      exact Program.makes_pure _

theorem makes_attachDirection (skel : Skeleton) (cgroupFd : Fd) (pinDir : Path)
    (config : RateLimitConfig) (attachType : AttachType) :
    (attachDirection skel cgroupFd pinDir config attachType).Makes
      fun _ call => ReplacesLinks call := by
  rw [attachDirection, Program.makes_inside]
  split
  · exact Program.makes_pure _
  apply Program.makes_bind ((Program.makes_request _).mpr trivial)
  intro updated
  split
  · apply Program.makes_bind ((Program.makes_request _).mpr trivial)
    intro _
    exact Program.makes_pure _
  apply Program.makes_bind ((Program.makes_request _).mpr trivial)
  intro attached
  cases attached with
  | none =>
      apply Program.makes_bind ((Program.makes_request _).mpr trivial)
      intro _
      exact Program.makes_pure _
  | some link =>
      apply Program.makes_bind ((Program.makes_request _).mpr ⟨pinDir, attachType, rfl⟩)
      intro pinned
      apply Program.makes_bind ((Program.makes_request _).mpr trivial)
      intro _
      split
      · apply Program.makes_bind ((Program.makes_request _).mpr trivial)
        intro _
        exact Program.makes_pure _
      · exact Program.makes_pure _

theorem makes_attachBpfPrograms (cgroupFd : Fd) (pinDir : Path)
    (config : RateLimitConfig) :
    (attachBpfPrograms cgroupFd pinDir config).Makes
      fun _ call => ReplacesLinks call := by
  rw [attachBpfPrograms, Program.makes_inside]
  apply Program.makes_bind ((Program.makes_request _).mpr trivial)
  intro opened
  split
  · exact Program.makes_pure _
  apply Program.makes_bind ((Program.makes_request _).mpr trivial)
  intro loaded
  cases loaded with
  | none =>
      apply Program.makes_bind ((Program.makes_request _).mpr trivial)
      intro _
      exact Program.makes_pure _
  | some skel =>
      apply Program.makes_bind (makes_attachDirection skel cgroupFd pinDir config .egress)
      intro egress
      split
      · exact Program.makes_pure _
      apply Program.makes_bind (makes_attachDirection skel cgroupFd pinDir config .ingress)
      intro ingress
      split <;> exact Program.makes_pure _

theorem replacesLinks_createPinDir (pid : Int32) :
    (createPinDir pid).Makes fun _ call => ReplacesLinks call := by
  rw [createPinDir, Program.makes_inside]
  apply Program.makes_bind ((Program.makes_request _).mpr trivial)
  intro mount
  cases mount with
  | none => exact Program.makes_pure _
  | some root =>
      have makes : ∀ frame path, (Program.inside frame (ask (.mkdir path))).Makes
          fun _ call => ReplacesLinks call := by
        intro frame path
        rw [Program.makes_inside]
        exact (Program.makes_request _).mpr trivial
      apply Program.makes_bind (makes _ _)
      intro base
      split
      · exact Program.makes_pure _
      apply Program.makes_bind (makes _ _)
      intro pinDir
      split <;> exact Program.makes_pure _

theorem makes_replaceLinks (pid : Int32) (cgroupFd : Fd) (config : RateLimitConfig) :
    (replaceLinks pid cgroupFd config).Makes fun _ call => PinsDirections call := by
  have undone : ∀ code : RatelimitCode, Program.Makes
      (fun _ call => PinsDirections call) (do
        deleteCgroup (buildCgroupName pid) (some cgroupFd) pid
        return code) := by
    intro code
    apply Program.makes_bind (makes_deleteCgroup _ _ _)
    intro _
    exact Program.makes_pure _
  rw [replaceLinks]
  apply Program.makes_bind ((Program.makes_request _).mpr trivial)
  intro allocated
  split
  · exact undone _
  apply Program.makes_bind
    ((makes_detachPinnedLinks pid).weaken fun _ _ replaces => replaces.pinsDirections)
  intro _
  apply Program.makes_bind
    ((replacesLinks_createPinDir pid).weaken fun _ _ replaces => replaces.pinsDirections)
  intro made
  cases made with
  | error code => exact undone code
  | ok pinDir =>
      apply Program.makes_bind ((makes_attachBpfPrograms cgroupFd pinDir config).weaken
        fun _ _ replaces => replaces.pinsDirections)
      intro attached
      cases attached with
      | error code => exact undone code
      | ok skel =>
          apply Program.makes_bind ((Program.makes_request _).mpr trivial)
          intro _
          apply Program.makes_bind ((Program.makes_request _).mpr trivial)
          intro _
          exact Program.makes_pure _

/-! ## Before the pins are looked at -/

/-- `limit_process_bandwidth` up to the opening of the pid's cgroup. -/
def enterCgroup (pid : Int32) : KernelProgram (Except RatelimitCode Fd) := do
  if pid ≤ 0 then
    return .error .invalidPid
  let parent ← createCgroup [cgroupRoot]
  if parent ≠ .ok then
    return .error parent
  let name := buildCgroupName pid
  let child ← createCgroup name
  if child ≠ .ok then
    return .error child
  if !(← ask (.cgroupAttachTaskPid name pid)) then
    deleteCgroup name none pid
    return .error .libcgAttach
  match ← openCgroupFd name with
  | none =>
    deleteCgroup name none pid
    return .error .openCgroup
  | some cgroupFd => return .ok cgroupFd

/-- `limit_process_bandwidth` after the opening of the pid's cgroup. -/
def replaceEntered (pid : Int32) (config : RateLimitConfig) :
    Except RatelimitCode Fd → KernelProgram RatelimitCode
  | .error code => return code
  | .ok cgroupFd => replaceLinks pid cgroupFd config

theorem installLimit_eq_enter (pid : Int32) (config : RateLimitConfig) :
    installLimit pid config = enterCgroup pid >>= replaceEntered pid config := by
  simp only [installLimit, enterCgroup]
  split
  · rfl
  simp only [Program.bind_bind]
  congr 1
  funext parent
  split
  · rfl
  simp only [Program.bind_bind]
  congr 1
  funext child
  split
  · rfl
  simp only [Program.bind_bind]
  congr 1
  funext joined
  split
  · rfl
  simp only [Program.bind_bind]
  congr 1
  funext opened
  cases opened <;> rfl

theorem leavesBpffs_createCgroup (name : Path) :
    (createCgroup name).Makes fun _ call => LeavesBpffs call := by
  rw [createCgroup, Program.makes_inside]
  apply Program.makes_bind ((Program.makes_request _).mpr trivial)
  intro named
  split
  · exact Program.makes_pure _
  apply Program.makes_bind ((Program.makes_request _).mpr trivial)
  intro reply
  split <;> exact Program.makes_pure _

theorem leavesBpffs_openCgroupFd (name : Path) :
    (openCgroupFd name).Makes fun _ call => LeavesBpffs call := by
  apply (openingCalls_openCgroupFd name).weaken
  intro Reply site call opens
  cases call with
  | getCgroup2Mount | openReadOnly path => trivial
  | _ => exact opens.elim

theorem leavesBpffs_enterCgroup (pid : Int32) :
    (enterCgroup pid).Makes fun _ call => LeavesBpffs call := by
  have undone : ∀ code : RatelimitCode, Program.Makes (fun _ call => LeavesBpffs call)
      (do
        deleteCgroup (buildCgroupName pid) none pid
        return (Except.error code : Except RatelimitCode Fd)) := by
    intro code
    rw [deleteCgroup]
    apply Program.makes_bind
    · rw [Program.makes_inside]
      apply Program.makes_bind ((Program.makes_request _).mpr trivial)
      intro _
      exact Program.makes_pure _
    · intro _
      exact Program.makes_pure _
  rw [enterCgroup]
  split
  · exact Program.makes_pure _
  apply Program.makes_bind (leavesBpffs_createCgroup _)
  intro parent
  split
  · exact Program.makes_pure _
  apply Program.makes_bind (leavesBpffs_createCgroup _)
  intro child
  split
  · exact Program.makes_pure _
  apply Program.makes_bind ((Program.makes_request _).mpr trivial)
  intro joined
  split
  · exact undone _
  apply Program.makes_bind (leavesBpffs_openCgroupFd _)
  intro opened
  cases opened with
  | none => exact undone _
  | some cgroupFd => exact Program.makes_pure _

theorem makes_installLimit (pid : Int32) (config : RateLimitConfig) :
    (installLimit pid config).Makes fun _ call => PinsDirections call := by
  rw [installLimit_eq_enter]
  apply Program.makes_bind
    ((leavesBpffs_enterCgroup pid).weaken fun _ _ leaves => leaves.pinsDirections)
  intro entered
  cases entered with
  | error code => exact Program.makes_pure _
  | ok cgroupFd => exact makes_replaceLinks pid cgroupFd config

end Pidnl.Ratelimit
