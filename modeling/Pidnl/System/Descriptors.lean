import Pidnl.System.State
import Pidnl.Foundation.Ownership

/-! # Descriptors that calls open and close

A descriptor is a handle of the process that makes the call. What libbpf has opened
for a skeleton or a link, it closes when that is destroyed.
-/

namespace Pidnl.System

open Pidnl.Foundation

def Skeleton.fds (skel : Skeleton) : Multiset Fd := skel.rateLimitsFd :: skel.otherFds

def KernelCall.opens : KernelCall Reply → Reply → Multiset Fd
  | .openReadOnly _, fd => holding fd
  | .bpfObjGet _, fd => holding fd
  | .ratelimitBpfLoad, none => 0
  | .ratelimitBpfLoad, some skel => skel.fds
  | .bpfProgramAttachCgroup _ _ _, link => holding link
  | .bpfProgGetFdById _, fd => holding fd
  | .bpfMapGetFdById _, fd => holding fd
  | .pidfdOpen _, fd => holding fd
  | _, _ => 0

def KernelCall.closes : KernelCall Reply → Multiset Fd
  | .close fd => {fd}
  | .bpfLinkDestroy link => {link}
  | .ratelimitBpfDestroy (some skel) => skel.fds
  | _ => 0

def kernelHandling : Handling KernelCall Fd where
  opens := KernelCall.opens
  closes := KernelCall.closes

/-- The program closes the descriptors that it opens or is handed, and no others. -/
abbrev OwnsFds (program : KernelProgram α) (held : Multiset Fd)
    (post : α → Multiset Fd) : Prop :=
  program.Owns kernelHandling held post

/-- The program closes the descriptors that it opens, and no others. -/
abbrev ClosesFds (program : KernelProgram α) : Prop :=
  program.Balances kernelHandling

/-! ## The descriptors of the kernel -/

namespace Kernel

def openFds (kernel : Kernel) : Set Fd := {fd | (kernel.descriptors fd).isSome}

/-- No descriptor has a number that is still to be given. -/
def Numbered (kernel : Kernel) : Prop :=
  ∀ fd, kernel.nextId ≤ fd → kernel.descriptors fd = none

/-- Between two kernels these descriptors are closed and those are opened. -/
structure Reopens (before after : Kernel) (closed opened : Multiset Fd) : Prop where
  nextId : before.nextId ≤ after.nextId
  openFds : after.openFds = {fd | fd ∈ before.openFds ∧ fd ∉ closed ∨ fd ∈ opened}
  new : ∀ fd ∈ opened, before.nextId ≤ fd ∧ fd < after.nextId
  once : opened.Nodup

namespace Reopens

variable {before middle after : Kernel} {closed opened : Multiset Fd}

theorem of_same (descriptors : after.descriptors = before.descriptors)
    (nextId : before.nextId ≤ after.nextId) : Reopens before after 0 0 where
  nextId := nextId
  openFds := by
    ext fd
    simp [Kernel.openFds, descriptors]
  new := by simp
  once := Multiset.nodup_zero

theorem refl (kernel : Kernel) : Reopens kernel kernel 0 0 := of_same rfl (le_refl _)

theorem openDescriptor (kernel : Kernel) (owner : Process) (target : Target) :
    Reopens kernel (kernel.openDescriptor owner target) 0 {kernel.nextId} where
  nextId := Nat.le_succ _
  openFds := by
    ext fd
    by_cases new : fd = kernel.nextId
    · simp [Kernel.openFds, Kernel.openDescriptor, new]
    · simp [Kernel.openFds, Kernel.openDescriptor, new]
  new := by simp [Kernel.openDescriptor]
  once := Multiset.nodup_singleton _

theorem closeDescriptor (kernel : Kernel) (fd : Fd) :
    Reopens kernel (kernel.closeDescriptor fd) {fd} 0 := by
  have released : ∃ links, kernel.closeDescriptor fd = { kernel with
      links := links, descriptors := Function.update kernel.descriptors fd none } := by
    rw [Kernel.closeDescriptor]
    split
    · exact ⟨_, rfl⟩
    · exact ⟨_, rfl⟩
  rcases released with ⟨links, isReleased⟩
  rw [isReleased]
  refine ⟨le_refl _, ?_, by simp, Multiset.nodup_zero⟩
  ext other
  by_cases same : other = fd
  · simp [Kernel.openFds, same]
  · simp [Kernel.openFds, same]

theorem numbered (reopens : Reopens before after closed opened) (isNumbered : before.Numbered) :
    after.Numbered := by
  intro fd later
  by_contra isOpen
  have member : fd ∈ after.openFds := Option.isSome_iff_ne_none.mpr isOpen
  rw [reopens.openFds] at member
  rcases member with ⟨wasOpen, _⟩ | new
  · have unused := isNumbered fd (reopens.nextId.trans later)
    rw [Kernel.openFds, Set.mem_ofPred_eq, unused] at wasOpen
    contradiction
  · exact absurd (reopens.new fd new).2 (Nat.not_lt.mpr later)

theorem opening {more : Multiset Fd} (first : Reopens before middle 0 opened)
    (second : Reopens middle after 0 more) : Reopens before after 0 (opened + more) where
  nextId := first.nextId.trans second.nextId
  openFds := by
    rw [second.openFds, first.openFds]
    ext fd
    simp [or_assoc]
  new := by
    intro fd member
    rcases Multiset.mem_add.mp member with early | late
    · exact ⟨(first.new fd early).1, (first.new fd early).2.trans_le second.nextId⟩
    · exact ⟨first.nextId.trans (second.new fd late).1, (second.new fd late).2⟩
  once := by
    rw [Multiset.nodup_add, Multiset.disjoint_left]
    refine ⟨first.once, second.once, ?_⟩
    intro fd early late
    exact absurd (first.new fd early).2 (Nat.not_lt.mpr (second.new fd late).1)

theorem closing {more : Multiset Fd} (first : Reopens before middle closed 0)
    (second : Reopens middle after more 0) : Reopens before after (closed + more) 0 where
  nextId := first.nextId.trans second.nextId
  openFds := by
    rw [second.openFds, first.openFds]
    ext fd
    simp [and_assoc]
  new := by simp
  once := Multiset.nodup_zero

end Reopens

theorem reopens_loadSkeleton (kernel : Kernel) (owner : Process) :
    Reopens kernel (kernel.loadSkeleton owner).2 0 (kernel.loadSkeleton owner).1.fds := by
  let loaded := { kernel with
    objects := Function.update kernel.objects kernel.nextId .fresh
    nextId := kernel.nextId + 1 }
  have loads : Reopens kernel loaded 0 0 := .of_same rfl (Nat.le_succ _)
  have opens := (((loads.opening (.openDescriptor loaded owner
    (.map kernel.nextId .rateLimits))).opening (.openDescriptor _ owner
    (.map kernel.nextId .rateState))).opening (.openDescriptor _ owner
    (.program kernel.nextId .egress))).opening (.openDescriptor _ owner
    (.program kernel.nextId .ingress))
  exact opens

theorem reopens_closeDescriptors (kernel : Kernel) (fds : List Fd) :
    Reopens kernel (fds.foldl closeDescriptor kernel) fds 0 := by
  induction fds generalizing kernel with
  | nil => exact .refl kernel
  | cons fd fds induction =>
      exact (Reopens.closeDescriptor kernel fd).closing (induction _)

theorem reopens_createCgroup (kernel : Kernel) (name : Path) :
    Reopens kernel (kernel.createCgroup name) 0 0 := by
  rw [createCgroup]
  generalize name.inits.tail = names
  induction names generalizing kernel with
  | nil => exact .refl kernel
  | cons name names induction =>
      have ensured : Reopens kernel (kernel.ensureCgroup name) 0 0 := by
        rw [ensureCgroup]
        split
        · exact .refl kernel
        · exact .of_same rfl (Nat.le_succ _)
      exact ensured.opening (induction _)

theorem reopens_attachProgram (kernel : Kernel) (owner : Process) (object : ObjectId)
    (attachType : AttachType) (cgroup : CgroupId) :
    Reopens kernel (kernel.attachProgram owner object attachType cgroup) 0
      {kernel.nextId + 1} := by
  let linked := { kernel with
    links := Function.update kernel.links kernel.nextId
      { cgroup := some cgroup, attachType := attachType, object := object, refs := 1 }
    nextId := kernel.nextId + 1 }
  have links : Reopens kernel linked 0 0 := .of_same rfl (Nat.le_succ _)
  exact links.opening (.openDescriptor linked owner (.link kernel.nextId))

/-- A call opens and closes in the kernel what its reply says. -/
theorem reopens_exec (owner : Process) (fails : Bool) (kernel : Kernel)
    (call : KernelCall Reply) :
    Reopens kernel (exec owner fails kernel call).2 call.closes
      (call.opens (exec owner fails kernel call).1) := by
  cases call with
  | close fd => exact .closeDescriptor kernel fd
  | bpfLinkDestroy link => exact .closeDescriptor kernel link
  | ratelimitBpfDestroy skel =>
      cases skel with
      | none => exact .refl kernel
      | some skel => exact reopens_closeDescriptors kernel _
  | openReadOnly _ | bpfProgGetFdById _ | bpfMapGetFdById _ | pidfdOpen _ =>
      simp only [exec]
      repeat' split
      all_goals first | exact .refl kernel | exact .openDescriptor kernel owner _
  | bpfObjGet path =>
      simp only [exec]
      split
      · exact .refl kernel
      · rename_i id _
        have held : Reopens kernel (kernel.holdLink id) 0 0 := .of_same rfl (le_refl _)
        exact held.opening (.openDescriptor _ owner (.link id))
  | ratelimitBpfLoad =>
      simp only [exec]
      split
      · exact .refl kernel
      · exact reopens_loadSkeleton kernel owner
  | bpfProgramAttachCgroup skel attachType cgroupFd =>
      simp only [exec]
      repeat' split
      case isTrue => exact reopens_attachProgram kernel owner _ attachType _
      all_goals exact .refl kernel
  | cgroupCreateCgroup name =>
      simp only [exec]
      repeat' split
      all_goals first | exact .refl kernel | exact reopens_createCgroup kernel name
  | cgroupDeleteCgroup name =>
      simp only [exec, removeCgroup]
      repeat' split
      all_goals first | exact .refl kernel | exact .of_same rfl (le_refl _)
  | unlink path =>
      simp only [exec, unpin]
      repeat' split
      all_goals first | exact .refl kernel | exact .of_same rfl (le_refl _)
  /- The other calls open and close nothing. -/
  | _ =>
      simp only [exec]
      repeat' split
      all_goals first | exact .refl kernel | exact .of_same rfl (le_refl _)

theorem keepsOpen {environment : Environment Frame KernelCall Kernel}
    (reopens : ∀ {Reply : Type} site (call : KernelCall Reply) kernel,
      Reopens kernel (environment site call kernel).2 call.closes
        (call.opens (environment site call kernel).1)) :
    Program.KeepsOpen kernelHandling environment openFds Numbered where
  sound := fun site call kernel isNumbered => (reopens site call kernel).numbered isNumbered
  openNext := fun site call kernel => (reopens site call kernel).openFds
  once := fun site call kernel => (reopens site call kernel).once
  new := by
    intro Reply site call kernel isNumbered fd opened isOpen
    have new := ((reopens site call kernel).new fd opened).1
    rw [openFds, Set.mem_ofPred_eq, isNumbered fd new] at isOpen
    contradiction

theorem keepsOpen_environment (owner : Process) (faults : Faults) :
    Program.KeepsOpen kernelHandling (environment owner faults) openFds Numbered :=
  keepsOpen fun site call kernel => reopens_exec owner (faults site call.function) kernel call

end Kernel

end Pidnl.System
