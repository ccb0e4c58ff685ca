import Pidnl.Ratelimit.InstallOutcome
import Pidnl.Foundation.Interference

/-! # What the calls of two clients do to each other

A client finds its own descriptors as it left them, whatever the other client
calls. Between the other's first call that changes a link and its last, a client
that does not change links itself only opens and closes descriptors of its own.
-/

namespace Pidnl.Ratelimit

open Pidnl.Foundation Pidnl.System

structure KeepsDescriptors (owner : Process) (before after : Kernel) : Prop where
  nextId : before.nextId ≤ after.nextId
  mine : ∀ fd < before.nextId, ∀ descriptor,
    before.descriptors fd = some descriptor → descriptor.owner = owner →
      after.descriptors fd = some descriptor

namespace KeepsDescriptors

variable {owner : Process} {first second third : Kernel}

theorem refl (kernel : Kernel) : KeepsDescriptors owner kernel kernel :=
  ⟨Nat.le_refl _, fun _ _ _ found _ => found⟩

theorem trans (earlier : KeepsDescriptors owner first second)
    (later : KeepsDescriptors owner second third) :
    KeepsDescriptors owner first third := by
  refine ⟨earlier.nextId.trans later.nextId, ?_⟩
  intro fd used descriptor found own
  apply later.mine fd (used.trans_le earlier.nextId) descriptor _ own
  exact earlier.mine fd used descriptor found own

end KeepsDescriptors

/-- What other processes may do to the kernel while a process prepares to change
its links, or has changed them: no cgroup goes away. -/
structure Keeps (owner : Process) (before after : Kernel) : Prop
    extends KeepsDescriptors owner before after where
  cgroup2Mount : after.cgroup2Mount = before.cgroup2Mount
  bpffsMount : after.bpffsMount = before.bpffsMount
  running : after.running = before.running
  cgroups : ∀ name id, before.cgroups.lookup name = some id →
    after.cgroups.lookup name = some id

namespace Keeps

variable {owner : Process} {first second third : Kernel}

theorem refl (kernel : Kernel) : Keeps owner kernel kernel :=
  ⟨.refl kernel, rfl, rfl, rfl, fun _ _ found => found⟩

theorem trans (earlier : Keeps owner first second)
    (later : Keeps owner second third) : Keeps owner first third where
  toKeepsDescriptors := earlier.toKeepsDescriptors.trans later.toKeepsDescriptors
  cgroup2Mount := later.cgroup2Mount.trans earlier.cgroup2Mount
  bpffsMount := later.bpffsMount.trans earlier.bpffsMount
  running := later.running.trans earlier.running
  cgroups := fun name id found =>
    later.cgroups name id (earlier.cgroups name id found)

end Keeps

/-- What other processes may do to the kernel while a process changes its links:
they open and close descriptors of their own, none of them of a link. -/
structure Apart (owner : Process) (before after : Kernel) : Prop
    extends KeepsDescriptors owner before after where
  same : after =
    { before with descriptors := after.descriptors, nextId := after.nextId }
  others : ∀ fd descriptor, after.descriptors fd = some descriptor →
    before.descriptors fd = some descriptor ∨
      fd < after.nextId ∧ ∀ id, descriptor.target ≠ .link id

namespace Apart

variable {owner : Process} {first second third : Kernel}

theorem refl (kernel : Kernel) : Apart owner kernel kernel :=
  ⟨.refl kernel, rfl, fun _ _ found => .inl found⟩

theorem trans (earlier : Apart owner first second)
    (later : Apart owner second third) : Apart owner first third := by
  refine ⟨earlier.toKeepsDescriptors.trans later.toKeepsDescriptors, ?_, ?_⟩
  · have sameSecond := earlier.same
    have sameThird := later.same
    rw [sameSecond] at sameThird
    exact sameThird
  · intro fd descriptor found
    rcases later.others fd descriptor found with kept | opened
    · rcases earlier.others fd descriptor kept with kept | opened
      · exact .inl kept
      · exact .inr ⟨opened.1.trans_le later.nextId, opened.2⟩
    · exact .inr opened

theorem quiet (apart : Apart owner first second) : Quiet first second := by
  have same := apart.same
  refine ⟨?_, ?_, ?_, ?_, ?_, apart.nextId, ?_, ?_, apart.others⟩
  · rw [same]
  · rw [same]
  · rw [same]
  · rw [same]
  · rw [same]
  · intro id
    left
    rw [same]
  · intro object _
    rw [same]

theorem directories (apart : Apart owner first second) :
    second.directories = first.directories := by
  rw [apart.same]

theorem keeps (apart : Apart owner first second) : Keeps owner first second where
  toKeepsDescriptors := apart.toKeepsDescriptors
  cgroup2Mount := apart.quiet.cgroup2Mount
  bpffsMount := apart.quiet.bpffsMount
  running := apart.quiet.running
  cgroups := by
    intro name id found
    rw [apart.quiet.cgroups]
    exact found

end Apart

structure Owns (kernel : Kernel) (owner : Process) (fd : Fd) (target : Target) :
    Prop where
  used : fd < kernel.nextId
  found : kernel.descriptors fd = some { owner := owner, target := target }

namespace Owns

variable {kernel after : Kernel} {owner : Process} {fd : Fd} {target : Target}

theorem target? (owns : Owns kernel owner fd target) :
    kernel.target? fd = some target := by
  rw [Kernel.target?, owns.found]
  rfl

theorem of_settled (settled : Settled kernel)
    (found : kernel.descriptors fd = some { owner := owner, target := target }) :
    Owns kernel owner fd target := by
  have target : kernel.target? fd = some target := by
    rw [Kernel.target?, found]
    rfl
  exact ⟨used_of_target settled target, found⟩

theorem kept (owns : Owns kernel owner fd target)
    (keeps : KeepsDescriptors owner kernel after) : Owns after owner fd target :=
  ⟨owns.used.trans_le keeps.nextId, keeps.mine fd owns.used _ owns.found rfl⟩

theorem openDescriptor (kernel : Kernel) (owner : Process) (target : Target) :
    Owns (kernel.openDescriptor owner target) owner kernel.nextId target :=
  ⟨Nat.lt_succ_self _, Function.update_self _ _ _⟩

end Owns

/-! ## What a client's own calls leave of the other's -/

section Own

variable {kernel : Kernel} {owner other : Process}

theorem keeps_openDescriptor (kernel : Kernel) (owner : Process) (target : Target) :
    Keeps other kernel (kernel.openDescriptor owner target) := by
  refine ⟨⟨Nat.le_succ _, ?_⟩, rfl, rfl, rfl, fun _ _ found => found⟩
  intro fd used descriptor found _
  have different : fd ≠ kernel.nextId := Nat.ne_of_lt used
  simp only [Kernel.openDescriptor, Function.update_of_ne different]
  exact found

theorem apart_openDescriptor (kernel : Kernel) (owner : Process) {target : Target}
    (notLink : ∀ id, target ≠ .link id) :
    Apart other kernel (kernel.openDescriptor owner target) :=
  ⟨(keeps_openDescriptor kernel owner target).toKeepsDescriptors, rfl,
    (quiet_openDescriptor kernel owner notLink).descriptors⟩

theorem closeDescriptor_descriptors (kernel : Kernel) (fd : Fd) :
    (kernel.closeDescriptor fd).descriptors =
      Function.update kernel.descriptors fd none := by
  simp only [Kernel.closeDescriptor]
  split <;> rfl

theorem closeDescriptor_frame (kernel : Kernel) (fd : Fd) :
    (kernel.closeDescriptor fd).cgroup2Mount = kernel.cgroup2Mount ∧
      (kernel.closeDescriptor fd).bpffsMount = kernel.bpffsMount ∧
      (kernel.closeDescriptor fd).running = kernel.running ∧
      (kernel.closeDescriptor fd).cgroups = kernel.cgroups ∧
      (kernel.closeDescriptor fd).nextId = kernel.nextId := by
  simp only [Kernel.closeDescriptor]
  split <;> exact ⟨rfl, rfl, rfl, rfl, rfl⟩

theorem keeps_closeDescriptor {fd : Fd} {target : Target}
    (owns : Owns kernel owner fd target) (different : owner ≠ other) :
    Keeps other kernel (kernel.closeDescriptor fd) := by
  rcases closeDescriptor_frame kernel fd with
    ⟨cgroup2Mount, bpffsMount, running, cgroups, nextId⟩
  refine ⟨⟨nextId.ge, ?_⟩, cgroup2Mount, bpffsMount, running, ?_⟩
  · intro otherFd _ descriptor found own
    have notSame : otherFd ≠ fd := by
      intro same
      rw [same, owns.found] at found
      cases found
      exact different own
    rw [closeDescriptor_descriptors, Function.update_of_ne notSame]
    exact found
  · intro name id found
    rw [cgroups]
    exact found

/-- The descriptor is closed already, or is one of another process than this, and
not of a link. -/
def Foreign (kernel : Kernel) (owner : Process) (fd : Fd) : Prop :=
  ∀ descriptor, kernel.descriptors fd = some descriptor →
    descriptor.owner ≠ owner ∧ ∀ id, descriptor.target ≠ .link id

theorem Owns.foreign {fd : Fd} {target : Target}
    (owns : Owns kernel owner fd target) (notLink : ∀ id, target ≠ .link id)
    (different : owner ≠ other) : Foreign kernel other fd := by
  intro descriptor found
  rw [owns.found] at found
  cases found
  exact ⟨different, notLink⟩

theorem apart_closeDescriptor {fd : Fd} (foreign : Foreign kernel other fd) :
    Apart other kernel (kernel.closeDescriptor fd) := by
  have notLink : ∀ id, kernel.target? fd ≠ some (.link id) := by
    intro id held
    simp only [Kernel.target?, Option.map_eq_some_iff] at held
    rcases held with ⟨descriptor, found, isLink⟩
    exact (foreign descriptor found).2 id isLink
  rw [closeDescriptor_of_notLink notLink]
  refine ⟨⟨Nat.le_refl _, ?_⟩, rfl, ?_⟩
  · intro otherFd _ descriptor found own
    have notSame : otherFd ≠ fd := by
      intro same
      rw [same] at found
      exact (foreign descriptor found).1 own
    simp only [Function.update_of_ne notSame]
    exact found
  · intro otherFd descriptor found
    simp only [Function.update_apply] at found
    split at found
    · contradiction
    · exact .inl found

theorem apart_closeDescriptors {fds : List Fd}
    (foreign : ∀ fd ∈ fds, Foreign kernel other fd) :
    Apart other kernel (fds.foldl Kernel.closeDescriptor kernel) := by
  induction fds generalizing kernel with
  | nil => exact .refl kernel
  | cons fd fds induction =>
      have first := apart_closeDescriptor (foreign fd List.mem_cons_self)
      apply first.trans
      apply induction
      intro otherFd member descriptor found
      rw [closeDescriptor_descriptors, Function.update_apply] at found
      split at found
      · contradiction
      · exact foreign otherFd (List.mem_cons_of_mem _ member) descriptor found

theorem loadSkeleton_frame (kernel : Kernel) (owner : Process) :
    Keeps other kernel (kernel.loadSkeleton owner).2 ∧
      Owns (kernel.loadSkeleton owner).2 owner (kernel.loadSkeleton owner).1.rateLimitsFd
        (.map (kernel.loadSkeleton owner).1.object .rateLimits) ∧
      ∀ fd ∈ (kernel.loadSkeleton owner).1.otherFds, ∃ target,
        Owns (kernel.loadSkeleton owner).2 owner fd target ∧
          (∀ id, target ≠ .link id) ∧ ∀ id, target ≠ .cgroup id := by
  let loaded := { kernel with
    objects := Function.update kernel.objects kernel.nextId .fresh
    nextId := kernel.nextId + 1 }
  let first := loaded.openDescriptor owner (.map kernel.nextId .rateLimits)
  let second := first.openDescriptor owner (.map kernel.nextId .rateState)
  let third := second.openDescriptor owner (.program kernel.nextId .egress)
  let fourth := third.openDescriptor owner (.program kernel.nextId .ingress)
  have numbered : Keeps other kernel loaded :=
    ⟨⟨Nat.le_succ _, fun _ _ _ found _ => found⟩, rfl, rfl, rfl,
      fun _ _ found => found⟩
  have toSecond : ∀ {process}, Keeps process first second :=
    keeps_openDescriptor _ _ _
  have toThird : ∀ {process}, Keeps process second third :=
    keeps_openDescriptor _ _ _
  have toFourth : ∀ {process}, Keeps process third fourth :=
    keeps_openDescriptor _ _ _
  refine ⟨?_, ?_, ?_⟩
  · exact numbered.trans ((keeps_openDescriptor _ _ _).trans
      (toSecond.trans (toThird.trans toFourth)))
  · exact (Owns.openDescriptor loaded owner _).kept
      (toSecond.trans (toThird.trans toFourth)).toKeepsDescriptors
  · intro fd member
    rcases List.mem_cons.mp member with rfl | member
    · exact ⟨_, (Owns.openDescriptor first owner _).kept
        (toThird.trans toFourth).toKeepsDescriptors, fun _ => Target.noConfusion,
        fun _ => Target.noConfusion⟩
    rcases List.mem_cons.mp member with rfl | member
    · exact ⟨_, (Owns.openDescriptor second owner _).kept
        toFourth.toKeepsDescriptors, fun _ => Target.noConfusion,
        fun _ => Target.noConfusion⟩
    rcases List.mem_singleton.mp member with rfl
    exact ⟨_, Owns.openDescriptor third owner _, fun _ => Target.noConfusion,
      fun _ => Target.noConfusion⟩

end Own

/-! ## Calls that do not depend on the other's descriptors -/

/-- A change that neither looks at the descriptors nor touches them or a cgroup. -/
structure Internal (change : Kernel → Kernel) : Prop where
  passes : ∀ kernel descriptors nextId,
    change { kernel with descriptors := descriptors, nextId := nextId } =
      { change kernel with descriptors := descriptors, nextId := nextId }
  cgroup2Mount : ∀ kernel, (change kernel).cgroup2Mount = kernel.cgroup2Mount
  bpffsMount : ∀ kernel, (change kernel).bpffsMount = kernel.bpffsMount
  running : ∀ kernel, (change kernel).running = kernel.running
  cgroups : ∀ kernel, (change kernel).cgroups = kernel.cgroups

namespace Internal

theorem id : Internal fun kernel => kernel :=
  ⟨fun _ _ _ => rfl, fun _ => rfl, fun _ => rfl, fun _ => rfl, fun _ => rfl⟩

theorem setDirectory (path : Path) (present : Bool) :
    Internal fun kernel => { kernel with
      directories := Function.update kernel.directories path present } :=
  ⟨fun _ _ _ => rfl, fun _ => rfl, fun _ => rfl, fun _ => rfl, fun _ => rfl⟩

theorem detachLink (id : LinkId) : Internal fun kernel => kernel.detachLink id :=
  ⟨fun _ _ _ => rfl, fun _ => rfl, fun _ => rfl, fun _ => rfl, fun _ => rfl⟩

theorem holdLink (id : LinkId) : Internal fun kernel => kernel.holdLink id :=
  ⟨fun _ _ _ => rfl, fun _ => rfl, fun _ => rfl, fun _ => rfl, fun _ => rfl⟩

theorem pinLink (id : LinkId) (path : Path) :
    Internal fun kernel => kernel.pinLink id path :=
  ⟨fun _ _ _ => rfl, fun _ => rfl, fun _ => rfl, fun _ => rfl, fun _ => rfl⟩

theorem updateLimit (object : ObjectId) (key value : UInt32) :
    Internal fun kernel => kernel.updateLimit object key value :=
  ⟨fun _ _ _ => rfl, fun _ => rfl, fun _ => rfl, fun _ => rfl, fun _ => rfl⟩

theorem unpin (path : Path) : Internal fun kernel => kernel.unpin path where
  passes := by
    intro kernel descriptors nextId
    simp only [Kernel.unpin]
    split <;> rfl
  cgroup2Mount := fun kernel => (Kernel.frames_unpin kernel path).cgroup2Mount
  bpffsMount := fun kernel => (Kernel.frames_unpin kernel path).bpffsMount
  running := fun kernel => (Kernel.frames_unpin kernel path).running
  cgroups := fun kernel => cgroups_unpin kernel path

variable {change : Kernel → Kernel} {kernel later : Kernel} {owner : Process}

theorem descriptors (internal : Internal change) (kernel : Kernel) :
    (change kernel).descriptors = kernel.descriptors ∧
      (change kernel).nextId = kernel.nextId := by
  have passes : change kernel = { change kernel with
      descriptors := kernel.descriptors, nextId := kernel.nextId } :=
    internal.passes kernel kernel.descriptors kernel.nextId
  constructor
  · rw [passes]
  · rw [passes]

theorem keeps (internal : Internal change) (kernel : Kernel) :
    Keeps owner kernel (change kernel) := by
  rcases internal.descriptors kernel with ⟨descriptors, nextId⟩
  refine ⟨⟨nextId.ge, ?_⟩, internal.cgroup2Mount kernel,
    internal.bpffsMount kernel, internal.running kernel, ?_⟩
  · intro fd _ descriptor found _
    rw [descriptors]
    exact found
  · intro name id found
    rw [internal.cgroups]
    exact found

theorem apart (internal : Internal change) (apart : Apart owner kernel later) :
    Apart owner (change kernel) (change later) := by
  rcases internal.descriptors kernel with ⟨descriptors, nextId⟩
  rcases internal.descriptors later with ⟨descriptorsLater, nextIdLater⟩
  refine ⟨⟨?_, ?_⟩, ?_, ?_⟩
  · rw [nextId, nextIdLater]
    exact apart.nextId
  · rw [nextId, descriptors, descriptorsLater]
    exact apart.mine
  · rw [descriptorsLater, nextIdLater, ← internal.passes, ← apart.same]
  · rw [descriptors, descriptorsLater, nextIdLater]
    exact apart.others

end Internal

/-- Whatever the other does before the call, the call replies the same and does the
same. -/
def Steady (owner other : Process) (kernel : Kernel) (call : KernelCall Reply) :
    Prop :=
  ∀ later, Apart owner kernel later →
    (Kernel.exec owner false later call).1 = (Kernel.exec owner false kernel call).1 ∧
      Apart owner (Kernel.exec owner false kernel call).2
        (Kernel.exec owner false later call).2 ∧
      Keeps other later (Kernel.exec owner false later call).2

section Steady

variable {kernel : Kernel} {owner other : Process}

theorem steady_of_internal {call : KernelCall Reply} (reply : Reply)
    {change : Kernel → Kernel} (internal : Internal change)
    (made : ∀ later, Apart owner kernel later →
      Kernel.exec owner false later call = (reply, change later)) :
    Steady owner other kernel call := by
  intro later apart
  rw [made later apart, made kernel (.refl kernel)]
  exact ⟨rfl, internal.apart apart, internal.keeps later⟩

theorem steady_getBpffsMount : Steady owner other kernel .getBpffsMount := by
  apply steady_of_internal (some kernel.bpffsMount) .id
  intro later apart
  simp only [Kernel.exec, Bool.false_eq_true, if_false, apart.quiet.bpffsMount]

theorem steady_ratelimitBpfOpen : Steady owner other kernel .ratelimitBpfOpen :=
  steady_of_internal true .id fun _ _ => rfl

theorem steady_unlink (path : Path) : Steady owner other kernel (.unlink path) :=
  steady_of_internal () (.unpin path) fun _ _ => rfl

theorem steady_rmdir (path : Path) : Steady owner other kernel (.rmdir path) := by
  by_cases holds : (kernel.pins.keys.any fun pin => pin.dropLast = path) = true
  · apply steady_of_internal () .id
    intro later apart
    simp only [Kernel.exec, Bool.false_or, apart.quiet.pins, holds, if_true]
  · apply steady_of_internal () (.setDirectory path false)
    intro later apart
    simp only [Kernel.exec, Bool.false_or, apart.quiet.pins, holds,
      Bool.false_eq_true, if_false]

theorem steady_mkdir (path : Path) : Steady owner other kernel (.mkdir path) := by
  by_cases present : kernel.directories path = true
  · apply steady_of_internal .eexist .id
    intro later apart
    simp only [Kernel.exec, Bool.false_eq_true, if_false, apart.directories, present,
      if_true]
  · by_cases orphaned : path.dropLast ≠ kernel.bpffsMount ∧
        (!kernel.directories path.dropLast) = true
    · apply steady_of_internal .failed .id
      intro later apart
      simp only [Kernel.exec, Bool.false_eq_true, if_false, apart.directories,
        present, apart.quiet.bpffsMount]
      rw [if_pos orphaned]
    · apply steady_of_internal .created (.setDirectory path true)
      intro later apart
      simp only [Kernel.exec, Bool.false_eq_true, if_false, apart.directories,
        present, apart.quiet.bpffsMount]
      rw [if_neg orphaned]

theorem steady_bpfLinkDetach {fd : Fd} {id : LinkId}
    (owns : Owns kernel owner fd (.link id)) :
    Steady owner other kernel (.bpfLinkDetach fd) := by
  apply steady_of_internal () (.detachLink id)
  intro later apart
  have target := (owns.kept apart.toKeepsDescriptors).target?
  simp only [Kernel.exec, Bool.false_eq_true, if_false, target]

theorem steady_bpfMapUpdateElem {fd : Fd} {object : ObjectId} (key value : UInt32)
    (owns : Owns kernel owner fd (.map object .rateLimits)) :
    Steady owner other kernel (.bpfMapUpdateElem fd key value) := by
  apply steady_of_internal true (.updateLimit object key value)
  intro later apart
  have target := (owns.kept apart.toKeepsDescriptors).target?
  simp only [Kernel.exec, Bool.false_eq_true, if_false, target]

theorem steady_bpfLinkPin {fd : Fd} {id : LinkId} {path : Path}
    (owns : Owns kernel owner fd (.link id)) (free : kernel.pins.lookup path = none)
    (present : kernel.directories path.dropLast = true) :
    Steady owner other kernel (.bpfLinkPin fd path) := by
  apply steady_of_internal true (.pinLink id path)
  intro later apart
  have target := (owns.kept apart.toKeepsDescriptors).target?
  simp only [Kernel.exec, Bool.false_eq_true, if_false, target, apart.quiet.pins, free,
    apart.directories, present, Option.isNone_none, Bool.and_self, if_true]

theorem closeDescriptor_of_link {fd : Fd} {id : LinkId}
    (target : kernel.target? fd = some (.link id)) :
    kernel.closeDescriptor fd =
      { kernel.releaseLink id with
        descriptors := Function.update kernel.descriptors fd none } := by
  simp only [Kernel.closeDescriptor, target]
  rfl

theorem apart_closeBoth {fd : Fd} {target : Target} {later : Kernel}
    (owns : Owns kernel owner fd target) (apart : Apart owner kernel later) :
    Apart owner (kernel.closeDescriptor fd) (later.closeDescriptor fd) := by
  have nextId := (closeDescriptor_frame kernel fd).2.2.2.2
  have nextIdLater := (closeDescriptor_frame later fd).2.2.2.2
  refine ⟨⟨?_, ?_⟩, ?_, ?_⟩
  · rw [nextId, nextIdLater]
    exact apart.nextId
  · intro otherFd used descriptor found own
    rw [nextId] at used
    rw [closeDescriptor_descriptors, Function.update_apply] at found ⊢
    split at found
    · contradiction
    · rename_i notSame
      rw [if_neg notSame]
      exact apart.mine otherFd used descriptor found own
  · have same := owns.target?
    have sameLater := (owns.kept apart.toKeepsDescriptors).target?
    by_cases isLink : ∃ id, target = .link id
    · rcases isLink with ⟨id, rfl⟩
      rw [closeDescriptor_of_link same, closeDescriptor_of_link sameLater, apart.same]
      rfl
    · have notLink : ∀ id, some target ≠ some (.link id) := fun id equal =>
        isLink ⟨id, Option.some.inj equal⟩
      rw [← same] at notLink
      have notLinkLater := notLink
      rw [same, ← sameLater] at notLinkLater
      rw [closeDescriptor_of_notLink notLink,
        closeDescriptor_of_notLink notLinkLater, apart.same]
  · intro otherFd descriptor found
    rw [closeDescriptor_descriptors, Function.update_apply] at found ⊢
    rw [nextIdLater]
    split at found
    · contradiction
    · rename_i notSame
      rw [if_neg notSame]
      exact apart.others otherFd descriptor found

theorem steady_close {fd : Fd} {target : Target}
    (owns : Owns kernel owner fd target) (different : owner ≠ other) :
    Steady owner other kernel (.close fd) := fun _ apart =>
  ⟨rfl, apart_closeBoth owns apart,
    keeps_closeDescriptor (owns.kept apart.toKeepsDescriptors) different⟩

theorem steady_bpfLinkDestroy {fd : Fd} {target : Target}
    (owns : Owns kernel owner fd target) (different : owner ≠ other) :
    Steady owner other kernel (.bpfLinkDestroy fd) :=
  steady_close owns different

end Steady

end Pidnl.Ratelimit
