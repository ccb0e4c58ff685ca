import Pidnl.Ratelimit.CgroupEffects
import Pidnl.Ratelimit.LinkEffects
import Mathlib.Data.Set.Insert

/-! # What the functions leave behind

For every choice of failing calls, what `limit_process_bandwidth` and
`delete_pid_cgroup` return and what stands afterwards.
-/

namespace Pidnl.Ratelimit

open Pidnl.Foundation Pidnl.System

/-- Whatever stands for a pid outside the set stands as before. -/
structure Affects (pids : Set Int32) (before after : Kernel) : Prop where
  settled : Settled after
  cgroup2Mount : after.cgroup2Mount = before.cgroup2Mount
  bpffsMount : after.bpffsMount = before.bpffsMount
  running : after.running = before.running
  slots : ∀ pid, pid ∉ pids → ∀ attachType,
    slot after pid attachType = slot before pid attachType
  cgroups : ∀ pid, pid ∉ pids → hasCgroup after pid = hasCgroup before pid

namespace Affects

variable {pids : Set Int32} {first second third : Kernel}

theorem refl (settled : Settled first) : Affects pids first first :=
  ⟨settled, rfl, rfl, rfl, fun _ _ _ => rfl, fun _ _ => rfl⟩

theorem trans (earlier : Affects pids first second)
    (later : Affects pids second third) : Affects pids first third where
  settled := later.settled
  cgroup2Mount := later.cgroup2Mount.trans earlier.cgroup2Mount
  bpffsMount := later.bpffsMount.trans earlier.bpffsMount
  running := later.running.trans earlier.running
  slots := fun pid outside attachType =>
    (later.slots pid outside attachType).trans (earlier.slots pid outside attachType)
  cgroups := fun pid outside =>
    (later.cgroups pid outside).trans (earlier.cgroups pid outside)

theorem mono {wider : Set Int32} (affects : Affects pids first second)
    (within : pids ⊆ wider) : Affects wider first second where
  settled := affects.settled
  cgroup2Mount := affects.cgroup2Mount
  bpffsMount := affects.bpffsMount
  running := affects.running
  slots := fun pid outside => affects.slots pid fun member => outside (within member)
  cgroups := fun pid outside =>
    affects.cgroups pid fun member => outside (within member)

theorem of_quiet (settled : Settled first) (quiet : Quiet first second) :
    Affects pids first second where
  settled := settled.quiet quiet
  cgroup2Mount := quiet.cgroup2Mount
  bpffsMount := quiet.bpffsMount
  running := quiet.running
  slots := fun pid _ => settled.slot_quiet quiet pid
  cgroups := fun pid _ => Settled.hasCgroup_quiet quiet pid

end Affects

variable {kernel : Kernel} (owner : Process) (faults : Faults)

/-! ## Opening a cgroup -/

def openFails (faults : Faults) : Bool :=
  (faults.inside .openCgroupFd).here .getCgroup2Mount ||
    (faults.inside .openCgroupFd).here .openReadOnly

theorem execute_openCgroupFd (name : Path) :
    Kernel.execute owner faults (openCgroupFd name) kernel =
      match if openFails faults then none else kernel.cgroups.lookup name with
      | none => (none, kernel)
      | some id =>
          (some kernel.nextId, kernel.openDescriptor owner (.cgroup id)) := by
  have below : kernel.cgroup2Mount.isPrefixOf (kernel.cgroup2Mount ++ name) =
      true := by simp
  cases mounting : (faults.inside .openCgroupFd).here .getCgroup2Mount with
  | true => simp [openCgroupFd, openFails, Kernel.exec, mounting]
  | false =>
      cases opening : (faults.inside .openCgroupFd).here .openReadOnly with
      | true => simp [openCgroupFd, openFails, Kernel.exec, mounting, opening]
      | false =>
          have cut : (kernel.cgroup2Mount ++ name).drop kernel.cgroup2Mount.length =
              name := List.drop_left
          simp only [openCgroupFd, openFails, Kernel.execute_inside,
            Kernel.execute_bind, Kernel.execute_request, Kernel.exec, mounting,
            opening, below, Bool.false_eq_true, if_false, Bool.not_true,
            Bool.or_self]
          cases found : kernel.cgroups.lookup name with
          | none => rw [cut, found]
          | some id => rw [cut, found]

/-! ## Detaching -/

def unlinked (faults : Faults) (slot : Slot) : Slot :=
  if faults.here .unlink then
    if faults.here .bpfObjGet || faults.here .bpfLinkDetach then slot
    else slot.detached
  else .empty

def swept (faults : Faults) (attachType : AttachType) (slot : Slot) : Slot :=
  if (faults.inside .detachPinnedLinks).here .getBpffsMount then slot
  else unlinked ((faults.inside .detachPinnedLinks).inside (.direction attachType))
    slot

structure Detaches (pid : Int32) (before after : Kernel) : Prop
    extends Affects {pid} before after where
  sameCgroups : after.cgroups = before.cgroups
  sameDescriptors : after.descriptors = before.descriptors

namespace Detaches

variable {pid : Int32} {first second third : Kernel}

theorem refl (settled : Settled first) : Detaches pid first first :=
  ⟨.refl settled, rfl, rfl⟩

theorem trans (earlier : Detaches pid first second)
    (later : Detaches pid second third) : Detaches pid first third :=
  ⟨earlier.toAffects.trans later.toAffects,
    later.sameCgroups.trans earlier.sameCgroups,
    later.sameDescriptors.trans earlier.sameDescriptors⟩

theorem detachLink (settled : Settled kernel) {attachType : AttachType} {id : LinkId}
    (found : kernel.pins.lookup (pinPath kernel.bpffsMount pid attachType) =
      some id) : Detaches pid kernel (kernel.detachLink id) := by
  refine ⟨⟨settled_detachLink settled id, rfl, rfl, rfl, ?_, fun _ _ => rfl⟩, rfl,
    rfl⟩
  intro other outside otherType
  rw [slot_detachLink settled found, if_neg]
  exact fun same => outside same.1

theorem unpin (settled : Settled kernel) (attachType : AttachType) :
    Detaches pid kernel
      (kernel.unpin (pinPath kernel.bpffsMount pid attachType)) := by
  have cgroups := cgroups_unpin kernel (pinPath kernel.bpffsMount pid attachType)
  have frames := Kernel.frames_unpin kernel (pinPath kernel.bpffsMount pid attachType)
  refine ⟨⟨settled_unpin settled _, frames.cgroup2Mount, frames.bpffsMount, frames.running,
    ?_, ?_⟩, cgroups, frames.descriptors⟩
  · intro other outside otherType
    rw [slot_unpin settled, if_neg]
    exact fun same => outside same.1
  · intro other _
    rw [hasCgroup, hasCgroup, cgroups]

end Detaches

section Detaching

variable (settled : Settled kernel) (pid : Int32) (attachType : AttachType)
include settled

theorem exec_unlink (fails : Bool) :
    let after := (Kernel.exec owner fails kernel
      (.unlink (pinPath kernel.bpffsMount pid attachType))).2
    Detaches pid kernel after ∧
      ∀ other, slot after pid other =
        if other = attachType ∧ fails = false then .empty
        else slot kernel pid other := by
  cases fails with
  | true => exact ⟨.refl settled, by simp [Kernel.exec]⟩
  | false =>
      refine ⟨.unpin settled attachType, ?_⟩
      intro other
      simp [Kernel.exec, slot_unpin settled]

def beforeUnlink (faults : Faults) (kernel : Kernel) (pid : Int32)
    (attachType : AttachType) : Kernel :=
  match kernel.pins.lookup (pinPath kernel.bpffsMount pid attachType) with
  | none => kernel
  | some id =>
      if faults.here .bpfObjGet then kernel
      else
        { if faults.here .bpfLinkDetach then kernel else kernel.detachLink id with
          nextId := kernel.nextId + 1 }

theorem execute_detachPinnedLink_eq :
    (Kernel.execute owner faults
        (detachPinnedLink kernel.bpffsMount pid attachType) kernel).2 =
      (Kernel.exec owner ((faults.inside (.direction attachType)).here .unlink)
        (beforeUnlink (faults.inside (.direction attachType)) kernel pid attachType)
        (.unlink (pinPath kernel.bpffsMount pid attachType))).2 := by
  have unused := settled.descriptors kernel.nextId (Nat.le_refl _)
  rw [beforeUnlink]
  cases found : kernel.pins.lookup (pinPath kernel.bpffsMount pid attachType) with
  | none => simp [detachPinnedLink, Kernel.exec, KernelCall.function, found]
  | some id =>
      by_cases getting :
          (faults.inside (.direction attachType)).here .bpfObjGet = true
      · simp [detachPinnedLink, Kernel.exec, KernelCall.function, getting]
      · have target : ((kernel.holdLink id).openDescriptor owner
            (.link id)).target? kernel.nextId = some (.link id) := by
          simp [Kernel.target?, Kernel.openDescriptor, Kernel.holdLink]
        by_cases detaching :
            (faults.inside (.direction attachType)).here .bpfLinkDetach = true
        · simp [detachPinnedLink, Kernel.exec, KernelCall.function, found, getting,
            detaching, closeDescriptor_of_held unused]
        · simp [detachPinnedLink, Kernel.exec, KernelCall.function, found, getting,
            detaching, target, closeDescriptor_of_held_detached unused]

theorem detaches_nextId {nextId : Nat} (later : kernel.nextId ≤ nextId) :
    Detaches pid kernel { kernel with nextId := nextId } :=
  ⟨.of_quiet settled (quiet_nextId kernel later), rfl, rfl⟩

theorem detaches_beforeUnlink :
    Detaches pid kernel (beforeUnlink faults kernel pid attachType) ∧
      ∀ other, slot (beforeUnlink faults kernel pid attachType) pid other =
        if other = attachType ∧ faults.here .bpfObjGet = false ∧
            faults.here .bpfLinkDetach = false then
          (slot kernel pid attachType).detached
        else slot kernel pid other := by
  rw [beforeUnlink]
  cases found : kernel.pins.lookup (pinPath kernel.bpffsMount pid attachType) with
  | none =>
      have empty : slot kernel pid attachType = .empty := by rw [slot, found]
      refine ⟨.refl settled, ?_⟩
      intro other
      by_cases same : other = attachType
      · subst same
        simp [empty]
      · simp [same]
  | some id =>
      by_cases getting : faults.here .bpfObjGet = true
      · simp [getting, Detaches.refl settled]
      · by_cases detaching : faults.here .bpfLinkDetach = true
        · simp only [getting, detaching, if_true, if_false, Bool.false_eq_true]
          refine ⟨detaches_nextId settled pid (Nat.le_succ _), ?_⟩
          intro other
          rw [settled.slot_quiet (quiet_nextId kernel (Nat.le_succ _))]
          simp
        · have detached := settled_detachLink settled id
          have later := quiet_nextId (kernel.detachLink id)
            (Nat.le_succ kernel.nextId)
          simp only [getting, detaching, if_false, Bool.false_eq_true]
          refine ⟨(Detaches.detachLink settled found).trans
            (detaches_nextId detached pid (Nat.le_succ _)), ?_⟩
          intro other
          rw [detached.slot_quiet later, slot_detachLink settled found]
          have dead : (slot kernel pid attachType).detached = .dead := by
            rw [slot, found]
            simp only [linkSlot]
            cases (kernel.links id).cgroup <;> rfl
          simp [dead]

theorem execute_detachPinnedLink :
    let after := (Kernel.execute owner faults
      (detachPinnedLink kernel.bpffsMount pid attachType) kernel).2
    Detaches pid kernel after ∧
      ∀ other, slot after pid other =
        if other = attachType then
          unlinked (faults.inside (.direction attachType))
            (slot kernel pid attachType)
        else slot kernel pid other := by
  rw [execute_detachPinnedLink_eq owner faults settled]
  generalize faults.inside (.direction attachType) = inner
  have before : Detaches pid kernel (beforeUnlink inner kernel pid attachType) :=
    (detaches_beforeUnlink inner settled pid attachType).1
  have slotsBefore := (detaches_beforeUnlink inner settled pid
    attachType).2
  have unlinks := exec_unlink owner before.settled pid attachType
    (inner.here .unlink)
  rw [before.bpffsMount] at unlinks
  refine ⟨before.trans unlinks.1, ?_⟩
  intro other
  rw [unlinks.2, slotsBefore, unlinked]
  by_cases same : other = attachType
  · subst same
    cases inner.here .unlink <;> cases inner.here .bpfObjGet <;>
      cases inner.here .bpfLinkDetach <;> simp
  · simp [same]

theorem detaches_directories (directories : Path → Bool) :
    Detaches pid kernel { kernel with directories := directories } :=
  ⟨.of_quiet settled (quiet_directories kernel directories), rfl, rfl⟩

theorem exec_rmdir (fails : Bool) (path : Path) :
    let after := (Kernel.exec owner fails kernel (.rmdir path)).2
    Detaches pid kernel after ∧
      ∀ attachType, slot after pid attachType = slot kernel pid attachType := by
  simp only [Kernel.exec]
  split
  · exact ⟨.refl settled, fun _ => rfl⟩
  · exact ⟨detaches_directories settled pid _, fun _ => rfl⟩

theorem execute_detachPinnedLinks :
    let after := (Kernel.execute owner faults (detachPinnedLinks pid) kernel).2
    Detaches pid kernel after ∧
      ∀ attachType, slot after pid attachType =
        swept faults attachType (slot kernel pid attachType) := by
  simp only [swept]
  cases mounting : (faults.inside .detachPinnedLinks).here .getBpffsMount with
  | true => simp [detachPinnedLinks, Kernel.exec, mounting, Detaches.refl settled]
  | false =>
      simp only [detachPinnedLinks, ask, Kernel.execute_inside,
        Kernel.execute_bind, Kernel.execute_request, Kernel.exec, mounting,
        Bool.false_eq_true, if_false]
      generalize faults.inside .detachPinnedLinks = inner
      have first := execute_detachPinnedLink owner inner settled pid .egress
      generalize (Kernel.execute owner inner
        (detachPinnedLink kernel.bpffsMount pid .egress) kernel).2 = middle at first ⊢
      have second := execute_detachPinnedLink owner inner first.1.settled pid .ingress
      rw [first.1.bpffsMount] at second
      generalize (Kernel.execute owner inner
        (detachPinnedLink kernel.bpffsMount pid .ingress) middle).2 = swept
        at second ⊢
      have last := exec_rmdir owner second.1.settled pid (inner.here .rmdir)
        (pinDirectory kernel.bpffsMount pid)
      refine ⟨(first.1.trans second.1).trans last.1, ?_⟩
      intro attachType
      refine (last.2 attachType).trans ?_
      cases attachType <;> simp [first.2, second.2]

end Detaching

/-! ## Deleting a cgroup -/

def deleteFails (faults : Faults) : Bool :=
  (faults.inside .deleteCgroup).here .cgroupDeleteCgroup

section Deleting

variable (settled : Settled kernel) (pid : Int32)
include settled

theorem exec_cgroupDeleteCgroup (fails : Bool) :
    let after := (Kernel.exec owner fails kernel
      (.cgroupDeleteCgroup (buildCgroupName pid))).2
    Affects {pid} kernel after ∧
      hasCgroup after pid = (fails && hasCgroup kernel pid) ∧
      ∀ attachType, slot after pid attachType =
        if fails then slot kernel pid attachType
        else (slot kernel pid attachType).detached := by
  cases fails with
  | true => simp [Kernel.exec, Affects.refl settled]
  | false =>
      have childless := hasChildren_buildCgroupName settled pid
      have frames := Kernel.frames_removeCgroup kernel (buildCgroupName pid)
      simp only [Kernel.exec, childless, Bool.or_self, Bool.false_eq_true, if_false]
      refine ⟨⟨settled_removeCgroup settled childless, frames.cgroup2Mount,
        frames.bpffsMount, frames.running, ?_, ?_⟩, ?_, ?_⟩
      · intro other outside attachType
        rw [slot_removeCgroup settled, if_neg]
        exact outside
      · intro other outside
        rw [hasCgroup, hasCgroup, lookup_removeCgroup, if_neg]
        intro same
        exact outside (buildCgroupName_injective same)
      · simp [hasCgroup, lookup_removeCgroup]
      · intro attachType
        rw [slot_removeCgroup settled, if_pos rfl]

theorem exec_close (fails : Bool) (fd : Fd) :
    let after := (Kernel.exec owner fails kernel (.close fd)).2
    Quiet kernel after :=
  quiet_closeDescriptor settled fd

theorem execute_deleteCgroup_none :
    let after := (Kernel.execute owner faults
      (deleteCgroup (buildCgroupName pid) none pid) kernel).2
    Affects {pid} kernel after ∧
      hasCgroup after pid = (deleteFails faults && hasCgroup kernel pid) := by
  have deleted := exec_cgroupDeleteCgroup owner settled pid (deleteFails faults)
  simp only [deleteCgroup, ask, Kernel.execute_inside, Kernel.execute_bind,
    Kernel.execute_request, Kernel.execute_pure]
  exact ⟨deleted.1, deleted.2.1⟩

/-- Without a descriptor the pins stay. -/
theorem slot_deleteCgroup_none (attachType : AttachType) :
    slot (Kernel.execute owner faults
        (deleteCgroup (buildCgroupName pid) none pid) kernel).2 pid attachType =
      if deleteFails faults then slot kernel pid attachType
      else (slot kernel pid attachType).detached := by
  have deleted := exec_cgroupDeleteCgroup owner settled pid (deleteFails faults)
  simp only [deleteCgroup, ask, Kernel.execute_inside, Kernel.execute_bind,
    Kernel.execute_request, Kernel.execute_pure]
  exact deleted.2.2 attachType

theorem execute_deleteCgroup (cgroupFd : Fd) :
    let inner := faults.inside .deleteCgroup
    let after := (Kernel.execute owner faults
      (deleteCgroup (buildCgroupName pid) (some cgroupFd) pid) kernel).2
    Affects {pid} kernel after ∧
      hasCgroup after pid = (deleteFails faults && hasCgroup kernel pid) ∧
      ∀ attachType, slot after pid attachType =
        if deleteFails faults then
          swept inner attachType (slot kernel pid attachType)
        else (swept inner attachType (slot kernel pid attachType)).detached := by
  simp only [deleteCgroup, ask, Kernel.execute_inside, Kernel.execute_bind,
    Kernel.execute_request, Kernel.execute_pure]
  have detached := execute_detachPinnedLinks owner (faults.inside .deleteCgroup)
    settled pid
  generalize (Kernel.execute owner (faults.inside .deleteCgroup)
    (detachPinnedLinks pid) kernel).2 = middle at detached ⊢
  have closed := exec_close owner detached.1.settled
    ((faults.inside .deleteCgroup).here .total) cgroupFd
  have quiet : Affects {pid} middle _ := .of_quiet detached.1.settled closed
  have deleted := exec_cgroupDeleteCgroup owner quiet.settled pid
    (deleteFails faults)
  refine ⟨(detached.1.toAffects.trans quiet).trans deleted.1, ?_, ?_⟩
  · refine deleted.2.1.trans ?_
    rw [Settled.hasCgroup_quiet closed, hasCgroup, hasCgroup,
      detached.1.sameCgroups]
  · intro attachType
    refine (deleted.2.2 attachType).trans ?_
    rw [detached.1.settled.slot_quiet closed, detached.2]

end Deleting

/-! ## Making the pin directory -/

theorem exec_mkdir (kernel : Kernel) (path : Path)
    (parent : path.dropLast = kernel.bpffsMount ∨
      kernel.directories path.dropLast = true) :
    ∃ directories,
      (Kernel.exec owner false kernel (.mkdir path)).2 =
          { kernel with directories := directories } ∧
        directories path = true ∧
        (Kernel.exec owner false kernel (.mkdir path)).1 ≠ .failed := by
  by_cases present : kernel.directories path = true
  · exact ⟨kernel.directories, by simp [Kernel.exec, present]⟩
  · have notOrphan : ¬(path.dropLast ≠ kernel.bpffsMount ∧
        (!kernel.directories path.dropLast) = true) := by
      rintro ⟨notMount, absent⟩
      rcases parent with isMount | made
      · exact notMount isMount
      · simp [made] at absent
    refine ⟨Function.update kernel.directories path true, ?_,
      Function.update_self _ _ _, ?_⟩ <;>
    simp only [Kernel.exec, present, if_neg notOrphan, if_false,
      Bool.false_eq_true]
    exact CreateReply.noConfusion

def pinDirFails (faults : Faults) : Bool :=
  let inner := faults.inside .createPinDir
  inner.here .getBpffsMount || (inner.inside .makeBase).here .mkdir ||
    (inner.inside .makePinDir).here .mkdir

theorem execute_createPinDir (kernel : Kernel) (pid : Int32) :
    let outcome := Kernel.execute owner faults (createPinDir pid) kernel
    ∃ directories, outcome.2 = { kernel with directories := directories } ∧
      (pinDirFails faults = true →
        ∃ code, outcome.1 = .error code ∧ code ≠ .ok) ∧
      (pinDirFails faults = false →
        outcome.1 = .ok (pinDirectory kernel.bpffsMount pid) ∧
          directories (pinDirectory kernel.bpffsMount pid) = true) := by
  simp only [pinDirFails]
  cases mounting : (faults.inside .createPinDir).here .getBpffsMount with
  | true =>
      exact ⟨kernel.directories, by simp [createPinDir, Kernel.exec, mounting]⟩
  | false =>
      simp only [createPinDir, ask, Kernel.execute_inside, Kernel.execute_bind,
        Kernel.execute_request, mounting, Bool.false_or]
      generalize faults.inside .createPinDir = inner at mounting ⊢
      have mount : Kernel.exec owner false kernel .getBpffsMount =
        (some kernel.bpffsMount, kernel) := rfl
      simp only [mount, Kernel.execute_bind, Kernel.execute_inside,
        Kernel.execute_request, Kernel.execute_ite]
      cases first : (inner.inside .makeBase).here .mkdir with
      | true => exact ⟨kernel.directories, by simp [Kernel.exec]⟩
      | false =>
          rcases exec_mkdir owner kernel (kernel.bpffsMount ++ [cgroupRoot])
            (.inl List.dropLast_concat) with ⟨base, made, isMade, notFailed⟩
          simp only [made, if_neg notFailed]
          cases second : (inner.inside .makePinDir).here .mkdir with
          | true => exact ⟨base, by simp [Kernel.exec]⟩
          | false =>
              have parent : (pinDirectory kernel.bpffsMount pid).dropLast =
                  kernel.bpffsMount ++ [cgroupRoot] := by simp [pinDirectory]
              rcases exec_mkdir owner { kernel with directories := base }
                (pinDirectory kernel.bpffsMount pid) (.inr (parent ▸ isMade)) with
                ⟨both, madeBoth, isMadeBoth, notFailedBoth⟩
              simp only [madeBoth, if_neg notFailedBoth]
              exact ⟨both, rfl, by simp, fun _ => ⟨rfl, isMadeBoth⟩⟩

end Pidnl.Ratelimit
