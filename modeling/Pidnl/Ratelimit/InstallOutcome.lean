import Pidnl.Ratelimit.AttachOutcome

/-! # What setting and removing a limit leave behind -/

namespace Pidnl.Ratelimit

open Pidnl.Foundation Pidnl.System

variable {kernel : Kernel} (owner : Process) (faults : Faults)

/-! ## Replacing the links -/

/-- Whether a call of `limit_process_bandwidth` fails that is made once the
cgroup is open, and that is not a call of `detach_pinned_links`. -/
def replaceFails (faults : Faults) (config : RateLimitConfig) : Bool :=
  faults.here .calloc || pinDirFails faults || attachBpfFails faults config

/-- The pins of the directions to be limited are free once the old links have
been swept away. -/
def SweptFree (faults : Faults) (kernel : Kernel) (pid : Int32)
    (config : RateLimitConfig) : Prop :=
  ∀ attachType, config.limit attachType ≠ RATELIMIT_UNLIMITED →
    swept faults attachType (slot kernel pid attachType) = .empty

section Replace

variable {cgroupFd : Fd} {cgroup : CgroupId} {pid : Int32}
  (config : RateLimitConfig)

/-- The links are replaced, or `delete_cgroup` is called on what stands by then. -/
inductive Replaces (owner : Process) (faults : Faults) (config : RateLimitConfig)
    (pid : Int32) (cgroupFd : Fd) (kernel : Kernel)
    (outcome : RatelimitCode × Kernel) : Prop
  | replaced (ok : outcome.1 = .ok) (noneFails : replaceFails faults config = false)
      (free : SweptFree faults kernel pid config)
      (affects : Affects {pid} kernel outcome.2)
      (present : hasCgroup outcome.2 pid = true)
      (slots : ∀ attachType, slot outcome.2 pid attachType =
        installed config attachType
          (swept faults attachType (slot kernel pid attachType)))
  | undone (notOk : outcome.1 ≠ .ok)
      (fails : ¬(replaceFails faults config = false ∧
        SweptFree faults kernel pid config))
      {middle : Kernel} (affects : Affects {pid} kernel middle)
      (present : hasCgroup middle pid = true)
      (deleted : outcome.2 = (Kernel.execute owner faults
        (deleteCgroup (buildCgroupName pid) (some cgroupFd) pid) middle).2)

theorem replaces_replaceLinks (settled : Settled kernel)
    (isCgroup : kernel.cgroups.lookup (buildCgroupName pid) = some cgroup)
    (target : kernel.target? cgroupFd = some (.cgroup cgroup)) :
    Replaces owner faults config pid cgroupFd kernel
      (Kernel.execute owner faults (replaceLinks pid cgroupFd config) kernel) := by
  have present : hasCgroup kernel pid = true := by rw [hasCgroup, isCgroup]; rfl
  simp only [replaceLinks, ask, Kernel.execute_bind, Kernel.execute_request]
  rcases Bool.eq_false_or_eq_true (faults.here .calloc) with allocating | allocating
  · have failed : replaceFails faults config = true := by
      simp [replaceFails, allocating]
    have alloc : Kernel.exec owner true kernel .calloc = (false, kernel) := rfl
    simp only [allocating, alloc, Bool.not_false, if_true, Kernel.execute_bind,
      Kernel.execute_pure]
    exact .undone (by simp) (by simp [failed]) (.refl settled) present rfl
  have alloc : Kernel.exec owner false kernel .calloc = (true, kernel) := rfl
  simp only [allocating, alloc, Bool.not_true, Bool.false_eq_true, if_false,
    Kernel.execute_bind]
  have detached := execute_detachPinnedLinks owner faults settled pid
  generalize (Kernel.execute owner faults (detachPinnedLinks pid) kernel).2 = middle
    at detached ⊢
  rcases detached with ⟨detaches, sweptSlots⟩
  have middlePresent : hasCgroup middle pid = true := by
    rw [hasCgroup, detaches.sameCgroups, isCgroup]
    rfl
  rcases execute_createPinDir owner faults middle pid with
    ⟨directories, made, failed, ok⟩
  generalize Kernel.execute owner faults (createPinDir pid) middle = created
    at made failed ok ⊢
  rcases created with ⟨result, base⟩
  simp only at made failed ok
  subst made
  have quiet := quiet_directories middle directories
  have affects := detaches.toAffects.trans (.of_quiet detaches.settled quiet)
  have basePresent : hasCgroup { middle with directories := directories } pid = true :=
    (Settled.hasCgroup_quiet quiet pid).trans middlePresent
  rcases Bool.eq_false_or_eq_true (pinDirFails faults) with making | making
  · have fails : replaceFails faults config = true := by
      simp [replaceFails, making]
    rcases failed making with ⟨code, rfl, notOk⟩
    simp only [Kernel.execute_bind, Kernel.execute_pure]
    exact .undone notOk (by simp [fails]) affects basePresent rfl
  rcases ok making with ⟨rfl, isMade⟩
  have ready : Ready { middle with directories := directories } cgroupFd cgroup
      pid := by
    refine ⟨affects.settled, detaches.sameCgroups ▸ isCgroup, ?_, isMade⟩
    rw [← target, Kernel.target?, Kernel.target?]
    exact congrArg _ (congrFun detaches.sameDescriptors cgroupFd)
  have attached := execute_attachBpfPrograms owner faults config ready
  simp only [Kernel.execute_bind]
  have slots : ∀ attachType, slot { middle with directories := directories } pid
      attachType = swept faults attachType (slot kernel pid attachType) :=
    sweptSlots
  have mount : ({ middle with directories := directories } : Kernel).bpffsMount =
    middle.bpffsMount := rfl
  have free : PinsFree { middle with directories := directories } pid config ↔
      SweptFree faults kernel pid config := by
    simp only [PinsFree, SweptFree, slots]
  rw [mount] at attached
  generalize Kernel.execute owner faults (attachBpfPrograms cgroupFd
    (pinDirectory middle.bpffsMount pid) config) _ = outcome at attached ⊢
  rcases outcome with ⟨result, after⟩
  rcases attached with ⟨affectsAttach, sameCgroup, succeeds, error, slotsAttach⟩
  have affectsAll := affects.trans affectsAttach
  have fails : replaceFails faults config = attachBpfFails faults config := by
    simp [replaceFails, allocating, making]
  rw [free, ← fails] at succeeds
  cases result with
  | error code =>
      simp only [Kernel.execute_bind, Kernel.execute_pure]
      refine .undone (error code rfl) ?_ affectsAll (sameCgroup.trans basePresent) rfl
      intro noneFails
      have succeeded := succeeds.mpr noneFails
      cases succeeded
  | ok skel =>
      have closed := exec_close owner affectsAll.settled (faults.here .total) cgroupFd
      have affectsClosed := affectsAll.trans
        (.of_quiet affectsAll.settled closed)
      have destroyed := quiet_closeDescriptors affectsClosed.settled
        (skel.rateLimitsFd :: skel.otherFds)
      have quietAll := closed.trans destroyed
      have noneFails := succeeds.mp rfl
      simp only [Kernel.execute_bind, Kernel.execute_request, Kernel.execute_pure]
      refine .replaced rfl noneFails.1 noneFails.2
        (affectsAll.trans (.of_quiet affectsAll.settled quietAll)) ?_ ?_
      · refine (Settled.hasCgroup_quiet quietAll pid).trans ?_
        exact sameCgroup.trans basePresent
      · intro attachType
        refine (affectsAll.settled.slot_quiet quietAll pid attachType).trans ?_
        rw [slotsAttach rfl, slots]

end Replace

/-! ## Making the cgroups -/

def createFails (faults : Faults) (name : Path) : Bool :=
  let inner := faults.inside (.createCgroup name)
  inner.here .cgroupNewCgroup || inner.here .cgroupCreateCgroup

theorem execute_createCgroup (kernel : Kernel) (name : Path) :
    Kernel.execute owner faults (createCgroup name) kernel =
      if createFails faults name then (.libcgCreate, kernel)
      else (.ok, if (kernel.cgroups.lookup name).isSome then kernel
        else kernel.createCgroup name) := by
  simp only [createCgroup, createFails, ask, Kernel.execute_inside,
    Kernel.execute_bind, Kernel.execute_request]
  rcases Bool.eq_false_or_eq_true
    ((faults.inside (.createCgroup name)).here .cgroupNewCgroup) with making | making
  · have failed : Kernel.exec owner true kernel (.cgroupNewCgroup name) =
      (false, kernel) := rfl
    simp only [making, failed, Bool.true_or, Bool.not_false, if_true,
      Kernel.execute_pure]
  have made : Kernel.exec owner false kernel (.cgroupNewCgroup name) =
    (true, kernel) := rfl
  simp only [making, made, Bool.false_or, Bool.not_true, Bool.false_eq_true,
    if_false, Kernel.execute_bind, Kernel.execute_request]
  rcases Bool.eq_false_or_eq_true
    ((faults.inside (.createCgroup name)).here .cgroupCreateCgroup) with
    creating | creating
  · have failed : Kernel.exec owner true kernel (.cgroupCreateCgroup name) =
      (.failed, kernel) := rfl
    simp only [creating, failed, if_true, Kernel.execute_pure]
  · by_cases present : (kernel.cgroups.lookup name).isSome = true
    · have exists' : Kernel.exec owner false kernel (.cgroupCreateCgroup name) =
        (.eexist, kernel) := by simp [Kernel.exec, present]
      simp only [creating, exists', present, Bool.false_eq_true, if_true, if_false,
        reduceCtorEq, Kernel.execute_pure]
    · have created : Kernel.exec owner false kernel (.cgroupCreateCgroup name) =
        (.created, kernel.createCgroup name) := by simp [Kernel.exec, present]
      simp only [creating, created, present, Bool.false_eq_true, if_false,
        reduceCtorEq, Kernel.execute_pure]

theorem slot_ensureCgroup_affects (settled : Settled kernel) {name : Path}
    {pids : Set Int32} (own : IsOwnName kernel name)
    (within : ∀ pid, name = buildCgroupName pid → pid ∈ pids) :
    Affects pids kernel (kernel.ensureCgroup name) := by
  rcases ensureCgroup_frame kernel name with ⟨cgroup2Mount, bpffsMount, running, _⟩
  refine ⟨settled_ensureCgroup settled own, cgroup2Mount, bpffsMount, running, ?_, ?_⟩
  · intro pid _ attachType
    exact slot_ensureCgroup kernel name pid attachType
  · intro pid outside
    rw [hasCgroup, hasCgroup, lookup_ensureCgroup, if_neg]
    intro same
    exact outside (within pid same.1.symm)

theorem isSome_lookup_ensureCgroup (kernel : Kernel) (name : Path) :
    ((kernel.ensureCgroup name).cgroups.lookup name).isSome = true := by
  rw [lookup_ensureCgroup]
  cases found : kernel.cgroups.lookup name <;> simp

theorem execute_createCgroup_root (settled : Settled kernel)
    (succeeds : createFails faults [cgroupRoot] = false) :
    let outcome := Kernel.execute owner faults (createCgroup [cgroupRoot]) kernel
    outcome.1 = .ok ∧ Affects ∅ kernel outcome.2 ∧
      (outcome.2.cgroups.lookup [cgroupRoot]).isSome = true ∧
      ((kernel.cgroups.lookup [cgroupRoot]).isSome = true → outcome.2 = kernel) := by
  rw [execute_createCgroup, succeeds, if_neg Bool.false_ne_true]
  by_cases present : (kernel.cgroups.lookup [cgroupRoot]).isSome = true
  · rw [if_pos present]
    exact ⟨rfl, .refl settled, present, fun _ => rfl⟩
  · have created : kernel.createCgroup [cgroupRoot] =
      kernel.ensureCgroup [cgroupRoot] := rfl
    rw [if_neg present, created]
    refine ⟨rfl, ?_, isSome_lookup_ensureCgroup kernel _,
      fun holds => absurd holds present⟩
    apply slot_ensureCgroup_affects settled (.inl rfl)
    intro pid same
    exact absurd same.symm (buildCgroupName_ne_root pid)

theorem execute_createCgroup_child (settled : Settled kernel)
    (root : (kernel.cgroups.lookup [cgroupRoot]).isSome = true) {pid : Int32}
    (positive : 0 < pid)
    (succeeds : createFails faults (buildCgroupName pid) = false) :
    let outcome := Kernel.execute owner faults (createCgroup (buildCgroupName pid))
      kernel
    outcome.1 = .ok ∧ Affects {pid} kernel outcome.2 ∧
      hasCgroup outcome.2 pid = true ∧
      ∀ attachType, slot outcome.2 pid attachType = slot kernel pid attachType := by
  rw [execute_createCgroup, succeeds, if_neg Bool.false_ne_true]
  by_cases present : (kernel.cgroups.lookup (buildCgroupName pid)).isSome = true
  · rw [if_pos present]
    exact ⟨rfl, .refl settled, present, fun _ => rfl⟩
  · have parent : kernel.ensureCgroup [cgroupRoot] = kernel := by
      rcases Option.isSome_iff_exists.mp root with ⟨id, found⟩
      rw [Kernel.ensureCgroup, found]
    have created : kernel.createCgroup (buildCgroupName pid) =
        kernel.ensureCgroup (buildCgroupName pid) := by
      have unfolded : kernel.createCgroup (buildCgroupName pid) =
        (kernel.ensureCgroup [cgroupRoot]).ensureCgroup (buildCgroupName pid) := rfl
      rw [unfolded, parent]
    rw [if_neg present, created]
    refine ⟨rfl, ?_, isSome_lookup_ensureCgroup kernel _, ?_⟩
    · apply slot_ensureCgroup_affects settled (.inr ⟨root, pid, positive, rfl⟩)
      intro other same
      exact (buildCgroupName_injective same).symm
    · exact slot_ensureCgroup kernel _ pid

/-! ## Setting a limit -/

def cgroupsFail (faults : Faults) (pid : Int32) : Bool :=
  createFails faults [cgroupRoot] || createFails faults (buildCgroupName pid)

/-- Whether a call fails whose failure `limit_process_bandwidth` reports. -/
def installFails (faults : Faults) (pid : Int32) (config : RateLimitConfig) : Bool :=
  cgroupsFail faults pid || faults.here .cgroupAttachTaskPid || openFails faults ||
    replaceFails faults config

structure InstallOutcome (faults : Faults) (config : RateLimitConfig) (pid : Int32)
    (kernel : Kernel) (outcome : RatelimitCode × Kernel) : Prop where
  affects : Affects {pid} kernel outcome.2
  succeeds : outcome.1 = .ok ↔ 0 < pid ∧ kernel.running pid = true ∧
    installFails faults pid config = false ∧ SweptFree faults kernel pid config
  slots : outcome.1 = .ok → hasCgroup outcome.2 pid = true ∧
    ∀ attachType, slot outcome.2 pid attachType =
      installed config attachType
        (swept faults attachType (slot kernel pid attachType))
  /-- Until the cgroups are made, nothing is touched that exists. -/
  early : 0 < pid → cgroupsFail faults pid = true → hasCgroup kernel pid = true →
    outcome.2 = kernel
  /-- From then on every failure removes the cgroup. -/
  undone : 0 < pid → cgroupsFail faults pid = false → outcome.1 ≠ .ok →
    hasCgroup outcome.2 pid = deleteFails faults

inductive Installs (owner : Process) (faults : Faults) (config : RateLimitConfig)
    (pid : Int32) (kernel : Kernel) (outcome : RatelimitCode × Kernel) : Prop
  /-- A cgroup cannot be made. -/
  | unmade (fails : cgroupsFail faults pid = true) (notOk : outcome.1 ≠ .ok)
      (affects : Affects ∅ kernel outcome.2)
      (same : hasCgroup kernel pid = true → outcome.2 = kernel)
  /-- The process does not join its cgroup, or the cgroup cannot be opened: it is
  deleted without a look at the pins. -/
  | unopened (made : cgroupsFail faults pid = false) (notOk : outcome.1 ≠ .ok)
      (fails : (faults.here .cgroupAttachTaskPid = true ∨
        kernel.running pid = false) ∨ openFails faults = true)
      {middle : Kernel} (affects : Affects {pid} kernel middle)
      (present : hasCgroup middle pid = true)
      (slots : ∀ attachType,
        slot middle pid attachType = slot kernel pid attachType)
      (deleted : outcome.2 = (Kernel.execute owner faults
        (deleteCgroup (buildCgroupName pid) none pid) middle).2)
  | opened (made : cgroupsFail faults pid = false)
      (joins : faults.here .cgroupAttachTaskPid = false)
      (runs : kernel.running pid = true) (opens : openFails faults = false)
      {middle : Kernel} (affects : Affects {pid} kernel middle)
      (slots : ∀ attachType,
        slot middle pid attachType = slot kernel pid attachType)
      {cgroupFd : Fd}
      (replaces : Replaces owner faults config pid cgroupFd middle outcome)

theorem installs_installLimit (settled : Settled kernel) {pid : Int32}
    (positive : 0 < pid) (config : RateLimitConfig) :
    Installs owner faults config pid kernel
      (Kernel.execute owner faults (installLimit pid config) kernel) := by
  have valid : ¬ pid ≤ 0 := Int32.not_le.mpr positive
  simp only [installLimit, ask, valid, if_false, Kernel.execute_bind]
  -- The parent cgroup.
  rcases Bool.eq_false_or_eq_true (createFails faults [cgroupRoot]) with
    parent | parent
  · have fails : cgroupsFail faults pid = true := by simp [cgroupsFail, parent]
    simp only [execute_createCgroup, parent, if_true, ne_eq, reduceCtorEq,
      not_false_eq_true, Kernel.execute_pure]
    exact .unmade fails (by simp) (.refl settled) fun _ => rfl
  rcases execute_createCgroup_root owner faults settled parent with
    ⟨parentOk, affectsParent, root, unchanged⟩
  simp only [parentOk, ne_eq, not_true, if_false, Kernel.execute_bind]
  generalize (Kernel.execute owner faults (createCgroup [cgroupRoot]) kernel).2 =
    rooted at affectsParent root unchanged ⊢
  have sameSlots := fun attachType => affectsParent.slots pid (by simp) attachType
  -- The pid's cgroup.
  rcases Bool.eq_false_or_eq_true (createFails faults (buildCgroupName pid)) with
    child | child
  · have fails : cgroupsFail faults pid = true := by simp [cgroupsFail, child]
    simp only [execute_createCgroup, child, if_true, reduceCtorEq,
      not_false_eq_true, Kernel.execute_pure]
    exact .unmade fails (by simp) affectsParent fun present =>
      unchanged (settled.root pid present)
  rcases execute_createCgroup_child owner faults affectsParent.settled root positive
    child with ⟨childOk, affectsChild, present, slotsChild⟩
  simp only [childOk, not_true, if_false, Kernel.execute_bind,
    Kernel.execute_request]
  generalize (Kernel.execute owner faults (createCgroup (buildCgroupName pid))
    rooted).2 = made at affectsChild present slotsChild ⊢
  have affects : Affects {pid} kernel made :=
    (affectsParent.mono (Set.empty_subset _)).trans affectsChild
  have noneFail : cgroupsFail faults pid = false := by
    simp [cgroupsFail, parent, child]
  have slots := fun attachType =>
    (slotsChild attachType).trans (sameSlots attachType)
  rcases Option.isSome_iff_exists.mp present with ⟨cgroup, found⟩
  have running := affects.running
  -- The process joins the cgroup.
  rcases Bool.eq_false_or_eq_true
    (!faults.here .cgroupAttachTaskPid && kernel.running pid) with joins | refused
  swap
  · have reply : Kernel.exec owner (faults.here .cgroupAttachTaskPid) made
        (.cgroupAttachTaskPid (buildCgroupName pid) pid) = (false, made) := by
      rw [← running] at refused
      simp only [Kernel.exec, found, Option.isSome_some, Bool.and_true, refused]
    simp only [reply, Bool.not_false, if_true, Kernel.execute_bind,
      Kernel.execute_pure]
    refine .unopened noneFail (by simp) (.inl ?_) affects present slots rfl
    simpa using Bool.and_eq_false_iff.mp refused
  rcases Bool.and_eq_true_iff.mp joins with ⟨attaches, runs⟩
  have reply : Kernel.exec owner (faults.here .cgroupAttachTaskPid) made
      (.cgroupAttachTaskPid (buildCgroupName pid) pid) = (true, made) := by
    rw [← running] at joins
    simp only [Kernel.exec, found, Option.isSome_some, Bool.and_true, joins]
  simp only [reply, Bool.not_true, Bool.false_eq_true, if_false,
    Kernel.execute_bind, execute_openCgroupFd]
  -- The cgroup is opened.
  rcases Bool.eq_false_or_eq_true (openFails faults) with opening | opening
  · simp only [opening, if_true, Kernel.execute_bind, Kernel.execute_pure]
    exact .unopened noneFail (by simp) (.inr opening) affects present slots rfl
  simp only [opening, Bool.false_eq_true, if_false]
  rw [found]
  have quiet : Quiet made (made.openDescriptor owner (.cgroup cgroup)) :=
    quiet_openDescriptor made owner fun _ => Target.noConfusion
  have target : (made.openDescriptor owner (.cgroup cgroup)).target? made.nextId =
      some (.cgroup cgroup) := by simp [Kernel.target?, Kernel.openDescriptor]
  have affectsOpen := affects.trans (.of_quiet affects.settled quiet)
  apply Installs.opened noneFail (by simpa using attaches) runs opening affectsOpen
  · intro attachType
    rw [affects.settled.slot_quiet quiet, slots]
  · exact replaces_replaceLinks owner faults config affectsOpen.settled found target

theorem execute_installLimit (settled : Settled kernel) (pid : Int32)
    (config : RateLimitConfig) :
    InstallOutcome faults config pid kernel
      (Kernel.execute owner faults (installLimit pid config) kernel) := by
  by_cases positive : 0 < pid
  swap
  · have invalid : pid ≤ 0 := Int32.not_lt.mp positive
    simp only [installLimit, invalid, if_true, Kernel.execute_pure]
    exact ⟨.refl settled, by simp [positive], by simp,
      fun holds => absurd holds positive, fun holds => absurd holds positive⟩
  cases installs_installLimit owner faults settled positive config with
  | unmade fails notOk affects same =>
      refine ⟨affects.mono (Set.empty_subset _), ?_, fun ok => absurd ok notOk,
        fun _ _ => same, by simp [fails]⟩
      simp [notOk, installFails, fails]
  | unopened made notOk fails affects present slots deleted =>
      have deletes := execute_deleteCgroup_none owner faults affects.settled pid
      refine ⟨?_, ?_, fun ok => absurd ok notOk, by simp [made], ?_⟩
      · rw [deleted]
        exact affects.trans deletes.1
      · simp only [notOk, false_iff, installFails]
        rintro ⟨_, runs, noneFails, _⟩
        simp_all
      · intro _ _ _
        rw [deleted, deletes.2, present, Bool.and_true]
  | @opened made joins runs opens middle affects slots cgroupFd replaces =>
      have fails : installFails faults pid config = replaceFails faults config := by
        simp [installFails, made, joins, opens]
      have free : SweptFree faults middle pid config ↔
          SweptFree faults kernel pid config := by
        simp only [SweptFree, slots]
      cases replaces with
      | replaced ok noneFails swept affectsReplace present slotsReplace =>
          refine ⟨affects.trans affectsReplace, ?_, ?_, by simp [made],
            fun _ _ notOk => absurd ok notOk⟩
          · rw [fails, ← free]
            exact ⟨fun _ => ⟨positive, runs, noneFails, swept⟩, fun _ => ok⟩
          · intro _
            simp only [present, slotsReplace, slots, implies_true, and_self]
      | undone notOk failed affectsMiddle present deleted =>
          have deletes := execute_deleteCgroup owner faults affectsMiddle.settled pid
            cgroupFd
          refine ⟨?_, ?_, fun ok => absurd ok notOk, by simp [made], ?_⟩
          · rw [deleted]
            exact (affects.trans affectsMiddle).trans deletes.1
          · rw [fails, ← free]
            exact ⟨fun ok => absurd ok notOk,
              fun noneFails => absurd noneFails.2.2 failed⟩
          · intro _ _ _
            rw [deleted, deletes.2.1, present, Bool.and_true]

end Pidnl.Ratelimit
