import Pidnl.Ratelimit.Placing

/-! # Setting a limit beside another client

`limit_process_bandwidth` in three parts: what it does before it replaces the
links, the replacing, and what it does afterwards. The first and the last run
beside a client that may be replacing links itself.
-/

namespace Pidnl.Ratelimit

open Pidnl.Foundation Pidnl.System

/-! ## The parts of `limit_process_bandwidth` -/

/-- `limit_process_bandwidth` up to the allocation of the limiter. -/
def openLimit (pid : Int32) : KernelProgram (Except RatelimitCode Fd) := do
  if pid ≤ 0 then
    return .error .invalidPid
  let parent ← createCgroup [cgroupRoot]
  if parent ≠ .ok then
    return .error parent
  let name := buildCgroupName pid
  let child ← createCgroup name
  if child ≠ .ok then
    return .error child
  if !(← ask (.cgroupAttachTaskPid name pid)) then
    deleteCgroup name none pid
    return .error .libcgAttach
  match ← openCgroupFd name with
  | none =>
    deleteCgroup name none pid
    return .error .openCgroup
  | some cgroupFd =>
    if !(← ask .calloc) then
      deleteCgroup name (some cgroupFd) pid
      return .error .alloc
    return .ok cgroupFd

/-- `limit_process_bandwidth` after `attach_bpf_programs`. -/
def finishLimit (pid : Int32) (cgroupFd : Fd) :
    Except RatelimitCode Skeleton → KernelProgram RatelimitCode
  | .error code => do
    deleteCgroup (buildCgroupName pid) (some cgroupFd) pid
    return code
  | .ok skel => do
    ask (.close cgroupFd)
    ask (.ratelimitBpfDestroy (some skel))
    return .ok

/-- `limit_process_bandwidth` after the allocation of the limiter. -/
def placeLimit (pid : Int32) (config : RateLimitConfig) :
    Except RatelimitCode Fd → KernelProgram RatelimitCode
  | .error code => return code
  | .ok cgroupFd => placeLinks pid cgroupFd config >>= finishLimit pid cgroupFd

theorem replaceLinks_eq (pid : Int32) (cgroupFd : Fd) (config : RateLimitConfig) :
    replaceLinks pid cgroupFd config = (do
      if !(← ask .calloc) then
        deleteCgroup (buildCgroupName pid) (some cgroupFd) pid
        return .alloc
      placeLinks pid cgroupFd config >>= finishLimit pid cgroupFd) := by
  simp only [replaceLinks, placeLinks, Program.bind_bind]
  congr 1
  funext allocated
  cases allocated with
  | false => rfl
  | true =>
      simp only [Bool.not_true, Bool.false_eq_true, if_false]
      congr 1
      funext _
      congr 1
      funext made
      cases made <;> rfl

theorem installLimit_eq (pid : Int32) (config : RateLimitConfig) :
    installLimit pid config = openLimit pid >>= placeLimit pid config := by
  simp only [installLimit, openLimit, replaceLinks_eq]
  split
  · rfl
  simp only [Program.bind_bind]
  congr 1
  funext parent
  split
  · rfl
  simp only [Program.bind_bind]
  congr 1
  funext child
  split
  · rfl
  simp only [Program.bind_bind]
  congr 1
  funext joined
  split
  · rfl
  simp only [Program.bind_bind]
  congr 1
  funext opened
  cases opened with
  | none => rfl
  | some cgroupFd =>
      simp only [Program.bind_bind]
      congr 1
      funext allocated
      cases allocated with
      | false =>
          simp only [Bool.not_false, if_true, Program.bind_bind]
          rfl
      | true => rfl

/-! ## Before and after the links are replaced -/

variable {kernel after : Kernel} {owner other : Process} {pid : Int32}

structure Made (kernel : Kernel) (pid : Int32) (cgroup : CgroupId) : Prop where
  root : (kernel.cgroups.lookup [cgroupRoot]).isSome
  isCgroup : kernel.cgroups.lookup (buildCgroupName pid) = some cgroup

theorem Made.kept {cgroup : CgroupId} (made : Made kernel pid cgroup)
    (keeps : Keeps owner kernel after) : Made after pid cgroup := by
  rcases Option.isSome_iff_exists.mp made.root with ⟨root, isRoot⟩
  constructor
  · rw [keeps.cgroups _ root isRoot]
    rfl
  · exact keeps.cgroups _ cgroup made.isCgroup

/-- What a call outside the replacing of links does: once the cgroups are made it
only opens and closes descriptors. -/
structure Light (other : Process) (pid : Int32) (before after : Kernel) : Prop
    extends Keeps other before after where
  apart : ∀ cgroup, Made before pid cgroup → Apart other before after
  settled : Settled before → Settled after ∧
    ∀ attachType, slot after pid attachType = slot before pid attachType

theorem Apart.light (apart : Apart other kernel after) : Light other pid kernel after where
  toKeeps := apart.keeps
  apart := fun _ _ => apart
  settled := fun settled =>
    ⟨settled.quiet apart.quiet, settled.slot_quiet apart.quiet pid⟩

theorem Light.refl (kernel : Kernel) : Light other pid kernel kernel :=
  (Apart.refl kernel).light

theorem light_cgroupCreateCgroup {name : Path}
    (isName : name = [cgroupRoot] ∨ name = buildCgroupName pid ∧ 0 < pid ∧
      (kernel.cgroups.lookup [cgroupRoot]).isSome) :
    let created := Kernel.exec owner false kernel (.cgroupCreateCgroup name)
    created.1 ≠ .failed ∧ (created.2.cgroups.lookup name).isSome ∧
      ∀ process, Light process pid kernel created.2 := by
  by_cases present : (kernel.cgroups.lookup name).isSome = true
  · have made : Kernel.exec owner false kernel (.cgroupCreateCgroup name) =
        (.eexist, kernel) := by
      simp only [Kernel.exec, Bool.false_eq_true, if_false, present, if_true]
    rw [made]
    exact ⟨by simp, present, fun _ => .refl kernel⟩
  have ensured : kernel.createCgroup name = kernel.ensureCgroup name := by
    rcases isName with rfl | ⟨rfl, _, root⟩
    · rfl
    · rcases Option.isSome_iff_exists.mp root with ⟨id, found⟩
      have parent : kernel.ensureCgroup [cgroupRoot] = kernel := by
        rw [Kernel.ensureCgroup, found]
      have unfolded : kernel.createCgroup (buildCgroupName pid) =
        (kernel.ensureCgroup [cgroupRoot]).ensureCgroup (buildCgroupName pid) := rfl
      rw [unfolded, parent]
  have own : IsOwnName kernel name := by
    rcases isName with rfl | ⟨rfl, positive, root⟩
    · exact .inl rfl
    · exact .inr ⟨root, pid, positive, rfl⟩
  have made : Kernel.exec owner false kernel (.cgroupCreateCgroup name) =
      (.created, kernel.ensureCgroup name) := by
    simp only [Kernel.exec, Bool.false_eq_true, if_false, present, ensured]
  rw [made]
  refine ⟨by simp, isSome_lookup_ensureCgroup kernel name, ?_⟩
  intro process
  rcases ensureCgroup_frame kernel name with
    ⟨cgroup2Mount, bpffsMount, running, _, _, _, descriptors, nextId⟩
  refine ⟨⟨⟨nextId, ?_⟩, cgroup2Mount, bpffsMount, running, ?_⟩, ?_, ?_⟩
  · intro fd _ descriptor found _
    rw [descriptors]
    exact found
  · intro other id found
    exact lookup_ensureCgroup_of_some found
  · intro cgroup both
    refine absurd ?_ present
    rcases isName with rfl | ⟨rfl, _, _⟩
    · exact both.root
    · rw [both.isCgroup]
      rfl
  · intro settled
    exact ⟨settled_ensureCgroup settled own, slot_ensureCgroup kernel name pid⟩

/-- The program runs beside another client that may be replacing links, and does
not do so itself. -/
abbrev SafeOutside (owner other : Process) (pid : Int32) (post : α → Kernel → Prop)
    (program : KernelProgram α) (kernel : Kernel) : Prop :=
  program.Safe (Kernel.environment owner Faults.none) (Keeps owner) (Light other pid)
    post kernel

theorem safeOutside_inside {frame : Frame} {program : KernelProgram α}
    {post : α → Kernel → Prop} :
    SafeOutside owner other pid post (program.inside frame) kernel ↔
      SafeOutside owner other pid post program kernel :=
  Program.safe_inside frame

theorem safeOutside_request {call : KernelCall Reply} {post : Reply → Kernel → Prop}
    (made : ∀ later, Keeps owner kernel later →
      Light other pid later (Kernel.exec owner false later call).2 ∧
        post (Kernel.exec owner false later call).1
          (Kernel.exec owner false later call).2) :
    SafeOutside owner other pid post (.request call) kernel := made

theorem safe_createCgroup {name : Path}
    (isName : name = [cgroupRoot] ∨ name = buildCgroupName pid ∧ 0 < pid ∧
      (kernel.cgroups.lookup [cgroupRoot]).isSome) :
    SafeOutside owner other pid
      (fun code final => code = .ok ∧ (final.cgroups.lookup name).isSome ∧
        Keeps owner kernel final)
      (createCgroup name) kernel := by
  rw [createCgroup, safeOutside_inside]
  apply Program.Safe.bind
  apply safeOutside_request
  intro first keepsFirst
  refine ⟨.refl first, ?_⟩
  have named : Kernel.exec owner false first (.cgroupNewCgroup name) =
    (true, first) := rfl
  simp only [named, Bool.not_true, Bool.false_eq_true, if_false]
  apply Program.Safe.bind
  apply safeOutside_request
  intro second keepsSecond
  have keeps := keepsFirst.trans keepsSecond
  have isNameSecond : name = [cgroupRoot] ∨ name = buildCgroupName pid ∧ 0 < pid ∧
      (second.cgroups.lookup [cgroupRoot]).isSome := by
    rcases isName with isRoot | ⟨isChild, positive, root⟩
    · exact .inl isRoot
    · rcases Option.isSome_iff_exists.mp root with ⟨id, found⟩
      refine .inr ⟨isChild, positive, ?_⟩
      rw [keeps.cgroups _ id found]
      rfl
  have creating : (Kernel.exec owner false second (.cgroupCreateCgroup name)).1 ≠
    .failed ∧ _ := light_cgroupCreateCgroup isNameSecond
  rcases creating with ⟨created, present, light⟩
  refine ⟨light other, ?_⟩
  rw [if_neg created]
  exact ⟨rfl, present, keeps.trans (light owner).toKeeps⟩

structure Opened (kernel : Kernel) (owner : Process) (cgroupFd : Fd)
    (cgroup : CgroupId) (pid : Int32) : Prop extends Made kernel pid cgroup where
  owns : Owns kernel owner cgroupFd (.cgroup cgroup)

theorem Opened.kept {cgroupFd : Fd} {cgroup : CgroupId}
    (opened : Opened kernel owner cgroupFd cgroup pid)
    (keeps : Keeps owner kernel after) : Opened after owner cgroupFd cgroup pid :=
  ⟨opened.toMade.kept keeps, opened.owns.kept keeps.toKeepsDescriptors⟩

theorem safe_openCgroupFd {cgroup : CgroupId} (made : Made kernel pid cgroup) :
    SafeOutside owner other pid
      (fun result final => ∃ cgroupFd, result = some cgroupFd ∧
        Opened final owner cgroupFd cgroup pid)
      (openCgroupFd (buildCgroupName pid)) kernel := by
  rw [openCgroupFd, safeOutside_inside]
  apply Program.Safe.bind
  apply safeOutside_request
  intro first keepsFirst
  refine ⟨.refl first, ?_⟩
  have mounted : Kernel.exec owner false first .getCgroup2Mount =
    (some first.cgroup2Mount, first) := rfl
  simp only [mounted]
  apply safeOutside_request
  intro second keepsSecond
  have madeSecond := made.kept (keepsFirst.trans keepsSecond)
  have opening : Kernel.exec owner false second
      (.openReadOnly (first.cgroup2Mount ++ buildCgroupName pid)) =
      (some second.nextId, second.openDescriptor owner (.cgroup cgroup)) := by
    have below : second.cgroup2Mount.isPrefixOf
        (second.cgroup2Mount ++ buildCgroupName pid) = true := by simp
    have cut : (second.cgroup2Mount ++ buildCgroupName pid).drop
      second.cgroup2Mount.length = buildCgroupName pid := List.drop_left
    rw [← keepsSecond.cgroup2Mount]
    simp only [Kernel.exec, below, Bool.not_true, Bool.or_self, Bool.false_eq_true,
      if_false]
    rw [cut, madeSecond.isCgroup]
  rw [opening]
  have apart : ∀ process, Apart process second
      (second.openDescriptor owner (.cgroup cgroup)) := fun _ =>
    apart_openDescriptor second owner fun _ => Target.noConfusion
  exact ⟨(apart other).light, _, rfl, madeSecond.kept (apart owner).keeps,
    .openDescriptor second owner _⟩

/-- With nothing else failing, the process joins its cgroup and the cgroup is
opened, whatever the other client is doing. -/
theorem safe_openLimit (positive : 0 < pid) (runs : kernel.running pid = true) :
    SafeOutside owner other pid
      (fun result final => ∃ cgroupFd cgroup, result = .ok cgroupFd ∧
        Opened final owner cgroupFd cgroup pid)
      (openLimit pid) kernel := by
  have valid : ¬ pid ≤ 0 := Int32.not_le.mpr positive
  simp only [openLimit, if_neg valid]
  apply Program.Safe.bind
  apply (safe_createCgroup (.inl rfl)).weaken
  intro _ first holds
  rcases holds with ⟨rfl, root, keepsFirst⟩
  simp only [ne_eq, not_true, if_false]
  apply Program.Safe.bind
  apply (safe_createCgroup (.inr ⟨rfl, positive, root⟩)).weaken
  intro _ second holds
  rcases holds with ⟨rfl, child, keepsSecond⟩
  rcases Option.isSome_iff_exists.mp root with ⟨rootId, isRoot⟩
  rcases Option.isSome_iff_exists.mp child with ⟨cgroup, isCgroup⟩
  have made : Made second pid cgroup := by
    refine ⟨?_, isCgroup⟩
    rw [keepsSecond.cgroups _ rootId isRoot]
    rfl
  simp only [not_true, if_false]
  -- The process joins.
  apply Program.Safe.bind
  apply safeOutside_request
  intro third keepsThird
  have madeThird := made.kept keepsThird
  have running : third.running pid = true := by
    rw [keepsThird.running, keepsSecond.running, keepsFirst.running]
    exact runs
  have joins : Kernel.exec owner false third
      (.cgroupAttachTaskPid (buildCgroupName pid) pid) = (true, third) := by
    simp only [Kernel.exec, Bool.not_false, Bool.true_and, running, Bool.and_true]
    rw [madeThird.isCgroup]
    rfl
  rw [joins]
  refine ⟨.refl third, ?_⟩
  simp only [Bool.not_true, Bool.false_eq_true, if_false]
  apply Program.Safe.bind
  apply (safe_openCgroupFd madeThird).weaken
  intro _ fourth holds
  rcases holds with ⟨cgroupFd, rfl, opened⟩
  apply Program.Safe.bind
  apply safeOutside_request
  intro last keepsLast
  have alloc : Kernel.exec owner false last .calloc = (true, last) := rfl
  rw [alloc]
  refine ⟨.refl last, ?_⟩
  simp only [Bool.not_true, Bool.false_eq_true, if_false]
  exact ⟨cgroupFd, cgroup, rfl, opened.kept keepsLast⟩

/-! ## Closing the descriptors -/

theorem safe_finishLimit {skel : Skeleton} {cgroupFd : Fd} {cgroup : CgroupId}
    {config : RateLimitConfig}
    (placed : Placed kernel owner skel cgroupFd cgroup pid config)
    (different : owner ≠ other) :
    SafeOutside owner other pid (fun code _ => code = .ok)
      (finishLimit pid cgroupFd (.ok skel)) kernel := by
  apply Program.Safe.bind
  apply safeOutside_request
  intro first keepsFirst
  have cgroupOwned := placed.owns.kept keepsFirst.toKeepsDescriptors
  have notLink : ∀ id, Target.cgroup cgroup ≠ .link id := fun _ => Target.noConfusion
  refine ⟨(apart_closeDescriptor (cgroupOwned.foreign notLink different)).light, ?_⟩
  apply Program.Safe.bind
  apply safeOutside_request
  intro second keepsSecond
  have closed : Kernel.exec owner false first (.close cgroupFd) =
    ((), first.closeDescriptor cgroupFd) := rfl
  rw [closed] at keepsSecond
  -- What is still to be closed is none of what has been closed.
  have kept : ∀ {fd target}, Owns kernel owner fd target → target ≠ .cgroup cgroup →
      Owns second owner fd target := by
    intro fd target owns notCgroup
    have ownsFirst := owns.kept keepsFirst.toKeepsDescriptors
    have notSame : fd ≠ cgroupFd := by
      intro same
      have found := ownsFirst.found
      rw [same, cgroupOwned.found] at found
      cases found
      exact notCgroup rfl
    apply Owns.kept _ keepsSecond.toKeepsDescriptors
    constructor
    · rw [(closeDescriptor_frame first cgroupFd).2.2.2.2]
      exact ownsFirst.used
    · rw [closeDescriptor_descriptors, Function.update_of_ne notSame]
      exact ownsFirst.found
  refine ⟨Apart.light (apart_closeDescriptors ?_), rfl⟩
  intro fd member
  rcases List.mem_cons.mp member with rfl | member
  · exact (kept placed.limits Target.noConfusion).foreign
      (fun _ => Target.noConfusion) different
  · rcases placed.others fd member with ⟨target, owns, notLink, notCgroup⟩
    exact (kept owns (notCgroup cgroup)).foreign notLink different

end Pidnl.Ratelimit
