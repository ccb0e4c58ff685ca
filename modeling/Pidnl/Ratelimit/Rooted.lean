import Pidnl.Ratelimit.LinkEffects
import Pidnl.Ratelimit.CgroupEffects

/-! # Attached to a cgroup that is there

No call leaves a link attached to a cgroup that is gone, in whichever order the processes
of the machine make their calls.
-/

namespace Pidnl.Ratelimit

open Pidnl.Foundation Pidnl.System

def Held (kernel : Kernel) (id : LinkId) : Prop :=
  0 < (kernel.links id).refs ∨ (∃ path, kernel.pins.lookup path = some id) ∨
    ∃ fd, kernel.target? fd = some (.link id)

def Rooted (kernel : Kernel) : Prop :=
  ∀ id cgroup, Held kernel id → (kernel.links id).cgroup = some cgroup →
    ∃ name, kernel.cgroups.lookup name = some cgroup

theorem Settled.rooted {kernel : Kernel} (settled : Settled kernel) : Rooted kernel := by
  have ofPin : ∀ path id cgroup, kernel.pins.lookup path = some id →
      (kernel.links id).cgroup = some cgroup →
      ∃ name, kernel.cgroups.lookup name = some cgroup := by
    intro path id cgroup pinned attached
    rcases settled.home path id cgroup pinned attached with ⟨pid, _, isCgroup⟩
    exact ⟨_, isCgroup⟩
  intro id cgroup held attached
  rcases held with lives | ⟨path, pinned⟩ | ⟨fd, isHeld⟩
  · rcases settled.pinned id lives with ⟨path, pinned⟩
    exact ofPin path id cgroup pinned attached
  · exact ofPin path id cgroup pinned attached
  · exact absurd isHeld (settled.unheld fd id)

/-- Of the links that may be held none is newly held or attached, and no cgroup goes
away. -/
structure Fewer (before after : Kernel) : Prop where
  refs : ∀ id, (after.links id).refs ≤ (before.links id).refs ∨ Held before id
  pins : ∀ path id, after.pins.lookup path = some id → Held before id
  targets : ∀ fd id, after.target? fd = some (.link id) → Held before id
  attached : ∀ id cgroup, (after.links id).cgroup = some cgroup →
    (before.links id).cgroup = some cgroup
  cgroups : ∀ name cgroup, before.cgroups.lookup name = some cgroup →
    after.cgroups.lookup name = some cgroup

theorem Fewer.rooted {before after : Kernel} (fewer : Fewer before after)
    (rooted : Rooted before) : Rooted after := by
  intro id cgroup held attached
  have wasHeld : Held before id := by
    rcases held with lives | ⟨path, pinned⟩ | ⟨fd, isHeld⟩
    · rcases fewer.refs id with less | wasHeld
      · exact .inl (lives.trans_le less)
      · exact wasHeld
    · exact fewer.pins path id pinned
    · exact fewer.targets fd id isHeld
  rcases rooted id cgroup wasHeld (fewer.attached id cgroup attached) with ⟨name, isCgroup⟩
  exact ⟨name, fewer.cgroups name cgroup isCgroup⟩

variable {kernel : Kernel}

theorem held_of_pin {path : Path} {id : LinkId} (pinned : kernel.pins.lookup path = some id) :
    Held kernel id := .inr (.inl ⟨path, pinned⟩)

theorem held_of_target {fd : Fd} {id : LinkId}
    (isHeld : kernel.target? fd = some (.link id)) : Held kernel id := .inr (.inr ⟨fd, isHeld⟩)

theorem fewer_openDescriptor (kernel : Kernel) (owner : Process) {target : Target}
    (isHeld : ∀ id, target = .link id → Held kernel id) :
    Fewer kernel (kernel.openDescriptor owner target) where
  refs := fun _ => .inl (le_refl _)
  pins := fun _ _ pinned => held_of_pin pinned
  targets := by
    intro fd id same
    by_cases new : fd = kernel.nextId
    · apply isHeld
      simpa [Kernel.target?, Kernel.openDescriptor, new] using same
    · apply held_of_target
      simpa [Kernel.target?, Kernel.openDescriptor, new] using same
  attached := fun _ _ attached => attached
  cgroups := fun _ _ found => found

theorem fewer_closeDescriptor (kernel : Kernel) (fd : Fd) :
    Fewer kernel (kernel.closeDescriptor fd) := by
  have released : ∃ links : LinkId → Link,
      kernel.closeDescriptor fd = { kernel with
        links := links, descriptors := Function.update kernel.descriptors fd none } ∧
      ∀ id, (links id).cgroup = (kernel.links id).cgroup ∧
        (links id).refs ≤ (kernel.links id).refs := by
    rw [Kernel.closeDescriptor]
    split
    · rename_i held _
      refine ⟨(kernel.releaseLink held).links, rfl, ?_⟩
      intro id
      by_cases same : id = held
      · simp [Kernel.releaseLink, same]
      · simp [Kernel.releaseLink, same]
    · exact ⟨kernel.links, rfl, fun _ => ⟨rfl, le_refl _⟩⟩
  rcases released with ⟨links, isReleased, fields⟩
  rw [isReleased]
  refine ⟨fun id => .inl (fields id).2, fun _ _ pinned => held_of_pin pinned, ?_, ?_,
    fun _ _ found => found⟩
  · intro other id same
    apply held_of_target
    by_cases closed : other = fd
    · simp [Kernel.target?, closed] at same
    · simpa [Kernel.target?, closed] using same
  · intro id cgroup attached
    exact (fields id).1.symm.trans attached

theorem rooted_closeDescriptors (rooted : Rooted kernel) (fds : List Fd) :
    Rooted (fds.foldl Kernel.closeDescriptor kernel) := by
  induction fds generalizing kernel with
  | nil => exact rooted
  | cons fd fds induction =>
      exact induction ((fewer_closeDescriptor kernel fd).rooted rooted)

theorem rooted_createCgroup (rooted : Rooted kernel) (name : Path) :
    Rooted (kernel.createCgroup name) := by
  rw [Kernel.createCgroup]
  generalize name.inits.tail = names
  induction names generalizing kernel with
  | nil => exact rooted
  | cons first names induction =>
      apply induction
      rcases ensureCgroup_frame kernel first with ⟨_, _, _, pins, links, _, descriptors, _⟩
      have fewer : Fewer kernel (kernel.ensureCgroup first) := by
        refine ⟨?_, ?_, ?_, ?_, fun _ _ => lookup_ensureCgroup_of_some⟩
        · intro id
          rw [links]
          exact .inl (le_refl _)
        · intro path id pinned
          rw [pins] at pinned
          exact held_of_pin pinned
        · intro fd id same
          rw [Kernel.target?, descriptors] at same
          exact held_of_target same
        · intro id cgroup attached
          rw [links] at attached
          exact attached
      exact fewer.rooted rooted

theorem rooted_removeCgroup (rooted : Rooted kernel) (name : Path) :
    Rooted (kernel.removeCgroup name) := by
  intro id cgroup held attached
  have descriptors := (Kernel.frames_removeCgroup kernel name).descriptors
  have fields := removeCgroup_link_fields kernel name id
  have wasHeld : Held kernel id := by
    rw [Held, fields.1, pins_removeCgroup] at held
    rcases held with lives | pinned | ⟨fd, same⟩
    · exact .inl lives
    · exact .inr (.inl pinned)
    · rw [Kernel.target?, descriptors] at same
      exact held_of_target same
  rw [removeCgroup_links] at attached
  split at attached
  · contradiction
  · rename_i elsewhere
    rcases rooted id cgroup wasHeld attached with ⟨other, isCgroup⟩
    refine ⟨other, ?_⟩
    rw [lookup_removeCgroup, if_neg]
    · exact isCgroup
    · intro same
      apply elsewhere
      rw [attached, ← same, isCgroup]
      exact ⟨rfl, rfl⟩

theorem fewer_unpin (kernel : Kernel) (path : Path) : Fewer kernel (kernel.unpin path) := by
  have descriptors := (Kernel.frames_unpin kernel path).descriptors
  refine ⟨?_, ?_, ?_, ?_, ?_⟩
  · intro id
    rw [unpin_links]
    split
    · exact .inl (Nat.sub_le _ _)
    · exact .inl (le_refl _)
  · intro other id pinned
    exact held_of_pin (lookup_unpin_eq_some pinned).2
  · intro fd id same
    rw [Kernel.target?, descriptors] at same
    exact held_of_target same
  · intro id cgroup attached
    rw [unpin_links] at attached
    split at attached
    · exact attached
    · exact attached
  · intro name cgroup found
    rw [cgroups_unpin]
    exact found

theorem fewer_detachLink (kernel : Kernel) (id : LinkId) :
    Fewer kernel (kernel.detachLink id) where
  refs := fun other => .inl (detachLink_link_fields kernel id other).1.le
  pins := fun _ _ pinned => held_of_pin pinned
  targets := fun _ _ same => held_of_target same
  attached := fun _ _ attached => (detachLink_cgroup_eq_some attached).2
  cgroups := fun _ _ found => found

theorem fewer_holdLink {id : LinkId} (isHeld : Held kernel id) :
    Fewer kernel (kernel.holdLink id) where
  refs := by
    intro other
    by_cases same : other = id
    · exact .inr (same ▸ isHeld)
    · simp [Kernel.holdLink, same]
  pins := fun _ _ pinned => held_of_pin pinned
  targets := fun _ _ same => held_of_target same
  attached := by
    intro other cgroup attached
    by_cases same : other = id
    · simpa [Kernel.holdLink, same] using attached
    · simpa [Kernel.holdLink, same] using attached
  cgroups := fun _ _ found => found

theorem rooted_pinLink (rooted : Rooted kernel) {id : LinkId} (isHeld : Held kernel id)
    (path : Path) : Rooted (kernel.pinLink id path) := by
  have fewer : Fewer (kernel.holdLink id) (kernel.pinLink id path) := by
    refine ⟨fun _ => .inl (le_refl _), ?_, fun _ _ same => held_of_target same,
      fun _ _ attached => attached, fun _ _ found => found⟩
    intro other pinned found
    by_cases same : other = path
    · subst same
      have isPinned : id = pinned := by simpa [Kernel.pinLink] using found
      subst isPinned
      exact .inl (by simp [Kernel.holdLink])
    · simp only [Kernel.pinLink, AList.lookup_insert_ne same] at found
      exact held_of_pin found
  exact fewer.rooted ((fewer_holdLink isHeld).rooted rooted)

theorem rooted_attachProgram (rooted : Rooted kernel) (owner : Process) (object : ObjectId)
    (attachType : AttachType) {cgroup : CgroupId}
    (isCgroup : ∃ name, kernel.cgroups.lookup name = some cgroup) :
    Rooted (kernel.attachProgram owner object attachType cgroup) := by
  intro id other held attached
  by_cases new : id = kernel.nextId
  · have same : other = cgroup := by
      simpa [Kernel.attachProgram, Kernel.openDescriptor, new, eq_comm] using attached
    rw [same]
    exact isCgroup
  have wasAttached : (kernel.links id).cgroup = some other := by
    simpa [Kernel.attachProgram, Kernel.openDescriptor, new] using attached
  refine rooted id other ?_ wasAttached
  rcases held with lives | pinned | ⟨fd, same⟩
  · left
    simpa [Kernel.attachProgram, Kernel.openDescriptor, new] using lives
  · exact .inr (.inl pinned)
  · refine .inr (.inr ⟨fd, ?_⟩)
    by_cases newFd : fd = kernel.nextId + 1
    · simp [Kernel.target?, Kernel.attachProgram, Kernel.openDescriptor, newFd,
        Ne.symm new] at same
    · simpa [Kernel.target?, Kernel.attachProgram, Kernel.openDescriptor, newFd] using same

theorem rooted_loadSkeleton (rooted : Rooted kernel) (owner : Process) :
    Rooted (kernel.loadSkeleton owner).2 := by
  have opens : ∀ {state : Kernel}, Rooted state → ∀ target, (∀ id, target ≠ .link id) →
      Rooted (state.openDescriptor owner target) := fun holds _ notLink =>
    (fewer_openDescriptor _ owner fun id isLink => absurd isLink (notLink id)).rooted holds
  have loaded : Rooted { kernel with
    objects := Function.update kernel.objects kernel.nextId .fresh
    nextId := kernel.nextId + 1 } := rooted
  exact opens (opens (opens (opens loaded _ fun _ => Target.noConfusion) _
    fun _ => Target.noConfusion) _ fun _ => Target.noConfusion) _ fun _ => Target.noConfusion

/-- What any process calls keeps every link rooted. -/
theorem rooted_exec (rooted : Rooted kernel) (owner : Process) (fails : Bool)
    (call : KernelCall Reply) : Rooted (Kernel.exec owner fails kernel call).2 := by
  cases call with
  | cgroupCreateCgroup name =>
      simp only [Kernel.exec]
      repeat' split
      all_goals first | exact rooted | exact rooted_createCgroup rooted name
  | cgroupDeleteCgroup name =>
      simp only [Kernel.exec]
      split
      · exact rooted
      · exact rooted_removeCgroup rooted name
  | openReadOnly _ | bpfProgGetFdById _ | bpfMapGetFdById _ | pidfdOpen _ =>
      simp only [Kernel.exec]
      repeat' split
      all_goals first
        | exact rooted
        | exact (fewer_openDescriptor kernel owner fun _ => Target.noConfusion).rooted rooted
  | close fd => exact (fewer_closeDescriptor kernel fd).rooted rooted
  | bpfLinkDestroy link => exact (fewer_closeDescriptor kernel link).rooted rooted
  | ratelimitBpfDestroy skel =>
      cases skel with
      | none => exact rooted
      | some skel => exact rooted_closeDescriptors rooted _
  | unlink path =>
      simp only [Kernel.exec]
      split
      · exact rooted
      · exact (fewer_unpin kernel path).rooted rooted
  | bpfObjGet path =>
      simp only [Kernel.exec]
      split
      · exact rooted
      · rename_i id found
        have pinned : kernel.pins.lookup path = some id := by
          split at found
          · contradiction
          · exact found
        have holds := (fewer_holdLink (held_of_pin pinned)).rooted rooted
        refine (fewer_openDescriptor _ owner ?_).rooted holds
        intro same isLink
        cases isLink
        exact held_of_pin pinned
  | bpfLinkDetach fd =>
      simp only [Kernel.exec]
      split
      · exact (fewer_detachLink kernel _).rooted rooted
      · exact rooted
  | ratelimitBpfLoad =>
      simp only [Kernel.exec]
      split
      · exact rooted
      · exact rooted_loadSkeleton rooted owner
  | bpfProgramAttachCgroup skel attachType cgroupFd =>
      simp only [Kernel.exec]
      split
      · split
        · rename_i id _ present
          rcases List.any_eq_true.mp present with ⟨entry, member, same⟩
          refine rooted_attachProgram rooted owner _ attachType ⟨entry.1, ?_⟩
          rw [← of_decide_eq_true same]
          exact AList.mem_lookup_iff.mpr member
        · exact rooted
      · exact rooted
  | bpfLinkPin link path =>
      simp only [Kernel.exec]
      split
      · rename_i id found
        have isHeld : kernel.target? link = some (.link id) := by
          split at found
          · contradiction
          · exact found
        split
        · exact rooted_pinLink rooted (held_of_target isHeld) path
        · exact rooted
      · exact rooted
  | _ =>
      simp only [Kernel.exec]
      repeat' split
      all_goals exact rooted

end Pidnl.Ratelimit
