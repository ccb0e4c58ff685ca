import Pidnl.Ratelimit.Settled

/-! # What detaching, unpinning and installing a link changes -/

namespace Pidnl.Ratelimit

open Pidnl.Foundation Pidnl.System

variable {kernel : Kernel}

/-! ## Detaching -/

theorem detachLink_link_fields (kernel : Kernel) (id other : LinkId) :
    ((kernel.detachLink id).links other).refs = (kernel.links other).refs ∧
      ((kernel.detachLink id).links other).object = (kernel.links other).object ∧
      ((kernel.detachLink id).links other).attachType =
        (kernel.links other).attachType := by
  by_cases same : other = id
  · subst same
    simp [Kernel.detachLink]
  · simp [Kernel.detachLink, Function.update_of_ne same]

theorem detachLink_cgroup_eq_some {id other : LinkId} {cgroup : CgroupId}
    (attached : ((kernel.detachLink id).links other).cgroup = some cgroup) :
    other ≠ id ∧ (kernel.links other).cgroup = some cgroup := by
  by_cases same : other = id
  · subst same
    simp [Kernel.detachLink] at attached
  · simp only [Kernel.detachLink, Function.update_of_ne same] at attached
    exact ⟨same, attached⟩

theorem settled_detachLink (settled : Settled kernel) (id : LinkId) :
    Settled (kernel.detachLink id) where
  unheld := settled.unheld
  pinned := by
    intro other lives
    rw [(detachLink_link_fields kernel id other).1] at lives
    exact settled.pinned other lives
  refs := by
    intro path other found
    rw [(detachLink_link_fields kernel id other).1]
    exact settled.refs path other found
  pinOnce := settled.pinOnce
  home := by
    intro path other cgroup found attached
    rw [(detachLink_link_fields kernel id other).2.2]
    exact settled.home path other cgroup found
      (detachLink_cgroup_eq_some attached).2
  cgroupOnce := settled.cgroupOnce
  children := settled.children
  root := settled.root
  pinIds := by
    intro path other found
    rw [(detachLink_link_fields kernel id other).2.1]
    exact settled.pinIds path other found
  cgroupIds := settled.cgroupIds
  descriptors := settled.descriptors

theorem slot_detachLink (settled : Settled kernel) {pid : Int32}
    {attachType : AttachType} {id : LinkId}
    (found : kernel.pins.lookup (pinPath kernel.bpffsMount pid attachType) = some id)
    (other : Int32) (otherType : AttachType) :
    slot (kernel.detachLink id) other otherType =
      if other = pid ∧ otherType = attachType then .dead
      else slot kernel other otherType := by
  have samePins : (kernel.detachLink id).pins.lookup
      (pinPath (kernel.detachLink id).bpffsMount other otherType) =
        kernel.pins.lookup (pinPath kernel.bpffsMount other otherType) := rfl
  cases foundOther : kernel.pins.lookup
      (pinPath kernel.bpffsMount other otherType) with
  | none =>
      rw [slot_of_unpinned (samePins.trans foundOther), slot_of_unpinned foundOther,
        if_neg]
      rintro ⟨rfl, rfl⟩
      rw [found] at foundOther
      contradiction
  | some otherId =>
      rw [slot_of_pinned (samePins.trans foundOther), slot_of_pinned foundOther]
      by_cases same : other = pid ∧ otherType = attachType
      · rcases same with ⟨rfl, rfl⟩
        rw [found] at foundOther
        cases foundOther
        simp [linkSlot, Kernel.detachLink]
      · have different : otherId ≠ id := by
          rintro rfl
          exact same (pinPath_inj.mp (settled.pinOnce _ _ _ foundOther found))
        simp [linkSlot, limitOf, Kernel.detachLink,
          Function.update_of_ne different, same]

/-! ## Unpinning -/

theorem lookup_unpin (kernel : Kernel) (path other : Path) :
    (kernel.unpin path).pins.lookup other =
      if other = path then none else kernel.pins.lookup other := by
  rw [Kernel.unpin_eq]
  exact lookup_erase kernel.pins path other

theorem cgroups_unpin (kernel : Kernel) (path : Path) :
    (kernel.unpin path).cgroups = kernel.cgroups := by
  rw [Kernel.unpin_eq]

theorem unpin_links (kernel : Kernel) (path : Path) (id : LinkId) :
    (kernel.unpin path).links id =
      if kernel.pins.lookup path = some id then
        { kernel.links id with refs := (kernel.links id).refs - 1 }
      else kernel.links id := by
  rw [Kernel.unpin_eq]

theorem unpin_link_of_ne (settled : Settled kernel) {path other : Path}
    {id : LinkId} (different : other ≠ path)
    (found : kernel.pins.lookup other = some id) :
    (kernel.unpin path).links id = kernel.links id := by
  rw [unpin_links, if_neg]
  intro same
  exact different (settled.pinOnce _ _ _ found same)

theorem lookup_unpin_eq_some {path other : Path} {id : LinkId}
    (found : (kernel.unpin path).pins.lookup other = some id) :
    other ≠ path ∧ kernel.pins.lookup other = some id := by
  rw [lookup_unpin] at found
  split at found
  · contradiction
  · rename_i different
    exact ⟨different, found⟩

theorem settled_unpin (settled : Settled kernel) (path : Path) :
    Settled (kernel.unpin path) := by
  have cgroups := cgroups_unpin kernel path
  rcases Kernel.frames_unpin kernel path with
    ⟨_, bpffsMount, _, _, descriptors, nextId⟩
  refine {
    unheld := ?_, pinned := ?_, refs := ?_, pinOnce := ?_, home := ?_,
    cgroupOnce := ?_, children := ?_, root := ?_, pinIds := ?_, cgroupIds := ?_,
    descriptors := ?_ }
  · intro fd id held
    rw [Kernel.target?, descriptors] at held
    exact settled.unheld fd id held
  · intro id lives
    rw [unpin_links] at lives
    split at lives
    · rename_i released
      have once := settled.refs path id released
      simp only [once, Nat.sub_self, Nat.lt_irrefl] at lives
    · rename_i kept
      rcases settled.pinned id lives with ⟨other, found⟩
      refine ⟨other, ?_⟩
      rw [lookup_unpin, if_neg, found]
      rintro rfl
      exact kept found
  · intro other id found
    rcases lookup_unpin_eq_some found with ⟨different, found⟩
    rw [unpin_link_of_ne settled different found]
    exact settled.refs other id found
  · intro first second id foundFirst foundSecond
    exact settled.pinOnce first second id (lookup_unpin_eq_some foundFirst).2
      (lookup_unpin_eq_some foundSecond).2
  · intro other id cgroup found attached
    rcases lookup_unpin_eq_some found with ⟨different, found⟩
    rw [unpin_link_of_ne settled different found] at attached ⊢
    rw [bpffsMount, cgroups]
    exact settled.home other id cgroup found attached
  · rw [cgroups]
    exact settled.cgroupOnce
  · rw [cgroups]
    exact settled.children
  · intro pid
    rw [hasCgroup, cgroups]
    exact settled.root pid
  · intro other id found
    rcases lookup_unpin_eq_some found with ⟨different, found⟩
    rw [unpin_link_of_ne settled different found, nextId]
    exact settled.pinIds other id found
  · rw [cgroups, nextId]
    exact settled.cgroupIds
  · rw [descriptors, nextId]
    exact settled.descriptors

theorem slot_unpin (settled : Settled kernel) (pid other : Int32)
    (attachType otherType : AttachType) :
    slot (kernel.unpin (pinPath kernel.bpffsMount pid attachType)) other otherType =
      if other = pid ∧ otherType = attachType then .empty
      else slot kernel other otherType := by
  rcases Kernel.frames_unpin kernel (pinPath kernel.bpffsMount pid attachType) with
    ⟨_, bpffsMount, _, objects, _, _⟩
  rw [slot, slot, bpffsMount, lookup_unpin]
  by_cases same : other = pid ∧ otherType = attachType
  · rcases same with ⟨rfl, rfl⟩
    simp
  · have different : pinPath kernel.bpffsMount other otherType ≠
        pinPath kernel.bpffsMount pid attachType :=
      fun equal => same (pinPath_inj.mp equal)
    rw [if_neg different, if_neg same]
    cases found : kernel.pins.lookup
        (pinPath kernel.bpffsMount other otherType) with
    | none => rfl
    | some id =>
        simp [linkSlot, limitOf, objects, unpin_link_of_ne settled different found]

/-- A descriptor of a pinned link that is opened and closed again leaves no
trace, whatever was done to the link's attachment in between. -/
theorem closeDescriptor_of_held {owner : Process} {id : LinkId}
    (unused : kernel.descriptors kernel.nextId = none) :
    ((kernel.holdLink id).openDescriptor owner (.link id)).closeDescriptor
        kernel.nextId = { kernel with nextId := kernel.nextId + 1 } := by
  simp [Kernel.closeDescriptor, Kernel.target?, Kernel.openDescriptor,
    Kernel.holdLink, Kernel.releaseLink, ← unused]

theorem closeDescriptor_of_held_detached {owner : Process} {id : LinkId}
    (unused : kernel.descriptors kernel.nextId = none) :
    (((kernel.holdLink id).openDescriptor owner (.link id)).detachLink
        id).closeDescriptor kernel.nextId =
      { kernel.detachLink id with nextId := kernel.nextId + 1 } := by
  simp [Kernel.closeDescriptor, Kernel.target?, Kernel.openDescriptor,
    Kernel.holdLink, Kernel.releaseLink, Kernel.detachLink, ← unused]

/-! ## Installing -/

/-- What one turn of the loop of `attach_bpf_programs` leaves when it succeeds. -/
def installLink (kernel : Kernel) (object : ObjectId) (attachType : AttachType)
    (cgroup : CgroupId) (path : Path) (limit : UInt32) : Kernel :=
  { kernel.updateLimit object attachType.direction.key limit with
    links := Function.update kernel.links kernel.nextId
      { cgroup := some cgroup, attachType := attachType, object := object, refs := 1 }
    pins := kernel.pins.insert path kernel.nextId
    nextId := kernel.nextId + 2 }

theorem closeDescriptor_of_pinned {owner : Process} {object : ObjectId}
    {attachType : AttachType} {cgroup : CgroupId} {path : Path} {limit : UInt32}
    (unused : kernel.descriptors (kernel.nextId + 1) = none) :
    ((((kernel.updateLimit object attachType.direction.key limit).attachProgram
        owner object attachType cgroup).pinLink kernel.nextId
          path).closeDescriptor (kernel.nextId + 1)) =
      installLink kernel object attachType cgroup path limit := by
  simp [Kernel.closeDescriptor, Kernel.target?, Kernel.openDescriptor,
    Kernel.holdLink, Kernel.releaseLink, Kernel.attachProgram, Kernel.pinLink,
    Kernel.updateLimit, installLink, ← unused]

theorem closeDescriptor_of_unpinned {owner : Process} {object : ObjectId}
    {attachType : AttachType} {cgroup : CgroupId} :
    (kernel.attachProgram owner object attachType cgroup).closeDescriptor
        (kernel.nextId + 1) =
      { kernel with
        links := Function.update kernel.links kernel.nextId
          { cgroup := some cgroup, attachType := attachType, object := object
            refs := 0 }
        descriptors := Function.update kernel.descriptors (kernel.nextId + 1) none
        nextId := kernel.nextId + 2 } := by
  simp [Kernel.closeDescriptor, Kernel.target?, Kernel.openDescriptor,
    Kernel.releaseLink, Kernel.attachProgram]

/-- A link that was not pinned dies with its descriptor. -/
theorem quiet_attachProgram_closeDescriptor {base : Kernel}
    (quiet : Quiet base kernel) (owner : Process) (object : ObjectId)
    (attachType : AttachType) (cgroup : CgroupId) :
    Quiet base ((kernel.attachProgram owner object attachType
      cgroup).closeDescriptor (kernel.nextId + 1)) := by
  rw [closeDescriptor_of_unpinned]
  refine ⟨quiet.cgroup2Mount, quiet.bpffsMount, quiet.running, quiet.cgroups,
    quiet.pins, quiet.nextId.trans (Nat.le_add_right _ 2), ?_, quiet.objects, ?_⟩
  · intro id
    by_cases same : id = kernel.nextId
    · subst same
      exact .inr ⟨quiet.nextId, by simp⟩
    · simp only [Function.update_of_ne same]
      exact quiet.links id
  · intro fd descriptor found
    simp only [Function.update_apply] at found
    split at found
    · contradiction
    · rcases quiet.descriptors fd descriptor found with kept | ⟨used, other⟩
      · exact .inl kept
      · exact .inr ⟨used.trans_le (Nat.le_add_right _ 2), other⟩

section Install

variable {object : ObjectId} {attachType : AttachType} {cgroup : CgroupId}
  {pid : Int32} {limit : UInt32}

structure Installable (kernel : Kernel) (object : ObjectId)
    (attachType : AttachType) (cgroup : CgroupId) (pid : Int32) : Prop where
  settled : Settled kernel
  isCgroup : kernel.cgroups.lookup (buildCgroupName pid) = some cgroup
  loaded : object < kernel.nextId
  /-- No pinned link reads the object's limit for this direction. -/
  unread : ∀ path id, kernel.pins.lookup path = some id →
    (kernel.links id).object = object → (kernel.links id).attachType ≠ attachType

theorem slot_eq_empty_iff :
    slot kernel pid attachType = .empty ↔
      kernel.pins.lookup (pinPath kernel.bpffsMount pid attachType) = none := by
  rw [slot]
  cases kernel.pins.lookup (pinPath kernel.bpffsMount pid attachType) with
  | none => simp
  | some id =>
      simp only [linkSlot]
      cases (kernel.links id).cgroup <;> simp

theorem lookup_installLink (path other : Path) :
    (installLink kernel object attachType cgroup path limit).pins.lookup other =
      if other = path then some kernel.nextId else kernel.pins.lookup other := by
  by_cases same : other = path
  · subst other
    simp [installLink]
  · simp [installLink, AList.lookup_insert_ne same, same]

theorem installLink_links {id : LinkId} (older : id < kernel.nextId) (path : Path) :
    (installLink kernel object attachType cgroup path limit).links id =
      kernel.links id :=
  Function.update_of_ne (Nat.ne_of_lt older) _ _

@[simp] theorem installLink_links_self (path : Path) :
    (installLink kernel object attachType cgroup path limit).links kernel.nextId =
      { cgroup := some cgroup, attachType := attachType, object := object
        refs := 1 } :=
  Function.update_self _ _ _

theorem settled_installLink
    (installable : Installable kernel object attachType cgroup pid)
    (empty : slot kernel pid attachType = .empty) :
    Settled (installLink kernel object attachType cgroup
      (pinPath kernel.bpffsMount pid attachType) limit) := by
  rcases installable with ⟨settled, isCgroup, objectUsed, _⟩
  have found : ∀ path id, (installLink kernel object attachType cgroup
      (pinPath kernel.bpffsMount pid attachType) limit).pins.lookup path = some id →
      path = pinPath kernel.bpffsMount pid attachType ∧ id = kernel.nextId ∨
        path ≠ pinPath kernel.bpffsMount pid attachType ∧ id < kernel.nextId ∧
          kernel.pins.lookup path = some id := by
    intro path id found
    rw [lookup_installLink] at found
    split at found
    · rename_i same
      exact .inl ⟨same, (Option.some.inj found).symm⟩
    · rename_i different
      exact .inr ⟨different, (settled.pinIds path id found).1, found⟩
  refine {
    unheld := settled.unheld, pinned := ?_, refs := ?_, pinOnce := ?_, home := ?_,
    cgroupOnce := settled.cgroupOnce, children := settled.children,
    root := settled.root, pinIds := ?_, cgroupIds := ?_, descriptors := ?_ }
  · intro id lives
    by_cases same : id = kernel.nextId
    · subst same
      exact ⟨_, by rw [lookup_installLink, if_pos rfl]⟩
    · have kept : (installLink kernel object attachType cgroup
          (pinPath kernel.bpffsMount pid attachType) limit).links id =
          kernel.links id := Function.update_of_ne same _ _
      rcases settled.pinned id (kept ▸ lives) with ⟨path, pinned⟩
      refine ⟨path, ?_⟩
      rw [lookup_installLink, if_neg, pinned]
      rintro rfl
      rw [slot_eq_empty_iff.mp empty] at pinned
      contradiction
  · intro path id pinned
    rcases found path id pinned with ⟨_, rfl⟩ | ⟨_, older, old⟩
    · simp
    · rw [installLink_links older]
      exact settled.refs path id old
  · intro first second id pinnedFirst pinnedSecond
    rcases found first id pinnedFirst with ⟨rfl, rfl⟩ | ⟨_, older, old⟩ <;>
      rcases found second _ pinnedSecond with ⟨rfl, same⟩ | ⟨_, olderSecond, oldSecond⟩
    · rfl
    · exact absurd olderSecond (Nat.lt_irrefl _)
    · exact absurd (same ▸ older) (Nat.lt_irrefl _)
    · exact settled.pinOnce first second id old oldSecond
  · intro path id other pinned attached
    rcases found path id pinned with ⟨rfl, rfl⟩ | ⟨_, older, old⟩
    · rw [installLink_links_self] at attached ⊢
      cases attached
      exact ⟨pid, rfl, isCgroup⟩
    · rw [installLink_links older] at attached ⊢
      exact settled.home path id other old attached
  · intro path id pinned
    rcases found path id pinned with ⟨_, rfl⟩ | ⟨_, older, old⟩
    · rw [installLink_links_self]
      exact ⟨Nat.lt_add_of_pos_right (by decide), Nat.lt_add_right 2 objectUsed⟩
    · rw [installLink_links older]
      have both := settled.pinIds path id old
      exact ⟨Nat.lt_add_right 2 both.1, Nat.lt_add_right 2 both.2⟩
  · intro name other isOther
    exact Nat.lt_add_right 2 (settled.cgroupIds name other isOther)
  · intro fd unused
    exact settled.descriptors fd (Nat.le_of_add_right_le unused)

theorem slot_installLink
    (installable : Installable kernel object attachType cgroup pid)
    (other : Int32) (otherType : AttachType) :
    slot (installLink kernel object attachType cgroup
        (pinPath kernel.bpffsMount pid attachType) limit) other otherType =
      if other = pid ∧ otherType = attachType then .live (some limit)
      else slot kernel other otherType := by
  rcases installable with ⟨settled, _, _, unread⟩
  have pinned : (installLink kernel object attachType cgroup
      (pinPath kernel.bpffsMount pid attachType) limit).pins.lookup
        (pinPath kernel.bpffsMount other otherType) = _ := lookup_installLink _ _
  by_cases same : other = pid ∧ otherType = attachType
  · rcases same with ⟨rfl, rfl⟩
    rw [if_pos rfl] at pinned
    rw [slot_of_pinned pinned]
    simp [linkSlot, limitOf, installLink, Kernel.updateLimit]
  · rw [if_neg fun equal => same (pinPath_inj.mp equal)] at pinned
    rw [if_neg same]
    cases found : kernel.pins.lookup
        (pinPath kernel.bpffsMount other otherType) with
    | none => rw [slot_of_unpinned (pinned.trans found), slot_of_unpinned found]
    | some id =>
        rw [slot_of_pinned (pinned.trans found), slot_of_pinned found]
        simp only [linkSlot, limitOf,
          installLink_links (settled.pinIds _ id found).1]
        by_cases shared : (kernel.links id).object = object
        · have different : (kernel.links id).attachType.direction ≠
              attachType.direction := fun equal =>
            unread _ id found shared (AttachType.direction_injective equal)
          simp [installLink, Kernel.updateLimit, shared,
            Pidnl.Bpf.ArrayMap.lookupElem_updateElem_of_ne _ different]
        · simp [installLink, Kernel.updateLimit, Function.update_of_ne shared]

end Install

end Pidnl.Ratelimit
