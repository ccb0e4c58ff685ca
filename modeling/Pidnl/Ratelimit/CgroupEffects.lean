import Pidnl.Ratelimit.Settled

/-! # What making and removing a cgroup changes -/

namespace Pidnl.Ratelimit

open Pidnl.Foundation Pidnl.System

variable {kernel : Kernel}

/-- The names pidnl makes cgroups under; parents are made first. -/
def IsOwnName (kernel : Kernel) (name : Path) : Prop :=
  name = [cgroupRoot] ∨ (kernel.cgroups.lookup [cgroupRoot]).isSome ∧
    ∃ pid > 0, name = buildCgroupName pid

theorem lookup_ensureCgroup (kernel : Kernel) (name other : Path) :
    (kernel.ensureCgroup name).cgroups.lookup other =
      if other = name ∧ kernel.cgroups.lookup name = none then some kernel.nextId
      else kernel.cgroups.lookup other := by
  rw [Kernel.ensureCgroup]
  cases found : kernel.cgroups.lookup name with
  | some id => simp
  | none =>
      by_cases same : other = name
      · subst other
        simp
      · simp [AList.lookup_insert_ne same, same]

theorem ensureCgroup_frame (kernel : Kernel) (name : Path) :
    (kernel.ensureCgroup name).cgroup2Mount = kernel.cgroup2Mount ∧
      (kernel.ensureCgroup name).bpffsMount = kernel.bpffsMount ∧
      (kernel.ensureCgroup name).running = kernel.running ∧
      (kernel.ensureCgroup name).pins = kernel.pins ∧
      (kernel.ensureCgroup name).links = kernel.links ∧
      (kernel.ensureCgroup name).objects = kernel.objects ∧
      (kernel.ensureCgroup name).descriptors = kernel.descriptors ∧
      kernel.nextId ≤ (kernel.ensureCgroup name).nextId := by
  rw [Kernel.ensureCgroup]
  split
  · exact ⟨rfl, rfl, rfl, rfl, rfl, rfl, rfl, Nat.le_refl _⟩
  · exact ⟨rfl, rfl, rfl, rfl, rfl, rfl, rfl, Nat.le_succ _⟩

theorem lookup_ensureCgroup_of_some {name other : Path} {id : CgroupId}
    (found : kernel.cgroups.lookup other = some id) :
    (kernel.ensureCgroup name).cgroups.lookup other = some id := by
  rw [lookup_ensureCgroup, if_neg, found]
  rintro ⟨rfl, absent⟩
  rw [absent] at found
  contradiction

theorem settled_ensureCgroup (settled : Settled kernel) {name : Path}
    (own : IsOwnName kernel name) : Settled (kernel.ensureCgroup name) := by
  rcases ensureCgroup_frame kernel name with
    ⟨_, bpffsMount, _, pins, links, _, descriptors, nextId⟩
  have cgroupIds : ∀ other cgroup,
      (kernel.ensureCgroup name).cgroups.lookup other = some cgroup →
      kernel.cgroups.lookup other = some cgroup ∨
        other = name ∧ cgroup = kernel.nextId ∧
          kernel.nextId < (kernel.ensureCgroup name).nextId := by
    intro other cgroup found
    rw [lookup_ensureCgroup] at found
    split at found
    · rename_i new
      refine .inr ⟨new.1, (Option.some.inj found).symm, ?_⟩
      rw [Kernel.ensureCgroup, new.2]
      exact Nat.lt_succ_self _
    · exact .inl found
  refine {
    unheld := ?_, pinned := ?_, refs := ?_, pinOnce := ?_, home := ?_,
    cgroupOnce := ?_, children := ?_, root := ?_, pinIds := ?_, cgroupIds := ?_,
    descriptors := ?_ }
  · rw [show (kernel.ensureCgroup name).target? = kernel.target? by
      funext fd; rw [Kernel.target?, Kernel.target?, descriptors]]
    exact settled.unheld
  · rw [pins, links]
    exact settled.pinned
  · rw [pins, links]
    exact settled.refs
  · rw [pins]
    exact settled.pinOnce
  · intro path id cgroup found attached
    rw [pins] at found
    rw [links] at attached
    rw [links, bpffsMount]
    rcases settled.home path id cgroup found attached with ⟨pid, isPath, isCgroup⟩
    exact ⟨pid, isPath, lookup_ensureCgroup_of_some isCgroup⟩
  · intro first second cgroup foundFirst foundSecond
    rcases cgroupIds first cgroup foundFirst with oldFirst | newFirst <;>
      rcases cgroupIds second cgroup foundSecond with oldSecond | newSecond
    · exact settled.cgroupOnce first second cgroup oldFirst oldSecond
    · have older := settled.cgroupIds first cgroup oldFirst
      exact absurd newSecond.2.1 (Nat.ne_of_lt older)
    · have older := settled.cgroupIds second cgroup oldSecond
      exact absurd newFirst.2.1 (Nat.ne_of_lt older)
    · exact newFirst.1.trans newSecond.1.symm
  · intro other present below
    rcases Option.isSome_iff_exists.mp present with ⟨cgroup, found⟩
    rcases cgroupIds other cgroup found with old | new
    · exact settled.children other (by rw [old]; rfl) below
    · exact new.1 ▸ own.imp_right And.right
  · intro pid present
    have rooted : (kernel.cgroups.lookup [cgroupRoot]).isSome →
        ((kernel.ensureCgroup name).cgroups.lookup [cgroupRoot]).isSome := by
      intro old
      rcases Option.isSome_iff_exists.mp old with ⟨cgroup, found⟩
      rw [lookup_ensureCgroup_of_some found]
      rfl
    rcases Option.isSome_iff_exists.mp present with ⟨cgroup, found⟩
    rcases cgroupIds _ cgroup found with old | new
    · exact rooted (settled.root pid (by rw [hasCgroup, old]; rfl))
    · rcases own with isRoot | ⟨old, _⟩
      · exact absurd (new.1.trans isRoot) (buildCgroupName_ne_root pid)
      · exact rooted old
  · intro path id found
    rw [pins] at found
    rw [links]
    have older := settled.pinIds path id found
    exact ⟨older.1.trans_le nextId, older.2.trans_le nextId⟩
  · intro other cgroup found
    rcases cgroupIds other cgroup found with old | new
    · exact (settled.cgroupIds other cgroup old).trans_le nextId
    · exact new.2.1 ▸ new.2.2
  · intro fd unused
    rw [descriptors]
    exact settled.descriptors fd (nextId.trans unused)

theorem slot_ensureCgroup (kernel : Kernel) (name : Path) (pid : Int32)
    (attachType : AttachType) :
    slot (kernel.ensureCgroup name) pid attachType = slot kernel pid attachType := by
  rw [Kernel.ensureCgroup]
  split <;> rfl

theorem lookup_removeCgroup (kernel : Kernel) (name other : Path) :
    (kernel.removeCgroup name).cgroups.lookup other =
      if other = name then none else kernel.cgroups.lookup other := by
  rw [Kernel.removeCgroup_eq]
  exact lookup_erase kernel.cgroups name other

theorem pins_removeCgroup (kernel : Kernel) (name : Path) :
    (kernel.removeCgroup name).pins = kernel.pins := by
  rw [Kernel.removeCgroup_eq]

theorem removeCgroup_links (kernel : Kernel) (name : Path) (id : LinkId) :
    (kernel.removeCgroup name).links id =
      if (kernel.links id).cgroup.isSome ∧
          kernel.cgroups.lookup name = (kernel.links id).cgroup then
        { kernel.links id with cgroup := none }
      else kernel.links id := by
  rw [Kernel.removeCgroup_eq]

theorem removeCgroup_link_fields (kernel : Kernel) (name : Path) (id : LinkId) :
    ((kernel.removeCgroup name).links id).refs = (kernel.links id).refs ∧
      ((kernel.removeCgroup name).links id).object = (kernel.links id).object ∧
      ((kernel.removeCgroup name).links id).attachType =
        (kernel.links id).attachType := by
  rw [removeCgroup_links]
  split <;> exact ⟨rfl, rfl, rfl⟩

theorem settled_removeCgroup (settled : Settled kernel) {name : Path}
    (childless : kernel.hasChildren name = false) :
    Settled (kernel.removeCgroup name) := by
  have pins := pins_removeCgroup kernel name
  rcases Kernel.frames_removeCgroup kernel name with
    ⟨_, bpffsMount, _, _, descriptors, nextId⟩
  have fields := removeCgroup_link_fields kernel name
  have older : ∀ other cgroup,
      (kernel.removeCgroup name).cgroups.lookup other = some cgroup →
      kernel.cgroups.lookup other = some cgroup := by
    intro other cgroup found
    rw [lookup_removeCgroup] at found
    split at found
    · contradiction
    · exact found
  refine {
    unheld := ?_, pinned := ?_, refs := ?_, pinOnce := ?_, home := ?_,
    cgroupOnce := ?_, children := ?_, root := ?_, pinIds := ?_, cgroupIds := ?_,
    descriptors := ?_ }
  · intro fd id held
    rw [Kernel.target?, descriptors] at held
    exact settled.unheld fd id held
  · intro id lives
    rw [pins]
    exact settled.pinned id ((fields id).1 ▸ lives)
  · intro path id found
    rw [pins] at found
    rw [(fields id).1]
    exact settled.refs path id found
  · rw [pins]
    exact settled.pinOnce
  · intro path id cgroup found attached
    rw [pins] at found
    rw [removeCgroup_links] at attached
    split at attached
    · contradiction
    · rename_i kept
      rcases settled.home path id cgroup found attached with
        ⟨pid, isPath, isCgroup⟩
      refine ⟨pid, ?_, ?_⟩
      · rw [(fields id).2.2, bpffsMount]
        exact isPath
      · rw [lookup_removeCgroup, if_neg, isCgroup]
        intro same
        exact kept ⟨by rw [attached]; rfl, by rw [← same, isCgroup, attached]⟩
  · intro first second cgroup foundFirst foundSecond
    exact settled.cgroupOnce first second cgroup (older _ _ foundFirst)
      (older _ _ foundSecond)
  · intro other present below
    rcases Option.isSome_iff_exists.mp present with ⟨cgroup, found⟩
    exact settled.children other (by rw [older _ _ found]; rfl) below
  · intro pid present
    rcases Option.isSome_iff_exists.mp present with ⟨cgroup, found⟩
    have old := older _ _ found
    rw [lookup_removeCgroup, if_neg]
    · exact settled.root pid (by rw [hasCgroup, old]; rfl)
    · rintro rfl
      have children : kernel.hasChildren [cgroupRoot] = true := by
        rw [Kernel.hasChildren, List.any_eq_true]
        refine ⟨buildCgroupName pid, ?_, ?_⟩
        · exact AList.lookup_isSome.mp (by rw [old]; rfl)
        · simp [buildCgroupName]
      rw [childless] at children
      contradiction
  · intro path id found
    rw [pins] at found
    rw [(fields id).2.1, nextId]
    exact settled.pinIds path id found
  · intro other cgroup found
    rw [nextId]
    exact settled.cgroupIds other cgroup (older _ _ found)
  · rw [descriptors, nextId]
    exact settled.descriptors

theorem slot_removeCgroup (settled : Settled kernel) (pid other : Int32)
    (attachType : AttachType) :
    slot (kernel.removeCgroup (buildCgroupName pid)) other attachType =
      if other = pid then (slot kernel other attachType).detached
      else slot kernel other attachType := by
  rcases Kernel.frames_removeCgroup kernel (buildCgroupName pid) with
    ⟨_, bpffsMount, _, objects, _, _⟩
  rw [slot, slot, bpffsMount, pins_removeCgroup]
  cases found : kernel.pins.lookup
      (pinPath kernel.bpffsMount other attachType) with
  | none => simp
  | some id =>
      simp only [linkSlot, limitOf, objects]
      rw [removeCgroup_links]
      cases attached : (kernel.links id).cgroup with
      | none => simp [attached]
      | some cgroup =>
          rcases settled.home _ id cgroup found attached with
            ⟨home, isPath, isCgroup⟩
          have isHome := (pinPath_inj.mp isPath).1
          subst home
          by_cases same : other = pid
          · subst other
            simp [isCgroup]
          · have different : kernel.cgroups.lookup (buildCgroupName pid) ≠
                some cgroup := by
              intro equal
              apply same
              apply buildCgroupName_injective
              exact settled.cgroupOnce _ _ cgroup isCgroup equal
            simp [different, attached, same]

theorem hasChildren_buildCgroupName (settled : Settled kernel) (pid : Int32) :
    kernel.hasChildren (buildCgroupName pid) = false := by
  rw [Kernel.hasChildren, List.any_eq_false]
  intro other member below
  simp only [Bool.and_eq_true, List.isPrefixOf_iff_prefix, ne_eq, decide_not,
    Bool.not_eq_true', decide_eq_false_iff_not] at below
  rcases below with ⟨isPrefix, different⟩
  have present : (kernel.cgroups.lookup other).isSome :=
    AList.lookup_isSome.mpr member
  have below : [cgroupRoot] <+: other :=
    (List.prefix_append [cgroupRoot] _).trans isPrefix
  rcases settled.children other present below with isRoot | ⟨child, _, isChild⟩
  · subst isRoot
    have short := isPrefix.length_le
    simp [buildCgroupName] at short
  · subst isChild
    have sameLength : (buildCgroupName pid).length = (buildCgroupName child).length := by
      simp [buildCgroupName]
    exact different (isPrefix.eq_of_length sameLength).symm

end Pidnl.Ratelimit
