import Pidnl.Ratelimit.Outcome

/-! # What `get_rate_limits_from_cgroup` reads -/

namespace Pidnl.Ratelimit

open Pidnl.Foundation Pidnl.System

variable {kernel : Kernel} (owner : Process)

def standingLimits (kernel : Kernel) (pid : Int32) : RateLimitsRead :=
  if 0 < pid ∧ hasCgroup kernel pid = true then
    { result := 0
      uploadKbps := (slot kernel pid .egress).limit.getD RATELIMIT_UNLIMITED
      downloadKbps := (slot kernel pid .ingress).limit.getD RATELIMIT_UNLIMITED }
  else .absent

/-! ## Attached programs -/

section Attached

variable {pid : Int32} {attachType : AttachType} {cgroup : CgroupId}

/-- Only the link under the pid's own pin path is attached to its cgroup. -/
theorem lookup_of_isAttached (settled : Settled kernel)
    (isCgroup : kernel.cgroups.lookup (buildCgroupName pid) = some cgroup)
    {id : LinkId} (attached : kernel.IsAttached cgroup attachType id) :
    kernel.pins.lookup (pinPath kernel.bpffsMount pid attachType) = some id := by
  rcases attached with ⟨lives, inCgroup, rfl⟩
  rcases settled.pinned id lives with ⟨path, found⟩
  rcases settled.home path id cgroup found inCgroup with ⟨home, rfl, homeCgroup⟩
  have same := buildCgroupName_injective
    (settled.cgroupOnce _ _ cgroup homeCgroup isCgroup)
  exact same ▸ found

theorem isAttached_of_lookup (settled : Settled kernel)
    (isCgroup : kernel.cgroups.lookup (buildCgroupName pid) = some cgroup)
    {id : LinkId} {other : CgroupId}
    (found : kernel.pins.lookup (pinPath kernel.bpffsMount pid attachType) = some id)
    (inCgroup : (kernel.links id).cgroup = some other) :
    kernel.IsAttached cgroup attachType id := by
  rcases settled.home _ id other found inCgroup with ⟨home, isPath, homeCgroup⟩
  rcases pinPath_inj.mp isPath with ⟨rfl, sameType⟩
  rw [isCgroup] at homeCgroup
  cases homeCgroup
  refine ⟨?_, inCgroup, sameType.symm⟩
  rw [settled.refs _ id found]
  exact Nat.one_pos

theorem attached_of_live (settled : Settled kernel)
    (isCgroup : kernel.cgroups.lookup (buildCgroupName pid) = some cgroup)
    {id : LinkId} {other : CgroupId}
    (found : kernel.pins.lookup (pinPath kernel.bpffsMount pid attachType) = some id)
    (inCgroup : (kernel.links id).cgroup = some other) :
    kernel.attached cgroup attachType = [id] := by
  have isAttached := isAttached_of_lookup settled isCgroup found inCgroup
  have only : ∀ link ∈ List.range kernel.nextId,
      decide (kernel.IsAttached cgroup attachType link) = (link == id) := by
    intro link _
    rw [Bool.eq_iff_iff, decide_eq_true_eq, beq_iff_eq]
    constructor
    · intro linkAttached
      have linkFound := lookup_of_isAttached settled isCgroup linkAttached
      rw [found] at linkFound
      exact (Option.some.inj linkFound).symm
    · rintro rfl
      exact isAttached
  have member : id ∈ List.range kernel.nextId :=
    List.mem_range.mpr (settled.pinIds _ id found).1
  rw [Kernel.attached, List.filter_congr only, List.filter_beq,
    List.count_eq_one_of_mem List.nodup_range member, List.replicate_one]

theorem attached_of_not_live (settled : Settled kernel)
    (isCgroup : kernel.cgroups.lookup (buildCgroupName pid) = some cgroup)
    (notLive : ∀ id, kernel.pins.lookup
      (pinPath kernel.bpffsMount pid attachType) = some id →
      (kernel.links id).cgroup = none) :
    kernel.attached cgroup attachType = [] := by
  rw [Kernel.attached, List.filter_eq_nil_iff]
  intro link _ attached
  have isAttached := of_decide_eq_true attached
  have dead := notLive link (lookup_of_isAttached settled isCgroup isAttached)
  rw [isAttached.2.1] at dead
  contradiction

end Attached

/-! ## Reading one direction -/

section Direction

variable {pid : Int32} {attachType : AttachType} {cgroup : CgroupId} {fd : Fd}

theorem quiet_open_close (settled : Settled kernel) {target : Target}
    (notLink : ∀ id, target ≠ .link id) :
    (kernel.openDescriptor owner target).closeDescriptor kernel.nextId =
      { kernel with nextId := kernel.nextId + 1 } := by
  have unused := settled.descriptors kernel.nextId (Nat.le_refl _)
  rw [closeDescriptor_of_notLink]
  · simp [Kernel.openDescriptor, ← unused]
  · intro id
    simpa [Kernel.target?, Kernel.openDescriptor] using notLink id

theorem exec_bpfProgQueryOpts (attachType : AttachType) (settled : Settled kernel)
    (isCgroup : kernel.cgroups.lookup (buildCgroupName pid) = some cgroup)
    (target : kernel.target? fd = some (.cgroup cgroup)) :
    (Kernel.exec owner false kernel (.bpfProgQueryOpts fd attachType) =
        (some none, kernel) ∧ (slot kernel pid attachType).limit = none) ∨
      ∃ id, Kernel.exec owner false kernel (.bpfProgQueryOpts fd attachType) =
          (some (some ((kernel.links id).object, attachType)), kernel) ∧
        (slot kernel pid attachType).limit =
          (kernel.objects (kernel.links id).object).rateLimits.lookupElem
            attachType.direction.key := by
  simp only [Kernel.exec, Bool.false_eq_true, if_false, target]
  rw [slot]
  cases found : kernel.pins.lookup (pinPath kernel.bpffsMount pid attachType) with
  | none =>
      left
      rw [attached_of_not_live settled isCgroup (by simp [found])]
      exact ⟨rfl, rfl⟩
  | some id =>
      simp only [linkSlot]
      cases inCgroup : (kernel.links id).cgroup with
      | none =>
          left
          rw [attached_of_not_live settled isCgroup (by simp [found, inCgroup])]
          exact ⟨rfl, rfl⟩
      | some other =>
          right
          have isAttached := isAttached_of_lookup settled isCgroup found inCgroup
          rw [attached_of_live settled isCgroup found inCgroup]
          refine ⟨id, rfl, ?_⟩
          simp only [Slot.limit, limitOf, isAttached.2.2]

theorem execute_readLimitFromMaps (settled : Settled kernel) (object : ObjectId)
    (attachType : AttachType) (maps : List (ObjectId × MapKind)) :
    Kernel.execute owner .none
        (readLimitFromMaps attachType ((object, .rateLimits) :: maps)) kernel =
      ((kernel.objects object).rateLimits.lookupElem attachType.direction.key,
        { kernel with nextId := kernel.nextId + 1 }) := by
  rcases (kernel.objects object).rateLimits.lookupElem_isSome
    attachType.direction with ⟨value, found⟩
  have closed : (kernel.openDescriptor owner
      (.map object .rateLimits)).closeDescriptor kernel.nextId = _ :=
    quiet_open_close owner settled fun _ => Target.noConfusion
  have target : (kernel.openDescriptor owner (.map object .rateLimits)).target?
      kernel.nextId = some (.map object .rateLimits) := by
    simp [Kernel.target?, Kernel.openDescriptor]
  have objects : (kernel.openDescriptor owner (.map object .rateLimits)).objects =
    kernel.objects := rfl
  simp [readLimitFromMaps, Kernel.exec, target, objects, found, closed,
    MapKind.name]

theorem execute_readLimitFromCgroupProgs (attachType : AttachType)
    (settled : Settled kernel)
    (isCgroup : kernel.cgroups.lookup (buildCgroupName pid) = some cgroup)
    (target : kernel.target? fd = some (.cgroup cgroup)) :
    let outcome := Kernel.execute owner .none
      (readLimitFromCgroupProgs fd attachType) kernel
    outcome.1 = (slot kernel pid attachType).limit ∧
      ∃ nextId, kernel.nextId ≤ nextId ∧
        outcome.2 = { kernel with nextId := nextId } := by
  rcases exec_bpfProgQueryOpts owner attachType settled isCgroup target with
    ⟨query, absent⟩ | ⟨id, query, present⟩
  · have outcome : Kernel.execute owner .none
        (readLimitFromCgroupProgs fd attachType) kernel = (none, kernel) := by
      simp [readLimitFromCgroupProgs, query]
    rw [outcome]
    exact ⟨absent.symm, kernel.nextId, Nat.le_refl _, rfl⟩
  · generalize (kernel.links id).object = object at query present
    let opened := kernel.openDescriptor owner (.program object attachType)
    have quiet : Quiet kernel opened :=
      quiet_openDescriptor kernel owner fun _ => Target.noConfusion
    have unused := settled.descriptors kernel.nextId (Nat.le_refl _)
    have program : opened.target? kernel.nextId =
        some (.program object attachType) := by
      simp [opened, Kernel.target?, Kernel.openDescriptor]
    have info : Kernel.exec owner false opened
        (.bpfProgGetInfoByFd kernel.nextId) =
        (some { name := attachType.progName
                mapIds := [(object, .rateLimits), (object, .rateState)] }, opened) := by
      simp [Kernel.exec, program]
    have maps := execute_readLimitFromMaps owner (settled.quiet quiet) object
      attachType [(object, .rateState)]
    have opens : Kernel.exec owner false kernel
        (.bpfProgGetFdById (object, attachType)) = (some kernel.nextId, opened) := rfl
    have closed : Kernel.exec owner false { opened with nextId := opened.nextId + 1 }
        (.close kernel.nextId) =
        ((), { kernel with nextId := kernel.nextId + 2 }) := by
      simp [Kernel.exec, Kernel.closeDescriptor, Kernel.target?, opened,
        Kernel.openDescriptor, ← unused]
    have outcome : Kernel.execute owner .none
        (readLimitFromCgroupProgs fd attachType) kernel =
        ((kernel.objects object).rateLimits.lookupElem attachType.direction.key,
          { kernel with nextId := kernel.nextId + 2 }) := by
      simp only [readLimitFromCgroupProgs, ask, Kernel.execute_inside,
        Kernel.execute_bind, Kernel.execute_request, Faults.none_inside,
        Faults.none_here, query, opens, info, maps, closed, ne_eq, not_true,
        if_false, Kernel.execute_pure]
      rfl
    rw [outcome]
    exact ⟨present.symm, kernel.nextId + 2, Nat.le_add_right _ 2, rfl⟩

end Direction

/-- What is read is what stands. -/
theorem execute_getRateLimitsFromCgroup (settled : Settled kernel) (pid : Int32) :
    (Kernel.execute owner .none (getRateLimitsFromCgroup pid) kernel).1 =
      standingLimits kernel pid := by
  rw [standingLimits]
  by_cases positive : 0 < pid
  swap
  · have invalid : pid ≤ 0 := Int32.not_lt.mp positive
    simp [getRateLimitsFromCgroup, invalid, positive]
  have valid : ¬ pid ≤ 0 := Int32.not_le.mpr positive
  have opens : openFails .none = false := rfl
  simp only [getRateLimitsFromCgroup, valid, if_false, Kernel.execute_bind,
    execute_openCgroupFd, opens, Bool.false_eq_true, positive, true_and]
  cases isCgroup : kernel.cgroups.lookup (buildCgroupName pid) with
  | none => simp [hasCgroup, isCgroup]
  | some cgroup =>
      have present : hasCgroup kernel pid = true := by rw [hasCgroup, isCgroup]; rfl
      have quiet : Quiet kernel (kernel.openDescriptor owner (.cgroup cgroup)) :=
        quiet_openDescriptor kernel owner fun _ => Target.noConfusion
      have target : (kernel.openDescriptor owner (.cgroup cgroup)).target?
          kernel.nextId = some (.cgroup cgroup) := by
        simp [Kernel.target?, Kernel.openDescriptor]
      have settledOpen := settled.quiet quiet
      have reads : ∀ nextId, kernel.nextId + 1 ≤ nextId → ∀ attachType,
          let opened := { kernel.openDescriptor owner (.cgroup cgroup) with
            nextId := nextId }
          (Kernel.execute owner .none
            (readLimitFromCgroupProgs kernel.nextId attachType) opened).1 =
              (slot kernel pid attachType).limit ∧
            ∃ later, nextId ≤ later ∧ (Kernel.execute owner .none
              (readLimitFromCgroupProgs kernel.nextId attachType) opened).2 =
                { kernel.openDescriptor owner (.cgroup cgroup) with
                  nextId := later } := by
        intro nextId later attachType
        have wider := quiet_nextId (kernel.openDescriptor owner (.cgroup cgroup))
          later
        have read := execute_readLimitFromCgroupProgs owner attachType
          (settledOpen.quiet wider) isCgroup target
        rw [settledOpen.slot_quiet wider, settled.slot_quiet quiet] at read
        exact read
      rcases reads _ (Nat.le_refl _) .egress with ⟨upload, first, older, afterUpload⟩
      have opened : { kernel.openDescriptor owner (.cgroup cgroup) with
          nextId := kernel.nextId + 1 } =
        kernel.openDescriptor owner (.cgroup cgroup) := rfl
      rw [opened] at upload afterUpload
      rcases reads first older .ingress with ⟨download, _⟩
      simp only [present, if_true, Kernel.execute_bind, Kernel.execute_pure, upload,
        afterUpload, download]

end Pidnl.Ratelimit
