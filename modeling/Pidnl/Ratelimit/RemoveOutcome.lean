import Pidnl.Ratelimit.InstallOutcome

/-! # What removing limits leaves behind -/

namespace Pidnl.Ratelimit

open Pidnl.Foundation Pidnl.System

variable {kernel : Kernel} (owner : Process) (faults : Faults)

/-! ## Removing one limit -/

def removeFails (faults : Faults) (pid : Int32) : Bool :=
  let inner := faults.inside (.deletePidCgroup pid)
  inner.here .cgroupNewCgroup || inner.here .cgroupGetCgroup || openFails inner

def removed (faults : Faults) (pid : Int32) (attachType : AttachType)
    (slot : Slot) : Slot :=
  let inner := faults.inside (.deletePidCgroup pid)
  if removeFails faults pid then slot
  else if deleteFails inner then swept (inner.inside .deleteCgroup) attachType slot
  else (swept (inner.inside .deleteCgroup) attachType slot).detached

structure RemoveOutcome (faults : Faults) (pid : Int32) (before after : Kernel) :
    Prop where
  affects : Affects {pid} before after
  cgroup : hasCgroup after pid = (hasCgroup before pid &&
    (removeFails faults pid || deleteFails (faults.inside (.deletePidCgroup pid))))
  slots : ∀ attachType, slot after pid attachType =
    if hasCgroup before pid then removed faults pid attachType
      (slot before pid attachType)
    else slot before pid attachType

theorem execute_deletePidCgroup (settled : Settled kernel) (pid : Int32) :
    RemoveOutcome faults pid kernel
      (Kernel.execute owner faults (deletePidCgroup pid) kernel).2 := by
  have unchanged : (hasCgroup kernel pid = false ∨ removeFails faults pid = true) →
      RemoveOutcome faults pid kernel kernel := by
    intro either
    constructor
    · exact .refl settled
    · rcases either with absent | fails
      · simp [absent]
      · simp [fails]
    · intro attachType
      rcases either with absent | fails
      · simp [absent]
      · simp [removed, fails]
  simp only [deletePidCgroup, ask, Kernel.execute_inside, Kernel.execute_bind,
    Kernel.execute_request]
  generalize inside : faults.inside (.deletePidCgroup pid) = inner
  rcases Bool.eq_false_or_eq_true (inner.here .cgroupNewCgroup) with making | making
  · have failed : Kernel.exec owner true kernel
        (.cgroupNewCgroup (buildCgroupName pid)) = (false, kernel) := rfl
    simp only [making, failed, Bool.not_false, if_true, Kernel.execute_pure]
    apply unchanged
    simp [removeFails, inside, making]
  have made : Kernel.exec owner false kernel
      (.cgroupNewCgroup (buildCgroupName pid)) = (true, kernel) := rfl
  have got : Kernel.exec owner (inner.here .cgroupGetCgroup) kernel
      (.cgroupGetCgroup (buildCgroupName pid)) =
      (!inner.here .cgroupGetCgroup && hasCgroup kernel pid, kernel) := rfl
  simp only [making, made, got, Bool.not_true, Bool.false_eq_true, if_false,
    Kernel.execute_bind, Kernel.execute_request]
  rcases Bool.eq_false_or_eq_true
    (!inner.here .cgroupGetCgroup && hasCgroup kernel pid) with found | missing
  swap
  · simp only [missing, Bool.not_false, if_true, Kernel.execute_pure]
    apply unchanged
    rcases Bool.and_eq_false_iff.mp missing with fails | absent
    · simp_all [removeFails]
    · exact .inl absent
  rcases Bool.and_eq_true_iff.mp found with ⟨gets, present⟩
  rcases Option.isSome_iff_exists.mp present with ⟨cgroup, isCgroup⟩
  simp only [found, Bool.not_true, Bool.false_eq_true, if_false,
    Kernel.execute_bind, execute_openCgroupFd]
  rcases Bool.eq_false_or_eq_true (openFails inner) with opening | opening
  · simp only [opening, if_true, Kernel.execute_pure]
    apply unchanged
    simp [removeFails, inside, opening]
  simp only [opening, Bool.false_eq_true, if_false]
  rw [isCgroup]
  have reaches : removeFails faults pid = false := by
    simp_all [removeFails]
  have quiet : Quiet kernel (kernel.openDescriptor owner (.cgroup cgroup)) :=
    quiet_openDescriptor kernel owner fun _ => Target.noConfusion
  have affects : Affects {pid} kernel _ := .of_quiet settled quiet
  have deleted := execute_deleteCgroup owner inner affects.settled pid kernel.nextId
  simp only [Kernel.execute_bind, Kernel.execute_pure]
  constructor
  · exact affects.trans deleted.1
  · rw [deleted.2.1, Settled.hasCgroup_quiet quiet, present, reaches, inside]
    simp
  · intro attachType
    rw [deleted.2.2, settled.slot_quiet quiet, if_pos present, removed, reaches,
      inside]
    rfl

theorem execute_deletePidCgroup_none (settled : Settled kernel) (pid : Int32) :
    hasCgroup (Kernel.execute owner .none (deletePidCgroup pid) kernel).2 pid =
      false := by
  rw [(execute_deletePidCgroup owner .none settled pid).cgroup]
  simp [removeFails, openFails, deleteFails]

/-! ## Removing all limits -/

theorem strtol_signed (pid : Int32) :
    Decimal.strtol (Decimal.signed pid.toInt) =
      { value := pid.toInt, rest := [], noDigits := false, outOfRange := false } := by
  have above := pid.le_toInt
  have below := pid.toInt_lt
  have scanned : Decimal.strtol (Decimal.signed pid.toInt ++ []) = _ :=
    Decimal.scan_signed_append (by simp) (by omega) (by omega)
  rwa [List.append_nil] at scanned

theorem signed_ne_nil (pid : Int32) : Decimal.signed pid.toInt ≠ [] := by
  rw [Decimal.signed]
  split
  · exact List.cons_ne_nil _ _
  · exact Decimal.unsigned_ne_nil _

structure Removes (before after : Kernel) : Prop where
  affects : Affects Set.univ before after
  cgroups : ∀ pid, hasCgroup after pid = true → hasCgroup before pid = true

namespace Removes

theorem refl (settled : Settled kernel) : Removes kernel kernel :=
  ⟨.refl settled, fun _ present => present⟩

theorem trans {first second third : Kernel} (earlier : Removes first second)
    (later : Removes second third) : Removes first third :=
  ⟨earlier.affects.trans later.affects,
    fun pid present => earlier.cgroups pid (later.cgroups pid present)⟩

end Removes

theorem removes_deletePidCgroup (settled : Settled kernel) (pid : Int32) :
    Removes kernel (Kernel.execute owner .none (deletePidCgroup pid) kernel).2 := by
  have outcome := execute_deletePidCgroup owner .none settled pid
  constructor
  · exact outcome.affects.mono (Set.subset_univ _)
  · intro other present
    by_cases same : other = pid
    · subst same
      rw [execute_deletePidCgroup_none owner settled] at present
      contradiction
    · rw [outcome.affects.cgroups other same] at present
      exact present

theorem execute_cleanupEntry (settled : Settled kernel) (info : FileInfo) :
    let after := (Kernel.execute owner .none (cleanupEntry info) kernel).2
    Removes kernel after ∧
      ∀ pid > 0, info = { isDir := true, path := Decimal.signed pid.toInt } →
        hasCgroup after pid = false := by
  simp only [cleanupEntry]
  by_cases directory : info.isDir = true ∧ info.path ≠ []
  swap
  · rw [if_neg directory, Kernel.execute_pure]
    constructor
    · exact .refl settled
    · rintro pid _ rfl
      exact absurd ⟨rfl, signed_ne_nil pid⟩ directory
  rw [if_pos directory, Kernel.execute_ite]
  split
  · rename_i skipped
    constructor
    · exact .refl settled
    · rintro pid positive rfl
      have positiveInt : (0 : Int) < pid.toInt := Int32.lt_iff_toInt_lt.mp positive
      have bound := pid.toInt_lt
      simp [strtol_signed pid] at skipped
      omega
  · simp only [Kernel.execute_bind, Kernel.execute_pure]
    constructor
    · exact removes_deletePidCgroup owner settled _
    · rintro pid positive rfl
      simp only [strtol_signed pid, Int32.ofInt_toInt]
      exact execute_deletePidCgroup_none owner settled pid

theorem execute_cleanupEntries (settled : Settled kernel) (infos : List FileInfo) :
    let after := (Kernel.execute owner .none (cleanupEntries infos) kernel).2
    Removes kernel after ∧
      ∀ pid > 0, { isDir := true, path := Decimal.signed pid.toInt } ∈ infos →
        hasCgroup after pid = false := by
  induction infos generalizing kernel with
  | nil => exact ⟨.refl settled, by simp⟩
  | cons info infos induction =>
      simp only [cleanupEntries, Kernel.execute_bind]
      rcases execute_cleanupEntry owner settled info with ⟨first, gone⟩
      rcases induction first.affects.settled with ⟨rest, goneRest⟩
      constructor
      · exact first.trans rest
      · intro pid positive member
        rcases List.mem_cons.mp member with same | member
        · have before := gone pid positive same.symm
          apply Bool.eq_false_iff.mpr
          intro present
          rw [rest.cgroups pid present] at before
          contradiction
        · exact goneRest pid positive member

theorem mem_walk {pid : Int32}
    (present : hasCgroup kernel pid = true) :
    { isDir := true, path := Decimal.signed pid.toInt } ∈
      kernel.walk [cgroupRoot] := by
  rw [Kernel.walk, List.mem_map]
  refine ⟨buildCgroupName pid, ?_, by simp [buildCgroupName]⟩
  rw [List.mem_filter]
  constructor
  · exact AList.lookup_isSome.mp present
  · simp [buildCgroupName]

theorem positive_of_hasCgroup (settled : Settled kernel) {pid : Int32}
    (present : hasCgroup kernel pid = true) : 0 < pid := by
  have below : [cgroupRoot] <+: buildCgroupName pid := List.prefix_append _ _
  rcases settled.children _ present below with isRoot | ⟨other, positive, same⟩
  · exact absurd isRoot (buildCgroupName_ne_root pid)
  · rw [buildCgroupName_injective same]
    exact positive

/-- `ratelimit_cleanup_all` with no failing call succeeds and leaves no pid with
a cgroup. -/
theorem execute_cleanupCgroups (settled : Settled kernel) :
    let outcome := Kernel.execute owner .none cleanupCgroups kernel
    outcome.1.1 = .ok ∧ Affects Set.univ kernel outcome.2 ∧
      ∀ pid, hasCgroup outcome.2 pid = false := by
  by_cases root : (kernel.cgroups.lookup [cgroupRoot]).isSome = true
  swap
  · have outcome : Kernel.execute owner .none cleanupCgroups kernel =
        ((.ok, false), kernel) := by
      simp [cleanupCgroups, Kernel.exec, root]
    rw [outcome]
    refine ⟨rfl, .refl settled, ?_⟩
    intro pid
    cases present : hasCgroup kernel pid with
    | false => rfl
    | true => exact absurd (settled.root pid present) root
  have entries := execute_cleanupEntries owner settled (kernel.walk [cgroupRoot])
  generalize executed : (Kernel.execute owner .none
    (cleanupEntries (kernel.walk [cgroupRoot])) kernel).2 = middle at entries
  rcases entries with ⟨removes, gone⟩
  have noneLeft : ∀ pid, hasCgroup middle pid = false := by
    intro pid
    cases left : hasCgroup middle pid with
    | false => rfl
    | true =>
        have present := removes.cgroups pid left
        rw [gone pid (positive_of_hasCgroup settled present)
          (mem_walk present)] at left
        contradiction
  have childless : middle.hasChildren [cgroupRoot] = false := by
    rw [Kernel.hasChildren, List.any_eq_false]
    intro name member below
    simp only [Bool.and_eq_true, List.isPrefixOf_iff_prefix, ne_eq, decide_not,
      Bool.not_eq_true', decide_eq_false_iff_not] at below
    have present := AList.lookup_isSome.mpr member
    rcases removes.affects.settled.children name present below.1 with
      isRoot | ⟨pid, _, rfl⟩
    · exact below.2 isRoot
    · exact absurd present (by simpa [hasCgroup] using noneLeft pid)
  have outcome : Kernel.execute owner .none cleanupCgroups kernel =
      ((.ok, true), middle.removeCgroup [cgroupRoot]) := by
    simp [cleanupCgroups, Kernel.exec, root, executed, childless]
  rw [outcome]
  have frames := Kernel.frames_removeCgroup middle [cgroupRoot]
  refine ⟨rfl, removes.affects.trans ⟨settled_removeCgroup removes.affects.settled
    childless, frames.cgroup2Mount, frames.bpffsMount, frames.running, by simp, by simp⟩, ?_⟩
  intro pid
  rw [hasCgroup, lookup_removeCgroup, if_neg (buildCgroupName_ne_root pid)]
  exact noneLeft pid

/-! ## What cleaning up preserves -/

section Preserved

variable {faults} {owner} {Holds : Kernel → Prop}
  (deletes : ∀ kernel, ∀ pid > 0, Holds kernel →
    Holds (Kernel.execute owner faults (deletePidCgroup pid) kernel).2)

include deletes

/-- Only a directory that is named after a pid is deleted. -/
theorem cleanupEntry_preserves (info : FileInfo) (holds : Holds kernel) :
    Holds (Kernel.execute owner faults (cleanupEntry info) kernel).2 := by
  rw [cleanupEntry, Kernel.execute_ite]
  split
  · simp only [Kernel.execute_ite]
    split
    · exact holds
    · rename_i taken
      simp only [Kernel.execute_bind, Kernel.execute_pure]
      apply deletes kernel _ _ holds
      have value : (Int32.ofInt (Decimal.strtol info.path).value).toInt =
          (Decimal.strtol info.path).value :=
        Int32.toInt_ofInt_of_le (by omega) (by omega)
      apply Int32.lt_iff_toInt_lt.mpr
      rw [value, Int32.toInt_zero]
      omega
  · exact holds

theorem cleanupEntries_preserves (infos : List FileInfo) (holds : Holds kernel) :
    Holds (Kernel.execute owner faults (cleanupEntries infos) kernel).2 := by
  induction infos generalizing kernel with
  | nil => exact holds
  | cons info infos induction =>
      simp only [cleanupEntries, Kernel.execute_bind]
      exact induction (cleanupEntry_preserves deletes info holds)

theorem cleanupCgroups_preserves
    (removes : ∀ kernel, kernel.hasChildren [cgroupRoot] = false → Holds kernel →
      Holds (kernel.removeCgroup [cgroupRoot]))
    (holds : Holds kernel) :
    Holds (Kernel.execute owner faults cleanupCgroups kernel).2 := by
  have made : Kernel.execute owner faults (.request (.cgroupNewCgroup [cgroupRoot]))
    kernel = (!faults.here .cgroupNewCgroup, kernel) := rfl
  have got : Kernel.execute owner faults (.request (.cgroupGetCgroup [cgroupRoot]))
    kernel = (!faults.here .cgroupGetCgroup &&
      (kernel.cgroups.lookup [cgroupRoot]).isSome, kernel) := rfl
  have walked : Kernel.execute owner faults (.request (.cgroupWalkTree [cgroupRoot]))
    kernel = (if faults.here .cgroupWalkTree then [] else kernel.walk [cgroupRoot],
      kernel) := rfl
  simp only [cleanupCgroups, ask, Kernel.execute_bind, made, got, walked,
    Kernel.execute_ite, Kernel.execute_pure]
  split
  · exact holds
  · split
    · exact holds
    · have entries := cleanupEntries_preserves deletes
        (if faults.here .cgroupWalkTree then [] else kernel.walk [cgroupRoot]) holds
      generalize (Kernel.execute owner faults (cleanupEntries
        (if faults.here .cgroupWalkTree then [] else kernel.walk [cgroupRoot]))
        kernel).2 = swept at entries ⊢
      have root : Holds (Kernel.execute owner faults
          (.request (.cgroupDeleteCgroup [cgroupRoot])) swept).2 := by
        simp only [Kernel.execute_request, Kernel.exec]
        split
        · exact entries
        · rename_i remains
          simp only [Bool.or_eq_true, not_or, Bool.not_eq_true] at remains
          exact removes swept remains.2 entries
      split <;> exact root

end Preserved

end Pidnl.Ratelimit
