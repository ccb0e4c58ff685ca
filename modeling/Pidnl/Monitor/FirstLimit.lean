import Pidnl.Monitor.PinLifetime
import Pidnl.Ratelimit.Bpffs

/-! # What a failed first limit leaves

`limit_process_bandwidth` for a pid that has no cgroup and no pins, when calls fail
on the way and the calls made to undo it do not.
-/

namespace Pidnl.Monitor

open Pidnl.Foundation Pidnl.System Pidnl.Ratelimit

/-- A pid has no cgroup, no attached program and nothing in its pin directory. -/
structure Bare (kernel : Kernel) (pid : Int32) : Prop where
  noCgroup : hasCgroup kernel pid = false
  /-- Every attached program is attached to the cgroup of another pid. -/
  noProgram : ∀ cgroup attachType id, kernel.IsAttached cgroup attachType id →
    ∃ other ≠ pid, kernel.cgroups.lookup (buildCgroupName other) = some cgroup
  noPin : ∀ path, path.dropLast = pinDirectory kernel.bpffsMount pid →
    kernel.pins.lookup path = none

def Opens (faults : Faults) (kernel : Kernel) (pid : Int32) : Prop :=
  0 < pid ∧ cgroupsFail faults pid = false ∧ Joins faults kernel pid

def sweepsAll (faults : Faults) : Bool :=
  !sweepFails faults && !(faults.inside .detachPinnedLinks).here .rmdir

structure Recovers (faults : Faults) (config : RateLimitConfig) : Prop where
  deletes : deleteFails faults = false
  sweeps : replaceFails faults config = true →
    sweepsAll (faults.inside .deleteCgroup) = true

theorem recovers_only {site : List Frame} {function : ExternalFunction}
    (deletes : deleteFails (.only site function) = false) (config : RateLimitConfig) :
    Recovers (.only site function) config := by
  refine ⟨deletes, ?_⟩
  intro fails
  have elsewhere : ∀ inner, site ≠ .deleteCgroup :: inner := by
    intro inner same
    subst same
    simp [replaceFails, pinDirFails, attachBpfFails, directionFails, attachFails,
      Faults.here, Faults.inside, Faults.only] at fails
  simp [sweepsAll, sweepFails, Faults.here, Faults.inside, Faults.only,
    fun inner => (elsewhere inner).symm]

section Undoing

variable {kernel : Kernel} {pid : Int32} (owner : Process) {faults : Faults}

theorem noProgram_of_settled (settled : Settled kernel)
    (noCgroup : hasCgroup kernel pid = false) {cgroup : CgroupId}
    {attachType : AttachType} {id : LinkId}
    (attached : kernel.IsAttached cgroup attachType id) :
    ∃ other ≠ pid, kernel.cgroups.lookup (buildCgroupName other) = some cgroup := by
  rcases attached with ⟨lives, atCgroup, _⟩
  rcases settled.pinned id lives with ⟨path, found⟩
  rcases settled.home path id cgroup found atCgroup with ⟨other, _, isCgroup⟩
  refine ⟨other, ?_, isCgroup⟩
  intro same
  rw [same] at isCgroup
  rw [hasCgroup, isCgroup] at noCgroup
  contradiction

/-- What is pinned in a pin directory is one of the two links of a pid, or something
that pidnl does not touch. -/
theorem noPin_of_empty {root : Path} (isRoot : root = kernel.bpffsMount)
    (empty : ∀ attachType, slot kernel pid attachType = .empty)
    (others : ∀ path, ¬ NamesDirection path → path.dropLast = pinDirectory root pid →
      kernel.pins.lookup path = none)
    {path : Path} (inside : path.dropLast = pinDirectory root pid) :
    kernel.pins.lookup path = none := by
  by_cases names : NamesDirection path
  · rcases names with ⟨directory, attachType, rfl⟩
    rw [List.dropLast_concat] at inside
    rw [inside, isRoot]
    exact slot_eq_empty_iff.mp (empty attachType)
  · exact others path names inside

theorem directories_detachPinnedLinks (sweeps : sweepsAll faults = true)
    (noPin : ∀ path, path.dropLast = pinDirectory kernel.bpffsMount pid →
      (Kernel.execute owner faults (detachPinnedLinks pid) kernel).2.pins.lookup path =
        none) :
    (Kernel.execute owner faults (detachPinnedLinks pid) kernel).2.directories
      (pinDirectory kernel.bpffsMount pid) = false := by
  simp only [sweepsAll, sweepFails, Bool.not_or, Bool.and_eq_true,
    Bool.not_eq_true'] at sweeps
  rcases sweeps with ⟨⟨⟨mounts, _⟩, _⟩, removes⟩
  have removed : ∃ middle, (Kernel.execute owner faults (detachPinnedLinks pid)
      kernel).2 = (Kernel.exec owner false middle
        (.rmdir (pinDirectory kernel.bpffsMount pid))).2 := by
    have mounted : Kernel.exec owner false kernel .getBpffsMount =
      (some kernel.bpffsMount, kernel) := rfl
    simp only [detachPinnedLinks, ask, Kernel.execute_inside, Kernel.execute_bind,
      Kernel.execute_request, mounts, removes, mounted]
    exact ⟨_, rfl⟩
  rcases removed with ⟨middle, removed⟩
  rw [removed] at noPin ⊢
  simp only [Kernel.exec, Bool.false_or] at noPin ⊢
  split
  · rename_i occupied
    rw [if_pos occupied] at noPin
    rcases List.any_eq_true.mp occupied with ⟨path, member, inside⟩
    have present := AList.lookup_isSome.mpr member
    rw [noPin path (of_decide_eq_true inside)] at present
    contradiction
  · exact Function.update_self _ _ _

theorem bpffs_deleteCgroup (kernel : Kernel) (cgroupFd : Fd) :
    let detached := (Kernel.execute owner (faults.inside .deleteCgroup)
      (detachPinnedLinks pid) kernel).2
    let deleted := (Kernel.execute owner faults
      (deleteCgroup (buildCgroupName pid) (some cgroupFd) pid) kernel).2
    deleted.pins = detached.pins ∧ deleted.directories = detached.directories := by
  simp only [deleteCgroup, ask, Kernel.execute_inside, Kernel.execute_bind,
    Kernel.execute_request, Kernel.execute_pure]
  constructor
  · rw [(exec_bpffs owner _ _).1, (exec_bpffs owner _ _).1]
    · trivial
    · trivial
  · rw [(exec_bpffs owner _ _).2, (exec_bpffs owner _ _).2]
    · trivial
    · trivial

theorem opens_of_ok (settled : Settled kernel) {cgroupFd : Fd}
    (entered : (Kernel.execute owner faults (enterCgroup pid) kernel).1 =
      .ok cgroupFd) : Opens faults kernel pid := by
  by_cases positive : 0 < pid
  swap
  · have invalid : pid ≤ 0 := Int32.not_lt.mp positive
    simp only [enterCgroup, if_pos invalid, Kernel.execute_pure] at entered
    contradiction
  have valid : ¬ pid ≤ 0 := Int32.not_le.mpr positive
  simp only [enterCgroup, ask, if_neg valid, Kernel.execute_bind] at entered
  rcases Bool.eq_false_or_eq_true (createFails faults [cgroupRoot]) with
    parent | parent
  · simp only [execute_createCgroup, parent, if_true, ne_eq, reduceCtorEq,
      not_false_eq_true, Kernel.execute_pure] at entered
  rcases execute_createCgroup_root owner faults settled parent with
    ⟨parentOk, affectsParent, root, _⟩
  simp only [parentOk, ne_eq, not_true, if_false, Kernel.execute_bind] at entered
  generalize (Kernel.execute owner faults (createCgroup [cgroupRoot]) kernel).2 =
    rooted at affectsParent root entered
  rcases Bool.eq_false_or_eq_true (createFails faults (buildCgroupName pid)) with
    child | child
  · simp only [execute_createCgroup, child, if_true, reduceCtorEq,
      not_false_eq_true, Kernel.execute_pure] at entered
  rcases execute_createCgroup_child owner faults affectsParent.settled root positive
    child with ⟨childOk, affectsChild, _, _⟩
  simp only [childOk, not_true, if_false, Kernel.execute_bind,
    Kernel.execute_request] at entered
  generalize (Kernel.execute owner faults (createCgroup (buildCgroupName pid))
    rooted).2 = made at affectsChild entered
  have running : made.running = kernel.running :=
    affectsChild.running.trans affectsParent.running
  have joining : Kernel.exec owner (faults.here .cgroupAttachTaskPid) made
      (.cgroupAttachTaskPid (buildCgroupName pid) pid) =
      (!faults.here .cgroupAttachTaskPid && hasCgroup made pid && made.running pid,
        made) := rfl
  cases joins : !faults.here .cgroupAttachTaskPid && hasCgroup made pid &&
    made.running pid with
  | false =>
      simp only [joining, joins, Bool.not_false, if_true, Kernel.execute_bind,
        Kernel.execute_pure, reduceCtorEq] at entered
  | true =>
      simp only [joining, joins, Bool.not_true, Bool.false_eq_true, if_false,
        Kernel.execute_bind, execute_openCgroupFd] at entered
      simp only [running, Bool.and_eq_true, Bool.not_eq_true'] at joins
      rcases Bool.eq_false_or_eq_true (openFails faults) with opening | opening
      · simp only [opening, if_true, Kernel.execute_bind, Kernel.execute_pure,
          reduceCtorEq] at entered
      · refine ⟨positive, ?_, joins.1.1, joins.2, opening⟩
        rw [cgroupsFail, parent, child]
        rfl

/-- Until the cgroup is opened, pins and directories stay as they are. -/
theorem bpffs_of_not_opens (settled : Settled kernel) (config : RateLimitConfig)
    (unopened : ¬ Opens faults kernel pid) :
    (Kernel.execute owner faults (installLimit pid config) kernel).2.pins =
        kernel.pins ∧
      (Kernel.execute owner faults (installLimit pid config) kernel).2.directories =
        kernel.directories := by
  have same := execute_bpffs owner faults (leavesBpffs_enterCgroup pid) kernel
  have refused : ∀ cgroupFd, (Kernel.execute owner faults (enterCgroup pid) kernel).1 =
      .ok cgroupFd → Opens faults kernel pid := fun _ entered =>
    opens_of_ok owner settled entered
  rw [installLimit_eq_enter, Kernel.execute_bind]
  generalize Kernel.execute owner faults (enterCgroup pid) kernel = entered
    at same refused ⊢
  rcases entered with ⟨result, after⟩
  cases result with
  | error code => exact same
  | ok cgroupFd => exact absurd (refused cgroupFd rfl) unopened

theorem noCgroup_of_failed (settled : Settled kernel)
    (noCgroup : hasCgroup kernel pid = false) {config : RateLimitConfig}
    (deletes : deleteFails faults = false)
    (notOk : (Kernel.execute owner faults (installLimit pid config) kernel).1 ≠ .ok) :
    hasCgroup (Kernel.execute owner faults (installLimit pid config) kernel).2 pid =
      false := by
  by_cases positive : 0 < pid
  swap
  · have invalid : pid ≤ 0 := Int32.not_lt.mp positive
    simp only [installLimit, if_pos invalid, Kernel.execute_pure]
    exact noCgroup
  cases made : cgroupsFail faults pid with
  | false =>
      have outcome := execute_installLimit owner faults settled pid config
      rw [outcome.undone positive made notOk]
      exact deletes
  | true =>
      cases installs_installLimit owner faults settled positive config with
      | unmade _ _ affects =>
          rw [affects.cgroups pid (Set.notMem_empty pid)]
          exact noCgroup
      | unopened noneFail =>
          rw [made] at noneFail
          contradiction
      | opened noneFail =>
          rw [made] at noneFail
          contradiction

theorem swept_empty (faults : Faults) (attachType : AttachType) :
    swept faults attachType .empty = .empty := by
  rw [swept, unlinked]
  split
  · rfl
  · split
    · split <;> rfl
    · rfl

/-- A first limit that fails with the cgroup open is undone by `delete_cgroup`,
which reaches the pins. -/
theorem undone_of_opens (settled : Settled kernel) (bare : Bare kernel pid)
    {config : RateLimitConfig} (recovers : Recovers faults config)
    (opens : Opens faults kernel pid)
    (notOk : (Kernel.execute owner faults (installLimit pid config) kernel).1 ≠ .ok) :
    ∃ last cgroupFd, Settled last ∧ last.bpffsMount = kernel.bpffsMount ∧
      sweepsAll (faults.inside .deleteCgroup) = true ∧
      (Kernel.execute owner faults (installLimit pid config) kernel).2 =
        (Kernel.execute owner faults
          (deleteCgroup (buildCgroupName pid) (some cgroupFd) pid) last).2 := by
  rcases opens with ⟨positive, noneFail, joins⟩
  cases installs_installLimit owner faults settled positive config with
  | unmade fails =>
      rw [noneFail] at fails
      contradiction
  | unopened _ _ fails =>
      rcases joins with ⟨attaches, runs, opening⟩
      rw [attaches, runs, opening] at fails
      simp only [Bool.false_eq_true, Bool.true_eq_false, or_self] at fails
  | @opened _ _ _ _ middle affects slots cgroupFd replaces =>
      cases replaces with
      | replaced ok => exact absurd ok notOk
      | @undone _ fails last affectsLast _ deleted =>
          have free : SweptFree faults middle pid config := by
            intro attachType _
            have empty : slot kernel pid attachType = .empty :=
              slot_eq_empty_iff.mpr (bare.noPin _ (pinPath_dropLast _ _ _))
            rw [slots, empty, swept_empty]
          have failed : replaceFails faults config = true :=
            Bool.eq_true_of_not_eq_false fun noneFails => fails ⟨noneFails, free⟩
          exact ⟨last, cgroupFd, affectsLast.settled,
            affectsLast.bpffsMount.trans affects.bpffsMount, recovers.sweeps failed,
            deleted⟩

/-- A pid that is bare stays bare when its first limit fails, and its pin directory
is gone once its cgroup has been opened. -/
theorem bare_installLimit (settled : Settled kernel) (bare : Bare kernel pid)
    {config : RateLimitConfig} (recovers : Recovers faults config)
    (notOk : (Kernel.execute owner faults (installLimit pid config) kernel).1 ≠ .ok) :
    let after := (Kernel.execute owner faults (installLimit pid config) kernel).2
    Bare after pid ∧
      (after.directories (pinDirectory kernel.bpffsMount pid) = true ↔
        kernel.directories (pinDirectory kernel.bpffsMount pid) = true ∧
          ¬ Opens faults kernel pid) := by
  intro after
  have affects : Affects {pid} kernel after :=
    (execute_installLimit owner faults settled pid config).affects
  have noCgroup : hasCgroup after pid = false :=
    noCgroup_of_failed owner settled bare.noCgroup recovers.deletes notOk
  have noProgram : ∀ cgroup attachType id, after.IsAttached cgroup attachType id →
      ∃ other ≠ pid, after.cgroups.lookup (buildCgroupName other) = some cgroup :=
    fun _ _ _ => noProgram_of_settled affects.settled noCgroup
  by_cases opens : Opens faults kernel pid
  · rcases undone_of_opens owner settled bare recovers opens notOk with
      ⟨last, cgroupFd, settledLast, mount, sweeps, undone⟩
    have reached : sweepFails (faults.inside .deleteCgroup) = false := by
      rw [sweepsAll, Bool.and_eq_true, Bool.not_eq_true'] at sweeps
      exact sweeps.1
    have deleted := execute_deleteCgroup owner faults settledLast pid cgroupFd
    rcases bpffs_deleteCgroup owner last cgroupFd with ⟨pins, directories⟩
    rw [← undone] at deleted pins directories
    have noPin : ∀ path, path.dropLast = pinDirectory kernel.bpffsMount pid →
        after.pins.lookup path = none := by
      intro path inside
      apply noPin_of_empty affects.bpffsMount.symm _ _ inside
      · intro attachType
        refine (deleted.2.2 attachType).trans ?_
        rw [swept_of_reached reached]
        exact ite_self _
      · intro path other inside
        rw [execute_otherPin owner faults (makes_installLimit pid config) kernel other]
        exact bare.noPin path inside
    refine ⟨⟨noCgroup, noProgram, ?_⟩, ?_⟩
    · rw [affects.bpffsMount]
      exact noPin
    · have removed : (Kernel.execute owner (faults.inside .deleteCgroup)
          (detachPinnedLinks pid) last).2.directories
            (pinDirectory kernel.bpffsMount pid) = false := by
        rw [← mount]
        apply directories_detachPinnedLinks owner sweeps
        intro path inside
        rw [mount] at inside
        rw [← pins]
        exact noPin path inside
      rw [directories, removed]
      exact ⟨fun present => absurd present Bool.false_ne_true,
        fun either => absurd opens either.2⟩
  · rcases bpffs_of_not_opens owner settled config opens with ⟨pins, directories⟩
    refine ⟨⟨noCgroup, noProgram, ?_⟩, ?_⟩
    · intro path inside
      rw [affects.bpffsMount] at inside
      rw [pins]
      exact bare.noPin path inside
    · rw [directories]
      exact ⟨fun present => ⟨present, opens⟩, And.left⟩

end Undoing

section FirstLimit

variable {world : World} {pid : Int32} {config : RateLimitConfig} {faults : Faults}

def LeavesNothing (faults : Faults) (world : World) (pid : Int32)
    (config : RateLimitConfig) : Prop :=
  let outcome := World.execute faults (limitProcessBandwidth pid config) world
  outcome.1 ≠ .ok → Bare outcome.2.kernel pid ∧
    outcome.2.kernel.directories (pinDirectory outcome.2.kernel.bpffsMount pid) = false

/-- A failed first limit leaves nothing, unless an empty pin directory was there
before and the failure comes before the cgroup is opened. -/
theorem bare_limitProcessBandwidth (settled : Settled world.kernel)
    (bare : Bare world.kernel pid) (recovers : Recovers faults config)
    (failed : (World.execute faults (limitProcessBandwidth pid config) world).1 ≠ .ok) :
    let after := (World.execute faults (limitProcessBandwidth pid config) world).2.kernel
    Bare after pid ∧ after.bpffsMount = world.kernel.bpffsMount ∧
      (after.directories (pinDirectory after.bpffsMount pid) = true ↔
        world.kernel.directories (pinDirectory world.kernel.bpffsMount pid) = true ∧
          ¬ Opens faults world.kernel pid) := by
  intro after
  have notOk : (Kernel.execute .client faults (installLimit pid config)
      world.kernel).1 ≠ .ok := by
    intro ok
    rw [execute_limitProcessBandwidth, if_pos ok] at failed
    exact failed rfl
  have installed : after = (Kernel.execute .client faults (installLimit pid config)
      world.kernel).2 := by
    simp only [after]
    rw [execute_limitProcessBandwidth, if_neg notOk]
  have mount : after.bpffsMount = world.kernel.bpffsMount := by
    rw [installed]
    exact (execute_installLimit .client faults settled pid config).affects.bpffsMount
  rcases bare_installLimit .client settled bare recovers notOk with ⟨bareAfter, directory⟩
  rw [mount, installed]
  exact ⟨bareAfter, rfl, directory⟩

end FirstLimit

/-! ## A directory that was there before -/

def keepsDirectory : Faults :=
  .only [.deletePidCgroup 7, .deleteCgroup, .detachPinnedLinks] .rmdir

/-- A limit has been set and removed, and its pin directory is still there. -/
def leftover : World :=
  (World.execute keepsDirectory (unregisterRateLimiterByPid 7) limited).2

def setAndUnset : List Event :=
  [setLimit .none { uploadKbps := 100, downloadKbps := 200 },
    .operation keepsDirectory (.unregisterRateLimiterByPid 7)]

theorem perform_setAndUnset :
    perform World.react (.fresh [] [] fun _ => true) setAndUnset = some leftover := rfl

theorem anchored_leftover : Anchored leftover.kernel := by
  have clears : ClearsPins keepsDirectory := by
    intro site
    simp [keepsDirectory, leavesPins, sweepFails, Faults.here, Faults.inside,
      Faults.beneath, Faults.only]
  have unset : Rejoins limited keepsDirectory (.unregisterRateLimiterByPid 7) := trivial
  exact anchored_operation anchored_limited clears unset

theorem bare_leftover : Bare leftover.kernel 7 := by
  have noCgroup : hasCgroup leftover.kernel 7 = false := by decide +kernel
  have noPins : leftover.kernel.pins.entries = [] := by decide +kernel
  refine ⟨noCgroup, fun _ _ _ => noProgram_of_settled anchored_leftover.settled noCgroup,
    ?_⟩
  intro path _
  rw [AList.lookup, noPins]
  rfl

theorem bare_limitProcessBandwidth_unloaded :
    let faults := Faults.only [.attachBpfPrograms] .ratelimitBpfLoad
    let config : RateLimitConfig := { uploadKbps := 100, downloadKbps := 200 }
    let after := (World.execute faults (limitProcessBandwidth 7 config) leftover).2.kernel
    Bare after 7 ∧ after.bpffsMount = leftover.kernel.bpffsMount ∧
      (after.directories (pinDirectory after.bpffsMount 7) = true ↔
        leftover.kernel.directories (pinDirectory leftover.kernel.bpffsMount 7) = true ∧
          ¬ Opens faults leftover.kernel 7) := by
  have failed : (World.execute (.only [.attachBpfPrograms] .ratelimitBpfLoad)
      (limitProcessBandwidth 7 { uploadKbps := 100, downloadKbps := 200 })
      leftover).1 ≠ .ok := by decide +kernel
  exact bare_limitProcessBandwidth anchored_leftover.settled bare_leftover
    (recovers_only (by decide) _) failed

theorem not_leavesNothing_of_directory {world : World} {pid : Int32}
    {config : RateLimitConfig} {faults : Faults} :
    let outcome := World.execute faults (limitProcessBandwidth pid config) world
    outcome.1 ≠ .ok → outcome.2.kernel.directories
        (pinDirectory outcome.2.kernel.bpffsMount pid) = true →
      ¬ LeavesNothing faults world pid config := by
  intro outcome failed present leaves
  rw [(leaves failed).2] at present
  contradiction

/-- The process does not join its new cgroup, and the directory stays. -/
theorem not_leavesNothing_leftover :
    ∃ world, perform World.react (.fresh [] [] fun _ => true) setAndUnset = some world ∧
      Settled world.kernel ∧ Bare world.kernel 7 ∧
      Recovers (.only [] .cgroupAttachTaskPid)
        { uploadKbps := 100, downloadKbps := 200 } ∧
      ¬ LeavesNothing (.only [] .cgroupAttachTaskPid) world 7
        { uploadKbps := 100, downloadKbps := 200 } := by
  refine ⟨leftover, perform_setAndUnset, anchored_leftover.settled, bare_leftover,
    recovers_only (by decide) _, ?_⟩
  apply not_leavesNothing_of_directory
  · decide +kernel
  · decide +kernel

end Pidnl.Monitor
