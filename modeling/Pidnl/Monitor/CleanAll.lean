import Pidnl.Monitor.PinLifetime
import Pidnl.Ratelimit.Removal

/-! # What a successful clean leaves

`ratelimit_cleanup_all` on a machine with limits of any pids, and any other entries
below the pidnl cgroup, when calls of libcgroup and libbpf may fail. Other entries
can keep a cgroup from being deleted and have no other effect.
-/

namespace Pidnl.Monitor

open Pidnl.Foundation Pidnl.System Pidnl.Ratelimit

/-! ## Cgroups that are left alone -/

def withCgroups (kernel : Kernel) (cgroups : AList fun _ : Path => CgroupId) : Kernel :=
  { kernel with cgroups := cgroups }

def IgnoresCgroups : {Reply : Type} → KernelCall Reply → Prop
  | _, .getBpffsMount => True
  | _, .bpfObjGet _ => True
  | _, .bpfLinkDetach _ => True
  | _, .close _ => True
  | _, .unlink _ => True
  | _, .rmdir _ => True
  | _, _ => False

section Ignoring

variable (owner : Process) (faults : Faults) (kernel : Kernel)
  (cgroups : AList fun _ : Path => CgroupId)

theorem closeDescriptor_withCgroups (fd : Fd) :
    (withCgroups kernel cgroups).closeDescriptor fd =
      withCgroups (kernel.closeDescriptor fd) cgroups := by
  have same : (withCgroups kernel cgroups).target? fd = kernel.target? fd := rfl
  simp only [Kernel.closeDescriptor, same]
  cases kernel.target? fd with
  | none => rfl
  | some target => cases target <;> rfl

theorem unpin_withCgroups (path : Path) :
    (withCgroups kernel cgroups).unpin path = withCgroups (kernel.unpin path) cgroups := by
  have same : (withCgroups kernel cgroups).pins.lookup path =
    kernel.pins.lookup path := rfl
  simp only [Kernel.unpin, same]
  cases kernel.pins.lookup path <;> rfl

theorem exec_withCgroups {Reply : Type} {call : KernelCall Reply}
    (ignores : IgnoresCgroups call) (fails : Bool) :
    Kernel.exec owner fails (withCgroups kernel cgroups) call =
      ((Kernel.exec owner fails kernel call).1,
        withCgroups (Kernel.exec owner fails kernel call).2 cgroups) := by
  cases call with
  | getBpffsMount => rfl
  | bpfObjGet path =>
      have same : (withCgroups kernel cgroups).pins.lookup path =
        kernel.pins.lookup path := rfl
      simp only [Kernel.exec, same]
      cases (if fails then none else kernel.pins.lookup path) <;> rfl
  | bpfLinkDetach fd =>
      have same : (withCgroups kernel cgroups).target? fd = kernel.target? fd := rfl
      simp only [Kernel.exec, same]
      cases (if fails then none else kernel.target? fd) with
      | none => rfl
      | some target => cases target <;> rfl
  | close fd =>
      simp only [Kernel.exec, closeDescriptor_withCgroups]
  | unlink path =>
      simp only [Kernel.exec, unpin_withCgroups]
      split <;> rfl
  | rmdir path =>
      have same : (withCgroups kernel cgroups).pins = kernel.pins := rfl
      simp only [Kernel.exec, same]
      split <;> rfl
  | _ => exact ignores.elim

theorem execute_withCgroups {program : KernelProgram α}
    (ignores : program.Makes fun _ call => IgnoresCgroups call) :
    Kernel.execute owner faults program (withCgroups kernel cgroups) =
      ((Kernel.execute owner faults program kernel).1,
        withCgroups (Kernel.execute owner faults program kernel).2 cgroups) := by
  apply Program.Makes.run_commutes ignores (withCgroups · cgroups)
  intro Reply site call state isIgnored
  exact exec_withCgroups owner state cgroups isIgnored _

end Ignoring

theorem ignoresCgroups_detachPinnedLinks (pid : Int32) :
    (detachPinnedLinks pid).Makes fun _ call => IgnoresCgroups call := by
  apply (detachingCalls_detachPinnedLinks pid).weaken
  intro Reply site call detaches
  cases call with
  | getBpffsMount | bpfObjGet path | bpfLinkDetach fd | close fd | unlink path | rmdir path =>
      trivial
  | _ => exact detaches.elim

/-! ## Limits beside other entries -/

/-- The cgroups of a machine on which other entries stand beside what pidnl keeps in
`own`. -/
def Beside (own : Kernel) (cgroups : AList fun _ : Path => CgroupId) : Prop :=
  ∀ pid > 0, cgroups.lookup (buildCgroupName pid) =
    own.cgroups.lookup (buildCgroupName pid)

def Crowded (kernel : Kernel) : Prop :=
  ∃ own, Anchored own ∧ Beside own kernel.cgroups ∧
    kernel = withCgroups own kernel.cgroups

theorem crowded_withCgroups {own : Kernel} {cgroups : AList fun _ : Path => CgroupId}
    (anchored : Anchored own) (beside : Beside own cgroups) :
    Crowded (withCgroups own cgroups) :=
  ⟨own, anchored, beside, rfl⟩

section Crowd

variable {own kernel : Kernel} {cgroups : AList fun _ : Path => CgroupId}
  (owner : Process) {faults : Faults} {pid : Int32}

/-- The deletion of a pid's cgroup whose pins are gone; other entries below the cgroup
can keep it. -/
theorem crowded_cgroupDeleteCgroup (anchored : Anchored own)
    (beside : Beside own cgroups) (positive : 0 < pid)
    (swept : ∀ attachType, slot own pid attachType = .empty) (fails : Bool) :
    Crowded (Kernel.exec owner fails (withCgroups own cgroups)
      (.cgroupDeleteCgroup (buildCgroupName pid))).2 := by
  simp only [Kernel.exec]
  split
  · exact crowded_withCgroups anchored beside
  · have deletes := exec_cgroupDeleteCgroup owner anchored.settled pid false
    have childless := hasChildren_buildCgroupName anchored.settled pid
    simp only [Kernel.exec, childless, Bool.or_self, Bool.false_eq_true, if_false]
      at deletes
    rcases deletes with ⟨affects, _, slots⟩
    have removed : (withCgroups own cgroups).removeCgroup (buildCgroupName pid) =
        withCgroups (own.removeCgroup (buildCgroupName pid))
          ((withCgroups own cgroups).removeCgroup (buildCgroupName pid)).cgroups := by
      have found := beside pid positive
      simp only [Kernel.removeCgroup, withCgroups]
      rw [found]
      cases own.cgroups.lookup (buildCgroupName pid) <;> rfl
    rw [removed]
    apply crowded_withCgroups
    · apply anchored.affects affects
      intro other same pinned
      cases same
      rcases pinned_iff.mp pinned with ⟨attachType, held⟩
      rw [slots, swept] at held
      exact absurd rfl held
    · intro other otherPositive
      rw [lookup_removeCgroup, lookup_removeCgroup]
      split
      · rfl
      · exact beside other otherPositive

theorem crowded_deleteCgroup (anchored : Anchored own) (beside : Beside own cgroups)
    (positive : 0 < pid) (reached : sweepFails (faults.inside .deleteCgroup) = false)
    (cgroupFd : Fd) :
    Crowded (Kernel.execute owner faults
      (deleteCgroup (buildCgroupName pid) (some cgroupFd) pid)
      (withCgroups own cgroups)).2 := by
  rw [deleteCgroup, Kernel.execute_inside]
  generalize faults.inside .deleteCgroup = inner at reached ⊢
  have closing : (ask (.close cgroupFd)).Makes fun _ call => IgnoresCgroups call :=
    (Program.makes_request _).mpr trivial
  simp only [Kernel.execute_bind, Kernel.execute_pure,
    execute_withCgroups owner inner _ _ (ignoresCgroups_detachPinnedLinks pid),
    execute_withCgroups owner inner _ _ closing]
  rcases execute_detachPinnedLinks owner inner anchored.settled pid with
    ⟨detaches, slots⟩
  generalize (Kernel.execute owner inner (detachPinnedLinks pid) own).2 = detached
    at detaches slots ⊢
  have closed : Quiet detached (Kernel.execute owner inner (ask (.close cgroupFd))
    detached).2 := exec_close owner detaches.settled (inner.here .total)
      cgroupFd
  generalize (Kernel.execute owner inner (ask (.close cgroupFd)) detached).2 = middle
    at closed ⊢
  have sameCgroups := closed.cgroups.trans detaches.sameCgroups
  have swept : ∀ attachType, slot middle pid attachType = .empty := by
    intro attachType
    rw [detaches.settled.slot_quiet closed, slots]
    exact swept_of_reached reached attachType _
  have anchoredMiddle : Anchored middle := by
    apply anchored.affects (detaches.toAffects.trans
      (.of_quiet detaches.settled closed))
    intro other same pinned
    cases same
    rcases pinned_iff.mp pinned with ⟨attachType, held⟩
    exact absurd (swept attachType) held
  have besideMiddle : Beside middle cgroups := by
    rw [Beside, sameCgroups]
    exact beside
  exact crowded_cgroupDeleteCgroup owner anchoredMiddle besideMiddle positive swept _

theorem crowded_deletePidCgroup (crowded : Crowded kernel) (positive : 0 < pid)
    (reached : sweepFails ((faults.inside (.deletePidCgroup pid)).inside
      .deleteCgroup) = false) :
    Crowded (Kernel.execute owner faults (deletePidCgroup pid) kernel).2 := by
  rcases crowded with ⟨own, anchored, beside, same⟩
  have unchanged : Crowded kernel := ⟨own, anchored, beside, same⟩
  rw [deletePidCgroup, Kernel.execute_inside]
  generalize faults.inside (.deletePidCgroup pid) = inner at reached ⊢
  have made : Kernel.execute owner inner
    (.request (.cgroupNewCgroup (buildCgroupName pid))) kernel =
      (!inner.here .cgroupNewCgroup, kernel) := rfl
  have got : Kernel.execute owner inner
    (.request (.cgroupGetCgroup (buildCgroupName pid))) kernel =
      (!inner.here .cgroupGetCgroup && hasCgroup kernel pid, kernel) := rfl
  simp only [ask, Kernel.execute_bind, made, got, Kernel.execute_ite,
    Kernel.execute_pure, execute_openCgroupFd]
  split
  · exact unchanged
  split
  · exact unchanged
  cases opened : (if openFails inner = true then none else
      kernel.cgroups.lookup (buildCgroupName pid)) with
  | none => exact unchanged
  | some cgroup =>
      simp only [Kernel.execute_bind, Kernel.execute_pure]
      have quiet : Quiet own (own.openDescriptor owner (.cgroup cgroup)) :=
        quiet_openDescriptor own owner fun _ => Target.noConfusion
      have opens : kernel.openDescriptor owner (.cgroup cgroup) =
          withCgroups (own.openDescriptor owner (.cgroup cgroup)) kernel.cgroups := by
        rw [same]
        rfl
      rw [opens]
      have besideOpened : Beside (own.openDescriptor owner (.cgroup cgroup))
        kernel.cgroups := beside
      exact crowded_deleteCgroup owner (anchored.quiet quiet) besideOpened positive
        reached kernel.nextId

/-! ## The walk -/

theorem crowded_cleanupEntries (crowded : Crowded kernel)
    (reached : ∀ pid, sweepFails ((faults.inside (.deletePidCgroup pid)).inside
      .deleteCgroup) = false) (infos : List FileInfo) :
    Crowded (Kernel.execute owner faults (cleanupEntries infos) kernel).2 := by
  apply cleanupEntries_preserves _ infos crowded
  intro standing pid positive crowded
  exact crowded_deletePidCgroup owner crowded positive (reached pid)

/-! ## What is left -/

/-- No pid has a cgroup or a pinned link, and no program is attached. -/
structure Clean (kernel : Kernel) : Prop where
  cgroups : ∀ pid, hasCgroup kernel pid = false
  pins : ∀ pid, ¬ Pinned kernel pid
  programs : ∀ cgroup attachType id, ¬ kernel.IsAttached cgroup attachType id

theorem Crowded.clean (crowded : Crowded kernel)
    (childless : kernel.hasChildren [cgroupRoot] = false) : Clean kernel := by
  have absent : ∀ pid, hasCgroup kernel pid = false := by
    intro pid
    apply Bool.eq_false_iff.mpr
    intro present
    rw [Kernel.hasChildren, List.any_eq_false] at childless
    apply childless (buildCgroupName pid) (AList.lookup_isSome.mp present)
    simp [buildCgroupName]
  rcases crowded with ⟨own, anchored, beside, same⟩
  have absentOwn : ∀ pid, hasCgroup own pid = false := by
    intro pid
    apply Bool.eq_false_iff.mpr
    intro present
    have positive := positive_of_hasCgroup anchored.settled present
    have found := absent pid
    rw [hasCgroup, beside pid positive] at found
    rw [hasCgroup, found] at present
    contradiction
  constructor
  · exact absent
  · intro pid pinned
    rw [same] at pinned
    have present := anchored.found pid pinned
    rw [absentOwn pid] at present
    contradiction
  · intro cgroup attachType id attached
    rw [same] at attached
    rcases anchored.settled.pinned id attached.1 with ⟨path, found⟩
    rcases anchored.settled.home path id cgroup found attached.2.1 with
      ⟨pid, _, isCgroup⟩
    have none := absentOwn pid
    rw [hasCgroup, isCgroup] at none
    contradiction

theorem Clean.removeCgroup (clean : Clean kernel) (name : Path) :
    Clean (kernel.removeCgroup name) := by
  have bpffsMount := (Kernel.frames_removeCgroup kernel name).bpffsMount
  constructor
  · intro pid
    have absent := clean.cgroups pid
    rw [hasCgroup, lookup_removeCgroup]
    split
    · rfl
    · exact absent
  · intro pid pinned
    rw [Pinned, pins_removeCgroup, bpffsMount] at pinned
    exact clean.pins pid pinned
  · intro cgroup attachType id attached
    rw [Kernel.IsAttached, removeCgroup_links] at attached
    split at attached
    · exact absurd attached.2.1 (Option.some_ne_none cgroup).symm
    · exact clean.programs cgroup attachType id attached

theorem Clean.releaseLink (clean : Clean kernel) (released : LinkId) :
    Clean (kernel.releaseLink released) := by
  constructor
  · exact clean.cgroups
  · exact clean.pins
  · intro cgroup attachType id attached
    apply clean.programs cgroup attachType id
    by_cases same : id = released
    · subst same
      simp only [Kernel.IsAttached, Kernel.releaseLink, Function.update_self] at attached
      exact ⟨Nat.zero_lt_of_lt (Nat.lt_of_lt_of_le attached.1 (Nat.sub_le _ 1)),
        attached.2⟩
    · simpa only [Kernel.IsAttached, Kernel.releaseLink, Function.update_of_ne same]
        using attached

theorem Clean.closeDescriptor (clean : Clean kernel) (fd : Fd) :
    Clean (kernel.closeDescriptor fd) := by
  have forgets : ∀ {state : Kernel}, Clean state →
      Clean { state with descriptors := Function.update state.descriptors fd none } :=
    fun cleanState => ⟨cleanState.cgroups, cleanState.pins, cleanState.programs⟩
  rw [Kernel.closeDescriptor]
  split
  · exact forgets (clean.releaseLink _)
  · exact forgets clean

end Crowd

/-! ## The calls that may fail -/

def isLibrary : ExternalFunction → Bool
  | .cgroupNewCgroup | .cgroupCreateCgroup | .cgroupGetCgroup | .cgroupAttachTaskPid
  | .cgroupDeleteCgroup | .cgroupWalkTree | .getCgroup2Mount => true
  | .bpfObjGet | .bpfLinkDetach | .ratelimitBpfOpen | .ratelimitBpfLoad
  | .bpfMapUpdateElem | .bpfProgramAttachCgroup | .bpfLinkPin | .bpfProgQueryOpts
  | .bpfProgGetFdById | .bpfProgGetInfoByFd | .bpfMapGetFdById | .bpfMapGetInfoByFd
  | .bpfMapLookupElem => true
  | _ => false

def OnlyLibraries (faults : Faults) : Prop :=
  ∀ site function, faults site function = true → isLibrary function = true

section Cleaning

variable {kernel : Kernel} {faults : Faults}

theorem OnlyLibraries.succeeds (only : OnlyLibraries faults)
    {function : ExternalFunction} (other : isLibrary function = false)
    (site : List Frame) : faults site function = false := by
  apply Bool.eq_false_iff.mpr
  intro fails
  rw [only site function fails] at other
  contradiction

theorem OnlyLibraries.reaches (only : OnlyLibraries faults) (site : List Frame) :
    sweepFails (faults.beneath site) = false := by
  have mount : isLibrary .getBpffsMount = false := rfl
  have unlink : isLibrary .unlink = false := rfl
  simp only [sweepFails, Faults.here, Faults.inside, Faults.beneath,
    only.succeeds mount, only.succeeds unlink, Bool.or_self]

/-- `ratelimit_cleanup_all` gets hold of the pidnl cgroup. -/
def FindsRoot (faults : Faults) (kernel : Kernel) : Prop :=
  faults.here .cgroupNewCgroup = false ∧ faults.here .cgroupGetCgroup = false ∧
    (kernel.cgroups.lookup [cgroupRoot]).isSome = true

/-- Without the pidnl cgroup, success is reported and nothing is done. -/
theorem execute_cleanupCgroups_of_not_findsRoot (owner : Process)
    (missing : ¬ FindsRoot faults kernel) :
    Kernel.execute owner faults cleanupCgroups kernel = ((.ok, false), kernel) := by
  have made : Kernel.execute owner faults (.request (.cgroupNewCgroup [cgroupRoot]))
    kernel = (!faults.here .cgroupNewCgroup, kernel) := rfl
  have got : Kernel.execute owner faults (.request (.cgroupGetCgroup [cgroupRoot]))
    kernel = (!faults.here .cgroupGetCgroup &&
      (kernel.cgroups.lookup [cgroupRoot]).isSome, kernel) := rfl
  simp only [cleanupCgroups, ask, Kernel.execute_bind, made, got,
    Kernel.execute_ite, Kernel.execute_pure]
  split
  · rfl
  · split
    · rfl
    · rename_i made found
      simp only [Bool.not_not, Bool.not_eq_true, Bool.not_eq_false,
        Bool.and_eq_true, Bool.not_eq_eq_eq_not, Bool.not_true] at made found
      exact absurd ⟨made, found⟩ missing

/-- With it, success means that all is clean. -/
theorem execute_cleanupCgroups_of_findsRoot (owner : Process) (crowded : Crowded kernel)
    (only : OnlyLibraries faults) (finds : FindsRoot faults kernel) :
    let outcome := Kernel.execute owner faults cleanupCgroups kernel
    outcome.1 = (.libcgDelete, false) ∨ outcome.1 = (.ok, true) ∧ Clean outcome.2 := by
  rcases finds with ⟨new, get, present⟩
  have made : Kernel.execute owner faults (.request (.cgroupNewCgroup [cgroupRoot]))
      kernel = (true, kernel) := by
    simp only [Kernel.execute_request, Kernel.exec, KernelCall.function, new,
      Bool.not_false]
  have got : Kernel.execute owner faults (.request (.cgroupGetCgroup [cgroupRoot]))
      kernel = (true, kernel) := by
    simp only [Kernel.execute_request, Kernel.exec, KernelCall.function, get, present,
      Bool.not_false, Bool.and_self]
  have walked : Kernel.execute owner faults (.request (.cgroupWalkTree [cgroupRoot]))
    kernel = (if faults.here .cgroupWalkTree then [] else kernel.walk [cgroupRoot],
      kernel) := rfl
  simp only [cleanupCgroups, ask, Kernel.execute_bind, made, got, walked, Bool.not_true,
    Bool.false_eq_true, if_false]
  have entries := crowded_cleanupEntries owner crowded
    (fun pid => only.reaches [.deletePidCgroup pid, .deleteCgroup])
    (if faults.here .cgroupWalkTree then [] else kernel.walk [cgroupRoot])
  generalize (Kernel.execute owner faults (cleanupEntries
    (if faults.here .cgroupWalkTree then [] else kernel.walk [cgroupRoot])) kernel).2 =
    swept at entries ⊢
  by_cases remains : (faults.here .cgroupDeleteCgroup ||
      swept.hasChildren [cgroupRoot]) = true
  · have deleted : Kernel.execute owner faults
        (.request (.cgroupDeleteCgroup [cgroupRoot])) swept = (false, swept) := by
      simp only [Kernel.execute_request, Kernel.exec, KernelCall.function, remains,
        if_true]
    simp only [deleted, Bool.not_false, if_true, Kernel.execute_pure, true_or]
  · have deleted : Kernel.execute owner faults
        (.request (.cgroupDeleteCgroup [cgroupRoot])) swept =
          (true, swept.removeCgroup [cgroupRoot]) := by
      simp only [Kernel.execute_request, Kernel.exec, KernelCall.function, remains,
        if_false, Bool.false_eq_true]
    simp only [Bool.or_eq_true, not_or, Bool.not_eq_true] at remains
    simp only [deleted, Bool.not_true, Bool.false_eq_true, if_false,
      Kernel.execute_pure, true_and]
    exact .inr ((entries.clean remains.2).removeCgroup [cgroupRoot])

/-! ## The monitor -/

theorem execute_deletePidCgroup_of_absent (owner : Process) {pid : Int32}
    (absent : hasCgroup kernel pid = false) :
    (Kernel.execute owner faults (deletePidCgroup pid) kernel).2 = kernel := by
  rw [deletePidCgroup, Kernel.execute_inside]
  generalize faults.inside (.deletePidCgroup pid) = inner
  have made : Kernel.execute owner inner
    (.request (.cgroupNewCgroup (buildCgroupName pid))) kernel =
      (!inner.here .cgroupNewCgroup, kernel) := rfl
  have got : Kernel.execute owner inner
      (.request (.cgroupGetCgroup (buildCgroupName pid))) kernel = (false, kernel) := by
    rw [hasCgroup] at absent
    simp only [Kernel.execute_request, Kernel.exec, absent, Bool.and_false]
  simp only [ask, Kernel.execute_bind, made, got, Bool.not_false, if_true,
    Kernel.execute_ite, Kernel.execute_pure]
  split <;> rfl

namespace Daemon

theorem clean_unregister (clean : Clean kernel) (pid : Int32) (table : Table) :
    Clean (Kernel.execute .monitor faults (unregisterRateLimiterByPid pid table)
      kernel).2 := by
  have closed : Clean (Kernel.execute .monitor faults (removePidFromWatch pid table)
      kernel).2 := by
    rw [removePidFromWatch]
    cases table.findPidSlot pid with
    | none => exact clean
    | some found => exact clean.closeDescriptor found.entry.pidfd
  simp only [unregisterRateLimiterByPid, Kernel.execute_bind, Kernel.execute_pure,
    execute_deletePidCgroup_of_absent .monitor (closed.cgroups pid)]
  exact closed

theorem clean_handleDeaths (clean : Clean kernel) (slots : List SlotIndex)
    (table : Table) :
    Clean (Kernel.execute .monitor faults (handleDeaths slots table) kernel).2 := by
  induction slots generalizing kernel table with
  | nil => exact clean
  | cons slot slots induction =>
      rw [handleDeaths]
      split
      · exact induction clean table
      · rename_i entry _
        have readable : Kernel.execute .monitor faults
          (.request (.pidfdReadable entry.pid)) kernel =
            (!kernel.running entry.pid, kernel) := rfl
        simp only [ask, Kernel.execute_bind, readable]
        split
        · simp only [Kernel.execute_bind]
          exact induction (clean_unregister clean entry.pid table) _
        · exact induction clean table

theorem clean_closePidfds (clean : Clean kernel) (table : Table)
    (slots : List SlotIndex) :
    Clean (Kernel.execute .monitor faults (closePidfds table slots) kernel).2 := by
  induction slots generalizing kernel with
  | nil => exact clean
  | cons slot slots induction =>
      rw [closePidfds]
      split
      · exact induction clean
      · rename_i entry _
        simp only [ask, Kernel.execute_bind, Kernel.execute_request]
        exact induction (clean.closeDescriptor entry.pidfd)

theorem clean_serveStop (clean : Clean kernel) (pid : Int32) (table : Table) :
    let outcome := Kernel.execute .monitor faults (serveClient .stop pid table) kernel
    outcome.1.2 = none ∧ Clean outcome.2 := by
  simp only [serveClient, runCommand, Kernel.execute_inside, Kernel.execute_bind,
    Kernel.execute_pure, true_or, if_true, true_and]
  exact clean_closePidfds (clean_handleDeaths clean _ table) _ _

end Daemon

theorem execute_monitorStop_of_only {world : World} (only : OnlyLibraries faults)
    (clean : Clean world.kernel) :
    let after := (World.execute faults monitorStop world).2
    Clean after.kernel ∧ after.daemon = none := by
  rw [monitorStop, World.execute_inside]
  have spared : ∀ {function : ExternalFunction}, isLibrary function = false →
      (faults.inside .monitorStop).here function = false := fun other =>
    only.succeeds other [.monitorStop]
  have connects : connectFails ((faults.inside .monitorStop).inside .monitorConnect) =
      false := by
    have socket : isLibrary .socket = false := rfl
    have connect : isLibrary .connect = false := rfl
    simp only [connectFails, Faults.here, Faults.inside, only.succeeds socket,
      only.succeeds connect, Bool.or_self]
  generalize faults.inside .monitorStop = inner at spared connects ⊢
  simp only [askMonitor, World.execute_bind, World.execute_inside,
    execute_monitorConnect, connects, Bool.not_false, Bool.true_and]
  cases present : world.daemon with
  | none =>
      simp only [Option.isSome_none, Bool.not_false, if_true, World.execute_pure]
      exact ⟨clean, present⟩
  | some table =>
      have write : inner.here .write = false := spared rfl
      have accept : inner.here .accept = false := spared rfl
      have peer : inner.here .peerCredentials = false := spared rfl
      have command : inner.here .readCommand = false := spared rfl
      have served : (Kernel.execute .monitor inner
            (Daemon.serveClient .stop 0 table) world.kernel).1.2 = none ∧
          Clean (Kernel.execute .monitor inner
            (Daemon.serveClient .stop 0 table) world.kernel).2 :=
        Daemon.clean_serveStop clean 0 table
      have written : World.execute inner (.request (.write .stop 0)) world =
          (true, { world with message := some (.stop, 0) }) := by
        simp only [World.execute_request, World.exec, write, Bool.false_eq_true,
          if_false]
      have answered : (World.execute inner (.request .read)
          { world with message := some (.stop, 0) }).2 =
            { kernel := (Kernel.execute .monitor inner
                (Daemon.serveClient .stop 0 table) world.kernel).2
              daemon := (Kernel.execute .monitor inner
                (Daemon.serveClient .stop 0 table) world.kernel).1.2
              message := none } := by
        simp only [World.execute_request, World.exec, World.serve, present, accept, peer,
          command, Bool.or_self, Bool.false_eq_true, if_false]
      simp only [Option.isSome_some, written, Bool.not_true, Bool.false_eq_true, if_false,
        World.execute_bind]
      generalize World.execute inner (.request .read)
        { world with message := some (.stop, 0) } = outcome at answered ⊢
      rcases outcome with ⟨_ | result, after⟩
      · simp only at answered
        subst answered
        exact ⟨served.2, served.1⟩
      · simp only at answered
        subst answered
        exact ⟨served.2, served.1⟩

end Cleaning

/-! ## Success -/

/-- No limit is left, and the monitor that ran has been told to stop. -/
structure CleanedUp (world : World) : Prop where
  clean : Clean world.kernel
  stopped : world.daemon = none

/-- With any limits and any other entries, success means that all is clean if and only
if the pidnl cgroup is found, or there was nothing to clean. -/
theorem cleanedUp_of_ok_iff {world : World} {faults : Faults}
    (crowded : Crowded world.kernel) (only : OnlyLibraries faults) :
    let outcome := World.execute faults ratelimitCleanupAll world
    (outcome.1 = .ok → CleanedUp outcome.2) ↔
      FindsRoot faults world.kernel ∨ CleanedUp world := by
  simp only [ratelimitCleanupAll, World.execute_bind, World.execute_inClient,
    World.execute_ite, World.execute_pure]
  by_cases finds : FindsRoot faults world.kernel
  · simp only [finds, true_or, iff_true]
    have cleans := execute_cleanupCgroups_of_findsRoot .client crowded only finds
    generalize Kernel.execute .client faults cleanupCgroups world.kernel = cleaned
      at cleans ⊢
    rcases cleaned with ⟨result, kernel⟩
    rcases cleans with failed | ⟨ok, clean⟩
    · simp only at failed
      subst failed
      simp only [Bool.false_eq_true, if_false]
      intro same
      contradiction
    · simp only at ok
      subst ok
      simp only [if_true]
      intro _
      have cleanAfter : Clean { world with kernel := kernel }.kernel := clean
      have stops := execute_monitorStop_of_only only cleanAfter
      exact ⟨stops.1, stops.2⟩
  · rw [execute_cleanupCgroups_of_not_findsRoot .client finds]
    simp only [finds, false_or, Bool.false_eq_true, if_false, forall_const]

theorem crowded_limited : Crowded limited.kernel :=
  ⟨limited.kernel, anchored_limited, fun _ _ => rfl, rfl⟩

theorem cleanedUp_of_ok_iff_limited :
    CleanedUp (World.execute .none ratelimitCleanupAll limited).2 := by
  have only : OnlyLibraries .none := by
    intro site function fails
    contradiction
  have root := inForce_limited.settled.root 7 inForce_limited.hasCgroup
  exact (cleanedUp_of_ok_iff crowded_limited only).mpr (.inl ⟨rfl, rfl, root⟩)
    (by decide +kernel)

/-- The pidnl cgroup is there and cannot be got: success, and all stays. -/
theorem not_cleanedUp_of_ok :
    let faults := Faults.only [] .cgroupGetCgroup
    let outcome := World.execute faults ratelimitCleanupAll limited
    OnlyLibraries faults ∧ outcome.1 = .ok ∧ ¬ CleanedUp outcome.2 := by
  have missing : ¬ FindsRoot (.only [] .cgroupGetCgroup) limited.kernel := by
    intro finds
    have fails : (Faults.only [] .cgroupGetCgroup).here .cgroupGetCgroup = true := rfl
    rw [finds.2.1] at fails
    contradiction
  have outcome : World.execute (.only [] .cgroupGetCgroup) ratelimitCleanupAll limited =
      (.ok, limited) := by
    simp only [ratelimitCleanupAll, World.execute_bind, World.execute_inClient,
      execute_cleanupCgroups_of_not_findsRoot .client missing, Bool.false_eq_true,
      if_false, World.execute_pure]
  have only : OnlyLibraries (.only [] .cgroupGetCgroup) := by
    intro site function fails
    simp only [Faults.only, decide_eq_true_eq] at fails
    rw [fails.2]
    rfl
  simp only [outcome, true_and]
  refine ⟨only, fun cleanedUp => ?_⟩
  have present := inForce_limited.hasCgroup
  rw [cleanedUp.clean.cgroups 7] at present
  contradiction

end Pidnl.Monitor
