import Pidnl.Monitor.Ledger

/-! # Operations keep the ledger

Each operation of the library answers as the ledger does, and leaves what the ledger says.
-/

namespace Pidnl.Monitor

open Pidnl.Foundation Pidnl.System Pidnl.Ratelimit

/-! ## Messages to the daemon -/

namespace Computer.Follows

variable {computer : Computer} {ledger : Ledger} {pid : Int32}

theorem serves {command : Command} {result : MonitorCode} {handled : Daemon.Table}
    {middle : Kernel} {told : Ledger} (follows : computer.Follows ledger)
    (goesOn : command ≠ .stop)
    (runs : Kernel.execute .monitor .none (Daemon.runCommand command pid computer.world.table)
      (Daemon.viewed computer.stale computer.world.kernel) = ((result, handled), middle))
    (agrees : Agrees told.seen middle handled told) (running : told.running = ledger.running)
    (stale : told.stale = ledger.stale) :
    (Computer.execute (sendCommand command pid) computer).2.Follows told.reap := by
  have within : ∀ pid, computer.stale pid = true → computer.world.table.IsWatched pid :=
    fun _ => follows.isWatched_of_stale
  have turns := Daemon.turns_serveClient agrees.settled agrees.distinct runs
  rw [Computer.execute_sendCommand within,
    Daemon.execute_viewed (Daemon.makesOnly_serveClient within command pid)]
  exact follows.of_viewed running stale (agrees.turn turns goesOn) rfl

/-- What WATCH does for a process that runs. Where the pid is stale, it is found in the
table. -/
theorem addPidToWatch (follows : computer.Follows ledger) (runs : ledger.running pid = true) :
    let added := Kernel.execute .monitor .none (Daemon.addPidToWatch pid computer.world.table)
      (Daemon.viewed computer.stale computer.world.kernel)
    Quiet (Daemon.viewed computer.stale computer.world.kernel) added.2 ∧
      added.1.2.PidsDistinct ∧
      ∀ other, added.1.2.IsWatched other ↔ other ∈ (ledger.watch pid).watched := by
  intro added
  have viewed := follows.viewed
  cases isStale : ledger.stale pid with
  | true =>
      have member := follows.within pid isStale
      have watched := (viewed.watched pid).mpr member
      have found : added = ((.ok, computer.world.table),
          Daemon.viewed computer.stale computer.world.kernel) := by
        simp only [added, Daemon.addPidToWatch, WatchTable.findPidSlot_isSome_iff.mpr watched,
          if_true, Kernel.execute_pure]
      rw [found]
      refine ⟨.refl _, viewed.distinct, fun other => ?_⟩
      rw [viewed.watched]
      refine (or_iff_left_of_imp ?_).symm.trans BoundedSet.mem_insertIfRoom.symm
      exact fun new => new.1 ▸ member
  | false =>
      have seen : (Daemon.viewed computer.stale computer.world.kernel).running pid = true := by
        rw [viewed.running, Ledger.seen, runs, isStale]
        rfl
      rcases Daemon.execute_addPidToWatch_of_running pid viewed.settled seen with
        ⟨isWatching, quiet⟩
      refine ⟨quiet, ?_, fun other => ?_⟩
      · rw [isWatching]
        exact viewed.distinct.runCommand .watch pid (some _)
      · rw [isWatching, WatchTable.isWatched_watch, viewed.watched,
          viewed.distinct.freeSlot_isSome_iff viewed.watched]
        exact BoundedSet.mem_insertIfRoom.symm

theorem watch (follows : computer.Follows ledger) (runs : ledger.running pid = true)
    (root : hasRoot computer.world.kernel = true) :
    (Computer.execute (monitorWatchPid pid) computer).2.Follows (ledger.watch pid).reap := by
  have added := follows.addPidToWatch runs
  generalize ran : Kernel.execute .monitor .none
    (Daemon.addPidToWatch pid computer.world.table)
    (Daemon.viewed computer.stale computer.world.kernel) = outcome at added
  rcases outcome with ⟨⟨result, handled⟩, middle⟩
  rcases added with ⟨quiet, distinct, watched⟩
  have still := follows.viewed.quiet quiet
  have agrees : Agrees ledger.seen middle handled (ledger.watch pid) :=
    ⟨still.settled, still.running, still.limits, distinct, watched, fun _ _ => by
      rw [hasRoot_quiet quiet]
      exact root⟩
  exact follows.serves nofun ran agrees rfl rfl

theorem unwatch (follows : computer.Follows ledger) (pid : Int32) :
    (Computer.execute (monitorUnwatchPid pid) computer).2.Follows
      (ledger.unwatch pid).reap := by
  have viewed := follows.viewed
  have dropped := Daemon.execute_removePidFromWatch .none pid computer.world.table
    viewed.settled
  generalize ran : Kernel.execute .monitor .none
    (Daemon.removePidFromWatch pid computer.world.table)
    (Daemon.viewed computer.stale computer.world.kernel) = outcome at dropped
  rcases outcome with ⟨⟨result, handled⟩, middle⟩
  rcases dropped with ⟨isUnwatched, quiet⟩
  simp only at isUnwatched quiet
  have still := viewed.quiet quiet
  have agrees : Agrees ledger.seen middle handled (ledger.unwatch pid) := by
    rw [isUnwatched]
    refine ⟨still.settled, still.running, still.limits, viewed.distinct.unwatch pid, ?_, ?_⟩
    · intro other
      rw [WatchTable.isWatched_unwatch_iff viewed.distinct, viewed.watched]
      exact BoundedSet.mem_erase.symm
    · exact fun other watched => still.root other (BoundedSet.mem_erase.mp watched).2
  exact follows.serves nofun ran agrees rfl rfl

theorem withKernel {kernel : Kernel} (follows : computer.Follows ledger) (limits : LimitStore)
    (agrees : Agrees ledger.running kernel computer.world.table (ledger.withLimits limits)) :
    ({ computer with world := { computer.world with kernel := kernel } } : Computer).Follows
      (ledger.withLimits limits) :=
  ⟨agrees, follows.stale, follows.within⟩

end Computer.Follows

theorem stops_monitorStop {computer : Computer} (settled : Settled computer.world.kernel)
    (distinct : computer.world.table.PidsDistinct)
    (within : ∀ pid, computer.stale pid = true → computer.world.table.IsWatched pid) :
    let after := (Computer.execute monitorStop computer).2
    Affects Set.univ computer.world.kernel after.world.kernel ∧
      (∀ pid, hasCgroup computer.world.kernel pid = false →
        hasCgroup after.world.kernel pid = false) ∧
      (∀ pid, ¬ after.world.table.IsWatched pid) ∧
      ∀ pid, after.stale pid = true → after.world.table.IsWatched pid := by
  cases present : computer.world.daemon with
  | none =>
      have unchanged : Computer.execute monitorStop computer = (.ok, computer) := by
        simp [monitorStop, Computer.execute_monitorConnect, present]
      rw [unchanged]
      exact ⟨.refl settled, fun _ absent => absent, fun pid => by simp [World.table, present],
        within⟩
  | some table =>
      have isTable : computer.world.table = table := by rw [World.table, present]; rfl
      rw [isTable] at distinct within
      have ran : Kernel.execute .monitor .none (Daemon.runCommand .stop 0 table)
          (Daemon.viewed computer.stale computer.world.kernel) =
        ((.ok, table), Daemon.viewed computer.stale computer.world.kernel) := rfl
      have turns := Daemon.turns_serveClient (settled.withRunning _) distinct ran
      rw [Computer.execute_monitorStop present,
        Daemon.execute_viewed (Daemon.makesOnly_serveClient within .stop 0)]
      refine ⟨⟨turns.affects.settled.withRunning _, turns.affects.cgroup2Mount,
        turns.affects.bpffsMount, rfl, ?_, ?_⟩, ?_, ?_, ?_⟩
      · exact fun pid outside => absurd (Set.mem_univ pid) outside
      · exact fun pid outside => absurd (Set.mem_univ pid) outside
      · intro pid absent
        by_cases isDying :
            pid ∈ Daemon.dying table (Daemon.viewed computer.stale computer.world.kernel)
        · exact turns.gone pid isDying
        · exact (turns.affects.cgroups pid isDying).trans absent
      · intro pid watched
        exact ((turns.watched pid).mp watched).1 rfl
      · intro pid isStale
        exact WatchTable.findPidSlot_isSome_iff.mp (Bool.and_eq_true_iff.mp isStale).2

/-! ## Setting a limit -/

section Install

variable {kernel : Kernel} {pid : Int32} (owner : Process) (config : RateLimitConfig)

/-- The process of a dead pid cannot join its cgroup. -/
theorem code_installLimit_of_dead (settled : Settled kernel) (positive : 0 < pid)
    (dead : kernel.running pid = false) :
    (Kernel.execute owner .none (installLimit pid config) kernel).1 = .libcgAttach := by
  have valid : ¬ pid ≤ 0 := Int32.not_le.mpr positive
  have noFault : ∀ name, createFails .none name = false := fun _ => rfl
  rcases execute_createCgroup_root owner .none settled (noFault _) with
    ⟨parent, affectsParent, root, _⟩
  simp only [installLimit, valid, if_false, Kernel.execute_bind]
  generalize Kernel.execute owner .none (createCgroup [cgroupRoot]) kernel = made
    at parent affectsParent root ⊢
  rcases execute_createCgroup_child owner .none affectsParent.settled root positive
    (noFault _) with ⟨child, affectsChild, _, _⟩
  simp only [parent, ne_eq, not_true, if_false, Kernel.execute_bind]
  generalize Kernel.execute owner .none (createCgroup (buildCgroupName pid)) made.2 = joined
    at child affectsChild ⊢
  have still : joined.2.running pid = false := by
    rw [affectsChild.running, affectsParent.running]
    exact dead
  simp [child, Kernel.exec, still]

end Install

theorem standingLimits_installed {kernel : Kernel} {pid : Int32} {config : RateLimitConfig}
    (positive : 0 < pid) (present : hasCgroup kernel pid = true)
    (slots : ∀ attachType, slot kernel pid attachType = installed config attachType .empty) :
    standingLimits kernel pid =
      { result := 0, uploadKbps := config.uploadKbps, downloadKbps := config.downloadKbps } := by
  simp [standingLimits, positive, present, slots, limit_installed_empty, RateLimitConfig.limit]

theorem code_deletePidCgroup (owner : Process) (kernel : Kernel) (pid : Int32) :
    (Kernel.execute owner .none (deletePidCgroup pid) kernel).1 =
      if hasCgroup kernel pid then .ok else .cgroupNotFound := by
  cases present : hasCgroup kernel pid with
  | true => exact (ok_deletePidCgroup_iff owner .none kernel pid).mpr ⟨present, rfl⟩
  | false =>
      rw [hasCgroup] at present
      simp [deletePidCgroup, Kernel.exec, present]

theorem Ledger.reap_unwatch (ledger : Ledger) (pid : Int32) :
    ((ledger.withLimits (Function.update ledger.limits pid none)).unwatch pid).reap =
      (ledger.unwatch pid).reap.withLimits
        (Function.update (ledger.unwatch pid).reap.limits pid none) := by
  have limits : ((ledger.withLimits (Function.update ledger.limits pid none)).unwatch
      pid).reap.limits = Function.update (ledger.unwatch pid).reap.limits pid none := by
    funext other
    simp only [Ledger.reap, Ledger.withLimits, Ledger.unwatch]
    by_cases same : other = pid
    · subst same
      simp
    · rw [Function.update_of_ne same, Function.update_of_ne same]
      rfl
  exact Ledger.ext rfl limits rfl rfl

theorem Ledger.reap_of_unwatched {ledger : Ledger} (unwatched : ∀ pid, pid ∉ ledger.watched)
    (within : ∀ pid, ledger.stale pid = true → pid ∈ ledger.watched) : ledger.reap = ledger := by
  have limits : ledger.reap.limits = ledger.limits := by
    funext pid
    exact if_neg fun dying => unwatched pid dying.1
  have watched : ledger.reap.watched = ledger.watched := by
    apply BoundedSet.ext
    ext pid
    exact iff_of_false (fun member => unwatched pid (BoundedSet.mem_filter.mp member).1)
      (unwatched pid)
  have stale : ledger.reap.stale = ledger.stale := by
    funext pid
    exact (Bool.eq_false_iff.mpr fun isStale => unwatched pid (within pid isStale)).symm
  exact Ledger.ext rfl limits watched stale

/-! ## The operations -/

namespace Computer.Follows

variable {computer : Computer} {ledger : Ledger}

theorem limitProcessBandwidth (follows : computer.Follows ledger) (pid : Int32)
    (config : RateLimitConfig) :
    let outcome := Computer.execute (Monitor.limitProcessBandwidth pid config) computer
    outcome.1 = ledger.answer (.limitProcessBandwidth pid config) ∧
      outcome.2.Follows (ledger.apply (.limitProcessBandwidth pid config)) := by
  have settled := follows.agrees.settled
  have outcome := execute_installLimit .client .none settled pid config
  simp only [Computer.execute_limitProcessBandwidth, Ledger.answer, Ledger.apply]
  by_cases invalid : pid ≤ 0
  · have refused : Kernel.execute .client .none (installLimit pid config)
        computer.world.kernel = (.invalidPid, computer.world.kernel) := by
      simp [installLimit, invalid]
    simp only [refused, invalid, if_true, reduceCtorEq, if_false, true_and]
    exact follows
  have positive : 0 < pid := Int32.not_le.mp invalid
  have root : hasRoot computer.world.kernel = true → hasRoot (Kernel.execute .client .none
      (installLimit pid config) computer.world.kernel).2 = true :=
    hasRoot_execute (keepsRoot_installLimit pid config) .client .none
  simp only [invalid, if_false]
  cases runs : ledger.running pid with
  | true =>
      have running : computer.world.kernel.running pid = true := by
        rw [follows.agrees.running, runs]
      have ok := outcome.succeeds.mpr
        ⟨positive, running, installFails_none pid config, sweptFree_none _ _ _⟩
      rcases outcome.slots ok with ⟨present, slots⟩
      generalize Kernel.execute .client .none (installLimit pid config)
        computer.world.kernel = installed at outcome root ok present slots ⊢
      have kept : Agrees ledger.running installed.2 computer.world.table (ledger.withLimits
          (ledger.limits.apply (.limitProcessBandwidth pid config))) := by
        apply follows.agrees.affects _ outcome.affects root
        · intro other same
          cases Set.mem_singleton_iff.mp same
          rw [standingLimits_installed positive present slots]
          simp [LimitStore.read, LimitStore.apply]
        · intro other different
          exact Function.update_of_ne different _ _
      have hasParent : hasRoot installed.2 = true := outcome.affects.settled.root pid present
      simp only [ok, if_true, true_and]
      exact (follows.withKernel _ kept).watch runs hasParent
  | false =>
      have running : computer.world.kernel.running pid = false := by
        rw [follows.agrees.running, runs]
      have code := code_installLimit_of_dead .client config settled positive running
      have gone := outcome.undone positive rfl (by rw [code]; decide)
      generalize Kernel.execute .client .none (installLimit pid config)
        computer.world.kernel = installed at outcome root code gone ⊢
      simp only [code, reduceCtorEq, if_false, Bool.false_eq_true, true_and]
      exact follows.withKernel _ (follows.agrees.removes outcome.affects root gone)

theorem unregisterRateLimiterByPid (follows : computer.Follows ledger) (pid : Int32) :
    let outcome := Computer.execute (Monitor.unregisterRateLimiterByPid pid) computer
    outcome.1 = ledger.answer (.unregisterRateLimiterByPid pid) ∧
      outcome.2.Follows (ledger.apply (.unregisterRateLimiterByPid pid)) := by
  have unwatched := follows.unwatch pid
  simp only [Monitor.unregisterRateLimiterByPid, Computer.execute_bind,
    Computer.execute_inClient]
  generalize (Computer.execute (monitorUnwatchPid pid) computer).2 = middle at unwatched ⊢
  have settled := unwatched.agrees.settled
  have removed := execute_deletePidCgroup .client .none settled pid
  have gone := execute_deletePidCgroup_none .client settled pid
  have root : hasRoot middle.world.kernel = true → hasRoot (Kernel.execute .client .none
      (deletePidCgroup pid) middle.world.kernel).2 = true :=
    hasRoot_execute (keepsRoot_deletePidCgroup pid) .client .none
  constructor
  · have same : (ledger.unwatch pid).reap.limits pid = ledger.limits pid := by
      simp [Ledger.reap, Ledger.unwatch]
    rw [code_deletePidCgroup, unwatched.agrees.hasCgroup_eq, same]
    rfl
  · have applied : ledger.apply (.unregisterRateLimiterByPid pid) =
        (ledger.unwatch pid).reap.withLimits
          (Function.update (ledger.unwatch pid).reap.limits pid none) :=
      ledger.reap_unwatch pid
    rw [applied]
    exact unwatched.withKernel _ (unwatched.agrees.removes removed.affects root gone)

theorem cleaned {after : Computer} {kernel : Kernel}
    (follows : computer.Follows ledger) (affects : Affects Set.univ kernel after.world.kernel)
    (running : kernel.running = computer.world.kernel.running)
    (gone : ∀ pid, hasCgroup after.world.kernel pid = false)
    (unwatched : ∀ pid, ¬ after.world.table.IsWatched pid)
    (within : ∀ pid, after.stale pid = true → after.world.table.IsWatched pid) :
    after.Follows (ledger.apply .ratelimitCleanupAll) where
  agrees :=
    { settled := affects.settled
      running := affects.running.trans (running.trans follows.agrees.running)
      limits := fun pid => standingLimits_of_absent (gone pid)
      distinct := fun slot _ entry _ active =>
        absurd ⟨slot, entry, active, rfl⟩ (unwatched entry.pid)
      watched := fun pid => iff_of_false (unwatched pid) (BoundedSet.notMem_empty pid)
      root := fun pid watched => absurd watched (BoundedSet.notMem_empty pid) }
  stale := by
    funext pid
    exact Bool.eq_false_iff.mpr fun isStale => unwatched pid (within pid isStale)
  within := fun _ isStale => absurd isStale Bool.false_ne_true

theorem ratelimitCleanupAll (follows : computer.Follows ledger) :
    let outcome := Computer.execute Monitor.ratelimitCleanupAll computer
    outcome.1 = ledger.answer .ratelimitCleanupAll ∧
      outcome.2.Follows (ledger.apply .ratelimitCleanupAll) := by
  rcases execute_cleanupCgroups .client follows.agrees.settled with ⟨ok, affects, gone⟩
  have flag := flag_cleanupCgroups .client follows.agrees.settled
  have within : ∀ pid, computer.stale pid = true → computer.world.table.IsWatched pid :=
    fun _ => follows.isWatched_of_stale
  simp only [Monitor.ratelimitCleanupAll, Computer.execute_bind, Computer.execute_inClient,
    Computer.execute_ite, Computer.execute_pure]
  generalize cleans : Kernel.execute .client .none cleanupCgroups computer.world.kernel =
    cleaned at ok affects gone flag ⊢
  rw [flag]
  cases root : hasRoot computer.world.kernel with
  | true =>
      simp only [if_true]
      let cleanedUp : Computer :=
        { computer with world := { computer.world with kernel := cleaned.2 } }
      have stops := stops_monitorStop (show Settled cleanedUp.world.kernel from affects.settled)
        follows.agrees.distinct within
      exact ⟨ok, follows.cleaned stops.1 affects.running (fun pid => stops.2.1 pid (gone pid))
        stops.2.2.1 stops.2.2.2⟩
  | false =>
      simp only [Bool.false_eq_true, if_false]
      refine ⟨ok, follows.cleaned (.refl affects.settled) affects.running gone ?_ within⟩
      intro pid watched
      have present := follows.agrees.root pid ((follows.agrees.watched pid).mp watched)
      rw [root] at present
      contradiction

theorem getRateLimitsFromCgroup (follows : computer.Follows ledger) (pid : Int32) :
    let outcome := Computer.execute (inClient (Ratelimit.getRateLimitsFromCgroup pid)) computer
    outcome.1 = ledger.limits.read pid ∧ outcome.2.Follows ledger := by
  simp only [Computer.execute_inClient]
  constructor
  · rw [execute_getRateLimitsFromCgroup .client follows.agrees.settled pid,
      follows.agrees.limits]
  · exact ⟨follows.agrees.quiet (quiet_getRateLimitsFromCgroup follows.agrees.settled .client
      .none pid), follows.stale, follows.within⟩

theorem wakes (follows : computer.Follows ledger) : computer.wakes.Follows ledger.reap := by
  rw [Computer.wakes]
  cases present : computer.world.daemon with
  | none =>
      have unwatched : ∀ pid, pid ∉ ledger.watched := by
        intro pid watched
        apply WatchTable.not_isWatched_empty pid
        have isWatched := (follows.agrees.watched pid).mpr watched
        rwa [World.table, present] at isWatched
      rw [Ledger.reap_of_unwatched unwatched follows.within]
      exact follows
  | some table =>
      have isTable : computer.world.table = table := by rw [World.table, present]; rfl
      have viewed := follows.viewed
      rw [isTable] at viewed
      have turns := Daemon.turns_idleTurn viewed.settled viewed.distinct
      simp only [Daemon.execute_viewed (Daemon.makesOnly_idleTurn table)]
      exact follows.of_viewed rfl rfl (viewed.turn turns trivial) rfl

end Computer.Follows

end Pidnl.Monitor
