import Pidnl.Monitor.World
import Pidnl.Ratelimit.RemoveOutcome

/-! # What the monitor does to what stands

For every choice of failing calls, what the daemon's turn leaves standing, and
which daemon a client's command reaches.
-/

namespace Pidnl.Monitor

open Pidnl.Foundation Pidnl.System Pidnl.Ratelimit

/-! ## The daemon's functions -/

namespace Daemon

variable {kernel : Kernel} (faults : Faults) (pid : Int32) (table : Table)

theorem execute_removePidFromWatch_result :
    (Kernel.execute .monitor faults (removePidFromWatch pid table) kernel).1 =
      WatchTable.removePidFromWatch table pid := by
  rw [removePidFromWatch, WatchTable.removePidFromWatch]
  cases table.findPidSlot pid <;> rfl

theorem execute_removePidFromWatch (settled : Settled kernel) :
    let outcome := Kernel.execute .monitor faults (removePidFromWatch pid table) kernel
    outcome.1.2 = table.unwatch pid ∧ Quiet kernel outcome.2 := by
  constructor
  · rw [execute_removePidFromWatch_result]
    rfl
  · rw [removePidFromWatch]
    cases table.findPidSlot pid with
    | none => exact .refl kernel
    | some found => exact exec_close .monitor settled _ _

theorem execute_runCommand_result (command : Command) :
    (Kernel.execute .monitor faults (runCommand command pid table) kernel).1 =
      WatchTable.runCommand command table pid
        (Kernel.exec .monitor (faults.here .pidfdOpen) kernel (.pidfdOpen pid)).1 := by
  cases command with
  | stop => rfl
  | unwatch => exact execute_removePidFromWatch_result faults pid table
  | watch =>
      simp only [runCommand, addPidToWatch, WatchTable.runCommand,
        WatchTable.addPidToWatch]
      split
      · rfl
      · cases table.freeSlot with
        | none => rfl
        | some slot =>
            simp only [ask, Kernel.execute_bind, Kernel.execute_request]
            generalize Kernel.exec .monitor (faults.here .pidfdOpen) kernel
              (.pidfdOpen pid) = opened
            rcases opened with ⟨pidfd, after⟩
            cases pidfd with
            | none =>
                simp only [unregisterRateLimiterByPid, Kernel.execute_bind,
                  Kernel.execute_pure, execute_removePidFromWatch_result]
            | some pidfd => rfl

theorem execute_unregisterRateLimiterByPid (settled : Settled kernel) :
    let outcome := Kernel.execute .monitor faults
      (unregisterRateLimiterByPid pid table) kernel
    outcome.1.2 = table.unwatch pid ∧
      RemoveOutcome faults pid kernel outcome.2 := by
  rcases execute_removePidFromWatch faults pid table settled with ⟨after, quiet⟩
  simp only [unregisterRateLimiterByPid, Kernel.execute_bind, Kernel.execute_pure]
  have removed := execute_deletePidCgroup .monitor faults (settled.quiet quiet) pid
  refine ⟨after, ?_⟩
  constructor
  · exact (Affects.of_quiet settled quiet).trans removed.affects
  · rw [removed.cgroup, Settled.hasCgroup_quiet quiet]
  · intro attachType
    rw [removed.slots, Settled.hasCgroup_quiet quiet, settled.slot_quiet quiet]

def deadPids (kernel : Kernel) : Set Int32 := { pid | kernel.running pid = false }

theorem affects_handleDeaths (settled : Settled kernel) (slots : List SlotIndex) :
    Affects (deadPids kernel) kernel
      (Kernel.execute .monitor faults (handleDeaths slots table) kernel).2 := by
  induction slots generalizing kernel table with
  | nil => exact .refl settled
  | cons slot slots induction =>
      rw [handleDeaths]
      split
      · exact induction table settled
      · rename_i entry _
        simp only [ask, Kernel.execute_bind, Kernel.execute_request]
        by_cases runs : kernel.running entry.pid = true
        · have readable : Kernel.exec .monitor (faults.here .total) kernel
              (.pidfdReadable entry.pid) = (false, kernel) := by
            simp [Kernel.exec, runs]
          simp only [readable, Bool.false_eq_true, if_false]
          exact induction table settled
        · have readable : Kernel.exec .monitor (faults.here .total) kernel
              (.pidfdReadable entry.pid) = (true, kernel) := by
            simp [Kernel.exec, runs]
          simp only [readable, if_true, Kernel.execute_bind]
          have outcome := execute_unregisterRateLimiterByPid faults entry.pid table
            settled
          have dead : ({entry.pid} : Set Int32) ⊆ deadPids kernel := by
            rw [Set.singleton_subset_iff]
            exact Bool.eq_false_iff.mpr runs
          have first := outcome.2.affects.mono dead
          have rest := induction (Kernel.execute .monitor faults
            (unregisterRateLimiterByPid entry.pid table) kernel).1.2 first.settled
          rw [deadPids, first.running] at rest
          exact first.trans rest

theorem execute_handleDeaths_of_live
    (live : ∀ pid, table.IsWatched pid → kernel.running pid = true)
    (slots : List SlotIndex) :
    Kernel.execute .monitor faults (handleDeaths slots table) kernel =
      (table, kernel) := by
  induction slots with
  | nil => rfl
  | cons slot slots induction =>
      rw [handleDeaths]
      split
      · exact induction
      · rename_i entry active
        have runs := live entry.pid ⟨slot, entry, active, rfl⟩
        have readable : Kernel.exec .monitor (faults.here .total) kernel
            (.pidfdReadable entry.pid) = (false, kernel) := by
          simp [Kernel.exec, runs]
        simp only [ask, Kernel.execute_bind, Kernel.execute_request, readable,
          Bool.false_eq_true, if_false]
        exact induction

theorem quiet_closePidfds (settled : Settled kernel) (slots : List SlotIndex) :
    Quiet kernel
      (Kernel.execute .monitor faults (closePidfds table slots) kernel).2 := by
  induction slots generalizing kernel with
  | nil => exact .refl kernel
  | cons slot slots induction =>
      rw [closePidfds]
      split
      · exact induction settled
      · rename_i entry _
        simp only [ask, Kernel.execute_bind, Kernel.execute_request]
        have closed := exec_close .monitor settled (faults.here .total) entry.pidfd
        exact closed.trans (induction (settled.quiet closed))

/-- WATCH finds no entry, takes a slot and gets no pidfd: the daemon removes the
limit it was asked to watch over. -/
def WatchStrips (faults : Faults) (kernel : Kernel) (table : Table) (pid : Int32) :
    Prop :=
  ¬ table.IsWatched pid ∧ table.freeSlot.isSome ∧
    (faults.here .pidfdOpen = true ∨ kernel.running pid = false)

/-- WATCH removes a limit in this one case and touches nothing else. -/
theorem execute_addPidToWatch (settled : Settled kernel) :
    let after := (Kernel.execute .monitor faults (addPidToWatch pid table) kernel).2
    (WatchStrips faults kernel table pid → RemoveOutcome faults pid kernel after) ∧
      (¬ WatchStrips faults kernel table pid → Quiet kernel after) := by
  simp only [addPidToWatch, WatchStrips]
  by_cases watched : (table.findPidSlot pid).isSome = true
  · have isWatched := WatchTable.findPidSlot_isSome_iff.mp watched
    simp only [watched, if_true, Kernel.execute_pure]
    exact ⟨fun strips => absurd isWatched strips.1, fun _ => .refl kernel⟩
  have unwatched : ¬ table.IsWatched pid := fun isWatched =>
    watched (WatchTable.findPidSlot_isSome_iff.mpr isWatched)
  simp only [watched, Bool.false_eq_true, if_false]
  cases free : table.freeSlot with
  | none =>
      simp only [Kernel.execute_pure]
      exact ⟨fun strips => absurd strips.2.1 (by simp), fun _ => .refl kernel⟩
  | some slot =>
      simp only [ask, Kernel.execute_bind, Kernel.execute_request]
      by_cases opens : faults.here .pidfdOpen = true ∨ kernel.running pid = false
      · have failed : Kernel.exec .monitor (faults.here .pidfdOpen) kernel
            (.pidfdOpen pid) = (none, kernel) := by
          rcases opens with fails | dead <;> simp [Kernel.exec, *]
        simp only [failed, Kernel.execute_bind, Kernel.execute_pure]
        constructor
        · intro _
          exact (execute_unregisterRateLimiterByPid faults pid table settled).2
        · exact fun kept => absurd ⟨unwatched, rfl, opens⟩ kept
      · have both : faults.here .pidfdOpen = false ∧ kernel.running pid = true := by
          simpa using opens
        have opened : Kernel.exec .monitor (faults.here .pidfdOpen) kernel
            (.pidfdOpen pid) =
            (some kernel.nextId, kernel.openDescriptor .monitor (.pidfd pid)) := by
          simp [Kernel.exec, both]
        simp only [opened, Kernel.execute_pure]
        constructor
        · exact fun strips => absurd strips.2.2 opens
        · intro _
          exact quiet_openDescriptor kernel .monitor fun _ => Target.noConfusion

theorem execute_serveClient (settled : Settled kernel) (command : Command) :
    let inner := faults.inside .monitorRun
    let after := (Kernel.execute .monitor faults (serveClient command pid table)
      kernel).2
    ∃ middle, Affects (deadPids kernel) middle after ∧
      (command = .watch ∧ WatchStrips inner kernel table pid →
        RemoveOutcome inner pid kernel middle) ∧
      (¬(command = .watch ∧ WatchStrips inner kernel table pid) →
        Quiet kernel middle) := by
  simp only [serveClient, Kernel.execute_inside, Kernel.execute_bind,
    Kernel.execute_ite, Kernel.execute_pure]
  generalize faults.inside .monitorRun = inner
  have handled : (command = .watch ∧ WatchStrips inner kernel table pid →
        RemoveOutcome inner pid kernel (Kernel.execute .monitor inner
          (runCommand command pid table) kernel).2) ∧
      (¬(command = .watch ∧ WatchStrips inner kernel table pid) →
        Quiet kernel (Kernel.execute .monitor inner
          (runCommand command pid table) kernel).2) := by
    cases command with
    | watch => simpa [runCommand] using execute_addPidToWatch inner pid table settled
    | unwatch =>
        have unwatches := execute_removePidFromWatch inner pid table settled
        simpa [runCommand] using unwatches.2
    | stop => simpa [runCommand] using Quiet.refl kernel
  generalize Kernel.execute .monitor inner (runCommand command pid table) kernel =
    served at handled ⊢
  have alive : Settled served.2 ∧ served.2.running = kernel.running := by
    by_cases strips : command = .watch ∧ WatchStrips inner kernel table pid
    · have removed := handled.1 strips
      exact ⟨removed.affects.settled, removed.affects.running⟩
    · have quiet := handled.2 strips
      exact ⟨settled.quiet quiet, quiet.running⟩
  refine ⟨served.2, ?_, handled⟩
  have deaths := affects_handleDeaths inner served.1.2 alive.1
    (List.finRange MAX_WATCHED_PIDS)
  rw [deadPids, alive.2] at deaths
  generalize Kernel.execute .monitor inner (handleDeaths
    (List.finRange MAX_WATCHED_PIDS) served.1.2) served.2 = survived at deaths ⊢
  split
  · exact deaths.trans (.of_quiet deaths.settled
      (quiet_closePidfds inner survived.1 deaths.settled _))
  · exact deaths

end Daemon

/-! ## The client's side -/

variable (faults : Faults) (world : World)

def connectFails (faults : Faults) : Bool :=
  faults.here .socket || faults.here .connect

theorem execute_monitorConnect :
    World.execute faults monitorConnect world =
      (!connectFails faults && world.daemon.isSome, world) := by
  simp only [monitorConnect, askMonitor, World.execute_bind, World.execute_request,
    World.exec, connectFails]
  rcases Bool.eq_false_or_eq_true (faults.here .socket) with fails | opens
  · simp [fails]
  · simp [opens, World.exec]

def started (faults : Faults) (daemon : Option Daemon.Table) :
    Option Daemon.Table :=
  if faults.here .startDaemon then daemon
  else if faults.here .bindSocket then none
  else some .empty

def ensured (faults : Faults) (daemon : Option Daemon.Table) :
    Option Daemon.Table :=
  let inner := faults.inside .monitorEnsureRunning
  if !connectFails (inner.inside .monitorConnect) && daemon.isSome then daemon
  else if inner.here .pipe || inner.here .fork || inner.here .poll ||
      connectFails (inner.inside .reconnect) then none
  else started inner daemon

theorem startDaemon_eq :
    World.startDaemon faults world =
      { world with daemon := started faults world.daemon } := by
  rw [World.startDaemon, started]
  split
  · rfl
  · split <;> rfl

def heard (faults : Faults) (daemon : Option Daemon.Table) : Option Daemon.Table :=
  let inner := faults.inside .sendCommand
  if inner.here .write || inner.here .accept || inner.here .peerCredentials ||
      inner.here .readCommand then none
  else ensured inner daemon

section Setting

variable (pid : Int32) (config : RateLimitConfig)

theorem execute_limitProcessBandwidth :
    let installed := Kernel.execute .client faults (installLimit pid config)
      world.kernel
    let next := { world with kernel := installed.2 }
    World.execute faults (limitProcessBandwidth pid config) world =
      if installed.1 = .ok then
        (.ok, (World.execute faults (monitorWatchPid pid) next).2)
      else (installed.1, next) := by
  simp only [limitProcessBandwidth, World.execute_bind, World.execute_inClient]
  generalize Kernel.execute .client faults (installLimit pid config) world.kernel =
    installed
  by_cases ok : installed.1 = .ok
  · simp only [ok, ne_eq, not_true, if_false, if_true, World.execute_bind,
      World.execute_pure]
  · simp only [ok, ne_eq, not_false_eq_true, if_true, if_false, World.execute_pure]

theorem ok_limitProcessBandwidth_iff (settled : Settled world.kernel) :
    (World.execute faults (limitProcessBandwidth pid config) world).1 = .ok ↔
      0 < pid ∧ world.kernel.running pid = true ∧
        installFails faults pid config = false ∧
        SweptFree faults world.kernel pid config := by
  rw [← (execute_installLimit .client faults settled pid config).succeeds,
    execute_limitProcessBandwidth]
  split
  · rename_i ok
    simp only [ok]
  · exact Iff.rfl

end Setting

end Pidnl.Monitor
