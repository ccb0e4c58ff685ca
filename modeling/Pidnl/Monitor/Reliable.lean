import Pidnl.Monitor.Outcome
import Pidnl.Ratelimit.ReadOutcome

/-! # Clients and daemon without failing calls

While no call fails and every watched process runs, the daemon only ever takes
pids into its table or drops the one it is told to drop.
-/

namespace Pidnl.Monitor

open Pidnl.Foundation Pidnl.System Pidnl.Ratelimit

def Watched (daemon : Option Daemon.Table) (pid : Int32) : Prop :=
  ∃ table, daemon = some table ∧ table.IsWatched pid

def Alive (kernel : Kernel) (daemon : Option Daemon.Table) : Prop :=
  ∀ pid, Watched daemon pid → kernel.running pid = true

@[simp] theorem not_watched_none (pid : Int32) : ¬ Watched none pid := by
  rintro ⟨table, absent, _⟩
  contradiction

@[simp] theorem watched_some (table : Daemon.Table) (pid : Int32) :
    Watched (some table) pid ↔ table.IsWatched pid := by
  simp [Watched]

theorem watched_getD (daemon : Option Daemon.Table) (pid : Int32) :
    (daemon.getD .empty).IsWatched pid ↔ Watched daemon pid := by
  cases daemon <;> simp

namespace Daemon

variable {kernel : Kernel} {table : Table} (pid : Int32)

theorem execute_addPidToWatch_of_running (settled : Settled kernel)
    (running : kernel.running pid = true) :
    let outcome := Kernel.execute .monitor .none (addPidToWatch pid table) kernel
    outcome.1.2 = table.watch pid kernel.nextId ∧ Quiet kernel outcome.2 := by
  have opened : (Kernel.exec .monitor false kernel (.pidfdOpen pid)).1 =
      some kernel.nextId := by
    simp [Kernel.exec, running]
  constructor
  · have result : (Kernel.execute .monitor .none (runCommand .watch pid table)
        kernel).1 = WatchTable.runCommand .watch table pid
        (Kernel.exec .monitor false kernel (.pidfdOpen pid)).1 :=
      execute_runCommand_result .none pid table .watch
    rw [opened] at result
    exact congrArg Prod.snd result
  · apply (execute_addPidToWatch .none pid table settled).2
    intro strips
    cases strips.2.2 with
    | inl fails => contradiction
    | inr dead =>
        rw [running] at dead
        contradiction

theorem execute_serveClient_of_alive (command : Command) {handled : Table}
    {result : MonitorCode} {middle : Kernel} (settled : Settled middle)
    (runs : Kernel.execute .monitor .none (runCommand command pid table) kernel =
      ((result, handled), middle))
    (alive : ∀ other, handled.IsWatched other → middle.running other = true) :
    let outcome := Kernel.execute .monitor .none (serveClient command pid table)
      kernel
    Quiet middle outcome.2 ∧
      outcome.1.2 = if command = .stop ∨ handled.watchedCount = 0 then none
        else some handled := by
  simp only [serveClient, Kernel.execute_inside, Faults.none_inside,
    Kernel.execute_bind, Kernel.execute_ite, Kernel.execute_pure, runs,
    execute_handleDeaths_of_live .none handled alive]
  split
  · exact ⟨quiet_closePidfds .none handled settled _, rfl⟩
  · exact ⟨.refl middle, rfl⟩

end Daemon

/-! ## Commands -/

structure Sound (world : World) : Prop where
  settled : Settled world.kernel
  alive : Alive world.kernel world.daemon

variable {world : World} (pid : Int32)

theorem execute_sendCommand (command : Command) :
    let served := Kernel.execute .monitor .none
      (Daemon.serveClient command pid (world.daemon.getD .empty)) world.kernel
    World.execute .none (sendCommand command pid) world =
      (served.1.1,
        { kernel := served.2, daemon := served.1.2, message := none }) := by
  cases present : world.daemon <;>
    simp [sendCommand, monitorEnsureRunning, askMonitor, execute_monitorConnect,
      World.exec, World.startDaemon, World.serve, present, connectFails]

theorem Sound.running_of_isWatched (sound : Sound world) {other : Int32}
    (watched : (world.daemon.getD .empty).IsWatched other) :
    world.kernel.running other = true :=
  sound.alive other ((watched_getD world.daemon other).mp watched)

theorem execute_monitorWatchPid (sound : Sound world)
    (running : world.kernel.running pid = true) :
    let after := (World.execute .none (monitorWatchPid pid) world).2
    Quiet world.kernel after.kernel ∧
      after.daemon = some ((world.daemon.getD .empty).watch pid world.kernel.nextId) := by
  have aliveBefore : ∀ other, (world.daemon.getD .empty).IsWatched other →
    world.kernel.running other = true := fun _ => sound.running_of_isWatched
  rw [monitorWatchPid, execute_sendCommand]
  generalize world.daemon.getD .empty = table at aliveBefore ⊢
  have added : (Kernel.execute .monitor .none (Daemon.addPidToWatch pid table)
      world.kernel).1.2 = table.watch pid world.kernel.nextId ∧
      Quiet world.kernel (Kernel.execute .monitor .none
        (Daemon.addPidToWatch pid table) world.kernel).2 :=
    Daemon.execute_addPidToWatch_of_running pid sound.settled running
  generalize ran : Kernel.execute .monitor .none (Daemon.addPidToWatch pid table)
    world.kernel = outcome at added
  rcases outcome with ⟨⟨result, handled⟩, middle⟩
  rcases added with ⟨isWatching, quiet⟩
  simp only at isWatching quiet
  have alive : ∀ other, handled.IsWatched other → middle.running other = true := by
    intro other watched
    rw [isWatching, WatchTable.isWatched_watch] at watched
    rw [quiet.running]
    cases watched with
    | inl already => exact aliveBefore other already
    | inr same => exact same.1 ▸ running
  rcases Daemon.execute_serveClient_of_alive pid .watch (sound.settled.quiet quiet)
    ran alive with ⟨quietTurn, table'⟩
  constructor
  · exact quiet.trans quietTurn
  · rw [table', if_neg, isWatching]
    simp only [reduceCtorEq, false_or, isWatching]
    exact WatchTable.watchedCount_watch_ne_zero table pid _

theorem execute_monitorUnwatchPid (sound : Sound world) :
    let after := (World.execute .none (monitorUnwatchPid pid) world).2
    Quiet world.kernel after.kernel ∧
      ∀ other, Watched after.daemon other ↔
        ((world.daemon.getD .empty).unwatch pid).IsWatched other := by
  have aliveBefore : ∀ other, (world.daemon.getD .empty).IsWatched other →
    world.kernel.running other = true := fun _ => sound.running_of_isWatched
  rw [monitorUnwatchPid, execute_sendCommand]
  generalize world.daemon.getD .empty = table at aliveBefore ⊢
  have dropped := Daemon.execute_removePidFromWatch .none pid table sound.settled
  generalize ran : Kernel.execute .monitor .none (Daemon.removePidFromWatch pid table)
    world.kernel = outcome at dropped
  rcases outcome with ⟨⟨result, handled⟩, middle⟩
  rcases dropped with ⟨isUnwatched, quiet⟩
  simp only at isUnwatched quiet
  have alive : ∀ other, handled.IsWatched other → middle.running other = true := by
    intro other watched
    rw [isUnwatched] at watched
    rw [quiet.running]
    exact aliveBefore other (WatchTable.isWatched_of_unwatch watched)
  rcases Daemon.execute_serveClient_of_alive pid .unwatch
    (sound.settled.quiet quiet) ran alive with ⟨quietTurn, table'⟩
  constructor
  · exact quiet.trans quietTurn
  · intro other
    rw [table', ← isUnwatched]
    split
    · rename_i ends
      have emptied := WatchTable.watchedCount_eq_zero_iff.mp (ends.resolve_left nofun)
      simp [emptied]
    · exact watched_some handled other

theorem execute_monitorStop (sound : Sound world) :
    let after := (World.execute .none monitorStop world).2
    Quiet world.kernel after.kernel ∧ after.daemon = none := by
  cases present : world.daemon with
  | none =>
      simp [monitorStop, execute_monitorConnect, connectFails, present, Quiet.refl]
  | some table =>
      have alive : ∀ other, table.IsWatched other →
          world.kernel.running other = true := by
        intro other watched
        apply sound.running_of_isWatched
        rw [present]
        exact watched
      have ran : Kernel.execute .monitor .none (Daemon.runCommand .stop 0 table)
        world.kernel = ((.ok, table), world.kernel) := rfl
      have turn := Daemon.execute_serveClient_of_alive 0 .stop sound.settled ran alive
      simp [monitorStop, askMonitor, execute_monitorConnect, connectFails, present,
        World.exec, World.serve, turn]

end Pidnl.Monitor
