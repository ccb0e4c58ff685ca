import Pidnl.Monitor.PinLifetime

/-! # What holds in every state that is reached

Whatever calls fail, and whatever processes come and go between the operations:
what stands is settled, and no pid has two entries in the watch table.
-/

namespace Pidnl.Monitor

open Pidnl.Foundation Pidnl.System Pidnl.Ratelimit

/-! ## Entries of different pids -/

namespace WatchTable

variable {Pidfd : Type} {table : WatchTable Pidfd}

def PidsDistinct (table : WatchTable Pidfd) : Prop :=
  ∀ slot other entry same, table.entries slot = some entry →
    table.entries other = some same → entry.pid = same.pid → slot = other

theorem pidsDistinct_empty : (empty : WatchTable Pidfd).PidsDistinct := by
  intro slot other entry same active
  cases active

theorem PidsDistinct.of_entries (distinct : table.PidsDistinct)
    {later : WatchTable Pidfd} (within : ∀ slot entry,
      later.entries slot = some entry → table.entries slot = some entry) :
    later.PidsDistinct := by
  intro slot other entry same active alsoActive equal
  exact distinct slot other entry same (within slot entry active)
    (within other same alsoActive) equal

theorem PidsDistinct.unwatch (distinct : table.PidsDistinct) (pid : Int32) :
    (table.unwatch pid).PidsDistinct :=
  distinct.of_entries fun _ _ => entries_of_unwatch

theorem PidsDistinct.insert (distinct : table.PidsDistinct) {entry : PidfdEntry Pidfd}
    (absent : ¬ table.IsWatched entry.pid) (free : table.FreeSlot) :
    (table.insert free entry).PidsDistinct := by
  have after : ∀ {slot : SlotIndex} {other : PidfdEntry Pidfd},
      (table.insert free entry).entries slot = some other →
        slot = free.1 ∧ other = entry ∨ table.entries slot = some other := by
    intro slot other active
    by_cases same : slot = free.1
    · subst same
      simp only [WatchTable.insert, Function.update_self, Option.some.injEq] at active
      exact .inl ⟨rfl, active.symm⟩
    · simp only [WatchTable.insert, Function.update_of_ne same] at active
      exact .inr active
  intro slot other first second active alsoActive equal
  rcases after active with ⟨new, rfl⟩ | old
  · rcases after alsoActive with ⟨alsoNew, _⟩ | alsoOld
    · exact new.trans alsoNew.symm
    · exact absurd ⟨other, second, alsoOld, equal.symm⟩ absent
  · rcases after alsoActive with ⟨_, rfl⟩ | alsoOld
    · exact absurd ⟨slot, first, old, equal⟩ absent
    · exact distinct slot other first second old alsoOld equal

theorem PidsDistinct.runCommand (distinct : table.PidsDistinct) (command : Command)
    (pid : Int32) (opened : Option Pidfd) :
    (runCommand command table pid opened).2.PidsDistinct := by
  cases command with
  | stop => exact distinct
  | unwatch => exact distinct.unwatch pid
  | watch =>
      simp only [WatchTable.runCommand, addPidToWatch]
      split
      · exact distinct
      · rename_i missing
        have absent : ¬ table.IsWatched pid := fun watched =>
          missing (findPidSlot_isSome_iff.mpr watched)
        split
        · exact distinct
        · split
          · exact distinct.unwatch pid
          · exact distinct.insert absent _

theorem not_isWatched_unwatch (distinct : table.PidsDistinct) (pid : Int32) :
    ¬ (table.unwatch pid).IsWatched pid := by
  intro watched
  rcases watched with ⟨slot, entry, active, holds⟩
  rcases Option.isSome_iff_exists.mp (findPidSlot_isSome_iff.mpr
    ⟨slot, entry, entries_of_unwatch active, holds⟩) with ⟨found, isFound⟩
  have same : slot = found.slot := distinct slot found.slot entry found.entry
    (entries_of_unwatch active) found.active (holds.trans found.holds.symm)
  rw [WatchTable.unwatch, removePidFromWatch, isFound, same] at active
  simp [clear] at active

end WatchTable

/-! ## The daemon -/

namespace Daemon

variable {kernel : Kernel} (faults : Faults)

theorem execute_unregisterRateLimiterByPid_result (pid : Int32) (table : Table) :
    (Kernel.execute .monitor faults (unregisterRateLimiterByPid pid table)
      kernel).1.2 = table.unwatch pid := by
  simp only [unregisterRateLimiterByPid, Kernel.execute_bind, Kernel.execute_pure,
    execute_removePidFromWatch_result]
  rfl

theorem entries_of_handleDeaths (slots : List SlotIndex) (table : Table)
    {slot : SlotIndex} {entry : PidfdEntry Fd}
    (active : (Kernel.execute .monitor faults (handleDeaths slots table)
      kernel).1.entries slot = some entry) : table.entries slot = some entry := by
  induction slots generalizing kernel table with
  | nil => exact active
  | cons first slots induction =>
      rw [handleDeaths] at active
      split at active
      · exact induction table active
      · rename_i dying _
        have readable : Kernel.exec .monitor (faults.here .total) kernel
          (.pidfdReadable dying.pid) = (!kernel.running dying.pid, kernel) := rfl
        simp only [ask, Kernel.execute_bind, Kernel.execute_request, readable,
          Kernel.execute_ite] at active
        split at active
        · have kept := induction _ active
          rw [execute_unregisterRateLimiterByPid_result] at kept
          exact WatchTable.entries_of_unwatch kept
        · exact induction table active

theorem entries_of_serveClient (command : Command) (pid : Int32) (table : Table)
    {after : Table} (goesOn : (Kernel.execute .monitor faults
      (serveClient command pid table) kernel).1.2 = some after) :
    ∃ handled, (Kernel.execute .monitor (faults.inside .monitorRun)
        (runCommand command pid table) kernel).1.2 = handled ∧
      ∀ slot entry, after.entries slot = some entry →
        handled.entries slot = some entry := by
  simp only [serveClient, Kernel.execute_inside, Kernel.execute_bind,
    Kernel.execute_ite, Kernel.execute_pure] at goesOn
  refine ⟨_, rfl, ?_⟩
  intro slot entry active
  split at goesOn
  · contradiction
  · simp only [Option.some.injEq] at goesOn
    rw [← goesOn] at active
    exact entries_of_handleDeaths _ _ _ active

theorem pidsDistinct_serveClient (command : Command) (pid : Int32) {table : Table}
    (distinct : table.PidsDistinct) {after : Table}
    (goesOn : (Kernel.execute .monitor faults (serveClient command pid table)
      kernel).1.2 = some after) : after.PidsDistinct := by
  rcases entries_of_serveClient faults command pid table goesOn with
    ⟨handled, isHandled, within⟩
  rw [execute_runCommand_result] at isHandled
  have handledDistinct : handled.PidsDistinct := by
    rw [← isHandled]
    exact distinct.runCommand command pid _
  exact handledDistinct.of_entries within

theorem settled_serveClient (settled : Settled kernel) (command : Command)
    (pid : Int32) (table : Table) :
    Settled (Kernel.execute .monitor faults (serveClient command pid table)
      kernel).2 := by
  rcases execute_serveClient faults pid table settled command with ⟨_, deaths, _⟩
  exact deaths.settled

theorem pidsDistinct_idleTurn {table : Table} (distinct : table.PidsDistinct)
    {after : Table} (goesOn : (Kernel.execute .monitor faults (idleTurn table)
      kernel).1 = some after) : after.PidsDistinct := by
  simp only [idleTurn, Kernel.execute_inside, Kernel.execute_bind,
    Kernel.execute_ite, Kernel.execute_pure] at goesOn
  split at goesOn
  · contradiction
  · simp only [Option.some.injEq] at goesOn
    rw [← goesOn]
    exact distinct.of_entries fun _ _ => entries_of_handleDeaths _ _ _

theorem settled_idleTurn (settled : Settled kernel) (table : Table) :
    Settled (Kernel.execute .monitor faults (idleTurn table) kernel).2 := by
  simp only [idleTurn, Kernel.execute_inside, Kernel.execute_bind,
    Kernel.execute_ite, Kernel.execute_pure]
  have survived := affects_handleDeaths (faults.inside .monitorRun) table settled
    (List.finRange MAX_WATCHED_PIDS)
  split
  · exact survived.settled.quiet (quiet_closePidfds _ _ survived.settled _)
  · exact survived.settled

end Daemon

/-! ## Clients -/

structure Orderly (world : World) : Prop where
  settled : Settled world.kernel
  distinct : ∀ table, world.daemon = some table → table.PidsDistinct

theorem orderly_fresh (cgroup2Mount bpffsMount : Path) (running : Int32 → Bool) :
    Orderly (.fresh cgroup2Mount bpffsMount running) :=
  ⟨settled_empty cgroup2Mount bpffsMount running, nofun⟩

section Operations

variable {world : World} {faults : Faults}

theorem Orderly.withKernel (orderly : Orderly world) {kernel : Kernel}
    (settled : Settled kernel) : Orderly { world with kernel := kernel } :=
  ⟨settled, orderly.distinct⟩

theorem orderly_message {Reply : Type} {call : ClientCall Reply}
    (isMessage : IsMessage call) (orderly : Orderly world) :
    Orderly (World.exec faults world call).2 := by
  cases call with
  | kernel call => exact isMessage.elim
  | fork =>
      simp only [World.exec, World.startDaemon]
      split
      · exact orderly
      · split
        · exact orderly
        · split
          · refine ⟨orderly.settled, ?_⟩
            intro table ended
            cases ended
          · refine ⟨orderly.settled, ?_⟩
            intro table started
            cases started
            exact WatchTable.pidsDistinct_empty
  | write command pid =>
      simp only [World.exec]
      split
      · exact orderly
      · exact ⟨orderly.settled, orderly.distinct⟩
  | read =>
      simp only [World.exec, World.serve]
      split
      · rename_i table command pid listens _
        split
        · exact ⟨orderly.settled, orderly.distinct⟩
        · constructor
          · exact Daemon.settled_serveClient faults orderly.settled command pid table
          · intro after goesOn
            exact Daemon.pidsDistinct_serveClient faults command pid
              (orderly.distinct table listens) goesOn
      · exact orderly
  | socket => exact orderly
  | connect => exact orderly
  | pipe => exact orderly
  | poll => exact orderly

theorem orderly_talks {program : ClientProgram α} (talks : Talks program)
    (orderly : Orderly world) : Orderly (World.execute faults program world).2 := by
  have preserved : ∀ {Reply : Type} (site : List Frame) (call : ClientCall Reply)
      (state : World), IsMessage call → Orderly state →
      Orderly (World.environment faults site call state).2 := by
    intro Reply site call state isMessage standing
    exact orderly_message isMessage standing
  exact Program.Makes.run_preserves talks preserved orderly

theorem settled_cleanupCgroups (owner : Process) {kernel : Kernel}
    (settled : Settled kernel) :
    Settled (Kernel.execute owner faults cleanupCgroups kernel).2 := by
  apply cleanupCgroups_preserves _ _ settled
  · intro standing pid _ settled
    exact (execute_deletePidCgroup owner faults settled pid).affects.settled
  · intro standing childless settled
    exact settled_removeCgroup settled childless

theorem orderly_operation (orderly : Orderly world) (operation : Operation) :
    Orderly (World.execute faults operation.program world).2 := by
  cases operation with
  | limitProcessBandwidth pid config =>
      have installed := orderly.withKernel
        (execute_installLimit .client faults orderly.settled pid config).affects.settled
      rw [Operation.program, execute_limitProcessBandwidth]
      split
      · exact orderly_talks (talks_sendCommand .watch pid) installed
      · exact installed
  | unregisterRateLimiterByPid pid =>
      have unwatched : Orderly (World.execute faults (sendCommand .unwatch pid)
        world).2 := orderly_talks (talks_sendCommand .unwatch pid) orderly
      simp only [Operation.program, unregisterRateLimiterByPid, monitorUnwatchPid,
        World.execute_bind, World.execute_inClient]
      exact unwatched.withKernel
        (execute_deletePidCgroup .client faults unwatched.settled pid).affects.settled
  | ratelimitCleanupAll =>
      have settled : Settled (Kernel.execute .client faults cleanupCgroups
        world.kernel).2 := settled_cleanupCgroups .client orderly.settled
      have cleaned := orderly.withKernel settled
      simp only [Operation.program, ratelimitCleanupAll, World.execute_bind,
        World.execute_inClient, World.execute_ite, World.execute_pure]
      split
      · exact orderly_talks talks_monitorStop cleaned
      · exact cleaned

end Operations

/-! ## Runs -/

theorem orderly_react {world next : World} {event : Event} (orderly : Orderly world)
    (reacts : world.react event = some next) : Orderly next := by
  cases event with
  | processes running =>
      cases reacts
      exact ⟨orderly.settled.withRunning running, orderly.distinct⟩
  | operation faults operation =>
      cases reacts
      exact orderly_operation orderly operation
  | idleTurn faults =>
      cases reacts
      rw [World.idleTurn]
      split
      · exact orderly
      · rename_i table listens
        constructor
        · exact Daemon.settled_idleTurn faults orderly.settled table
        · intro after goesOn
          exact Daemon.pidsDistinct_idleTurn faults (orderly.distinct table listens) goesOn

/-- Every state that is reached is orderly. -/
theorem orderly_of_run (cgroup2Mount bpffsMount : Path) (running : Int32 → Bool)
    {events : List Event} {world : World}
    (run : perform World.react (.fresh cgroup2Mount bpffsMount running) events =
      some world) : Orderly world := by
  apply perform.invariant _ (orderly_fresh cgroup2Mount bpffsMount running) run
  intro state event next orderly reacts
  exact orderly_react orderly reacts

end Pidnl.Monitor
