import Pidnl.Monitor.OpenPidfds
import Pidnl.Usage.System

/-! # What stays open between two events

Command lines, requests and turns of the daemon close what they open. What is open at any
time between them is what the daemon watches processes by.
-/

namespace Pidnl.Usage

open Pidnl.Foundation Pidnl.System Pidnl.Monitor
open Pidnl.Cli (CliCall)
open Pidnl.Gui.Commands (LibraryCall serveLine)

section Events

variable {computer : Computer}

theorem opensPidfds_library (opens : computer.OpensPidfds) (machine : Discovery.Machine)
    (call : LibraryCall Reply) : (onComputer.library machine call computer).2.OpensPidfds := by
  cases call with
  | getNetworkProcesses => exact opens
  | getRateLimitsFromCgroup pid => exact opens.getRateLimitsFromCgroup pid
  | unregisterRateLimiterByPid pid => exact opens.unregisterRateLimiterByPid pid
  | limitProcessBandwidth pid config => exact opens.limitProcessBandwidth pid config
  | ratelimitCleanupAll => exact opens.ratelimitCleanupAll

theorem opensPidfds_commandLine (opens : computer.OpensPidfds) (surroundings : Surroundings)
    (site : List Frame) (call : CliCall Reply) :
    (commandLine onComputer surroundings site call computer).2.OpensPidfds := by
  cases call with
  | library call => exact opensPidfds_library opens surroundings.machine call
  | startup call => cases call <;> exact opens
  | geteuid => exact opens
  | calloc count => exact opens
  | printf text => exact opens
  | fprintf text => exact opens

theorem opensPidfds_step (opens : computer.OpensPidfds) (event : Event) :
    (step onComputer computer event).2.OpensPidfds := by
  cases event with
  | starts pid => exact opens.starts pid
  | exits pid => exact opens.exits pid
  | wakes => exact opens.wakes
  | pidnl surroundings argv input =>
      have all : (Cli.main argv input).Makes fun _ _ => True :=
        Program.makes_all _ fun _ _ => trivial
      show Computer.OpensPidfds ((Cli.main argv input).run (commandLine onComputer surroundings)
        computer).2
      apply all.run_preserves _ opens
      exact fun site call state _ opens => opensPidfds_commandLine opens surroundings site call
  | request machine call =>
      have all : (serveLine call.command).Makes fun _ _ => True :=
        Program.makes_all _ fun _ _ => trivial
      show Computer.OpensPidfds ((serveLine call.command).run (helper onComputer machine)
        computer).2
      apply all.run_preserves _ opens
      exact fun _ call state _ opens => opensPidfds_library opens machine call

end Events

theorem slot_of_pidfd {table : Daemon.Table} (once : table.pidfds.Nodup) {first second : SlotIndex}
    {entry other : PidfdEntry Fd} (active : table.entries first = some entry)
    (isOther : table.entries second = some other) (same : entry.pidfd = other.pidfd) :
    first = second := by
  by_contra different
  let found : table.ActiveSlot entry.pid := ⟨first, entry, active, rfl⟩
  rw [table.pidfds_clear found, Multiset.singleton_add, Multiset.nodup_cons] at once
  apply once.1
  have kept : (table.clear found).entries second = some other := by
    rw [← isOther]
    exact Function.update_of_ne (Ne.symm different) none table.entries
  exact WatchTable.mem_pidfds.mpr ⟨second, other, kept, same.symm⟩

/-- Whatever happens, in whatever order, what is open afterwards are the pidfds in the
table of the daemon, one for each slot in use. -/
theorem open_iff_watched (cgroup2Mount bpffsMount : Path) (running : Int32 → Bool)
    (events : List Event) :
    let world := (stateAfter (step onComputer) (.fresh cgroup2Mount bpffsMount running)
      events).world
    (∀ fd, (world.kernel.descriptors fd).isSome ↔
      ∃ slot entry, world.table.entries slot = some entry ∧ entry.pidfd = fd) ∧
    ∀ first second entry other, world.table.entries first = some entry →
      world.table.entries second = some other → entry.pidfd = other.pidfd →
        first = second := by
  intro world
  have preserved : ∀ computer event, Computer.OpensPidfds computer → True →
      (step onComputer computer event).2.OpensPidfds :=
    fun _ event opens _ => opensPidfds_step opens event
  have opens : (stateAfter (step onComputer) (.fresh cgroup2Mount bpffsMount running)
      events).OpensPidfds :=
    invariant_stateAfter preserved (.fresh cgroup2Mount bpffsMount running)
      fun _ _ _ _ => trivial
  constructor
  · intro fd
    have member := congrArg (fd ∈ ·) opens.only.isOpen
    rw [← WatchTable.mem_pidfds]
    simpa [Kernel.openFds] using member
  · intro first second entry other active isOther same
    exact slot_of_pidfd opens.only.once active isOther same

end Pidnl.Usage
