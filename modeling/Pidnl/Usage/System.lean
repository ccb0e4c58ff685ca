import Pidnl.Cli.Table
import Pidnl.Foundation.Simulation
import Pidnl.Monitor.Bookkeeping

/-! # The whole of pidnl

Command lines, requests to the helper, the daemon's turns, and processes that start and
end, in any order, with pids that are given out again. The same front ends run over the
library with its kernel and daemon, and over the ledger: nothing that they print tells the
one from the other.
-/

namespace Pidnl.Usage

open Pidnl.Foundation Pidnl.System Pidnl.Ratelimit Pidnl.Monitor
open Pidnl.Cli (CliCall Ending textOf printed)
open Pidnl.Gui (Call)
open Pidnl.Gui.Commands (LibraryCall serveLine)

/-! ## What pidnl is run on -/

structure Surroundings where
  /-- Whether `cgroup_init` succeeds. -/
  initialises : Bool
  mount : Option Path
  euid : UInt32
  /-- Whether there is memory for an array with so many limits. -/
  allocates : Nat → Bool
  machine : Discovery.Machine

/-- A state with what the functions of the library reply and do in it, and with what
happens beside them. -/
structure Backing (State : Type) where
  library : {Reply : Type} → Discovery.Machine → LibraryCall Reply → State → Reply × State
  starts : State → Int32 → State
  exits : State → Int32 → State
  wakes : State → State

section Backing

variable {State : Type} (backing : Backing State)

def commandLine (surroundings : Surroundings) : Environment Frame CliCall State :=
  fun _ call state =>
    match call with
    | .startup .cgroupInit => (surroundings.initialises, state)
    | .startup .getCgroup2Mount => (surroundings.mount, state)
    | .library call => backing.library surroundings.machine call state
    | .geteuid => (surroundings.euid, state)
    | .calloc count => (surroundings.allocates count, state)
    | .printf _ => ((), state)
    | .fprintf _ => ((), state)

def helper (machine : Discovery.Machine) : Environment Unit LibraryCall State :=
  fun _ call state => backing.library machine call state

inductive Event
  /-- A process starts under a pid that no other process has, whatever the daemon watches. -/
  | starts (pid : Int32)
  | exits (pid : Int32)
  /-- The daemon wakes up for the deaths of processes. -/
  | wakes
  | pidnl (surroundings : Surroundings) (argv : List Bytes) (input : Bytes)
  /-- The helper serves what a call of the graphical interface has written. -/
  | request (machine : Discovery.Machine) (call : Call)

inductive Output
  | nothing
  | exited (ending : Ending) (output errors : Bytes)
  | replied (lines : Option (List Gui.Line))
deriving DecidableEq

def errorOf : Exchange CliCall → Bytes
  | ⟨.fprintf text, _⟩ => text
  | _ => []

def step (state : State) : Event → Output × State
  | .starts pid => (.nothing, backing.starts state pid)
  | .exits pid => (.nothing, backing.exits state pid)
  | .wakes => (.nothing, backing.wakes state)
  | .pidnl surroundings argv input =>
      let main := Cli.main argv input
      let exchanges := main.exchanges (commandLine backing surroundings) state
      let ended := main.run (commandLine backing surroundings) state
      (.exited ended.1 (printed exchanges) (exchanges.flatMap errorOf), ended.2)
  | .request machine call =>
      let served := (serveLine call.command).run (helper backing machine) state
      (.replied served.1, served.2)

end Backing

/-! ## The computer and the ledger -/

/-- The functions of the library with no failing call inside them. -/
def onComputer : Backing Computer where
  library := fun machine call computer =>
    match call with
    | .getNetworkProcesses => (Discovery.getNetworkProcesses machine, computer)
    | .getRateLimitsFromCgroup pid =>
        Computer.execute (inClient (getRateLimitsFromCgroup pid)) computer
    | .unregisterRateLimiterByPid pid =>
        Computer.execute (Monitor.unregisterRateLimiterByPid pid) computer
    | .limitProcessBandwidth pid config =>
        Computer.execute (Monitor.limitProcessBandwidth pid config) computer
    | .ratelimitCleanupAll => Computer.execute Monitor.ratelimitCleanupAll computer
  starts := Computer.starts
  exits := Computer.exits
  wakes := Computer.wakes

def onLedger : Backing Ledger where
  library := fun machine call ledger =>
    match call with
    | .getNetworkProcesses => (Discovery.getNetworkProcesses machine, ledger)
    | .getRateLimitsFromCgroup pid => (ledger.limits.read pid, ledger)
    | .unregisterRateLimiterByPid pid =>
        (ledger.answer (.unregisterRateLimiterByPid pid),
          ledger.apply (.unregisterRateLimiterByPid pid))
    | .limitProcessBandwidth pid config =>
        (ledger.answer (.limitProcessBandwidth pid config),
          ledger.apply (.limitProcessBandwidth pid config))
    | .ratelimitCleanupAll =>
        (ledger.answer .ratelimitCleanupAll, ledger.apply .ratelimitCleanupAll)
  starts := Ledger.starts
  exits := Ledger.exits
  wakes := Ledger.reap

section OnLedger

variable (machine : Discovery.Machine) (pid : Int32) (ledger : Ledger)

@[simp] theorem onLedger_getNetworkProcesses :
    onLedger.library machine .getNetworkProcesses ledger =
      (Discovery.getNetworkProcesses machine, ledger) := rfl

@[simp] theorem onLedger_getRateLimitsFromCgroup :
    onLedger.library machine (.getRateLimitsFromCgroup pid) ledger =
      (ledger.limits.read pid, ledger) := rfl

@[simp] theorem onLedger_unregisterRateLimiterByPid :
    onLedger.library machine (.unregisterRateLimiterByPid pid) ledger =
      (ledger.answer (.unregisterRateLimiterByPid pid),
        ledger.apply (.unregisterRateLimiterByPid pid)) := rfl

@[simp] theorem onLedger_limitProcessBandwidth (config : RateLimitConfig) :
    onLedger.library machine (.limitProcessBandwidth pid config) ledger =
      (ledger.answer (.limitProcessBandwidth pid config),
        ledger.apply (.limitProcessBandwidth pid config)) := rfl

@[simp] theorem onLedger_ratelimitCleanupAll :
    onLedger.library machine .ratelimitCleanupAll ledger =
      (ledger.answer .ratelimitCleanupAll, ledger.apply .ratelimitCleanupAll) := rfl

end OnLedger

/-! ## The one as the other -/

section Simulation

variable {computer : Computer} {ledger : Ledger}

theorem follows_library (machine : Discovery.Machine) (call : LibraryCall Reply)
    (follows : computer.Follows ledger) :
    (onComputer.library machine call computer).1 = (onLedger.library machine call ledger).1 ∧
      (onComputer.library machine call computer).2.Follows
        (onLedger.library machine call ledger).2 := by
  cases call with
  | getNetworkProcesses => exact ⟨rfl, follows⟩
  | getRateLimitsFromCgroup pid => exact follows.getRateLimitsFromCgroup pid
  | unregisterRateLimiterByPid pid => exact follows.unregisterRateLimiterByPid pid
  | limitProcessBandwidth pid config => exact follows.limitProcessBandwidth pid config
  | ratelimitCleanupAll => exact follows.ratelimitCleanupAll

theorem simulates_commandLine (surroundings : Surroundings) :
    Program.Simulates (commandLine onComputer surroundings)
      (commandLine onLedger surroundings) Computer.Follows := by
  constructor
  intro Reply site call computer ledger follows
  cases call with
  | library call => exact follows_library surroundings.machine call follows
  | startup call =>
      cases call with
      | cgroupInit => exact ⟨rfl, follows⟩
      | getCgroup2Mount => exact ⟨rfl, follows⟩
  | geteuid => exact ⟨rfl, follows⟩
  | calloc count => exact ⟨rfl, follows⟩
  | printf text => exact ⟨rfl, follows⟩
  | fprintf text => exact ⟨rfl, follows⟩

theorem simulates_helper (machine : Discovery.Machine) :
    Program.Simulates (helper onComputer machine) (helper onLedger machine)
      Computer.Follows where
  call := fun _ call _ _ follows => follows_library machine call follows

theorem sameOutcome_step (computer : Computer) (ledger : Ledger) (event : Event)
    (follows : computer.Follows ledger) :
    SameOutcome Computer.Follows (step onComputer computer event)
      (step onLedger ledger event) := by
  cases event with
  | starts pid => exact ⟨rfl, follows.starts pid⟩
  | exits pid => exact ⟨rfl, follows.exits pid⟩
  | wakes => exact ⟨rfl, follows.wakes⟩
  | pidnl surroundings argv input =>
      have simulates := simulates_commandLine surroundings
      rcases simulates.run (Cli.main argv input) follows with ⟨ending, kept⟩
      have exchanges := simulates.exchanges (Cli.main argv input) follows
      refine ⟨?_, kept⟩
      simp only [step, ending, exchanges]
  | request machine call =>
      rcases (simulates_helper machine).run (serveLine call.command) follows with ⟨reply, kept⟩
      exact ⟨congrArg Output.replied reply, kept⟩

end Simulation

/-- Whatever happens, in whatever order, what is seen of the computer is what is seen of
the ledger. -/
theorem observe_onComputer (cgroup2Mount bpffsMount : Path) (running : Int32 → Bool)
    (events : List Event) :
    (observe (step onComputer) (.fresh cgroup2Mount bpffsMount running) events).1 =
      (observe (step onLedger) (.fresh running) events).1 :=
  (sameOutcome_observe sameOutcome_step (follows_fresh cgroup2Mount bpffsMount running)
    events).1

end Pidnl.Usage
