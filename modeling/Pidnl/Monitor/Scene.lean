import Pidnl.Monitor.Outcome
import Pidnl.Ratelimit.Settled
import Pidnl.Foundation.Execution

/-! # A client and the daemon, call by call

A client sets a limit while the daemon goes through its event loop. In any order, one of
the two makes its next call, a process exits, or one that has exited is reaped.
-/

namespace Pidnl.Monitor

open Pidnl.Foundation Pidnl.System Pidnl.Ratelimit

/-! ## A turn of the event loop, by what `poll` reported -/

namespace Daemon

/-- The loop of `monitor_run` over the watched pidfds. -/
def handlePolled (polled : List Fd) : List SlotIndex → Table → KernelProgram Table
  | [], table => return table
  | slot :: slots, table =>
    match table.entries slot with
    | none => handlePolled polled slots table
    | some entry => do
      if entry.pidfd ∈ polled then
        let unregistered ← unregisterRateLimiterByPid entry.pid table
        handlePolled polled slots unregistered.2
      else
        handlePolled polled slots table

/-- Left alone, the loop is the one that asks for every pidfd when it comes to it. -/
theorem execute_handlePolled (faults : Faults) {polled : List Fd} (slots : List SlotIndex)
    {table : Table} {kernel : Kernel} (settled : Settled kernel)
    (reported : ∀ slot entry, table.entries slot = some entry →
      (entry.pidfd ∈ polled ↔ kernel.running entry.pid = false)) :
    Kernel.execute .monitor faults (handlePolled polled slots table) kernel =
      Kernel.execute .monitor faults (handleDeaths slots table) kernel := by
  induction slots generalizing table kernel with
  | nil => rfl
  | cons slot slots induction =>
      simp only [handlePolled, handleDeaths]
      cases active : table.entries slot with
      | none => exact induction settled reported
      | some entry =>
          have readable : Kernel.exec .monitor (faults.here .total) kernel
            (.pidfdReadable entry.pid) = (!kernel.running entry.pid, kernel) := rfl
          simp only [ask, Kernel.execute_bind, Kernel.execute_request, readable]
          by_cases isPolled : entry.pidfd ∈ polled
          · have dead := (reported slot entry active).mp isPolled
            rcases execute_unregisterRateLimiterByPid faults entry.pid table settled with
              ⟨same, removed⟩
            simp only [isPolled, dead, Bool.not_false, if_true, Kernel.execute_bind]
            apply induction removed.affects.settled
            intro other kept isKept
            rw [same] at isKept
            rw [removed.affects.running]
            exact reported other kept (WatchTable.entries_of_unwatch isKept)
          · have runs : kernel.running entry.pid = true := by
              simpa using fun dead => isPolled ((reported slot entry active).mpr dead)
            simp only [isPolled, runs, Bool.not_true, Bool.false_eq_true, if_false]
            exact induction settled reported

/-- The turn from there on: the table, if the daemon goes on. -/
def finishTurn (running : Bool) (polled : List Fd) (table : Table) :
    KernelProgram (Option Table) := do
  let table ← handlePolled polled (List.finRange MAX_WATCHED_PIDS) table
  if !running ∨ table.watchedCount = 0 then
    closePidfds table (List.finRange MAX_WATCHED_PIDS)
    return none
  return some table

theorem execute_finishTurn (faults : Faults) {polled : List Fd} {table : Table}
    {kernel : Kernel} (settled : Settled kernel)
    (reported : ∀ slot entry, table.entries slot = some entry →
      (entry.pidfd ∈ polled ↔ kernel.running entry.pid = false)) :
    Kernel.execute .monitor (faults.inside .monitorRun) (finishTurn true polled table) kernel =
      Kernel.execute .monitor faults (idleTurn table) kernel := by
  have handled := execute_handlePolled (faults.inside .monitorRun)
    (List.finRange MAX_WATCHED_PIDS) settled reported
  simp only [finishTurn, idleTurn, Kernel.execute_inside, Kernel.execute_bind, handled,
    Bool.not_true, Bool.false_eq_true, false_or]

end Daemon

/-! ## Processes that exit -/

/-- The kernel's `running` pids are those that have not been reaped. -/
structure Host where
  kernel : Kernel
  exited : Int32 → Bool
  /-- Whether a process that has exited can still be moved into a cgroup. -/
  joinsExited : Bool

namespace Host

def refuses (host : Host) : KernelCall Reply → Bool
  | .cgroupAttachTaskPid _ pid => host.exited pid && !host.joinsExited
  | _ => false

/-- No call fails but for what has become of a process. -/
def environment (owner : Process) : Environment Frame KernelCall Host :=
  fun _ call host =>
    let made := Kernel.exec owner (host.refuses call) host.kernel call
    (made.1, { host with kernel := made.2 })

def readable (host : Host) (table : Daemon.Table) : List Fd :=
  (List.finRange MAX_WATCHED_PIDS).filterMap fun slot =>
    (table.entries slot).bind fun entry =>
      if host.exited entry.pid || !host.kernel.running entry.pid then
        some entry.pidfd
      else none

end Host

/-! ## The scene -/

inductive Line
  | closed
  | connected
  | sent (command : Command) (pid : Int32)
  /-- The daemon has read the command. -/
  | taken
  | answered (result : MonitorCode)
deriving DecidableEq, Repr

/-- Whether the connection waits to be accepted, or to be read from. -/
def Line.isPending : Line → Bool
  | .connected | .sent _ _ => true
  | _ => false

/-- Where the daemon is in its event loop. -/
inductive DaemonState
  | absent
  | polling (table : Daemon.Table)
  | accepted (table : Daemon.Table) (polled : List Fd)
  | serving (command : Command) (polled : List Fd)
      (program : KernelProgram (MonitorCode × Daemon.Table))
  | finishing (program : KernelProgram (Option Daemon.Table))

structure Scene where
  host : Host
  client : ClientProgram RatelimitCode
  line : Line
  daemon : DaemonState

namespace Scene

inductive Event
  | client
  | daemon
  | exits (pid : Int32)
  | reaped (pid : Int32)
deriving DecidableEq, Repr

def start (host : Host) (daemon : Option Daemon.Table) (pid : Int32)
    (config : RateLimitConfig) : Scene where
  host := host
  client := limitProcessBandwidth pid config
  line := .closed
  daemon := match daemon with
    | none => .absent
    | some table => .polling table

/-- What a call of the client replies and does; a read waits for an answer while there
is a daemon. -/
def clientCall (scene : Scene) (site : List Frame) :
    ClientCall Reply → Option (Reply × Scene)
  | .kernel call =>
      let made := Host.environment .client site call scene.host
      some (made.1, { scene with host := made.2 })
  | .socket => some (true, scene)
  | .connect =>
      match scene.daemon with
      | .absent => some (false, scene)
      | _ => some (true, { scene with line := .connected })
  | .pipe => some (true, scene)
  | .fork => some (true, { scene with daemon := .polling .empty })
  | .poll => some (true, scene)
  | .write command pid => some (true, { scene with line := .sent command pid })
  | .read =>
      match scene.line, scene.daemon with
      | .answered result, _ => some (some result, { scene with line := .closed })
      | _, .absent => some (none, { scene with line := .closed })
      | _, _ => none

def clientStep (scene : Scene) : Option Scene :=
  match scene.client with
  | .done _ => none
  | .call site request next =>
      (scene.clientCall site request).map fun made =>
        { made.2 with client := next made.1 }

def daemonStep (scene : Scene) : Option Scene :=
  match scene.daemon with
  | .absent => none
  | .polling table =>
      let polled := scene.host.readable table
      if scene.line.isPending then
        some { scene with daemon := .accepted table polled }
      else if polled = [] then none
      else some { scene with daemon := .finishing (Daemon.finishTurn true polled table) }
  | .accepted table polled =>
      match scene.line with
      | .sent command pid =>
          some { scene with
            line := .taken
            daemon := .serving command polled (Daemon.runCommand command pid table) }
      | _ => none
  | .serving command polled (.done handled) =>
      some { scene with
        line := .answered handled.1
        daemon := .finishing (Daemon.finishTurn (command ≠ .stop) polled handled.2) }
  | .serving command polled (.call site request next) =>
      let made := Host.environment .monitor site request scene.host
      some { scene with host := made.2, daemon := .serving command polled (next made.1) }
  | .finishing (.done none) => some { scene with daemon := .absent }
  | .finishing (.done (some table)) => some { scene with daemon := .polling table }
  | .finishing (.call site request next) =>
      let made := Host.environment .monitor site request scene.host
      some { scene with host := made.2, daemon := .finishing (next made.1) }

/-- A pid is not given to another process. -/
def step (scene : Scene) : Event → Option Scene
  | .client => scene.clientStep
  | .daemon => scene.daemonStep
  | .exits pid =>
      if scene.host.kernel.running pid then
        some { scene with host :=
          { scene.host with exited := Function.update scene.host.exited pid true } }
      else none
  | .reaped pid =>
      if scene.host.exited pid then
        some { scene with host :=
          { scene.host with kernel :=
            { scene.host.kernel with
              running := Function.update scene.host.kernel.running pid false } } }
      else none

/-- The monitor is reached and not full: the daemon does not end while a client waits for
it, and it has a free slot when it reads a command. -/
def Attended (scene : Scene) : Event → Prop
  | .daemon =>
      match scene.daemon with
      | .finishing (.done none) => scene.line.isPending = false
      | .accepted table _ => table.freeSlot.isSome
      | _ => True
  | _ => True

instance : (scene : Scene) → (event : Event) → Decidable (scene.Attended event)
  | ⟨_, _, line, .finishing (.done none)⟩, .daemon =>
      inferInstanceAs (Decidable (line.isPending = false))
  | ⟨_, _, _, .accepted table _⟩, .daemon =>
      inferInstanceAs (Decidable (table.freeSlot.isSome = true))
  | ⟨_, _, _, .finishing (.done (some _))⟩, .daemon => isTrue trivial
  | ⟨_, _, _, .finishing (.call _ _ _)⟩, .daemon => isTrue trivial
  | ⟨_, _, _, .absent⟩, .daemon => isTrue trivial
  | ⟨_, _, _, .polling _⟩, .daemon => isTrue trivial
  | ⟨_, _, _, .serving _ _ _⟩, .daemon => isTrue trivial
  | _, .client => isTrue trivial
  | _, .exits _ => isTrue trivial
  | _, .reaped _ => isTrue trivial

def HasReturned (scene : Scene) : Prop :=
  ∃ code, scene.client = .done code

instance : (scene : Scene) → Decidable scene.HasReturned
  | ⟨_, .done code, _, _⟩ => isTrue ⟨code, rfl⟩
  | ⟨_, .call _ _ _, _, _⟩ => isFalse fun returned => nomatch returned

def HasHandled (scene : Scene) : Prop :=
  match scene.daemon with
  | .absent => True
  | .polling table => scene.host.readable table = []
  | _ => False

instance : (scene : Scene) → Decidable scene.HasHandled
  | ⟨_, _, _, .absent⟩ => isTrue trivial
  | ⟨host, _, _, .polling table⟩ =>
      inferInstanceAs (Decidable (host.readable table = []))
  | ⟨_, _, _, .accepted _ _⟩ => isFalse id
  | ⟨_, _, _, .serving _ _ _⟩ => isFalse id
  | ⟨_, _, _, .finishing _⟩ => isFalse id

/-- The call has returned, and the daemon has handled what there was to handle. -/
structure AtRest (scene : Scene) : Prop where
  returned : scene.HasReturned
  closed : scene.line = .closed
  handled : scene.HasHandled

instance (scene : Scene) : Decidable scene.AtRest :=
  decidable_of_iff (scene.HasReturned ∧ scene.line = .closed ∧ scene.HasHandled)
    ⟨fun all => ⟨all.1, all.2.1, all.2.2⟩,
      fun rest => ⟨rest.returned, rest.closed, rest.handled⟩⟩

/-- Nothing of a pid is left: every program that is attached is attached to the cgroup of
another. -/
structure NothingLeft (scene : Scene) (pid : Int32) : Prop where
  cgroup : hasCgroup scene.host.kernel pid = false
  programs : ∀ link cgroup, 0 < (scene.host.kernel.links link).refs →
    (scene.host.kernel.links link).cgroup = some cgroup →
      ∃ name ≠ buildCgroupName pid, scene.host.kernel.cgroups.lookup name = some cgroup
  pins : ∀ attachType, scene.host.kernel.pins.lookup
    (pinPath scene.host.kernel.bpffsMount pid attachType) = none
  unwatched : ∀ table, scene.daemon = .polling table → ¬ table.IsWatched pid

end Scene

end Pidnl.Monitor
