import Pidnl.Monitor.Table
import Pidnl.Ratelimit.Functions

/-! # `monitor.c`

The daemon's functions act on its watch table and make calls of their own; in
the daemon, `send_command` is a call of the table's functions. A client's
functions reach the daemon through its socket.
-/

namespace Pidnl.Monitor

open Pidnl.Foundation Pidnl.System Pidnl.Ratelimit

/-! ## The daemon -/

namespace Daemon

abbrev Table := WatchTable Fd

def removePidFromWatch (pid : Int32) (table : Table) :
    KernelProgram (MonitorCode × Table) :=
  match table.findPidSlot pid with
  | none => return (.notFound, table)
  | some found => do
    ask (.close found.entry.pidfd)
    return (.ok, table.clear found)

/-- `unregister_rate_limiter_by_pid`, as the daemon calls it. -/
def unregisterRateLimiterByPid (pid : Int32) (table : Table) :
    KernelProgram (RatelimitCode × Table) := do
  let unwatched ← removePidFromWatch pid table
  let code ← deletePidCgroup pid
  return (code, unwatched.2)

def addPidToWatch (pid : Int32) (table : Table) :
    KernelProgram (MonitorCode × Table) := do
  if (table.findPidSlot pid).isSome then
    return (.ok, table)
  match table.freeSlot with
  | none => return (.slots, table)
  | some slot =>
    match ← ask (.pidfdOpen pid) with
    | none =>
      let unregistered ← unregisterRateLimiterByPid pid table
      return (.pidfd, unregistered.2)
    | some pidfd => return (.ok, table.insert slot { pid := pid, pidfd := pidfd })

def runCommand (command : Command) (pid : Int32) (table : Table) :
    KernelProgram (MonitorCode × Table) :=
  match command with
  | .watch => addPidToWatch pid table
  | .unwatch => removePidFromWatch pid table
  | .stop => return (.ok, table)

/-- The loop of `monitor_run` over the pidfds that polled readable. -/
def handleDeaths : List SlotIndex → Table → KernelProgram Table
  | [], table => return table
  | slot :: slots, table =>
    match table.entries slot with
    | none => handleDeaths slots table
    | some entry => do
      if ← ask (.pidfdReadable entry.pid) then
        let unregistered ← unregisterRateLimiterByPid entry.pid table
        handleDeaths slots unregistered.2
      else
        handleDeaths slots table

/-- The loop that closes the pidfds when the daemon ends. -/
def closePidfds (table : Table) : List SlotIndex → KernelProgram Unit
  | [] => return ()
  | slot :: slots =>
    match table.entries slot with
    | none => closePidfds table slots
    | some entry => do
      ask (.close entry.pidfd)
      closePidfds table slots

/-- One turn of the event loop with a client's command: the result it is sent,
and the table if the daemon goes on. -/
def serveClient (command : Command) (pid : Int32) (table : Table) :
    KernelProgram (MonitorCode × Option Table) :=
  Program.inside .monitorRun do
    let handled ← runCommand command pid table
    let table ← handleDeaths (List.finRange MAX_WATCHED_PIDS) handled.2
    if command = .stop ∨ table.watchedCount = 0 then
      closePidfds table (List.finRange MAX_WATCHED_PIDS)
      return (handled.1, none)
    return (handled.1, some table)

/-- One turn of the event loop without a client. -/
def idleTurn (table : Table) : KernelProgram (Option Table) :=
  Program.inside .monitorRun do
    let table ← handleDeaths (List.finRange MAX_WATCHED_PIDS) table
    if table.watchedCount = 0 then
      closePidfds table (List.finRange MAX_WATCHED_PIDS)
      return none
    return some table

end Daemon

/-! ## The client -/

inductive ClientCall : Type → Type 1
  | kernel (call : KernelCall Reply) : ClientCall Reply
  | socket : ClientCall Bool
  | connect : ClientCall Bool
  | pipe : ClientCall Bool
  | fork : ClientCall Bool
  | poll : ClientCall Bool
  | write (command : Command) (pid : Int32) : ClientCall Bool
  | read : ClientCall (Option MonitorCode)

abbrev ClientProgram (Value : Type) := Program Frame ClientCall Value

abbrev askMonitor (call : ClientCall Reply) : ClientProgram Reply := .request call

def inClient (program : KernelProgram α) : ClientProgram α :=
  program.embed ClientCall.kernel

def monitorConnect : ClientProgram Bool := do
  if !(← askMonitor .socket) then
    return false
  askMonitor .connect

def monitorEnsureRunning : ClientProgram Bool :=
  Program.inside .monitorEnsureRunning do
    if ← Program.inside .monitorConnect monitorConnect then
      return true
    if !(← askMonitor .pipe) then
      return false
    if !(← askMonitor .fork) then
      return false
    if !(← askMonitor .poll) then
      return false
    Program.inside .reconnect monitorConnect

def sendCommand (command : Command) (pid : Int32) : ClientProgram MonitorCode :=
  Program.inside .sendCommand do
    if !(← monitorEnsureRunning) then
      return .connect
    if !(← askMonitor (.write command pid)) then
      return .write
    match ← askMonitor .read with
    | none => return .timeout
    | some result => return result

def monitorWatchPid (pid : Int32) : ClientProgram MonitorCode :=
  sendCommand .watch pid

def monitorUnwatchPid (pid : Int32) : ClientProgram MonitorCode :=
  sendCommand .unwatch pid

def monitorStop : ClientProgram MonitorCode :=
  Program.inside .monitorStop do
    if !(← Program.inside .monitorConnect monitorConnect) then
      return .ok
    if !(← askMonitor (.write .stop 0)) then
      return .write
    match ← askMonitor .read with
    | none => return .read
    | some result => return result

/-! ## The functions of `ratelimit.c` that call into the monitor -/

def limitProcessBandwidth (pid : Int32) (config : RateLimitConfig) :
    ClientProgram RatelimitCode := do
  let code ← inClient (installLimit pid config)
  if code ≠ .ok then
    return code
  let _ ← monitorWatchPid pid
  return .ok

def unregisterRateLimiterByPid (pid : Int32) : ClientProgram RatelimitCode := do
  let _ ← monitorUnwatchPid pid
  inClient (deletePidCgroup pid)

def ratelimitCleanupAll : ClientProgram RatelimitCode := do
  let cleaned ← inClient cleanupCgroups
  if cleaned.2 then
    let _ ← monitorStop
    return cleaned.1
  return cleaned.1

end Pidnl.Monitor
