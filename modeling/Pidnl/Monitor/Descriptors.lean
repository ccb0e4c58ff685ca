import Pidnl.Monitor.World
import Pidnl.Ratelimit.Descriptors

/-! # Descriptors of a process

The calls of a process with the descriptors of its sockets, pipes and files. The
functions of `monitor.c` and `get_bpffs_mount` are written over them; the other calls
of `ratelimit.c` are made as they are.
-/

namespace Pidnl.Monitor

open Pidnl.Foundation Pidnl.Foundation.Program Pidnl.System Pidnl.Ratelimit

/-- `struct mntent`, as far as it is read. -/
structure MountEntry where
  mntType : Bytes
  mntDir : Path
deriving DecidableEq, Repr

def BPF_FS_MAGIC : UInt64 := 0xCAFE4A11

inductive ProcessCall : Type → Type 1
  | kernel (call : KernelCall Reply) : ProcessCall Reply
  /-- `fopen` of `/proc/mounts`, with the entries that `getmntent` returns from it. -/
  | fopen : ProcessCall (Option (Fd × List MountEntry))
  /-- The type of the file system. -/
  | statfs (path : Path) : ProcessCall (Option UInt64)
  | fclose (file : Fd) : ProcessCall Unit
  | socket : ProcessCall (Option Fd)
  | connect (fd : Fd) : ProcessCall Bool
  | setsockopt (fd : Fd) : ProcessCall Unit
  /-- The read end and the write end. -/
  | pipe : ProcessCall (Option (Fd × Fd))
  | fork : ProcessCall Bool
  | waitpid : ProcessCall Unit
  | poll (fd : Fd) : ProcessCall Bool
  | write (fd : Fd) (command : Command) (pid : Int32) : ProcessCall Bool
  | read (fd : Fd) : ProcessCall (Option MonitorCode)
  | close (fd : Fd) : ProcessCall Unit

abbrev ProcessProgram (Value : Type) := Program Frame ProcessCall Value

namespace Process

abbrev ask (call : ProcessCall Reply) : ProcessProgram Reply := .request call

/-! ## `get_bpffs_mount` -/

/-- The loop over the entries. -/
def findBpffs : List MountEntry → ProcessProgram (Option Path)
  | [] => return none
  | entry :: entries => do
    if entry.mntType ≠ ascii "bpf" then
      findBpffs entries
    else if (← ask (.statfs entry.mntDir)) ≠ some BPF_FS_MAGIC then
      findBpffs entries
    else
      return some entry.mntDir

def getBpffsMount : ProcessProgram (Option Path) := do
  match ← ask .fopen with
  | none => return none
  | some (mounts, entries) =>
    let found ← findBpffs entries
    ask (.fclose mounts)
    return found

def carryOut : KernelCall Reply → ProcessProgram Reply
  | .getBpffsMount => getBpffsMount
  | other => ask (.kernel other)

def inProcess (program : KernelProgram α) : ProcessProgram α :=
  program.expand carryOut

/-! ## The client's side of `monitor.c` -/

def monitorConnect : ProcessProgram (Option Fd) := do
  match ← ask .socket with
  | none => return none
  | some fd =>
    if !(← ask (.connect fd)) then
      ask (.close fd)
      return none
    ask (.setsockopt fd)
    return some fd

def monitorEnsureRunning : ProcessProgram (Option Fd) :=
  Program.inside .monitorEnsureRunning do
    match ← Program.inside .monitorConnect monitorConnect with
    | some fd => return some fd
    | none =>
      match ← ask .pipe with
      | none => return none
      | some (readEnd, writeEnd) =>
        if !(← ask .fork) then
          ask (.close readEnd)
          ask (.close writeEnd)
          return none
        ask (.close writeEnd)
        ask .waitpid
        let ready ← ask (.poll readEnd)
        ask (.close readEnd)
        if !ready then
          return none
        Program.inside .reconnect monitorConnect

def sendCommand (command : Command) (pid : Int32) : ProcessProgram MonitorCode :=
  Program.inside .sendCommand do
    match ← monitorEnsureRunning with
    | none => return .connect
    | some fd =>
      if !(← ask (.write fd command pid)) then
        ask (.close fd)
        return .write
      let result ← ask (.read fd)
      ask (.close fd)
      match result with
      | none => return .timeout
      | some result => return result

end Process

/-! ## The functions of `ratelimit.c` in a process -/

namespace Process

def limitProcessBandwidth (pid : Int32) (config : RateLimitConfig) :
    ProcessProgram RatelimitCode := do
  let code ← inProcess (installLimit pid config)
  if code ≠ .ok then
    return code
  let _ ← sendCommand .watch pid
  return .ok

def unregisterRateLimiterByPid (pid : Int32) : ProcessProgram RatelimitCode := do
  let _ ← sendCommand .unwatch pid
  inProcess (deletePidCgroup pid)

end Process

/-! ## In the daemon -/

/-- `limit_process_bandwidth`, as it runs in the daemon. -/
def Daemon.limitProcessBandwidth (pid : Int32) (config : RateLimitConfig) (table : Table) :
    KernelProgram (RatelimitCode × Table) := do
  let code ← installLimit pid config
  if code ≠ .ok then
    return (code, table)
  let watched ← addPidToWatch pid table
  return (.ok, watched.2)

/-! ## The same functions without their descriptors -/

namespace Process

/-- What a process's calls do where a client's calls are given. Sockets, pipes and files
get numbers that have not been used. -/
def environment (client : Environment Frame ClientCall State) :
    Environment Frame ProcessCall (State × Fd) :=
  fun site call state =>
    match call with
    | .kernel call =>
        let step := client site (.kernel call) state.1
        (step.1, (step.2, state.2))
    | .fopen =>
        let step := client site (.kernel .getBpffsMount) state.1
        (step.1.map fun root => (state.2, [{ mntType := ascii "bpf", mntDir := root }]),
          (step.2, state.2 + 1))
    | .statfs _ => (some BPF_FS_MAGIC, state)
    | .fclose _ => ((), state)
    | .socket =>
        let step := client site .socket state.1
        (if step.1 then some state.2 else none, (step.2, state.2 + 1))
    | .connect _ =>
        let step := client site .connect state.1
        (step.1, (step.2, state.2))
    | .setsockopt _ => ((), state)
    | .pipe =>
        let step := client site .pipe state.1
        (if step.1 then some (state.2, state.2 + 1) else none, (step.2, state.2 + 2))
    | .fork =>
        let step := client site .fork state.1
        (step.1, (step.2, state.2))
    | .waitpid => ((), state)
    | .poll _ =>
        let step := client site .poll state.1
        (step.1, (step.2, state.2))
    | .write _ command pid =>
        let step := client site (.write command pid) state.1
        (step.1, (step.2, state.2))
    | .read _ =>
        let step := client site .read state.1
        (step.1, (step.2, state.2))
    | .close _ => ((), state)

/-- But for its descriptors the program does what the client's program does. -/
def Follows (program : ProcessProgram α) (view : α → β) (client : ClientProgram β) :
    Prop :=
  ∀ (State : Type) (calls : Environment Frame ClientCall State) (state : State × Fd),
    let outcome := program.run (environment calls) state
    (view outcome.1, outcome.2.1) = client.run calls state.1

section Follows

variable {program : ProcessProgram α} {view : α → β} {client : ClientProgram β}

theorem follows_pure (value : α) (view : α → β) :
    Follows (pure value) view (pure (view value)) := by
  intro State calls state
  rfl

theorem Follows.bind {next : α → ProcessProgram γ} {after : β → ClientProgram δ}
    {last : γ → δ} (first : Follows program view client)
    (rest : ∀ value, Follows (next value) last (after (view value))) :
    Follows (program >>= next) last (client >>= after) := by
  intro State calls state
  have before := first State calls state
  simp only [run_bind, ← before]
  exact rest _ State calls _

theorem Follows.skip {next : Unit → ProcessProgram γ} {after : ClientProgram δ}
    {last : γ → δ} {call : ProcessCall Unit}
    (idle : ∀ {State : Type} (calls : Environment Frame ClientCall State) site state,
      environment calls site call state = ((), state))
    (rest : Follows (next ()) last after) :
    Follows (ask call >>= next) last after := by
  intro State calls state
  simp only [run_bind, run_request, idle]
  exact rest State calls state

theorem follows_inside {frame : Frame} (follows : Follows program view client) :
    Follows (program.inside frame) view (client.inside frame) := by
  intro State calls state
  have inner := follows State (fun site => calls (frame :: site)) state
  simp only [run_inside]
  exact inner

theorem follows_socket : Follows (ask .socket) Option.isSome (askMonitor .socket) := by
  intro State calls state
  simp only [run_request, environment]
  by_cases succeeds : (calls [] .socket state.1).1 = true
  · exact Prod.ext (by simp [succeeds]) rfl
  · exact Prod.ext (by simp [succeeds]) rfl

theorem follows_pipe : Follows (ask .pipe) Option.isSome (askMonitor .pipe) := by
  intro State calls state
  simp only [run_request, environment]
  by_cases succeeds : (calls [] .pipe state.1).1 = true
  · exact Prod.ext (by simp [succeeds]) rfl
  · exact Prod.ext (by simp [succeeds]) rfl

theorem follows_monitorConnect :
    Follows monitorConnect Option.isSome Monitor.monitorConnect := by
  apply follows_socket.bind
  intro socket
  cases socket with
  | none => exact follows_pure none Option.isSome
  | some fd =>
      intro State calls state
      simp only [run_bind, run_request, environment, Option.isSome_some, Bool.not_true,
        Bool.false_eq_true, if_false]
      by_cases succeeds : (calls [] .connect state.1).1 = true
      · simp only [succeeds]
        exact Prod.ext succeeds.symm rfl
      · simp only [Bool.not_eq_true] at succeeds
        simp only [succeeds]
        exact Prod.ext succeeds.symm rfl

theorem follows_monitorEnsureRunning :
    Follows monitorEnsureRunning Option.isSome Monitor.monitorEnsureRunning := by
  apply follows_inside
  apply (follows_inside follows_monitorConnect).bind
  intro connected
  cases connected with
  | some fd => exact follows_pure (some fd) Option.isSome
  | none =>
      apply follows_pipe.bind
      intro ends
      cases ends with
      | none => exact follows_pure none Option.isSome
      | some ends =>
          have forks : Follows (ask .fork) id (askMonitor .fork) := fun _ _ _ => rfl
          apply forks.bind
          intro forked
          cases forked with
          | false =>
              apply Follows.skip fun _ _ _ => rfl
              apply Follows.skip fun _ _ _ => rfl
              exact follows_pure none Option.isSome
          | true =>
              apply Follows.skip fun _ _ _ => rfl
              apply Follows.skip fun _ _ _ => rfl
              have polls : Follows (ask (.poll ends.1)) id (askMonitor .poll) :=
                fun _ _ _ => rfl
              apply polls.bind
              intro ready
              apply Follows.skip fun _ _ _ => rfl
              cases ready with
              | false => exact follows_pure none Option.isSome
              | true => exact follows_inside follows_monitorConnect

theorem follows_sendCommand (command : Command) (pid : Int32) :
    Follows (sendCommand command pid) id (Monitor.sendCommand command pid) := by
  apply follows_inside
  apply follows_monitorEnsureRunning.bind
  intro connected
  cases connected with
  | none => exact follows_pure MonitorCode.connect id
  | some fd =>
      have writes : Follows (ask (.write fd command pid)) id
        (askMonitor (.write command pid)) := fun _ _ _ => rfl
      apply writes.bind
      intro written
      cases written with
      | false =>
          apply Follows.skip fun _ _ _ => rfl
          exact follows_pure MonitorCode.write id
      | true =>
          have reads : Follows (ask (.read fd)) id (askMonitor .read) := fun _ _ _ => rfl
          apply reads.bind
          intro result
          apply Follows.skip fun _ _ _ => rfl
          cases result with
          | none => exact follows_pure MonitorCode.timeout id
          | some result => exact follows_pure result id

theorem follows_carryOut (call : KernelCall Reply) :
    Follows (carryOut call) id (askMonitor (.kernel call)) := by
  cases call with
  | getBpffsMount =>
      intro State calls state
      simp only [carryOut, getBpffsMount, run_bind, run_request, environment]
      rcases calls [] (.kernel .getBpffsMount) state.1 with ⟨mount, after⟩
      cases mount <;> rfl
  | _ =>
      intro State calls state
      rfl

theorem follows_beneath (frames : List Frame) (follows : Follows program view client) :
    Follows (program.beneath frames) view (client.beneath frames) := by
  intro State calls state
  have inner := follows State (fun site => calls (frames ++ site)) state
  simp only [run_beneath]
  exact inner

theorem follows_inProcess (program : KernelProgram α) :
    Follows (inProcess program) id (inClient program) := by
  induction program with
  | done value => exact follows_pure value id
  | call site request next induction =>
      have carries := follows_beneath site (follows_carryOut request)
      have asked : (askMonitor (.kernel request)).beneath site =
          .call site (.kernel request) .done := by
        rw [askMonitor, Program.request, beneath, List.append_nil]
        rfl
      rw [asked] at carries
      exact carries.bind induction

theorem follows_limitProcessBandwidth (pid : Int32) (config : RateLimitConfig) :
    Follows (limitProcessBandwidth pid config) id
      (Monitor.limitProcessBandwidth pid config) := by
  apply (follows_inProcess _).bind
  intro code
  rw [id]
  split
  · exact follows_pure code id
  · apply (follows_sendCommand .watch pid).bind
    intro watched
    exact follows_pure RatelimitCode.ok id

theorem follows_unregisterRateLimiterByPid (pid : Int32) :
    Follows (unregisterRateLimiterByPid pid) id
      (Monitor.unregisterRateLimiterByPid pid) := by
  apply (follows_sendCommand .unwatch pid).bind
  intro unwatched
  exact follows_inProcess _

end Follows

end Process

end Pidnl.Monitor
