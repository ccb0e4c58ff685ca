import Pidnl.Monitor.Functions
import Pidnl.Foundation.Execution

/-! # Clients, daemons and the socket path

Any number of clients look for a daemon at `MONITOR_SOCKET_PATH` and fork one when
they find none, and every daemon unlinks the path when it starts and when it ends.
A watch is of use only while the daemon that holds it is the one that is found.
-/

namespace Pidnl.Monitor.SocketPath

open Pidnl.Foundation

abbrev DaemonId := Nat
abbrev ClientId := Nat

inductive Phase
  | unborn
  | starting
  /-- The path has been unlinked. -/
  | unlinked
  | bound
  | listening
  /-- The parent has been told, and the event loop runs. -/
  | serving
  /-- The event loop has ended, or a call before it has failed. -/
  | leaving
  /-- The socket is closed, the path not yet unlinked. -/
  | closed
  | exited
deriving DecidableEq, Repr

namespace Phase

/-- The daemon's socket has been bound to the path and not been closed. -/
def isOpen : Phase → Bool
  | .bound | .listening | .serving | .leaving => true
  | _ => false

/-- The kernel queues connections to the daemon's socket. -/
def accepts : Phase → Bool
  | .listening | .serving | .leaving => true
  | _ => false

/-- The write end of the ready pipe has been written or closed. -/
def isReady : Phase → Bool
  | .serving | .leaving | .closed | .exited => true
  | _ => false

end Phase

structure Request where
  client : ClientId
  command : Command
  pid : Int32
deriving DecidableEq, Repr

structure Daemon where
  phase : Phase
  table : WatchTable Unit
  /-- Commands that have been written to connections of the socket. -/
  requests : List Request

inductive Client
  | idle
  | connecting (command : Command) (pid : Int32)
  | forking (command : Command) (pid : Int32)
  | waiting (command : Command) (pid : Int32) (daemon : DaemonId)
  | reconnecting (command : Command) (pid : Int32)
  | connected (command : Command) (pid : Int32) (daemon : DaemonId)
  | awaiting (command : Command) (pid : Int32) (daemon : DaemonId)
  | finished (code : MonitorCode)
deriving DecidableEq, Repr

structure State where
  /-- The socket file, by the daemon that has bound it. -/
  path : Option DaemonId
  daemons : DaemonId → Daemon
  nextDaemon : DaemonId
  clients : ClientId → Client
  dead : Int32 → Bool
  /-- The pids whose WATCH has been answered with `MONITOR_OK`, until they die, are
  unwatched, or STOP is answered. -/
  acknowledged : Set Int32

inductive Action
  | call (client : ClientId) (command : Command) (pid : Int32)
  | connect (client : ClientId)
  | fork (client : ClientId)
  | noticeReady (client : ClientId)
  | timeOut (client : ClientId)
  | write (client : ClientId)
  | unlinkOld (daemon : DaemonId)
  | bind (daemon : DaemonId)
  | listen (daemon : DaemonId)
  | listenFails (daemon : DaemonId)
  | signalReady (daemon : DaemonId)
  | readyFails (daemon : DaemonId)
  /-- The client has stopped waiting, and the write to the pipe kills the daemon. -/
  | brokenPipe (daemon : DaemonId)
  | serve (daemon : DaemonId) (opens : Bool)
  | handleDeath (daemon : DaemonId) (pid : Int32)
  | close (daemon : DaemonId)
  | unlinkOnExit (daemon : DaemonId)
  | die (pid : Int32)

namespace State

def initial : State where
  path := none
  daemons := fun _ => { phase := .unborn, table := .empty, requests := [] }
  nextDaemon := 0
  clients := fun _ => .idle
  dead := fun _ => false
  acknowledged := ∅

def reached (state : State) : Option DaemonId :=
  match state.path with
  | none => none
  | some daemon => if (state.daemons daemon).phase.accepts then some daemon else none

def setClient (state : State) (client : ClientId) (value : Client) : State :=
  { state with clients := Function.update state.clients client value }

def setDaemon (state : State) (daemon : DaemonId) (value : Daemon) : State :=
  { state with daemons := Function.update state.daemons daemon value }

def advance (state : State) (daemon : DaemonId) (before after : Phase) :
    Option State :=
  if (state.daemons daemon).phase = before then
    some (state.setDaemon daemon { state.daemons daemon with phase := after })
  else none

/-- What the answer to a command makes of the acknowledged pids. -/
def acknowledge (state : State) (request : Request) (code : MonitorCode) : Set Int32 :=
  match request.command with
  | .watch =>
      if code = .ok ∧ state.dead request.pid = false then
        insert request.pid state.acknowledged
      else state.acknowledged
  | .unwatch =>
      if code = .ok then state.acknowledged \ {request.pid} else state.acknowledged
  | .stop => ∅

def reply (state : State) (daemon : DaemonId) (request : Request)
    (code : MonitorCode) : ClientId → Client :=
  if state.clients request.client = .awaiting request.command request.pid daemon then
    Function.update state.clients request.client (.finished code)
  else state.clients

def endTurn (stopped : Bool) (table : WatchTable Unit) : Phase :=
  if stopped ∨ table.watchedCount = 0 then .leaving else .serving

end State

def step (state : State) : Action → Option State
  | .call client command pid =>
      match state.clients client with
      | .idle | .finished _ =>
          some (state.setClient client (.connecting command pid))
      | _ => none
  | .connect client =>
      match state.clients client with
      | .connecting command pid =>
          match state.reached with
          | some daemon => some (state.setClient client (.connected command pid daemon))
          | none =>
              if command = .stop then some (state.setClient client (.finished .ok))
              else some (state.setClient client (.forking command pid))
      | .reconnecting command pid =>
          match state.reached with
          | some daemon => some (state.setClient client (.connected command pid daemon))
          | none => some (state.setClient client (.finished .connect))
      | _ => none
  | .fork client =>
      match state.clients client with
      | .forking command pid =>
          some { (state.setClient client (.waiting command pid state.nextDaemon)) with
            daemons := Function.update state.daemons state.nextDaemon
              { phase := .starting, table := .empty, requests := [] }
            nextDaemon := state.nextDaemon + 1 }
      | _ => none
  | .noticeReady client =>
      match state.clients client with
      | .waiting command pid daemon =>
          if (state.daemons daemon).phase.isReady then
            some (state.setClient client (.reconnecting command pid))
          else none
      | _ => none
  | .timeOut client =>
      match state.clients client with
      | .waiting _ _ _ => some (state.setClient client (.finished .connect))
      | .awaiting command _ _ =>
          some (state.setClient client
            (.finished (if command = .stop then .read else .timeout)))
      | _ => none
  | .write client =>
      match state.clients client with
      | .connected command pid daemon =>
          let server := state.daemons daemon
          if server.phase.accepts then
            some ((state.setClient client (.awaiting command pid daemon)).setDaemon
              daemon { server with
                requests := server.requests ++
                  [{ client := client, command := command, pid := pid }] })
          else some (state.setClient client (.finished .write))
      | _ => none
  | .unlinkOld daemon =>
      (state.advance daemon .starting .unlinked).map fun next =>
        { next with path := none }
  | .bind daemon =>
      match state.path with
      | none =>
          (state.advance daemon .unlinked .bound).map fun next =>
            { next with path := some daemon }
      | some _ => state.advance daemon .unlinked .exited
  | .listen daemon => state.advance daemon .bound .listening
  | .listenFails daemon => state.advance daemon .bound .leaving
  | .signalReady daemon => state.advance daemon .listening .serving
  | .readyFails daemon => state.advance daemon .listening .leaving
  | .brokenPipe daemon => state.advance daemon .listening .exited
  | .serve daemon opens =>
      let server := state.daemons daemon
      match server.phase, server.requests with
      | .serving, request :: requests =>
          let ran := server.table.runCommand request.command request.pid
            (if opens && !state.dead request.pid then some () else none)
          some { (state.setDaemon daemon
              { phase := State.endTurn (request.command = .stop) ran.2
                table := ran.2
                requests := requests }) with
            clients := state.reply daemon request ran.1
            acknowledged := state.acknowledge request ran.1 }
      | _, _ => none
  | .handleDeath daemon pid =>
      let server := state.daemons daemon
      if server.phase = .serving ∧ state.dead pid = true ∧
          (server.table.findPidSlot pid).isSome then
        let table := server.table.unwatch pid
        some (state.setDaemon daemon
          { server with phase := State.endTurn false table, table := table })
      else none
  | .close daemon =>
      let server := state.daemons daemon
      if server.phase = .leaving then
        some (state.setDaemon daemon { server with phase := .closed, requests := [] })
      else none
  | .unlinkOnExit daemon =>
      (state.advance daemon .closed .exited).map fun next => { next with path := none }
  | .die pid =>
      some { state with
        dead := Function.update state.dead pid true
        acknowledged := state.acknowledged \ {pid} }

/-- The pid is held by the daemon that `connect` reaches, and that daemon will take
commands. -/
def Reaches (state : State) (pid : Int32) : Prop :=
  ∃ daemon, state.reached = some daemon ∧ (state.daemons daemon).phase = .serving ∧
    (state.daemons daemon).table.IsWatched pid

def NoneOrphaned (state : State) : Prop :=
  ∀ pid ∈ state.acknowledged, Reaches state pid

/-- What is unlinked is no socket that a daemon still has open. -/
def SparesSockets (state : State) : Action → Prop
  | .unlinkOld _ | .unlinkOnExit _ => ∀ daemon, state.path = some daemon →
      (state.daemons daemon).phase.isOpen = false
  | _ => True

/-! ## The invariant -/

def Daemon.Holds (daemon : Daemon) (pid : Int32) : Prop :=
  daemon.phase = .serving ∧ daemon.table.IsWatched pid

/-- What holds as long as no open socket is unlinked. -/
structure OneSocket (state : State) : Prop where
  unborn : ∀ daemon, state.nextDaemon ≤ daemon →
    (state.daemons daemon).phase = .unborn
  /-- The path leads to the one socket that is open. -/
  atPath : ∀ daemon, (state.daemons daemon).phase.isOpen = true →
    state.path = some daemon
  held : ∀ pid ∈ state.acknowledged, state.dead pid = false ∧
    ∃ daemon, (state.daemons daemon).Holds pid

variable {state : State}

theorem OneSocket.noneOrphaned (one : OneSocket state) : NoneOrphaned state := by
  intro pid member
  rcases (one.held pid member).2 with ⟨daemon, serving, watched⟩
  have isOpen : (state.daemons daemon).phase.isOpen = true := by rw [serving]; rfl
  refine ⟨daemon, ?_, serving, watched⟩
  rw [State.reached, one.atPath daemon isOpen]
  simp only [serving]
  rfl

namespace OneSocket

theorem initial : OneSocket .initial where
  unborn := fun _ _ => rfl
  atPath := nofun
  held := fun _ member => member.elim

theorem setClient (one : OneSocket state) (client : ClientId) (value : Client) :
    OneSocket (state.setClient client value) :=
  { one with }

theorem change (one : OneSocket state) {daemon : DaemonId} {value : Daemon}
    {path : Option DaemonId} {acknowledged : Set Int32}
    {clients : ClientId → Client}
    (born : (state.daemons daemon).phase ≠ .unborn)
    (elsewhere : ∀ other, other ≠ daemon →
      (state.daemons other).phase.isOpen = true → path = some other)
    (here : value.phase.isOpen = true → path = some daemon)
    (held : ∀ pid ∈ acknowledged, state.dead pid = false ∧
      (value.Holds pid ∨ ∃ other, other ≠ daemon ∧ (state.daemons other).Holds pid)) :
    OneSocket { state with
      path := path
      daemons := Function.update state.daemons daemon value
      clients := clients
      acknowledged := acknowledged } where
  unborn := by
    intro other fresh
    by_cases same : other = daemon
    · exact absurd (one.unborn daemon (same ▸ fresh)) born
    · simp only [Function.update_of_ne same]
      exact one.unborn other fresh
  atPath := by
    intro other isOpen
    by_cases same : other = daemon
    · subst same
      simp only [Function.update_self] at isOpen
      exact here isOpen
    · simp only [Function.update_of_ne same] at isOpen
      exact elsewhere other same isOpen
  held := by
    intro pid member
    rcases held pid member with ⟨lives, holder⟩
    refine ⟨lives, ?_⟩
    cases holder with
    | inl own =>
        refine ⟨daemon, ?_⟩
        simp only [Function.update_self]
        exact own
    | inr other =>
        rcases other with ⟨other, different, holds⟩
        refine ⟨other, ?_⟩
        simp only [Function.update_of_ne different]
        exact holds

/-- What is acknowledged stays held if the daemon that changes gives up nothing. -/
theorem stillHeld (one : OneSocket state) {daemon : DaemonId} {value : Daemon}
    (gives : ∀ pid ∈ state.acknowledged, (state.daemons daemon).Holds pid →
      value.Holds pid) :
    ∀ pid ∈ state.acknowledged, state.dead pid = false ∧
      (value.Holds pid ∨ ∃ other, other ≠ daemon ∧
        (state.daemons other).Holds pid) := by
  intro pid member
  rcases one.held pid member with ⟨lives, other, holds⟩
  refine ⟨lives, ?_⟩
  by_cases same : other = daemon
  · exact .inl (gives pid member (same ▸ holds))
  · exact .inr ⟨other, same, holds⟩

theorem advance (one : OneSocket state) {daemon : DaemonId} {before after : Phase}
    {next : State} (stepped : state.advance daemon before after = some next)
    (born : before ≠ .unborn) (notServing : before ≠ .serving)
    (stays : after.isOpen = true → before.isOpen = true) : OneSocket next := by
  rw [State.advance] at stepped
  split at stepped
  · rename_i phase
    cases stepped
    apply one.change
    · rw [phase]
      exact born
    · exact fun other _ => one.atPath other
    · exact fun isOpen => one.atPath daemon (by rw [phase]; exact stays isOpen)
    · apply one.stillHeld
      intro pid _ holds
      exact absurd (phase.symm.trans holds.1) notServing
  · contradiction

theorem unlink (one : OneSocket state) {daemon : DaemonId} {before after : Phase}
    {next : State}
    (stepped : ((state.advance daemon before after).map fun next =>
      { next with path := none }) = some next)
    (spares : ∀ other, state.path = some other →
      (state.daemons other).phase.isOpen = false)
    (born : before ≠ .unborn) (closed : after.isOpen = false) : OneSocket next := by
  have noneOpen : ∀ other, (state.daemons other).phase.isOpen ≠ true := by
    intro other isOpen
    rw [spares other (one.atPath other isOpen)] at isOpen
    contradiction
  rw [State.advance] at stepped
  split at stepped
  · rename_i phase
    cases stepped
    apply one.change
    · rw [phase]
      exact born
    · exact fun other _ isOpen => absurd isOpen (noneOpen other)
    · exact fun isOpen => absurd isOpen (by rw [closed]; exact Bool.false_ne_true)
    · apply one.stillHeld
      intro pid _ holds
      exact absurd (by rw [holds.1]; rfl) (noneOpen daemon)
  · contradiction

theorem bind (one : OneSocket state) {daemon : DaemonId} {next : State}
    (stepped : step state (.bind daemon) = some next) : OneSocket next := by
  rw [step] at stepped
  split at stepped
  · rename_i free
    have noneOpen : ∀ other, (state.daemons other).phase.isOpen ≠ true := by
      intro other isOpen
      rw [one.atPath other isOpen] at free
      contradiction
    rw [State.advance] at stepped
    split at stepped
    · rename_i phase
      cases stepped
      apply one.change
      · rw [phase]
        exact Phase.noConfusion
      · exact fun other _ isOpen => absurd isOpen (noneOpen other)
      · exact fun _ => rfl
      · apply one.stillHeld
        intro pid _ holds
        exact absurd (by rw [holds.1]; rfl) (noneOpen daemon)
    · contradiction
  · exact one.advance stepped nofun nofun nofun

theorem holds_endTurn {table : WatchTable Unit} {pid : Int32}
    (watched : table.IsWatched pid) (requests : List Request) :
    Daemon.Holds { phase := State.endTurn false table
                   table := table
                   requests := requests } pid := by
  have counted : table.watchedCount ≠ 0 := fun zero =>
    WatchTable.watchedCount_eq_zero_iff.mp zero pid watched
  refine ⟨?_, watched⟩
  simp [State.endTurn, counted]

theorem handleDeath (one : OneSocket state) {daemon : DaemonId} {pid : Int32}
    {next : State} (stepped : step state (.handleDeath daemon pid) = some next) :
    OneSocket next := by
  rw [step] at stepped
  simp only at stepped
  split at stepped
  · rename_i handled
    cases stepped
    have isOpen : (state.daemons daemon).phase.isOpen = true := by
      rw [handled.1]
      rfl
    apply one.change
    · rw [handled.1]
      exact Phase.noConfusion
    · exact fun other _ => one.atPath other
    · exact fun _ => one.atPath daemon isOpen
    · apply one.stillHeld
      intro other member holds
      have different : other ≠ pid := by
        intro same
        have lives := (one.held other member).1
        rw [same, handled.2.1] at lives
        contradiction
      exact holds_endTurn (WatchTable.isWatched_unwatch_of_ne different holds.2) _
  · contradiction

end OneSocket

/-! ## Commands -/

section RunCommand

variable {table : WatchTable Unit} {pid other : Int32} {opened : Option Unit}

theorem isWatched_addPidToWatch (watched : table.IsWatched other) :
    (table.addPidToWatch pid opened).2.IsWatched other := by
  by_cases found : table.IsWatched pid
  · rw [WatchTable.addPidToWatch_of_found _ _ _ found]
    exact watched
  · cases free : table.freeSlot with
    | none =>
        rw [WatchTable.addPidToWatch_of_full _ _ _ found free]
        exact watched
    | some slot =>
        cases opened with
        | none =>
            rw [WatchTable.addPidToWatch_of_unopened _ _ found (by rw [free]; rfl)]
            exact watched
        | some pidfd =>
            rw [WatchTable.addPidToWatch_of_free _ _ _ found free]
            exact (WatchTable.isWatched_insert _ _ _).mpr (.inr watched)

theorem isWatched_of_addPidToWatch_ok
    (ok : (table.addPidToWatch pid opened).1 = .ok) :
    (table.addPidToWatch pid opened).2.IsWatched pid := by
  by_cases found : table.IsWatched pid
  · rw [WatchTable.addPidToWatch_of_found _ _ _ found]
    exact found
  · cases free : table.freeSlot with
    | none =>
        rw [WatchTable.addPidToWatch_of_full _ _ _ found free] at ok
        contradiction
    | some slot =>
        cases opened with
        | none =>
            rw [WatchTable.addPidToWatch_of_unopened _ _ found (by rw [free]; rfl)]
              at ok
            contradiction
        | some pidfd =>
            rw [WatchTable.addPidToWatch_of_free _ _ _ found free]
            exact (WatchTable.isWatched_insert _ _ _).mpr (.inl rfl)

end RunCommand

theorem OneSocket.held_acknowledge (one : OneSocket state) {daemon : DaemonId}
    (serving : (state.daemons daemon).phase = .serving) (request : Request)
    (opened : Option Unit) (requests : List Request) :
    let ran := (state.daemons daemon).table.runCommand request.command request.pid
      opened
    let value : Daemon :=
      { phase := State.endTurn (request.command = .stop) ran.2
        table := ran.2
        requests := requests }
    ∀ pid ∈ state.acknowledge request ran.1, state.dead pid = false ∧
      (value.Holds pid ∨ ∃ other, other ≠ daemon ∧
        (state.daemons other).Holds pid) := by
  intro ran value pid member
  rcases request with ⟨client, command, requestPid⟩
  cases command with
  | stop => exact member.elim
  | watch =>
      have keeps : ∀ other, (state.daemons daemon).Holds other → value.Holds other :=
        fun other holds => holds_endTurn (isWatched_addPidToWatch holds.2) requests
      have kept : pid ∈ state.acknowledged → state.dead pid = false ∧
          (value.Holds pid ∨ ∃ other, other ≠ daemon ∧
            (state.daemons other).Holds pid) :=
        one.stillHeld (fun other _ => keeps other) pid
      simp only [State.acknowledge] at member
      split at member
      · rename_i answered
        rcases Set.mem_insert_iff.mp member with rfl | member
        · refine ⟨answered.2, .inl ?_⟩
          exact holds_endTurn (isWatched_of_addPidToWatch_ok answered.1) requests
        · exact kept member
      · exact kept member
  | unwatch =>
      have other : pid ≠ requestPid ∨ ¬ (state.daemons daemon).table.IsWatched pid := by
        simp only [State.acknowledge] at member
        split at member
        · exact .inl member.2
        · rename_i refused
          by_cases same : pid = requestPid
          · right
            intro watched
            apply refused
            apply (WatchTable.removePidFromWatch_ok_iff _ _).mpr
            exact same ▸ watched
          · exact .inl same
      have acknowledged : pid ∈ state.acknowledged := by
        simp only [State.acknowledge] at member
        split at member
        · exact member.1
        · exact member
      rcases one.held pid acknowledged with ⟨lives, holder, holds⟩
      refine ⟨lives, ?_⟩
      by_cases same : holder = daemon
      · subst same
        have different := other.resolve_right fun absent => absent holds.2
        exact .inl (holds_endTurn
          (WatchTable.isWatched_unwatch_of_ne different holds.2) requests)
      · exact .inr ⟨holder, same, holds⟩

namespace OneSocket

theorem fork (one : OneSocket state) (clients : ClientId → Client) :
    OneSocket { state with
      clients := clients
      daemons := Function.update state.daemons state.nextDaemon
        { phase := .starting, table := .empty, requests := [] }
      nextDaemon := state.nextDaemon + 1 } where
  unborn := by
    intro other fresh
    have different : other ≠ state.nextDaemon := by
      intro same
      rw [same] at fresh
      exact Nat.not_succ_le_self _ fresh
    simp only [Function.update_of_ne different]
    exact one.unborn other (Nat.le_of_succ_le fresh)
  atPath := by
    intro other isOpen
    by_cases same : other = state.nextDaemon
    · simp [same, Phase.isOpen] at isOpen
    · simp only [Function.update_of_ne same] at isOpen
      exact one.atPath other isOpen
  held := by
    intro pid member
    rcases one.held pid member with ⟨lives, holder, holds⟩
    have different : holder ≠ state.nextDaemon := by
      intro same
      have phase := one.unborn holder (Nat.le_of_eq same.symm)
      rw [holds.1] at phase
      contradiction
    refine ⟨lives, holder, ?_⟩
    simp only [Function.update_of_ne different]
    exact holds

theorem request (one : OneSocket state) {daemon : DaemonId}
    (clients : ClientId → Client) (requests : List Request)
    (accepts : (state.daemons daemon).phase.accepts = true) :
    OneSocket { state with
      clients := clients
      daemons := Function.update state.daemons daemon
        { state.daemons daemon with requests := requests } } := by
  apply one.change
  · intro unborn
    rw [unborn] at accepts
    contradiction
  · exact fun other _ => one.atPath other
  · exact one.atPath daemon
  · exact one.stillHeld fun pid _ holds => holds

theorem close (one : OneSocket state) {daemon : DaemonId} {next : State}
    (stepped : step state (.close daemon) = some next) : OneSocket next := by
  rw [step] at stepped
  split at stepped
  · rename_i leaving
    cases stepped
    apply one.change
    · rw [leaving]
      exact Phase.noConfusion
    · exact fun other _ => one.atPath other
    · exact nofun
    · apply one.stillHeld
      intro pid _ holds
      exact Phase.noConfusion (leaving.symm.trans holds.1)
  · contradiction

theorem die (one : OneSocket state) (pid : Int32) :
    OneSocket { state with
      dead := Function.update state.dead pid true
      acknowledged := state.acknowledged \ {pid} } := by
  refine { one with held := ?_ }
  intro other member
  rcases one.held other member.1 with ⟨lives, holder⟩
  have different : other ≠ pid := member.2
  simp only [Function.update_of_ne different]
  exact ⟨lives, holder⟩

end OneSocket

theorem OneSocket.serve (one : OneSocket state) {daemon : DaemonId} {opens : Bool}
    {next : State} (stepped : step state (.serve daemon opens) = some next) :
    OneSocket next := by
  rw [step] at stepped
  simp only at stepped
  split at stepped
  · rename_i request requests serving _
    cases stepped
    have isOpen : (state.daemons daemon).phase.isOpen = true := by
      rw [serving]
      rfl
    apply one.change
    · rw [serving]
      exact Phase.noConfusion
    · exact fun other _ => one.atPath other
    · exact fun _ => one.atPath daemon isOpen
    · exact one.held_acknowledge serving request _ requests
  · contradiction

/-! ## Runs -/

/-- Every step keeps the invariant, as long as no open socket is unlinked. -/
theorem OneSocket.step (one : OneSocket state) {action : Action} {next : State}
    (spares : SparesSockets state action)
    (stepped : SocketPath.step state action = some next) : OneSocket next := by
  cases action with
  | call client command pid =>
      rw [SocketPath.step] at stepped
      split at stepped
      · cases stepped
        exact one.setClient _ _
      · cases stepped
        exact one.setClient _ _
      · contradiction
  | connect client =>
      rw [SocketPath.step] at stepped
      split at stepped
      · split at stepped
        · cases stepped
          exact one.setClient _ _
        · split at stepped <;> cases stepped <;> exact one.setClient _ _
      · split at stepped <;> cases stepped <;> exact one.setClient _ _
      · contradiction
  | fork client =>
      rw [SocketPath.step] at stepped
      split at stepped
      · cases stepped
        exact one.fork _
      · contradiction
  | noticeReady client =>
      rw [SocketPath.step] at stepped
      split at stepped
      · split at stepped
        · cases stepped
          exact one.setClient _ _
        · contradiction
      · contradiction
  | timeOut client =>
      rw [SocketPath.step] at stepped
      split at stepped
      · cases stepped
        exact one.setClient _ _
      · cases stepped
        exact one.setClient _ _
      · contradiction
  | write client =>
      rw [SocketPath.step] at stepped
      split at stepped
      · simp only at stepped
        split at stepped
        · cases stepped
          exact one.request _ _ (by assumption)
        · cases stepped
          exact one.setClient _ _
      · contradiction
  | unlinkOld daemon => exact one.unlink stepped spares nofun rfl
  | bind daemon => exact one.bind stepped
  | listen daemon => exact one.advance stepped nofun nofun fun _ => rfl
  | listenFails daemon => exact one.advance stepped nofun nofun fun _ => rfl
  | signalReady daemon => exact one.advance stepped nofun nofun fun _ => rfl
  | readyFails daemon => exact one.advance stepped nofun nofun fun _ => rfl
  | brokenPipe daemon => exact one.advance stepped nofun nofun nofun
  | serve daemon opens => exact one.serve stepped
  | handleDeath daemon pid => exact one.handleDeath stepped
  | close daemon => exact one.close stepped
  | unlinkOnExit daemon => exact one.unlink stepped spares nofun rfl
  | die pid =>
      cases stepped
      exact one.die pid

/-- If no open socket is ever unlinked, no acknowledged watch is orphaned. -/
theorem noneOrphaned_of_sparesSockets {actions : List Action} {state : State}
    (spares : Guarded step SparesSockets .initial actions)
    (run : perform step .initial actions = some state) : NoneOrphaned state := by
  have one : OneSocket state := by
    apply perform.invariant_of_guarded _ OneSocket.initial spares run
    exact fun before action after one => one.step
  exact one.noneOrphaned

def watchFirst (client : ClientId) (daemon : DaemonId) : List Action :=
  [.fork client, .unlinkOld daemon, .bind daemon, .listen daemon, .signalReady daemon,
    .noticeReady client, .connect client, .write client, .serve daemon true]

theorem noneOrphaned_of_sparesSockets_watchFirst :
    ∃ state, perform step .initial
        (.call 0 .watch 7 :: .connect 0 :: watchFirst 0 0) = some state ∧
      NoneOrphaned state := by
  have spares : Guarded step SparesSockets .initial
      (.call 0 .watch 7 :: .connect 0 :: watchFirst 0 0) := by
    apply Guarded.cons trivial rfl
    apply Guarded.cons trivial rfl
    apply Guarded.cons trivial rfl
    apply Guarded.cons _ rfl
    · apply Guarded.cons trivial rfl
      apply Guarded.cons trivial rfl
      apply Guarded.cons trivial rfl
      apply Guarded.cons trivial rfl
      apply Guarded.cons trivial rfl
      apply Guarded.cons trivial rfl
      exact ⟨trivial, fun _ _ => trivial⟩
    · exact nofun
  exact ⟨_, rfl, noneOrphaned_of_sparesSockets spares rfl⟩

/-! ## Two clients that start a daemon each -/

/-- Both clients have found no daemon. One has forked one, which has acknowledged
its WATCH, when the daemon of the other takes over the path. -/
theorem not_noneOrphaned_takenOver :
    ∃ state, perform step .initial
        ([.call 0 .watch 7, .call 1 .watch 8, .connect 0, .connect 1] ++
          watchFirst 0 0 ++
          [.fork 1, .unlinkOld 1, .bind 1, .listen 1, .signalReady 1]) = some state ∧
      ¬ NoneOrphaned state := by
  refine ⟨_, rfl, ?_⟩
  intro noneOrphaned
  have answered :
      ((WatchTable.empty : WatchTable Unit).addPidToWatch 7 (some ())).1 = .ok := by
    have room : (WatchTable.empty : WatchTable Unit).freeSlot.isSome :=
      WatchTable.freeSlot_isSome_of_lt MAX_WATCHED_PIDS_pos
    rcases Option.isSome_iff_exists.mp room with ⟨slot, free⟩
    rw [WatchTable.addPidToWatch_of_free _ _ _ (WatchTable.not_isWatched_empty 7) free]
  have acknowledged : (7 : Int32) ∈ (if
      ((WatchTable.empty : WatchTable Unit).addPidToWatch 7 (some ())).1 = .ok ∧
        false = false then insert 7 ∅ else ∅ : Set Int32) := by
    rw [if_pos ⟨answered, rfl⟩]
    exact Set.mem_insert 7 ∅
  rcases noneOrphaned 7 acknowledged with ⟨daemon, reached, _, watched⟩
  cases reached
  exact WatchTable.not_isWatched_empty 7 watched

end Pidnl.Monitor.SocketPath
