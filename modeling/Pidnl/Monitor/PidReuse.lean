import Pidnl.Monitor.Table
import Pidnl.Foundation.Execution

/-! # Processes, pids and the monitor's table

A pid names one process after another, a pidfd always the same one. Processes
come and go, clients set limits and send WATCH, and the daemon goes through its
event loop, in any order. An entry of the table is found by its pid alone.
-/

namespace Pidnl.Monitor.PidReuse

open Pidnl.Foundation

/-- Processes are numbered in the order they start. -/
abbrev ProcessId := Nat

structure Pidfd where
  fd : Nat
  process : ProcessId
deriving DecidableEq, Repr

/-- Where the daemon is in its event loop. -/
inductive Turn
  | ended
  | polling
  /-- `poll` has returned, with the pidfds that are readable. -/
  | polled (readable : Nat → Bool)
  /-- The loop over the slots, with those that are left. -/
  | handlingDeaths (readable : Nat → Bool) (slots : List SlotIndex)

/-- What the last `poll` has reported, as long as it is looked at. -/
def Turn.reports (turn : Turn) (readable : Nat → Bool) : Prop :=
  match turn with
  | .ended | .polling => False
  | .polled reported | .handlingDeaths reported _ => reported = readable

structure State where
  /-- The process that has a pid, until it is reaped. -/
  holder : Int32 → Option ProcessId
  exited : ProcessId → Bool
  nextProcess : ProcessId
  /-- The process for which the limit in force on a pid was set. -/
  limitedFor : Int32 → Option ProcessId
  /-- The pids of the WATCH commands that wait to be accepted. -/
  requests : List Int32
  table : WatchTable Pidfd
  /-- Pidfds get a new number each. -/
  nextFd : Nat
  turn : Turn

inductive Action
  | startProcess (pid : Int32)
  | exitProcess (pid : Int32)
  | reapProcess (pid : Int32)
  | limitProcessBandwidth (pid : Int32)
  | startDaemon
  | poll
  /-- Serve the next WATCH; `pidfd_open` may fail for want of a descriptor. -/
  | serveWatch (opens : Bool)
  /-- `accept` fails, or the client is turned away. -/
  | refuseClient
  | noClient
  | handleSlot
  | endTurn

namespace State

def initial : State where
  holder := fun _ => none
  exited := fun _ => false
  nextProcess := 0
  limitedFor := fun _ => none
  requests := []
  table := .empty
  nextFd := 0
  turn := .ended

/-- What `poll` reports: a pidfd is readable once its process has exited. -/
def readable (state : State) (fd : Nat) : Bool :=
  (List.finRange MAX_WATCHED_PIDS).any fun slot =>
    match state.table.entries slot with
    | none => false
    | some entry => entry.pidfd.fd = fd && state.exited entry.pidfd.process

def unregisterRateLimiterByPid (state : State) (pid : Int32) : State :=
  { state with
    table := state.table.unwatch pid
    limitedFor := Function.update state.limitedFor pid none }

/-- What `pidfd_open` returns for a pid. -/
def pidfdOpen (state : State) (opens : Bool) (pid : Int32) : Option Pidfd :=
  match if opens then state.holder pid else none with
  | none => none
  | some process => some { fd := state.nextFd, process := process }

def addPidToWatch (state : State) (opens : Bool) (pid : Int32) : State :=
  let added := state.table.addPidToWatch pid (state.pidfdOpen opens pid)
  { state with
    table := added.2
    nextFd := state.nextFd + 1
    limitedFor :=
      if added.1 = .pidfd then Function.update state.limitedFor pid none
      else state.limitedFor }

theorem addPidToWatch_of_ok {state : State} {opens : Bool} {pid : Int32}
    {table : WatchTable Pidfd}
    (added : state.table.addPidToWatch pid (state.pidfdOpen opens pid) =
      (.ok, table)) :
    state.addPidToWatch opens pid =
      { state with table := table, nextFd := state.nextFd + 1 } := by
  simp [addPidToWatch, added]

/-- The pid whose death is handled for a slot, if its pidfd was readable. -/
def due (state : State) (readable : Nat → Bool) (slot : SlotIndex) : Option Int32 :=
  match state.table.entries slot with
  | none => none
  | some entry => if readable entry.pidfd.fd then some entry.pid else none

/-- One turn of the loop that handles deaths. -/
def handleSlot (state : State) (readable : Nat → Bool) (slot : SlotIndex) : State :=
  match state.due readable slot with
  | none => state
  | some pid => state.unregisterRateLimiterByPid pid

@[simp] theorem handleSlot_turn (state : State) (readable : Nat → Bool)
    (slot : SlotIndex) : (state.handleSlot readable slot).turn = state.turn := by
  rw [handleSlot]
  split <;> rfl

end State

def step (state : State) : Action → Option State
  | .startProcess pid =>
      match state.holder pid with
      | some _ => none
      | none =>
          some { state with
            holder := Function.update state.holder pid (some state.nextProcess)
            nextProcess := state.nextProcess + 1 }
  | .exitProcess pid =>
      match state.holder pid with
      | none => none
      | some process =>
          some { state with exited := Function.update state.exited process true }
  | .reapProcess pid =>
      match state.holder pid with
      | none => none
      | some process =>
          if state.exited process then
            some { state with holder := Function.update state.holder pid none }
          else none
  | .limitProcessBandwidth pid =>
      match state.holder pid with
      | none => none
      | some process =>
          some { state with
            limitedFor := Function.update state.limitedFor pid (some process)
            requests := state.requests ++ [pid] }
  | .startDaemon =>
      match state.turn with
      | .ended => some { state with table := .empty, turn := .polling }
      | _ => none
  | .poll =>
      match state.turn with
      | .polling => some { state with turn := .polled state.readable }
      | _ => none
  | .serveWatch opens =>
      match state.turn, state.requests with
      | .polled readable, pid :: requests =>
          some { (state.addPidToWatch opens pid) with
            requests := requests
            turn := .handlingDeaths readable (List.finRange MAX_WATCHED_PIDS) }
      | _, _ => none
  | .refuseClient =>
      match state.turn with
      | .polled _ =>
          some { state with requests := state.requests.tail, turn := .polling }
      | _ => none
  | .noClient =>
      match state.turn with
      | .polled readable =>
          some { state with
            turn := .handlingDeaths readable (List.finRange MAX_WATCHED_PIDS) }
      | _ => none
  | .handleSlot =>
      match state.turn with
      | .handlingDeaths readable (slot :: slots) =>
          some { (state.handleSlot readable slot) with
            turn := .handlingDeaths readable slots }
      | _ => none
  | .endTurn =>
      match state.turn with
      | .handlingDeaths _ [] =>
          if state.table.watchedCount = 0 then some { state with turn := .ended }
          else some { state with turn := .polling }
      | _ => none

/-- The next step of the death handling calls `unregister_rate_limiter_by_pid`. -/
def Unregisters (state : State) (pid : Int32) : Prop :=
  ∃ readable slot slots, state.turn = .handlingDeaths readable (slot :: slots) ∧
    state.due readable slot = some pid

/-- Wherever the death handling removes a limit, the process it was set for has
exited. -/
def SparesLive (state : State) : Prop :=
  ∀ pid process, Unregisters state pid → state.limitedFor pid = some process →
    state.exited process = true

/-- No entry for the pid is left from an earlier process, when a limit is set. -/
def NoneStale (state : State) : Action → Prop
  | .limitProcessBandwidth pid => ∀ slot entry,
      state.table.entries slot = some entry → entry.pid = pid →
      state.holder pid = some entry.pidfd.process
  | _ => True

/-! ## The invariant -/

/-- What holds as long as no limit is set over a stale entry. -/
structure Tracks (state : State) : Prop where
  numbered : ∀ slot entry, state.table.entries slot = some entry →
    entry.pidfd.fd < state.nextFd
  /-- A number stands for one process. -/
  sameFd : ∀ first second left right, state.table.entries first = some left →
    state.table.entries second = some right → left.pidfd.fd = right.pidfd.fd →
    left.pidfd.process = right.pidfd.process
  /-- A limit is that of the process that has the pid, and so are its entries. -/
  limited : ∀ pid process, state.limitedFor pid = some process →
    state.exited process = true ∨
      state.holder pid = some process ∧
        ∀ slot entry, state.table.entries slot = some entry → entry.pid = pid →
          entry.pidfd.process = process
  readable : ∀ readable, state.turn.reports readable →
    (∀ fd, readable fd = true → fd < state.nextFd) ∧
    ∀ slot entry, state.table.entries slot = some entry →
      readable entry.pidfd.fd = true → state.exited entry.pidfd.process = true

variable {state : State}

theorem Tracks.sparesLive (tracks : Tracks state) : SparesLive state := by
  intro pid process unregisters limited
  rcases unregisters with ⟨readable, slot, slots, turn, due⟩
  rw [State.due] at due
  split at due
  · contradiction
  · rename_i entry active
    split at due
    · rename_i isReadable
      cases due
      have reports : state.turn.reports readable := by rw [turn]; rfl
      have exited := (tracks.readable readable reports).2 slot entry active isReadable
      cases tracks.limited entry.pid process limited with
      | inl gone => exact gone
      | inr present => exact present.2 slot entry active rfl ▸ exited
    · contradiction

namespace Tracks

theorem initial : Tracks .initial where
  numbered := nofun
  sameFd := nofun
  limited := nofun
  readable := nofun

theorem goOn (tracks : Tracks state) (requests : List Int32) {turn : Turn}
    (within : ∀ readable, turn.reports readable → state.turn.reports readable) :
    Tracks { state with requests := requests, turn := turn } :=
  { tracks with readable := fun readable reports =>
      tracks.readable readable (within readable reports) }

theorem startDaemon (tracks : Tracks state) :
    Tracks { state with table := .empty, turn := .polling } where
  numbered := nofun
  sameFd := nofun
  limited := fun pid process limited =>
    (tracks.limited pid process limited).imp id fun present => ⟨present.1, nofun⟩
  readable := fun _ reports => reports.elim

theorem polled (tracks : Tracks state) :
    Tracks { state with turn := .polled state.readable } := by
  have known : ∀ fd, state.readable fd = true → ∃ slot entry,
      state.table.entries slot = some entry ∧ entry.pidfd.fd = fd ∧
        state.exited entry.pidfd.process = true := by
    intro fd isReadable
    rw [State.readable, List.any_eq_true] at isReadable
    rcases isReadable with ⟨slot, _, isReadable⟩
    cases active : state.table.entries slot with
    | none => simp [active] at isReadable
    | some entry =>
        simp only [active, Bool.and_eq_true, decide_eq_true_eq] at isReadable
        exact ⟨slot, entry, active, isReadable⟩
  refine { tracks with readable := ?_ }
  intro readable reports
  cases reports
  constructor
  · intro fd isReadable
    rcases known fd isReadable with ⟨slot, entry, active, rfl, _⟩
    exact tracks.numbered slot entry active
  · intro slot entry active isReadable
    rcases known _ isReadable with ⟨other, otherEntry, otherActive, same, exited⟩
    rw [tracks.sameFd slot other entry otherEntry active otherActive same.symm]
    exact exited

theorem forget (tracks : Tracks state) (pid : Int32) :
    Tracks { state with limitedFor := Function.update state.limitedFor pid none } := by
  refine { tracks with limited := ?_ }
  intro other process limited
  by_cases same : other = pid
  · simp [same] at limited
  · simp only [Function.update_of_ne same] at limited
    exact tracks.limited other process limited

theorem unwatch (tracks : Tracks state) (pid : Int32) :
    Tracks { state with table := state.table.unwatch pid } where
  numbered := fun slot entry active =>
    tracks.numbered slot entry (WatchTable.entries_of_unwatch active)
  sameFd := fun first second left right leftActive rightActive =>
    tracks.sameFd first second left right (WatchTable.entries_of_unwatch leftActive)
      (WatchTable.entries_of_unwatch rightActive)
  limited := fun other process limited =>
    (tracks.limited other process limited).imp id fun present =>
      ⟨present.1, fun slot entry active =>
        present.2 slot entry (WatchTable.entries_of_unwatch active)⟩
  readable := fun readable reports =>
    ⟨(tracks.readable readable reports).1, fun slot entry active =>
      (tracks.readable readable reports).2 slot entry
        (WatchTable.entries_of_unwatch active)⟩

theorem unregister (tracks : Tracks state) (pid : Int32) :
    Tracks (state.unregisterRateLimiterByPid pid) :=
  (tracks.unwatch pid).forget pid

theorem handleSlot (tracks : Tracks state) (readable : Nat → Bool)
    (slot : SlotIndex) : Tracks (state.handleSlot readable slot) := by
  rw [State.handleSlot]
  split
  · exact tracks
  · exact tracks.unregister _

theorem insert (tracks : Tracks state) (slot : state.table.FreeSlot) {pid : Int32}
    {process : ProcessId} (holds : state.holder pid = some process) :
    Tracks { state with
      table := state.table.insert slot
        { pid := pid, pidfd := { fd := state.nextFd, process := process } }
      nextFd := state.nextFd + 1 } where
  numbered := by
    intro index entry active
    cases WatchTable.entries_of_insert active with
    | inl new =>
        subst new
        exact Nat.lt_succ_self state.nextFd
    | inr old => exact Nat.lt_succ_of_lt (tracks.numbered index entry old)
  sameFd := by
    intro first second left right leftActive rightActive same
    cases WatchTable.entries_of_insert leftActive with
    | inl leftNew =>
        cases WatchTable.entries_of_insert rightActive with
        | inl rightNew => rw [leftNew, rightNew]
        | inr rightOld =>
            have numbered := tracks.numbered second right rightOld
            simp [← same, leftNew] at numbered
    | inr leftOld =>
        cases WatchTable.entries_of_insert rightActive with
        | inl rightNew =>
            have numbered := tracks.numbered first left leftOld
            simp [same, rightNew] at numbered
        | inr rightOld =>
            exact tracks.sameFd first second left right leftOld rightOld same
  limited := by
    intro other limitedProcess limited
    refine (tracks.limited other limitedProcess limited).imp id fun present =>
      ⟨present.1, fun index entry active samePid => ?_⟩
    cases WatchTable.entries_of_insert active with
    | inl new =>
        subst new
        cases samePid
        exact Option.some.inj (holds.symm.trans present.1)
    | inr old => exact present.2 index entry old samePid
  readable := by
    intro readable reports
    have before := tracks.readable readable reports
    constructor
    · exact fun fd isReadable => Nat.lt_succ_of_lt (before.1 fd isReadable)
    · intro index entry active isReadable
      cases WatchTable.entries_of_insert active with
      | inl new =>
          subst new
          exact absurd (before.1 _ isReadable) (Nat.lt_irrefl _)
      | inr old => exact before.2 index entry old isReadable

theorem spendFd (tracks : Tracks state) :
    Tracks { state with nextFd := state.nextFd + 1 } :=
  { tracks with
    numbered := fun slot entry active =>
      Nat.lt_succ_of_lt (tracks.numbered slot entry active)
    readable := fun readable reports =>
      ⟨fun fd isReadable =>
        Nat.lt_succ_of_lt ((tracks.readable readable reports).1 fd isReadable),
        (tracks.readable readable reports).2⟩ }

theorem addPidToWatch (tracks : Tracks state) (opens : Bool) (pid : Int32) :
    Tracks (state.addPidToWatch opens pid) := by
  have spent := tracks.spendFd
  rw [State.addPidToWatch]
  by_cases watched : state.table.IsWatched pid
  · rw [WatchTable.addPidToWatch_of_found _ _ _ watched]
    exact spent
  · cases free : state.table.freeSlot with
    | none =>
        rw [WatchTable.addPidToWatch_of_full _ _ _ watched free]
        exact spent
    | some slot =>
        rw [State.pidfdOpen]
        cases holds : if opens then state.holder pid else none with
        | none =>
            have room : state.table.freeSlot.isSome := by rw [free]; rfl
            simp only [WatchTable.addPidToWatch_of_unopened _ _ watched room, if_true]
            exact spent.forget pid
        | some process =>
            have isHolder : state.holder pid = some process := by
              cases opens with
              | false => contradiction
              | true => exact holds
            simp only [WatchTable.addPidToWatch_of_free _ _ _ watched free]
            exact tracks.insert slot isHolder

theorem exitProcess (tracks : Tracks state) (process : ProcessId) :
    Tracks { state with exited := Function.update state.exited process true } := by
  have still : ∀ other, state.exited other = true →
      Function.update state.exited process true other = true := by
    intro other exited
    by_cases same : other = process
    · simp [same]
    · rw [Function.update_of_ne same]
      exact exited
  refine { tracks with limited := ?_, readable := ?_ }
  · intro pid limitedProcess limited
    exact (tracks.limited pid limitedProcess limited).imp (still _) id
  · intro readable reports
    have before := tracks.readable readable reports
    exact ⟨before.1, fun slot entry active isReadable =>
      still _ (before.2 slot entry active isReadable)⟩

theorem changeHolder (tracks : Tracks state) {pid : Int32} (next : Option ProcessId)
    (exited : ∀ process, state.holder pid = some process →
      state.exited process = true) (nextProcess : ProcessId) :
    Tracks { state with
      holder := Function.update state.holder pid next
      nextProcess := nextProcess } := by
  refine { tracks with limited := ?_ }
  intro other process limited
  cases tracks.limited other process limited with
  | inl gone => exact .inl gone
  | inr present =>
      by_cases same : other = pid
      · subst same
        exact .inl (exited process present.1)
      · right
        simp only [Function.update_of_ne same]
        exact present

theorem limitProcessBandwidth (tracks : Tracks state) {pid : Int32}
    {process : ProcessId} (holds : state.holder pid = some process)
    (noneStale : NoneStale state (.limitProcessBandwidth pid)) :
    Tracks { state with
      limitedFor := Function.update state.limitedFor pid (some process) } := by
  refine { tracks with limited := ?_ }
  intro other limitedProcess limited
  by_cases same : other = pid
  · subst same
    simp only [Function.update_self] at limited
    cases limited
    refine .inr ⟨holds, fun slot entry active samePid => ?_⟩
    have current := noneStale slot entry active samePid
    exact Option.some.inj (current.symm.trans holds)
  · simp only [Function.update_of_ne same] at limited
    exact tracks.limited other limitedProcess limited

/-- Every step keeps the invariant, as long as no limit is set over a stale entry. -/
theorem step (tracks : Tracks state) {action : Action} {next : State}
    (noneStale : NoneStale state action)
    (stepped : PidReuse.step state action = some next) : Tracks next := by
  cases action <;> rw [PidReuse.step] at stepped
  case startProcess pid =>
    split at stepped
    · contradiction
    · rename_i free
      cases stepped
      apply tracks.changeHolder
      intro process holds
      rw [free] at holds
      contradiction
  case exitProcess pid =>
    split at stepped
    · contradiction
    · cases stepped
      exact tracks.exitProcess _
  case reapProcess pid =>
    split at stepped
    · contradiction
    · rename_i process holds
      split at stepped
      · rename_i exited
        cases stepped
        apply tracks.changeHolder
        intro other otherHolds
        rw [holds] at otherHolds
        cases otherHolds
        exact exited
      · contradiction
  case limitProcessBandwidth pid =>
    split at stepped
    · contradiction
    · rename_i process holds
      cases stepped
      exact (tracks.limitProcessBandwidth holds noneStale).goOn _ fun _ => id
  case startDaemon =>
    split at stepped
    · cases stepped
      exact tracks.startDaemon
    · contradiction
  case poll =>
    split at stepped
    · cases stepped
      exact tracks.polled
    · contradiction
  case serveWatch opens =>
    split at stepped
    · rename_i readable pid requests turn _
      cases stepped
      apply (tracks.addPidToWatch opens pid).goOn
      have sameTurn : (state.addPidToWatch opens pid).turn = state.turn := rfl
      rw [sameTurn, turn]
      exact fun _ => id
    · contradiction
  case refuseClient =>
    split at stepped
    · cases stepped
      exact tracks.goOn _ fun _ => False.elim
    · contradiction
  case noClient =>
    split at stepped
    · rename_i readable turn
      cases stepped
      apply tracks.goOn state.requests
      rw [turn]
      exact fun _ => id
    · contradiction
  case handleSlot =>
    split at stepped
    · rename_i readable slot slots turn
      cases stepped
      apply (tracks.handleSlot readable slot).goOn
      rw [State.handleSlot_turn, turn]
      exact fun _ => id
    · contradiction
  case endTurn =>
    split at stepped
    · split at stepped <;> cases stepped <;>
        exact tracks.goOn state.requests fun _ => False.elim
    · contradiction

end Tracks

/-- If no limit is ever set over a stale entry, no live process loses its limit. -/
theorem sparesLive_of_noneStale {actions : List Action} {state : State}
    (noneStale : Guarded step NoneStale .initial actions)
    (run : perform step .initial actions = some state) : SparesLive state := by
  have tracks : Tracks state := by
    apply perform.invariant_of_guarded _ Tracks.initial noneStale run
    exact fun before action after tracks => tracks.step
  exact tracks.sparesLive

def watchOne : List Action :=
  [.startProcess 7, .limitProcessBandwidth 7, .startDaemon, .poll, .serveWatch true]

theorem sparesLive_of_noneStale_watchOne :
    ∃ state, perform step .initial watchOne = some state ∧ SparesLive state := by
  have noneStale : Guarded step NoneStale .initial watchOne := by
    refine ⟨trivial, fun started first => ⟨?_, fun _ _ => ⟨trivial, fun _ _ =>
      ⟨trivial, fun _ _ => ⟨trivial, fun _ _ => trivial⟩⟩⟩⟩⟩
    cases first
    exact nofun
  exact ⟨_, rfl, sparesLive_of_noneStale noneStale rfl⟩

/-! ## A limit set over a stale entry -/

theorem perform_handleSlot {readable : Nat → Bool} {slots rest : List SlotIndex}
    (turn : state.turn = .handlingDeaths readable (slots ++ rest))
    (nothing : ∀ slot ∈ slots, state.due readable slot = none) :
    perform step state (List.replicate slots.length .handleSlot) =
      some { state with turn := .handlingDeaths readable rest } := by
  induction slots generalizing state with
  | nil =>
      simp only [List.nil_append] at turn
      rw [← turn]
      rfl
  | cons slot slots induction =>
      have passed : step state .handleSlot =
          some { state with turn := .handlingDeaths readable (slots ++ rest) } := by
        rw [step, turn]
        simp only [List.cons_append, State.handleSlot,
          nothing slot List.mem_cons_self]
      rw [List.length_cons, List.replicate_succ, perform, passed, Option.bind_some]
      apply induction rfl
      exact fun other member => nothing other (List.mem_cons_of_mem slot member)

def watchedOnce (slot : SlotIndex) : State where
  holder := Function.update (fun _ => none) 7 (some 0)
  exited := fun _ => false
  nextProcess := 1
  limitedFor := Function.update (fun _ => none) 7 (some 0)
  requests := []
  table := WatchTable.empty.insert ⟨slot, rfl⟩
    { pid := 7, pidfd := { fd := 0, process := 0 } }
  nextFd := 1
  turn := .polling

theorem watchedOnce_entries (slot : SlotIndex) :
    (watchedOnce slot).table.entries slot =
      some { pid := 7, pidfd := { fd := 0, process := 0 } } :=
  Function.update_self _ _ _

theorem watchedOnce_entries_of_ne {slot other : SlotIndex} (different : other ≠ slot) :
    (watchedOnce slot).table.entries other = none :=
  Function.update_of_ne different _ _

def requested : State where
  holder := Function.update (fun _ => none) 7 (some 0)
  exited := fun _ => false
  nextProcess := 1
  limitedFor := Function.update (fun _ => none) 7 (some 0)
  requests := [7]
  table := .empty
  nextFd := 0
  turn := .polling

theorem readable_requested (fd : Nat) : requested.readable fd = false := by
  rw [State.readable, List.any_eq_false]
  intro slot _
  exact Bool.false_ne_true

theorem step_serveWatch {readable : Nat → Bool} {pid : Int32} {requests : List Int32}
    (turn : state.turn = .polled readable) (request : state.requests = pid :: requests)
    (opens : Bool) :
    step state (.serveWatch opens) = some { (state.addPidToWatch opens pid) with
      requests := requests
      turn := .handlingDeaths readable (List.finRange MAX_WATCHED_PIDS) } := by
  simp only [step, turn, request]

theorem reaches_watchedOnce :
    ∃ slot actions, perform step .initial actions = some (watchedOnce slot) := by
  have room : (WatchTable.empty : WatchTable Pidfd).freeSlot.isSome :=
    WatchTable.freeSlot_isSome_of_lt MAX_WATCHED_PIDS_pos
  rcases Option.isSome_iff_exists.mp room with ⟨⟨slot, isFree⟩, free⟩
  have polled : perform step .initial [.startProcess 7, .limitProcessBandwidth 7,
      .startDaemon, .poll] =
    some { requested with turn := .polled requested.readable } := rfl
  have served : step { requested with turn := .polled requested.readable }
      (.serveWatch true) = some { watchedOnce slot with
        turn := .handlingDeaths requested.readable
          (List.finRange MAX_WATCHED_PIDS) } := by
    have added : WatchTable.empty.addPidToWatch 7
        (some { fd := 0, process := 0 : Pidfd }) = (.ok, (watchedOnce slot).table) :=
      WatchTable.addPidToWatch_of_free _ _ _ (WatchTable.not_isWatched_empty 7) free
    rw [step_serveWatch rfl rfl, State.addPidToWatch_of_ok added]
    rfl
  have passed : perform step { watchedOnce slot with
        turn := .handlingDeaths requested.readable (List.finRange MAX_WATCHED_PIDS) }
      (List.replicate (List.finRange MAX_WATCHED_PIDS).length .handleSlot) =
        some { watchedOnce slot with
          turn := .handlingDeaths requested.readable [] } := by
    apply perform_handleSlot
    · rw [List.append_nil]
    · intro other _
      rw [State.due]
      split
      · rfl
      · rw [readable_requested, if_neg Bool.false_ne_true]
  have ended : step { watchedOnce slot with
      turn := .handlingDeaths requested.readable [] } .endTurn =
    some (watchedOnce slot) := rfl
  refine ⟨slot, [.startProcess 7, .limitProcessBandwidth 7, .startDaemon, .poll] ++
    .serveWatch true :: (List.replicate (List.finRange MAX_WATCHED_PIDS).length
      .handleSlot ++ [.endTurn]), ?_⟩
  apply perform.append_eq_some.mpr
  refine ⟨_, polled, perform.cons_eq_some.mpr ⟨_, served, ?_⟩⟩
  apply perform.append_eq_some.mpr
  exact ⟨_, passed, perform.cons_eq_some.mpr ⟨_, ended, rfl⟩⟩

/-- The process has exited, another one has got its pid and a limit. -/
def reused (slot : SlotIndex) : State where
  holder := Function.update
    (Function.update (watchedOnce slot).holder 7 none) 7 (some 1)
  exited := Function.update (fun _ => false) 0 true
  nextProcess := 2
  limitedFor := Function.update (watchedOnce slot).limitedFor 7 (some 1)
  requests := [7]
  table := (watchedOnce slot).table
  nextFd := 1
  turn := .polling

theorem readable_reused (slot : SlotIndex) : (reused slot).readable 0 = true := by
  rw [State.readable, List.any_eq_true]
  refine ⟨slot, List.mem_finRange slot, ?_⟩
  have active : (reused slot).table.entries slot = _ := watchedOnce_entries slot
  rw [active]
  rfl

def polledAgain (slot : SlotIndex) : State :=
  { reused slot with turn := .polled (reused slot).readable }

def answered (slot : SlotIndex) (slots : List SlotIndex) : State :=
  { reused slot with
    requests := []
    nextFd := 2
    turn := .handlingDeaths (reused slot).readable slots }

theorem serveWatch_polledAgain (slot : SlotIndex) :
    step (polledAgain slot) (.serveWatch true) =
      some (answered slot (List.finRange MAX_WATCHED_PIDS)) := by
  have watched : (polledAgain slot).table.IsWatched 7 :=
    ⟨slot, _, watchedOnce_entries slot, rfl⟩
  have added : (polledAgain slot).addPidToWatch true 7 =
      { polledAgain slot with nextFd := 2 } :=
    State.addPidToWatch_of_ok (WatchTable.addPidToWatch_of_found _ _ _ watched)
  rw [step_serveWatch rfl rfl, added]
  rfl

theorem handleSlots_answered {slot : SlotIndex} {before after : List SlotIndex}
    (slots : List.finRange MAX_WATCHED_PIDS = before ++ slot :: after) :
    perform step (answered slot (before ++ slot :: after))
        (List.replicate before.length .handleSlot) =
      some (answered slot (slot :: after)) := by
  apply perform_handleSlot rfl
  intro other member
  have different : other ≠ slot := by
    intro same
    have distinct := List.nodup_finRange MAX_WATCHED_PIDS
    rw [slots, List.nodup_append] at distinct
    exact distinct.2.2 other member slot List.mem_cons_self same
  have inactive : (answered slot (before ++ slot :: after)).table.entries other = none :=
    watchedOnce_entries_of_ne different
  simp only [State.due, inactive]

/-- The second process's WATCH is answered with `MONITOR_OK`, and then the death of
the first one takes the limit of the second. -/
theorem not_sparesLive_reused :
    ∃ actions state, perform step .initial actions = some state ∧
      ¬ SparesLive state := by
  rcases reaches_watchedOnce with ⟨slot, first, reaches⟩
  rcases List.append_of_mem (List.mem_finRange slot) with ⟨before, after, slots⟩
  have again : perform step (watchedOnce slot) [.exitProcess 7, .reapProcess 7,
      .startProcess 7, .limitProcessBandwidth 7, .poll] =
    some (polledAgain slot) := rfl
  have served := serveWatch_polledAgain slot
  rw [slots] at served
  refine ⟨first ++ ([.exitProcess 7, .reapProcess 7, .startProcess 7,
    .limitProcessBandwidth 7, .poll] ++ .serveWatch true ::
      List.replicate before.length .handleSlot), answered slot (slot :: after), ?_, ?_⟩
  · apply perform.append_eq_some.mpr
    refine ⟨_, reaches, perform.append_eq_some.mpr ⟨_, again, ?_⟩⟩
    exact perform.cons_eq_some.mpr ⟨_, served, handleSlots_answered slots⟩
  · intro spares
    have active : (answered slot (slot :: after)).table.entries slot = _ :=
      watchedOnce_entries slot
    have unregisters : Unregisters (answered slot (slot :: after)) 7 := by
      refine ⟨_, _, _, rfl, ?_⟩
      simp only [State.due, active, readable_reused, if_true]
    exact absurd (spares 7 1 unregisters rfl) Bool.false_ne_true

end Pidnl.Monitor.PidReuse
