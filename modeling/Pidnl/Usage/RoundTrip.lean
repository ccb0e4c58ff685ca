import Pidnl.Gui.LimitEntries
import Pidnl.Usage.Lifetimes

/-! # What is asked for and what is shown

A change that is reported to have succeeded is in force, unless the daemon takes the
process for an earlier one, and the lists of the command line and of the helper show it for
as long as the process goes on.
-/

namespace Pidnl.Usage

open Pidnl.Foundation Pidnl.System Pidnl.Ratelimit Pidnl.Monitor
open Pidnl.Cli (CliCall Ending EXIT_SUCCESS IsCommand changes exchangeOf finished printed Row
  table)
open Pidnl.Gui (Call ProcessInfo numberLine responseLine libraryIn BACKEND_RESPONSE_OK
  BACKEND_RESPONSE_ERROR)
open Pidnl.Gui.Commands

/-! ## How a change is answered -/

/-- The exit status is a success, or the reply is `BACKEND_RESPONSE_OK`. -/
def Output.Succeeds : Output → Prop
  | .nothing => False
  | .exited ending _ _ => ending = .exited EXIT_SUCCESS
  | .replied lines => lines = some [numberLine BACKEND_RESPONSE_OK]

section Answers

variable {surroundings : Surroundings} {ledger : Ledger} {argv : List Bytes} {input : Bytes}
  {operation : Operation}

def Made (ledger : Ledger) : Operation → Prop
  | .limitProcessBandwidth pid config =>
      ledger.running pid = true ∧ ledger.limits pid = some config
  | .unregisterRateLimiterByPid pid => ledger.limits pid = none
  | .ratelimitCleanupAll => ledger.limits = .empty

/-- A limit is for a pid that a process has. -/
def Grants (ledger : Ledger) : Operation → Prop
  | .limitProcessBandwidth pid _ => 0 < pid ∧ ledger.running pid = true
  | _ => True

/-- The process that is to be limited is not taken for an earlier one. -/
def NotMistaken (stale : Int32 → Bool) : Operation → Prop
  | .limitProcessBandwidth pid _ => stale pid = false
  | _ => True

theorem grants_of_ok (ok : ledger.answer operation = .ok) : Grants ledger operation := by
  cases operation with
  | limitProcessBandwidth pid config =>
      simp only [Ledger.answer] at ok
      split at ok
      · contradiction
      · rename_i positive
        split at ok
        · rename_i running
          exact ⟨Int32.not_le.mp positive, running⟩
        · contradiction
  | unregisterRateLimiterByPid pid => trivial
  | ratelimitCleanupAll => trivial

theorem made_iff_notMistaken (within : ∀ pid, ledger.stale pid = true → pid ∈ ledger.watched)
    (grants : Grants ledger operation) :
    Made (ledger.apply operation) operation ↔ NotMistaken ledger.stale operation := by
  cases operation with
  | limitProcessBandwidth pid config =>
      rw [Made, NotMistaken, Ledger.running_apply]
      cases isStale : ledger.stale pid with
      | true =>
          have lost := Ledger.lost_of_stale (within pid isStale) isStale
          rw [lost.limits_apply_self grants.1 grants.2]
          simp
      | false =>
          have seen := Ledger.seen_iff.mpr ⟨grants.2, isStale⟩
          exact iff_of_true ⟨grants.2, Ledger.limits_apply_self grants.1 seen⟩ rfl
  | unregisterRateLimiterByPid pid =>
      refine iff_of_true ?_ trivial
      rw [Made, Option.eq_none_iff_forall_ne_some]
      intro config limited
      have left : Function.update ledger.limits pid none pid = some config :=
        Ledger.limits_of_reap limited
      rw [Function.update_self] at left
      contradiction
  | ratelimitCleanupAll => exact iff_of_true rfl trivial

theorem limits_of_not_ok {pid : Int32} (failed : ledger.answer operation ≠ .ok)
    (seen : ledger.seen pid = true) :
    (ledger.apply operation).limits pid = ledger.limits pid := by
  cases operation with
  | limitProcessBandwidth other config =>
      simp only [Ledger.answer] at failed
      simp only [Ledger.apply]
      by_cases notPositive : other ≤ 0
      · rw [if_pos notPositive]
      · rw [if_neg notPositive] at failed ⊢
        by_cases runs : ledger.running other = true
        · exact absurd (if_pos runs) failed
        · rw [if_neg runs]
          apply Function.update_of_ne
          intro same
          subst same
          exact runs (Ledger.seen_iff.mp seen).1
  | unregisterRateLimiterByPid other =>
      refine (Ledger.limits_reap_unwatch seen _ other).trans ?_
      by_cases same : pid = other
      · subst same
        rw [Ledger.answer] at failed
        have missing : ledger.limits pid = none :=
          Option.not_isSome_iff_eq_none.mp fun limited => failed (if_pos limited)
        rw [missing]
        exact Function.update_self _ _ _
      · exact Function.update_of_ne same _ _
  | ratelimitCleanupAll => exact absurd rfl failed

theorem code_of_exchanges {program : Cli.CliProgram α} {code : RatelimitCode}
    {earlier later : List (Exchange CliCall)} (none : changes earlier = [])
    (split : program.exchanges (commandLine onLedger surroundings) ledger =
      earlier ++ exchangeOf code operation :: later) : code = ledger.answer operation := by
  rcases Program.reply_of_exchanges commandLine_keeps split with ⟨site, reply⟩
  rw [foldl_keep, none] at reply
  cases operation <;> exact reply

/-- What is asked for succeeds and is granted, or fails and touches no process that runs. -/
def Answers (ledger next : Ledger) (operation : Operation) (succeeds : Prop) : Prop :=
  (succeeds ∧ Grants ledger operation ∧ next = ledger.apply operation) ∨
    (¬ succeeds ∧ ∀ pid, ledger.seen pid = true → next.limits pid = ledger.limits pid)

/-- A command line succeeds in the change that it asks for, or fails and leaves the limits
of the processes that run. -/
theorem run_main_asks (asks : Cli.Asks argv operation) (notDeclined : ¬ Cli.Declined argv input)
    (surroundings : Surroundings) (ledger : Ledger) :
    let ended := (Cli.main argv input).run (commandLine onLedger surroundings) ledger
    Answers ledger ended.2 operation (ended.1 = .exited EXIT_SUCCESS) := by
  intro ended
  have course := Program.course_of_run (commandLine onLedger surroundings)
    (Cli.main argv input) ledger
  have left : ended.2 = _ := Program.run_eq_foldl commandLine_keeps (Cli.main argv input) ledger
  rw [foldl_keep] at left
  rcases Cli.ends_main asks notDeclined course with
    ⟨failure, none⟩ | ⟨code, earlier, changed, success⟩
  · rw [none] at left
    exact .inr ⟨failure, fun pid _ => congrArg (fun ledger => ledger.limits pid) left⟩
  rw [changed.changes_eq] at left
  rcases changed.split with ⟨later, split, _⟩
  rw [code_of_exchanges changed.first split] at success
  by_cases ok : ledger.answer operation = .ok
  · exact .inl ⟨success.mpr ok, grants_of_ok ok, left⟩
  · right
    refine ⟨fun succeeds => ok (success.mp succeeds), fun pid seen => ?_⟩
    rw [left]
    exact limits_of_not_ok ok seen

theorem responseLine_eq_ok_iff {code : RatelimitCode} :
    responseLine code = numberLine BACKEND_RESPONSE_OK ↔ code = .ok := by
  have differ : numberLine BACKEND_RESPONSE_ERROR ≠ numberLine BACKEND_RESPONSE_OK := by decide
  rw [responseLine]
  by_cases ok : code = .ok
  · rw [if_pos ok]
    exact iff_of_true rfl ok
  · rw [if_neg ok]
    exact iff_of_false differ ok

/-- The reply to a request tells the same as an exit status; where there is no limit, none
has to be removed. -/
theorem run_serveLine_asks {call : Call} (asks : operationOf call = some operation)
    (machine : Discovery.Machine) (ledger : Ledger) :
    let served := (serveLine call.command).run (helper onLedger machine) ledger
    Answers ledger served.2 operation (served.1 = some [numberLine BACKEND_RESPONSE_OK]) := by
  intro served
  have left : served.2 = ledger.apply operation := by
    have left : served.2 = _ := run_serveLine_onLedger machine ledger call
    rw [asks] at left
    exact left
  rw [left]
  cases call with
  | list => cases asks
  | clean =>
      cases asks
      refine .inl ⟨?_, trivial, rfl⟩
      simp only [served, serveLine_command]
      rfl
  | setLimit pid uploadKbps downloadKbps =>
      simp only [operationOf] at asks
      by_cases notPositive : pid ≤ 0
      · rw [if_pos notPositive] at asks
        cases asks
      rw [if_neg notPositive] at asks
      have replies : served.1 = some [responseLine ((changeLimit pid
          { uploadKbps, downloadKbps }).run (helper onLedger machine) ledger).1] := by
        simp only [served, serveLine_command, handled,
          handleLimitCmd_setLimit (Int32.not_le.mp notPositive),
          Program.run_bind, Program.run_pure]
      rw [replies, Option.some_inj, List.singleton_inj, responseLine_eq_ok_iff, changeLimit,
        Gui.changeLimitBy]
      by_cases unlimited : { uploadKbps, downloadKbps : RateLimitConfig } = .unlimited
      · rw [if_pos unlimited] at asks ⊢
        cases asks
        refine .inl ⟨?_, trivial, rfl⟩
        simp only [Program.run_bind, Program.run_request, helper,
          onLedger_unregisterRateLimiterByPid, Ledger.answer]
        by_cases present : (ledger.limits pid).isSome
        · simp [present]
        · simp [present]
      · rw [if_neg unlimited] at asks ⊢
        cases asks
        by_cases ok : ledger.answer (.limitProcessBandwidth pid { uploadKbps, downloadKbps }) = .ok
        · exact .inl ⟨ok, grants_of_ok ok, rfl⟩
        · exact .inr ⟨ok, fun pid seen => limits_of_not_ok ok seen⟩

end Answers

/-! ## On the computer -/

def InForce (computer : Computer) : Operation → Prop
  | .limitProcessBandwidth pid config =>
      computer.running pid = true ∧ computer.read pid = shown config
  | .unregisterRateLimiterByPid pid => computer.read pid = .absent
  | .ratelimitCleanupAll => ∀ pid, computer.read pid = .absent

theorem shown_injective : Function.Injective shown := by
  intro first second same
  cases first
  cases second
  simp only [shown, RateLimitsRead.mk.injEq, true_and] at same
  simp [same]

/-- A change that has been declined by the user is not reported as made. -/
def Event.Declined : Event → Prop
  | .pidnl _ argv input => Cli.Declined argv input
  | _ => False

section OnComputer

variable {computer : Computer} {ledger : Ledger} {pid : Int32} {event : Event}
  {operation : Operation}

theorem read_eq_shown_iff {config : RateLimitConfig} (follows : computer.Follows ledger) :
    computer.read pid = shown config ↔ ledger.limits pid = some config := by
  constructor
  · intro reads
    cases held : ledger.limits pid with
    | none =>
        rw [absent_of_limits follows held] at reads
        exact absurd reads.symm (shown_ne_absent config)
    | some other =>
        rw [read_of_limits follows held] at reads
        rw [shown_injective reads]
  · exact read_of_limits follows

theorem inForce_iff_made (follows : computer.Follows ledger) :
    InForce computer operation ↔ Made ledger operation := by
  cases operation with
  | limitProcessBandwidth pid config =>
      rw [InForce, Made, Computer.running, follows.agrees.running, read_eq_shown_iff follows]
  | unregisterRateLimiterByPid pid => exact read_eq_absent_iff follows
  | ratelimitCleanupAll =>
      exact (forall_congr' fun pid => read_eq_absent_iff follows).trans funext_iff.symm

theorem answers_of_follows (follows : computer.Follows ledger) (asks : event.AsksFor operation)
    (notDeclined : ¬ event.Declined) :
    Answers ledger (step onLedger ledger event).2 operation
      (step onComputer computer event).1.Succeeds := by
  rw [(sameOutcome_step computer ledger event follows).1]
  cases event with
  | starts pid => exact asks.elim
  | exits pid => exact asks.elim
  | wakes => exact asks.elim
  | pidnl surroundings argv input => exact run_main_asks asks notDeclined surroundings ledger
  | request machine call => exact run_serveLine_asks asks machine ledger

end OnComputer

/-- After every run, a change that is asked for succeeds, and is in force unless the daemon
takes the process for an earlier one, or fails and leaves all processes that run their
limits. -/
theorem answers_truly {cgroup2Mount bpffsMount : Path} {running : Int32 → Bool}
    {events : List Event} {computer : Computer} {event : Event} {operation : Operation}
    (reached : happen (.fresh cgroup2Mount bpffsMount running) events = computer)
    (asks : event.AsksFor operation) (notDeclined : ¬ event.Declined) :
    let outcome := step onComputer computer event
    (outcome.1.Succeeds ∧
        (InForce outcome.2 operation ↔ NotMistaken computer.stale operation)) ∨
      (¬ outcome.1.Succeeds ∧ ∀ pid, computer.running pid = true →
        computer.stale pid = false → outcome.2.read pid = computer.read pid) := by
  have follows := follows_from_fresh cgroup2Mount bpffsMount running events
  rw [reached] at follows
  generalize recorded (.fresh running) events = ledger at follows
  have kept := (sameOutcome_step computer ledger event follows).2
  rcases answers_of_follows follows asks notDeclined with
    ⟨succeeds, grants, next⟩ | ⟨fails, unchanged⟩
  · left
    refine ⟨succeeds, ?_⟩
    rw [inForce_iff_made kept, next, made_iff_notMistaken follows.within grants, follows.stale]
  · right
    refine ⟨fails, fun pid running fresh => ?_⟩
    rw [read_of_follows kept, read_of_follows follows, LimitStore.read, LimitStore.read,
      unchanged pid (seen_of_follows follows running fresh)]

theorem answers_truly_twelve :
    let outcome := step onComputer (.fresh [] [] fun _ => true)
      (.request Cli.withNc (.setLimit 12 5 5))
    (outcome.1.Succeeds ∧
        (InForce outcome.2 (.limitProcessBandwidth 12 ⟨5, 5⟩) ↔
          NotMistaken (fun _ => false) (.limitProcessBandwidth 12 ⟨5, 5⟩))) ∨
      (¬ outcome.1.Succeeds ∧ ∀ pid, (fun _ : Int32 => true) pid = true →
        (fun _ : Int32 => false) pid = false →
          outcome.2.read pid = (Computer.fresh [] [] fun _ => true).read pid) := by
  have reached : happen (.fresh [] [] fun _ => true) [] = .fresh [] [] fun _ => true := rfl
  have asks : Event.AsksFor (.request Cli.withNc (.setLimit 12 5 5))
      (.limitProcessBandwidth 12 ⟨5, 5⟩) := asks_limitsTwelve
  exact answers_truly reached asks id

/-! ## A command for root -/

/-- The program gets as far as its commands. -/
structure Surroundings.Ready (surroundings : Surroundings) : Prop where
  initialises : surroundings.initialises = true
  mount : surroundings.mount.isSome
  root : surroundings.euid = 0

section Ready

variable {State : Type} {surroundings : Surroundings} {argv args : List Bytes} {word : Bytes}
  {command : Cli.Command}

def beforeHandler (surroundings : Surroundings) : List (Exchange CliCall) :=
  [⟨.startup .cgroupInit, surroundings.initialises⟩,
    ⟨.startup .getCgroup2Mount, surroundings.mount⟩, ⟨.geteuid, surroundings.euid⟩]

theorem main_of_ready (ready : surroundings.Ready) (isCommand : IsCommand argv word args)
    (known : Cli.findCommand word = some command) (backing : Backing State) (input : Bytes)
    (state : State) :
    let main := Cli.main argv input
    let handler := command.handler args input
    let environment : Environment Frame CliCall State := commandLine backing surroundings
    main.run environment state =
        (finished (handler.run environment state).1, (handler.run environment state).2) ∧
      main.exchanges environment state =
        beforeHandler surroundings ++ handler.exchanges environment state := by
  intro main handler environment
  have initialises := ready.initialises
  have root := ready.root
  rcases Option.isSome_iff_exists.mp ready.mount with ⟨path, mount⟩
  have starts : ((ratelimitInit.embed CliCall.startup).run environment state = (.ok, state)) ∧
      (ratelimitInit.embed CliCall.startup).exchanges environment state =
        [⟨.startup .cgroupInit, surroundings.initialises⟩,
          ⟨.startup .getCgroup2Mount, surroundings.mount⟩] := by
    cases surroundings
    cases initialises
    cases mount
    exact ⟨rfl, rfl⟩
  have handles : main.run environment state = (Cli.asRoot handler).run environment state ∧
      main.exchanges environment state = (ratelimitInit.embed CliCall.startup).exchanges
        environment state ++ (Cli.asRoot handler).exchanges environment state := by
    simp only [main, Cli.main, Program.run_bind, Program.exchanges_bind, starts, ne_eq,
      not_true_eq_false, if_false, isCommand.noHelp, Bool.false_eq_true, Cli.runCommand,
      (Cli.findArgument_iff_isCommand isCommand.noHelp).mpr isCommand, known, handler, and_self]
  have asks : environment [] .geteuid state = (0, state) := congrArg (Prod.mk · state) root
  rw [handles.1, handles.2, starts.2, beforeHandler, root]
  simp only [Cli.asRoot, Program.run_bind, Program.run_request, Program.exchanges_bind,
    Program.exchanges_request, asks, ne_eq, not_true_eq_false, if_false]
  cases (handler.run environment state).1 with
  | none => simp [finished]
  | some ending => simp [finished]

end Ready

/-! ## Lists -/

def rowsOf (reads : Int32 → RateLimitsRead) (processes : List ProcessInfo) : List Row :=
  processes.map fun process => (process, reads process.pid)

section Lists

variable {surroundings : Surroundings} {ledger : Ledger} {processes : List ProcessInfo}

theorem run_readLimits (processes : List ProcessInfo) :
    (Cli.readLimits processes).run (commandLine onLedger surroundings) ledger =
      (rowsOf ledger.limits.read processes, ledger) := by
  induction processes with
  | nil => rfl
  | cons process processes induction =>
      have reads : commandLine onLedger surroundings []
          (.library (.getRateLimitsFromCgroup process.pid)) ledger =
            (ledger.limits.read process.pid, ledger) := rfl
      simp only [Cli.readLimits, Program.run_bind, Program.run_request, reads, induction,
        Program.run_pure]
      rfl

theorem run_printRows (rows : List Row) :
    (Cli.printRows rows).run (commandLine onLedger surroundings) ledger = ((), ledger) := by
  induction rows with
  | nil => rfl
  | cons row rows induction => exact induction

theorem cmdList_onLedger
    (found : Discovery.getNetworkProcesses surroundings.machine = .ok processes)
    (allocates : surroundings.allocates processes.length = true) (ledger : Ledger) :
    let environment : Environment Frame CliCall Ledger := commandLine onLedger surroundings
    Cli.cmdList.run environment ledger = (none, ledger) ∧
      printed (Cli.cmdList.exchanges environment ledger) =
        table (rowsOf ledger.limits.read processes) := by
  intro environment
  have finds : environment [] (.library .getNetworkProcesses) ledger = (.ok processes, ledger) :=
    congrArg (Prod.mk · ledger) found
  have callocs : environment [] (.calloc processes.length) ledger = (true, ledger) :=
    congrArg (Prod.mk · ledger) allocates
  have reads : (Cli.readLimits processes).run environment ledger = _ := run_readLimits processes
  have nothing := (Cli.course_readLimits (Program.course_of_run environment
    (Cli.readLimits processes) ledger)).2.2
  have prints := Cli.course_printRows (Program.course_of_run environment
    (Cli.printRows (rowsOf ledger.limits.read processes)) ledger)
  have printsRows : (Cli.printRows (rowsOf ledger.limits.read processes)).run environment
    ledger = ((), ledger) := run_printRows _
  have printf : ∀ text, environment [] (.printf text) ledger = ((), ledger) := fun _ => rfl
  simp only [Cli.cmdList, Program.run_bind, Program.exchanges_bind, Program.run_request,
    Program.exchanges_request, finds, callocs, Bool.not_true, Bool.or_self,
    Bool.false_eq_true, if_false, reads, Cli.printProcessList, printf, printsRows,
    Program.run_pure, Program.exchanges_pure, Cli.printed_append, nothing, prints, true_and]
  rw [table]
  simp [printed, Cli.textOf]

theorem main_list_onLedger {argv args : List Bytes} (ready : surroundings.Ready)
    (isList : IsCommand argv (ascii "list") args)
    (found : Discovery.getNetworkProcesses surroundings.machine = .ok processes)
    (allocates : surroundings.allocates processes.length = true) (input : Bytes)
    (ledger : Ledger) :
    let main := Cli.main argv input
    let environment : Environment Frame CliCall Ledger := commandLine onLedger surroundings
    main.run environment ledger = (.exited EXIT_SUCCESS, ledger) ∧
      printed (main.exchanges environment ledger) =
        table (rowsOf ledger.limits.read processes) := by
  have known : Cli.findCommand (ascii "list") = some _ := rfl
  rcases main_of_ready ready isList known onLedger input ledger with ⟨ran, exchanged⟩
  rcases cmdList_onLedger found allocates ledger with ⟨listed, lines⟩
  constructor
  · rw [ran, listed]
    rfl
  · rw [exchanged, Cli.printed_append, lines]
    rfl

theorem serveLine_list_onLedger {library : Gui.Library} {machine : Discovery.Machine}
    (reads : library.getRateLimitsFromCgroup = ledger.limits.read)
    (lists : library.getNetworkProcesses = .ok processes)
    (found : Discovery.getNetworkProcesses machine = .ok processes) :
    (serveLine Call.list.command).run (helper onLedger machine) ledger =
      (some (Gui.listLines library processes), ledger) := by
  have replies : Lists (helper onLedger machine) ledger library :=
    lists_onLedger (found.trans lists.symm) reads.symm
  simp only [serveLine_command, handled, Program.run_bind, run_handleListCmd replies, lists,
    Program.run_pure]

end Lists

theorem read_world (computer : Computer) : computer.world.read = computer.read := by
  funext pid
  rw [World.read, Computer.read, World.execute_inClient, Computer.execute_inClient]

theorem lists_of_follows {computer : Computer} {ledger : Ledger} {surroundings : Surroundings}
    {argv args : List Bytes} {processes : List ProcessInfo}
    (follows : computer.Follows ledger)
    (found : Discovery.getNetworkProcesses surroundings.machine = .ok processes)
    (ready : surroundings.Ready) (allocates : surroundings.allocates processes.length = true)
    (isList : IsCommand argv (ascii "list") args) (input : Bytes) :
    (∃ errors after, step onComputer computer (.pidnl surroundings argv input) =
        (.exited (.exited EXIT_SUCCESS) (table (rowsOf computer.read processes)) errors,
          after) ∧ after.read = computer.read) ∧
      ∃ after, step onComputer computer (.request surroundings.machine .list) =
        (.replied (some (Gui.listLines (libraryIn computer.world (.ok processes)) processes)),
          after) ∧ after.read = computer.read := by
  have reads : computer.read = ledger.limits.read := funext (read_of_follows follows)
  have unchanged : ∀ {after : Computer}, after.Follows ledger → after.read = computer.read :=
    fun kept => (funext (read_of_follows kept)).trans reads.symm
  constructor
  · have simulates := simulates_commandLine surroundings
    rcases simulates.run (Cli.main argv input) follows with ⟨ending, kept⟩
    have exchanges := simulates.exchanges (Cli.main argv input) follows
    rcases main_list_onLedger ready isList found allocates input ledger with ⟨ran, lines⟩
    rw [ran] at ending kept
    have output : step onComputer computer (.pidnl surroundings argv input) =
      (.exited _ _ _, _) := rfl
    rw [ending, exchanges, lines, ← reads] at output
    exact ⟨_, _, output, unchanged kept⟩
  · rcases (simulates_helper surroundings.machine).run (serveLine Call.list.command) follows with
      ⟨reply, kept⟩
    have library : (libraryIn computer.world (.ok processes)).getRateLimitsFromCgroup =
        ledger.limits.read := (read_world computer).trans reads
    rw [serveLine_list_onLedger library rfl found] at reply kept
    exact ⟨_, congrArg (fun reply => (Output.replied reply, _)) reply, unchanged kept⟩

/-- After every run, what root is shown by `pidnl list` and by the helper is the processes
that are found, each with what the limits of its pid read as. -/
theorem list_shows {cgroup2Mount bpffsMount : Path} {running : Int32 → Bool}
    {events : List Event} {computer : Computer} {surroundings : Surroundings}
    {argv args : List Bytes} {processes : List ProcessInfo}
    (reached : happen (.fresh cgroup2Mount bpffsMount running) events = computer)
    (found : Discovery.getNetworkProcesses surroundings.machine = .ok processes)
    (ready : surroundings.Ready) (allocates : surroundings.allocates processes.length = true)
    (isList : IsCommand argv (ascii "list") args) (input : Bytes) :
    (∃ errors after, step onComputer computer (.pidnl surroundings argv input) =
        (.exited (.exited EXIT_SUCCESS) (table (rowsOf computer.read processes)) errors,
          after) ∧ after.read = computer.read) ∧
      ∃ after, step onComputer computer (.request surroundings.machine .list) =
        (.replied (some (Gui.listLines (libraryIn computer.world (.ok processes)) processes)),
          after) ∧ after.read = computer.read := by
  have follows := follows_from_fresh cgroup2Mount bpffsMount running events
  rw [reached] at follows
  exact lists_of_follows follows found ready allocates isList input

def rootOn (machine : Discovery.Machine) : Surroundings where
  initialises := true
  mount := some []
  euid := 0
  allocates := fun _ => true
  machine := machine

theorem ready_rootOn (machine : Discovery.Machine) : (rootOn machine).Ready where
  initialises := rfl
  mount := rfl
  root := rfl

def listArguments : List Bytes := [ascii "pidnl", ascii "list"]

theorem isCommand_listArguments : IsCommand listArguments (ascii "list") [] :=
  (Cli.findArgument_iff_isCommand (by decide)).mp (by decide)

theorem found_withNc :
    Discovery.getNetworkProcesses (rootOn Cli.withNc).machine =
      .ok [Cli.called (ascii "nc")] := by decide

theorem list_shows_nc :
    ∃ errors after,
      step onComputer (happen (.fresh [] [] fun _ => true) (limitsTwelve ++ [.exits 13]))
          (.pidnl (rootOn Cli.withNc) listArguments []) =
        (.exited (.exited EXIT_SUCCESS) (table [(Cli.called (ascii "nc"),
          (happen (.fresh [] [] fun _ => true) (limitsTwelve ++ [.exits 13])).read 12)]) errors,
          after) := by
  rcases (list_shows rfl found_withNc (ready_rootOn _) rfl isCommand_listArguments []).1 with
    ⟨errors, after, lists, _⟩
  exact ⟨errors, after, lists⟩

theorem not_declined_of_limit {event : Event} {pid : Int32} {config : RateLimitConfig}
    (asks : event.AsksFor (.limitProcessBandwidth pid config)) : ¬ event.Declined := by
  intro declined
  cases event with
  | starts pid => exact asks
  | exits pid => exact asks
  | wakes => exact asks
  | request machine call => exact declined
  | pidnl surroundings argv input =>
      rcases asks with ⟨word, args, isCommand, asks⟩
      rcases declined with ⟨others, isClean, _⟩
      rcases isCommand.unique isClean with ⟨rfl, rfl⟩
      have cleans := asks.unique .clean
      cases cleans

theorem read_after_set {computer : Computer} {ledger : Ledger} {event : Event} {pid : Int32}
    {config : RateLimitConfig} {later : List Event} (follows : computer.Follows ledger)
    (asks : event.AsksFor (.limitProcessBandwidth pid config))
    (succeeds : (step onComputer computer event).1.Succeeds)
    (aside : ∀ event ∈ later, event.Aside pid) :
    (happen computer (event :: later)).read pid =
      if computer.stale pid then .absent else shown config := by
  have followed := follows_happen follows (event :: later)
  rcases answers_of_follows follows asks (not_declined_of_limit asks) with
    ⟨_, grants, next⟩ | ⟨fails, _⟩
  · have split : recorded ledger (event :: later) =
        recorded (ledger.apply (.limitProcessBandwidth pid config)) later := by
      rw [recorded, stateAfter_cons, next]
    rw [split] at followed
    cases isStale : computer.stale pid with
    | true =>
        rw [follows.stale] at isStale
        have lost := Ledger.lost_of_stale (follows.within pid isStale) isStale
        rw [if_pos rfl]
        apply absent_of_limits followed
        exact unlimited_of_aside (lost.limits_apply_self grants.1 grants.2) aside
    | false =>
        rw [follows.stale] at isStale
        have seen := Ledger.seen_iff.mpr ⟨grants.2, isStale⟩
        rw [if_neg Bool.false_ne_true]
        apply read_of_limits followed
        rw [(kept_of_aside (Ledger.seen_apply seen _) aside).2]
        exact Ledger.limits_apply_self grants.1 seen
  · exact absurd succeeds fails

/-- A limit that has been set with success is listed as long as the process goes on,
whatever happens beside it, unless the daemon took the process for an earlier one. -/
theorem listed_after_set {cgroup2Mount bpffsMount : Path} {running : Int32 → Bool}
    {earlier later : List Event} {computer : Computer} {event : Event} {pid : Int32}
    {config : RateLimitConfig} {surroundings : Surroundings} {argv args : List Bytes}
    {processes : List ProcessInfo}
    (reached : happen (.fresh cgroup2Mount bpffsMount running) earlier = computer)
    (asks : event.AsksFor (.limitProcessBandwidth pid config))
    (succeeds : (step onComputer computer event).1.Succeeds)
    (aside : ∀ event ∈ later, event.Aside pid)
    (found : Discovery.getNetworkProcesses surroundings.machine = .ok processes)
    (ready : surroundings.Ready) (allocates : surroundings.allocates processes.length = true)
    (isList : IsCommand argv (ascii "list") args) (input : Bytes) :
    ∃ rows errors last, step onComputer (happen computer (event :: later))
        (.pidnl surroundings argv input) =
          (.exited (.exited EXIT_SUCCESS) (table rows) errors, last) ∧
      rows.map Prod.fst = processes ∧
      ∀ row ∈ rows, row.1.pid = pid →
        row.2 = if computer.stale pid then .absent else shown config := by
  have follows := follows_from_fresh cgroup2Mount bpffsMount running earlier
  rw [reached] at follows
  have reads := read_after_set follows asks succeeds aside
  rcases (lists_of_follows (follows_happen follows (event :: later)) found ready allocates
    isList input).1 with ⟨errors, ended, lists, _⟩
  refine ⟨_, errors, ended, lists, ?_, ?_⟩
  · rw [rowsOf, List.map_map]
    exact List.map_id processes
  · intro row member isPid
    rcases List.mem_map.mp member with ⟨process, _, rfl⟩
    rw [← reads, ← isPid]

/-- The graphical interface limits a process, another process ends, and the command line
lists the limit. -/
theorem listed_after_set_nc :
    ∃ rows errors last, step onComputer (happen (.fresh [] [] fun _ => true)
        (limitsTwelve ++ [.exits 13, .wakes])) (.pidnl (rootOn Cli.withNc) listArguments []) =
          (.exited (.exited EXIT_SUCCESS) (table rows) errors, last) ∧
      rows.map Prod.fst = [Cli.called (ascii "nc")] ∧
      ∀ row ∈ rows, row.1.pid = 12 →
        row.2 = if (fun _ : Int32 => false) 12 then .absent else shown ⟨5, 5⟩ := by
  have asks : Event.AsksFor (.request Cli.withNc (.setLimit 12 5 5))
      (.limitProcessBandwidth 12 ⟨5, 5⟩) := asks_limitsTwelve
  have succeeds : (step onComputer (.fresh [] [] fun _ => true)
      (.request Cli.withNc (.setLimit 12 5 5))).1.Succeeds := by
    have fresh := follows_fresh [] [] fun _ => true
    rcases answers_of_follows fresh asks id with ⟨succeeds, _⟩ | ⟨_, unchanged⟩
    · exact succeeds
    · have limited := limits_ledgerTwelve
      have same : (step onLedger (.fresh fun _ => true)
          (.request Cli.withNc (.setLimit 12 5 5))).2 = ledgerTwelve := by
        rw [step, run_serveLine_onLedger, asks_limitsTwelve]
      rw [← same, unchanged 12 rfl] at limited
      cases limited
  have aside : ∀ event ∈ [Event.exits 13, .wakes], event.Aside 12 := by
    intro event member
    cases member with
    | head => exact ⟨fun same => absurd (Event.exits.inj same) (by decide), fun _ => False.elim⟩
    | tail _ member => exact List.mem_singleton.mp member ▸ aside_wakes 12
  have reached : happen (.fresh [] [] fun _ => true) [] = .fresh [] [] fun _ => true := rfl
  exact listed_after_set reached asks succeeds aside found_withNc (ready_rootOn _) rfl
    isCommand_listArguments []

end Pidnl.Usage
