import Pidnl.Monitor.KeptLimits
import Pidnl.Usage.System

/-! # What an event leaves

A command line, or a request to the helper, asks for one change to the ledger at most. After
any run of events the computer still follows the ledger.
-/

namespace Pidnl.Usage

open Pidnl.Foundation Pidnl.System Pidnl.Ratelimit Pidnl.Monitor
open Pidnl.Cli (CliCall Ending changeOf changes)
open Pidnl.Gui (Call)
open Pidnl.Gui.Commands

/-! ## The changes that events ask for -/

def operationOf : Call → Option Operation
  | .list => none
  | .setLimit pid uploadKbps downloadKbps =>
      if pid ≤ 0 then none
      else if { uploadKbps, downloadKbps : RateLimitConfig } = .unlimited then
        some (.unregisterRateLimiterByPid pid)
      else some (.limitProcessBandwidth pid { uploadKbps, downloadKbps })
  | .clean => some .ratelimitCleanupAll

def Event.AsksFor : Event → Operation → Prop
  | .pidnl _ argv _, operation => Cli.Asks argv operation
  | .request _ call, operation => operationOf call = some operation
  | _, _ => False

/-! ## A command line -/

section CommandLine

variable {surroundings : Surroundings} {ledger : Ledger}

def keep (ledger : Ledger) (exchange : Exchange CliCall) : Ledger :=
  match changeOf exchange with
  | some (operation, _) => ledger.apply operation
  | none => ledger

theorem commandLine_keeps {Reply : Type} (site : List Frame) (call : CliCall Reply)
    (ledger : Ledger) :
    (commandLine onLedger surroundings site call ledger).2 =
      keep ledger ⟨call, (commandLine onLedger surroundings site call ledger).1⟩ := by
  cases call with
  | library call => cases call <;> rfl
  | startup call => cases call <;> rfl
  | geteuid => rfl
  | calloc count => rfl
  | printf text => rfl
  | fprintf text => rfl

theorem foldl_keep (ledger : Ledger) (exchanges : List (Exchange CliCall)) :
    exchanges.foldl keep ledger =
      ((changes exchanges).map Prod.fst).foldl Ledger.apply ledger := by
  induction exchanges generalizing ledger with
  | nil => rfl
  | cons exchange exchanges induction =>
      rw [List.foldl_cons, induction, keep]
      simp only [changes, List.filterMap_cons]
      cases changeOf exchange with
      | none => rfl
      | some change => rfl

/-- A command line asks for no more than one change. -/
theorem changes_of_course {argv : List Bytes} {input : Bytes}
    {exchanges : List (Exchange CliCall)} {ending : Ending}
    (course : (Cli.main argv input).Course exchanges ending) :
    changes exchanges = [] ∨
      ∃ operation code, Cli.Asks argv operation ∧ changes exchanges = [(operation, code)] := by
  cases Cli.goes_main course with
  | stopped none missing => exact .inl none
  | asksForNothing none nothing => exact .inl none
  | @handled before later word args handled none mount root unlisted isCommand handles =>
      rw [Cli.changes_append, none, List.nil_append]
      cases handles with
      | declined isClean asked aborted noneLater => exact .inl noneLater
      | waits isClean asked draining noneLater => exact .inl noneLater
      | asksForNothing nothing noneLater => exact .inl noneLater
      | attempts asks attempts =>
          cases attempts with
          | refused noneLater notAllowed => exact .inl noneLater
          | made changed isAllowed =>
              exact .inr ⟨_, _, ⟨word, args, isCommand, asks⟩, changed.changes_eq⟩

theorem run_main_cases (surroundings : Surroundings) (argv : List Bytes) (input : Bytes)
    (ledger : Ledger) :
    let ended := (Cli.main argv input).run (commandLine onLedger surroundings) ledger
    ended.2 = ledger ∨
      ∃ operation, Cli.Asks argv operation ∧ ended.2 = ledger.apply operation := by
  intro ended
  have course := Program.course_of_run (commandLine onLedger surroundings)
    (Cli.main argv input) ledger
  have left : ended.2 = _ := Program.run_eq_foldl commandLine_keeps (Cli.main argv input) ledger
  rw [foldl_keep] at left
  rcases changes_of_course course with none | ⟨operation, code, asks, changed⟩
  · rw [none] at left
    exact .inl left
  · rw [changed] at left
    exact .inr ⟨operation, asks, left⟩

end CommandLine

/-! ## A request -/

section Request

theorem lists_onLedger {machine : Discovery.Machine} {ledger : Ledger} {library : Gui.Library}
    (found : Discovery.getNetworkProcesses machine = library.getNetworkProcesses)
    (reads : ledger.limits.read = library.getRateLimitsFromCgroup) :
    Lists (helper onLedger machine) ledger library := by
  constructor
  · exact congrArg (Prod.mk · ledger) found
  · intro pid
    exact congrArg (Prod.mk · ledger) (congrFun reads pid)

variable (machine : Discovery.Machine) (ledger : Ledger)

theorem run_serveLine_onLedger (call : Call) :
    ((serveLine call.command).run (helper onLedger machine) ledger).2 =
      match operationOf call with
      | none => ledger
      | some operation => ledger.apply operation := by
  rw [serveLine_command]
  simp only [Program.run_bind, Program.run_pure]
  cases call with
  | list =>
      let library : Gui.Library :=
        { Gui.finding (Discovery.getNetworkProcesses machine) with
          getRateLimitsFromCgroup := ledger.limits.read }
      have lists : Lists (helper onLedger machine) ledger library := lists_onLedger rfl rfl
      rw [handled, run_handleListCmd lists]
      rfl
  | setLimit pid uploadKbps downloadKbps =>
      by_cases notPositive : pid ≤ 0
      · rw [handled, handleLimitCmd_of_not_positive notPositive, operationOf, if_pos notPositive]
        rfl
      · rw [handled, handleLimitCmd_setLimit (Int32.not_le.mp notPositive),
          operationOf, if_neg notPositive]
        simp only [Program.run_bind, Program.run_pure, changeLimit, Gui.changeLimitBy]
        split
        · simp only [Program.run_bind, Program.run_request]
          split <;> rfl
        · rfl
  | clean => rfl

end Request

/-! ## Events -/

inductive Leaves (ledger : Ledger) : Event → Ledger → Prop
  | starts {pid : Int32} : Leaves ledger (.starts pid) (ledger.starts pid)
  | exits {pid : Int32} : Leaves ledger (.exits pid) (ledger.exits pid)
  | wakes : Leaves ledger .wakes ledger.reap
  | asked {event : Event} {operation : Operation} (asks : event.AsksFor operation) :
      Leaves ledger event (ledger.apply operation)
  | nothing {event : Event} : Leaves ledger event ledger

theorem leaves_step (ledger : Ledger) (event : Event) :
    Leaves ledger event (step onLedger ledger event).2 := by
  cases event with
  | starts pid => exact .starts
  | exits pid => exact .exits
  | wakes => exact .wakes
  | pidnl surroundings argv input =>
      rw [step]
      rcases run_main_cases surroundings argv input ledger with same | ⟨operation, asks, made⟩
      · rw [same]
        exact .nothing
      · rw [made]
        exact .asked asks
  | request machine call =>
      rw [step, run_serveLine_onLedger]
      cases asks : operationOf call with
      | none => exact .nothing
      | some operation => exact .asked asks

abbrev happen (computer : Computer) (events : List Event) : Computer :=
  stateAfter (step onComputer) computer events

abbrev recorded (ledger : Ledger) (events : List Event) : Ledger :=
  stateAfter (step onLedger) ledger events

section Follows

variable {computer : Computer} {ledger : Ledger} {pid : Int32}

theorem follows_happen (follows : computer.Follows ledger) (events : List Event) :
    (happen computer events).Follows (recorded ledger events) :=
  related_stateAfter sameOutcome_step follows events

theorem follows_from_fresh (cgroup2Mount bpffsMount : Path) (running : Int32 → Bool)
    (events : List Event) :
    (happen (.fresh cgroup2Mount bpffsMount running) events).Follows
      (recorded (.fresh running) events) :=
  follows_happen (follows_fresh cgroup2Mount bpffsMount running) events

theorem read_of_follows (follows : computer.Follows ledger) (pid : Int32) :
    computer.read pid = ledger.limits.read pid :=
  (follows.getRateLimitsFromCgroup pid).1

def shown (config : RateLimitConfig) : RateLimitsRead where
  result := 0
  uploadKbps := config.uploadKbps
  downloadKbps := config.downloadKbps

theorem shown_ne_absent (config : RateLimitConfig) : shown config ≠ .absent := by
  intro same
  have results : (0 : Int32) = -1 := congrArg RateLimitsRead.result same
  exact absurd results (by decide)

theorem read_of_limits {config : RateLimitConfig} (follows : computer.Follows ledger)
    (limited : ledger.limits pid = some config) : computer.read pid = shown config := by
  rw [read_of_follows follows, LimitStore.read, limited]
  rfl

theorem absent_of_limits (follows : computer.Follows ledger)
    (unlimited : ledger.limits pid = none) : computer.read pid = .absent := by
  rw [read_of_follows follows, LimitStore.read, unlimited]

theorem read_eq_absent_iff (follows : computer.Follows ledger) :
    computer.read pid = .absent ↔ ledger.limits pid = none := by
  constructor
  · intro absent
    cases held : ledger.limits pid with
    | none => rfl
    | some config =>
        rw [read_of_limits follows held] at absent
        exact absurd absent (shown_ne_absent config)
  · exact absent_of_limits follows

theorem limits_of_read (follows : computer.Follows ledger)
    (limited : computer.read pid ≠ .absent) :
    ∃ config, ledger.limits pid = some config ∧ computer.read pid = shown config := by
  cases held : ledger.limits pid with
  | none => exact absurd (absent_of_limits follows held) limited
  | some config => exact ⟨config, rfl, read_of_limits follows held⟩

theorem seen_of_follows (follows : computer.Follows ledger)
    (running : computer.running pid = true) (fresh : computer.stale pid = false) :
    ledger.seen pid = true := by
  rw [Computer.running, follows.agrees.running] at running
  rw [follows.stale] at fresh
  exact Ledger.seen_iff.mpr ⟨running, fresh⟩

theorem happen_request (follows : computer.Follows ledger) (machine : Discovery.Machine)
    {call : Call} {operation : Operation} (asks : operationOf call = some operation) :
    (happen computer [.request machine call]).Follows (ledger.apply operation) := by
  have kept := follows_happen follows [.request machine call]
  have left : recorded ledger [.request machine call] =
      ((serveLine call.command).run (helper onLedger machine) ledger).2 := rfl
  rw [left, run_serveLine_onLedger, asks] at kept
  exact kept

end Follows

end Pidnl.Usage
