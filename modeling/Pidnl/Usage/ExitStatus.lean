import Pidnl.Usage.RoundTrip

/-! # The exit status of a change

Run as root, with the cgroup2 file system there, `pidnl` succeeds in a change exactly where
the change can be made.
-/

namespace Pidnl.Usage

open Pidnl.Foundation Pidnl.System Pidnl.Ratelimit Pidnl.Monitor
open Pidnl.Cli (CliCall CliProgram Ending EXIT_SUCCESS IsCommand AsksFor Handled exitFailure
  finished limitListed unsetLimit cleanAll cmdClean findCommand skipConfirmation confirm)
open Pidnl.Gui (ProcessInfo)
open Pidnl.Gui.Commands (LibraryCall)
open Program (request)

def Found (machine : Discovery.Machine) (pid : Int32) : Prop :=
  ∃ processes, Discovery.getNetworkProcesses machine = .ok processes ∧
    ∃ process ∈ processes, process.pid = pid

section Handlers

variable {surroundings : Surroundings} {ledger : Ledger} {pid : Int32}

theorem fails_exitFailure (message : Bytes) :
    finished ((exitFailure message).run (commandLine onLedger surroundings) ledger).1 ≠
      .exited EXIT_SUCCESS := nofun

theorem succeeds_attempt {call : LibraryCall RatelimitCode} (message : RatelimitCode → Bytes)
    (prints : CliProgram Unit) :
    let attempt : Handled := do
      let err ← request (.library call)
      if err ≠ .ok then exitFailure (message err)
      else do
        prints
        return none
    finished (attempt.run (commandLine onLedger surroundings) ledger).1 =
        .exited EXIT_SUCCESS ↔ (onLedger.library surroundings.machine call ledger).1 = .ok := by
  have replies : commandLine onLedger surroundings [] (.library call) ledger =
      onLedger.library surroundings.machine call ledger := rfl
  simp only [Program.run_bind, Program.run_request, replies]
  by_cases ok : (onLedger.library surroundings.machine call ledger).1 = .ok
  · simp only [if_neg (not_not.mpr ok), Program.run_bind, Program.run_pure]
    exact iff_of_true rfl ok
  · rw [if_pos ok]
    exact iff_of_false (fails_exitFailure _) ok

theorem succeeds_limitListed {config : RateLimitConfig} (limited : config ≠ .unlimited) :
    finished ((limitListed pid config).run (commandLine onLedger surroundings) ledger).1 =
        .exited EXIT_SUCCESS ↔
      Found surroundings.machine pid ∧
        ledger.answer (.limitProcessBandwidth pid config) = .ok := by
  rw [limitListed, if_neg limited, Program.run_bind, Program.run_request]
  have finds : commandLine onLedger surroundings [] (.library .getNetworkProcesses) ledger =
      (Discovery.getNetworkProcesses surroundings.machine, ledger) := rfl
  rw [finds]
  cases found : Discovery.getNetworkProcesses surroundings.machine with
  | error failure =>
      refine iff_of_false (fails_exitFailure _) ?_
      intro both
      rcases both.1 with ⟨processes, finds, _⟩
      rw [found] at finds
      cases finds
  | ok processes =>
      have listed_iff : (processes.any fun process => process.pid = pid) = true ↔
          Found surroundings.machine pid := by
        simp [Found, found]
      by_cases listed : (processes.any fun process => process.pid = pid) = true
      · simp only [listed, not_true_eq_false, if_false]
        rw [and_iff_right (listed_iff.mp listed)]
        exact succeeds_attempt _ _
      · simp only [listed]
        exact iff_of_false (fails_exitFailure _) fun both => listed (listed_iff.mpr both.1)

theorem succeeds_unsetLimit :
    finished ((unsetLimit pid).run (commandLine onLedger surroundings) ledger).1 =
        .exited EXIT_SUCCESS ↔ ledger.answer (.unregisterRateLimiterByPid pid) = .ok :=
  succeeds_attempt (fun err => ascii "pidnl: " ++ ratelimitCodeString err ++ ascii "\n") _

def handlerFor (args : List Bytes) (input : Bytes) : Operation → Handled
  | .limitProcessBandwidth pid config => limitListed pid config
  | .unregisterRateLimiterByPid pid => unsetLimit pid
  | .ratelimitCleanupAll => cmdClean args input

theorem handler_of_asks {word : Bytes} {args : List Bytes} {operation : Operation}
    (asks : AsksFor word args operation) (noHelp : Cli.hasHelpFlag args = false)
    (input : Bytes) :
    ∃ command, findCommand word = some command ∧
      command.handler args input = handlerFor args input operation := by
  cases asks with
  | @limitSet pid uploadKbps downloadKbps pidArg uploadArg downloadArg rest isPid upload
      download limited =>
      refine ⟨_, rfl, show Cli.handleLimit _ = _ from ?_⟩
      rw [Cli.handleLimit.eq_def, if_neg (Bool.eq_false_iff.mp noHelp)]
      simp only [if_true, Cli.cmdLimitSet, Cli.parsePid_ok_iff.mpr isPid, upload, download,
        Cli.orExit, handlerFor]
  | @limitUnset pid pidArg rest isPid =>
      have notSet : ascii "unset" ≠ ascii "set" := by decide
      refine ⟨_, rfl, show Cli.handleLimit _ = _ from ?_⟩
      rw [Cli.handleLimit.eq_def, if_neg (Bool.eq_false_iff.mp noHelp)]
      simp only [if_neg notSet, if_true, Cli.cmdLimitUnset, Cli.parsePid_ok_iff.mpr isPid,
        Cli.orExit, handlerFor]
  | clean => exact ⟨_, rfl, rfl⟩

theorem succeeds_cmdClean {args : List Bytes} {input : Bytes}
    (confirmed : skipConfirmation args = true ∨ confirm input = .confirmed) :
    finished ((cmdClean args input).run (commandLine onLedger surroundings) ledger).1 =
      .exited EXIT_SUCCESS := by
  have cleans : finished (cleanAll.run (commandLine onLedger surroundings) ledger).1 =
      .exited EXIT_SUCCESS := rfl
  rw [cmdClean]
  by_cases skips : skipConfirmation args = true
  · rw [if_pos skips]
    exact cleans
  · have answered := confirmed.resolve_left skips
    simp only [if_neg skips, answered]
    exact cleans

end Handlers

/-! ## On the computer -/

/-- The change can be made: for a limit, the process is listed and runs, and to remove one,
there is one. -/
def Possible (computer : Computer) (machine : Discovery.Machine) : Operation → Prop
  | .limitProcessBandwidth pid _ => Found machine pid ∧ computer.running pid = true
  | .unregisterRateLimiterByPid pid => computer.read pid ≠ .absent
  | .ratelimitCleanupAll => True

def Confirmed (argv : List Bytes) (input : Bytes) : Prop :=
  ∀ args, IsCommand argv (ascii "clean") args →
    skipConfirmation args = true ∨ confirm input = .confirmed

/-- After every run, `pidnl` as root exits with success for a change if and only if the
change is possible. -/
theorem succeeds_iff_possible {cgroup2Mount bpffsMount : Path} {running : Int32 → Bool}
    {events : List Event} {computer : Computer} {surroundings : Surroundings}
    {argv : List Bytes} {input : Bytes} {operation : Operation}
    (reached : happen (.fresh cgroup2Mount bpffsMount running) events = computer)
    (ready : surroundings.Ready) (asks : Cli.Asks argv operation)
    (confirmed : Confirmed argv input) :
    (step onComputer computer (.pidnl surroundings argv input)).1.Succeeds ↔
      Possible computer surroundings.machine operation := by
  have follows := follows_from_fresh cgroup2Mount bpffsMount running events
  rw [reached] at follows
  generalize recorded (.fresh running) events = ledger at follows
  rcases asks with ⟨word, args, isCommand, asks⟩
  rcases handler_of_asks asks isCommand.noHelp_args input with ⟨command, known, same⟩
  rw [(sameOutcome_step computer ledger _ follows).1, step, Output.Succeeds,
    (main_of_ready ready isCommand known onLedger input ledger).1, same]
  cases operation with
  | limitProcessBandwidth pid config =>
      have limited : config ≠ .unlimited := by
        cases asks with
        | limitSet isPid upload download limited => exact limited
      have positive : 0 < pid := by
        cases asks with
        | limitSet isPid upload download limited => exact isPid.1
      rw [handlerFor, succeeds_limitListed limited, Possible, Computer.running,
        follows.agrees.running, Ledger.answer, if_neg (Int32.not_le.mpr positive)]
      by_cases runs : ledger.running pid = true
      · rw [if_pos runs]
        exact and_congr_right fun _ => iff_of_true rfl runs
      · rw [if_neg runs]
        have failed : RatelimitCode.libcgAttach ≠ .ok := by decide
        exact and_congr_right fun _ => iff_of_false failed runs
  | unregisterRateLimiterByPid pid =>
      rw [handlerFor, succeeds_unsetLimit, Possible, ne_eq, read_eq_absent_iff follows,
        Ledger.answer]
      have failed : RatelimitCode.cgroupNotFound ≠ .ok := by decide
      cases ledger.limits pid with
      | none => exact iff_of_false failed fun limited => limited rfl
      | some config => exact iff_of_true rfl (Option.some_ne_none config)
  | ratelimitCleanupAll =>
      cases asks with
      | clean => exact iff_of_true (succeeds_cmdClean (confirmed args isCommand)) trivial

theorem succeeds_iff_possible_limitTwelve :
    (step onComputer (.fresh [] [] fun _ => true)
      (.pidnl (rootOn Cli.withNc) Cli.limitTwelve [])).1.Succeeds := by
  have reached : happen (.fresh [] [] fun _ => true) [] = .fresh [] [] fun _ => true := rfl
  have isCommand : IsCommand Cli.limitTwelve (ascii "limit")
      [ascii "set", ascii "12", ascii "100", ascii "-1"] :=
    (Cli.findArgument_iff_isCommand (by decide)).mp (by decide)
  have isPid : Cli.IsPid 12 (ascii "12") := Cli.parsePid_ok_iff.mp (by decide)
  have asks : Cli.Asks Cli.limitTwelve
      (.limitProcessBandwidth 12 ⟨100, RATELIMIT_UNLIMITED⟩) :=
    ⟨_, _, isCommand, .limitSet isPid (by decide) rfl (by decide)⟩
  have confirmed : Confirmed Cli.limitTwelve [] := fun args isClean =>
    absurd (isCommand.unique isClean).1 (by decide)
  have possible : Possible (.fresh [] [] fun _ => true) (rootOn Cli.withNc).machine
      (.limitProcessBandwidth 12 ⟨100, RATELIMIT_UNLIMITED⟩) :=
    ⟨⟨_, found_withNc, _, .head _, rfl⟩, rfl⟩
  exact (succeeds_iff_possible reached (ready_rootOn _) asks confirmed).mpr possible

end Pidnl.Usage
