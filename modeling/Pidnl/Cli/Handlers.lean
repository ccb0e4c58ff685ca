import Pidnl.Cli.CommandLine
import Pidnl.Foundation.Course

/-! # How a command goes

The courses of the handlers of `cli/main.c`, with the changes that they make. Nothing is
assumed about the replies.
-/

namespace Pidnl.Cli

open Pidnl.Foundation Pidnl.System Pidnl.Ratelimit
open Pidnl.Gui (DiscoveryFailure ProcessInfo)
open Pidnl.Gui.Commands (LibraryCall)
open Pidnl.Monitor (Operation)
open Program (request)

/-! ## Changes in a course -/

def changeOf : Exchange CliCall → Option (Operation × RatelimitCode)
  | ⟨.library (.limitProcessBandwidth pid config), code⟩ =>
      some (.limitProcessBandwidth pid config, code)
  | ⟨.library (.unregisterRateLimiterByPid pid), code⟩ =>
      some (.unregisterRateLimiterByPid pid, code)
  | ⟨.library .ratelimitCleanupAll, code⟩ => some (.ratelimitCleanupAll, code)
  | _ => none

def changes (exchanges : List (Exchange CliCall)) : List (Operation × RatelimitCode) :=
  exchanges.filterMap changeOf

theorem changes_append (first second : List (Exchange CliCall)) :
    changes (first ++ second) = changes first ++ changes second :=
  List.filterMap_append

def KeepsLimits (call : CliCall Reply) : Prop := ∀ reply, changeOf ⟨call, reply⟩ = none

theorem changes_of_makes {program : CliProgram α} {exchanges : List (Exchange CliCall)}
    {final : α} (makes : program.Makes fun _ call => KeepsLimits call)
    (course : program.Course exchanges final) : changes exchanges = [] := by
  rw [changes, List.filterMap_eq_nil_iff]
  intro exchange member
  exact makes.of_course course exchange member exchange.reply

def exchangeOf (code : RatelimitCode) : Operation → Exchange CliCall
  | .limitProcessBandwidth pid config =>
      ⟨.library (.limitProcessBandwidth pid config), code⟩
  | .unregisterRateLimiterByPid pid => ⟨.library (.unregisterRateLimiterByPid pid), code⟩
  | .ratelimitCleanupAll => ⟨.library .ratelimitCleanupAll, code⟩

@[simp] theorem changeOf_exchangeOf (operation : Operation) (code : RatelimitCode) :
    changeOf (exchangeOf code operation) = some (operation, code) := by
  cases operation <;> rfl

structure Changes (exchanges : List (Exchange CliCall)) (operation : Operation)
    (code : RatelimitCode) (earlier : List (Exchange CliCall)) : Prop where
  split : ∃ later, exchanges = earlier ++ exchangeOf code operation :: later ∧
    changes later = []
  first : changes earlier = []

section Changes

variable {exchanges earlier before : List (Exchange CliCall)} {operation : Operation}
  {code : RatelimitCode}

theorem Changes.changes_eq (changed : Changes exchanges operation code earlier) :
    changes exchanges = [(operation, code)] := by
  rcases changed.split with ⟨later, rfl, none⟩
  rw [changes_append, changed.first, changes,
    List.filterMap_cons_some (changeOf_exchangeOf operation code)]
  exact congrArg (List.cons _) none

theorem Changes.prepend (changed : Changes exchanges operation code earlier)
    (none : changes before = []) :
    Changes (before ++ exchanges) operation code (before ++ earlier) := by
  rcases changed.split with ⟨later, rfl, noneLater⟩
  refine ⟨⟨later, by simp, noneLater⟩, ?_⟩
  rw [changes_append, none, changed.first]
  rfl

end Changes

/-! ## What the handlers do -/

/-- The change is not allowed, and is refused with a failure, or it is made where it is
allowed and its code tells how the handler ends. -/
inductive Attempts (operation : Operation) (allowed : List (Exchange CliCall) → Prop) :
    List (Exchange CliCall) → Option Ending → Prop
  | refused {exchanges : List (Exchange CliCall)} (none : changes exchanges = [])
      (notAllowed : ¬ allowed exchanges) :
      Attempts operation allowed exchanges (some (.exited EXIT_FAILURE))
  | made {exchanges earlier : List (Exchange CliCall)} {code : RatelimitCode}
      (changed : Changes exchanges operation code earlier) (isAllowed : allowed earlier) :
      Attempts operation allowed exchanges
        (if code = .ok then none else some (.exited EXIT_FAILURE))

theorem Attempts.prepend {operation : Operation}
    {allowed wider : List (Exchange CliCall) → Prop}
    {before exchanges : List (Exchange CliCall)} {ending : Option Ending}
    (attempts : Attempts operation allowed exchanges ending)
    (none : changes before = [])
    (same : ∀ later, wider (before ++ later) ↔ allowed later) :
    Attempts operation wider (before ++ exchanges) ending := by
  cases attempts with
  | refused noneLater notAllowed =>
      apply Attempts.refused
      · rw [changes_append, none, noneLater]
        rfl
      · rw [same]
        exact notAllowed
  | made changed isAllowed => exact .made (changed.prepend none) ((same _).mpr isAllowed)

theorem keepsLimits_printf (text : Bytes) : KeepsLimits (.printf text) := fun _ => rfl

theorem keepsLimits_fprintf (text : Bytes) : KeepsLimits (.fprintf text) := fun _ => rfl

def lists (pid : Int32) : Exchange CliCall → Bool
  | ⟨.library .getNetworkProcesses, .ok processes⟩ =>
      processes.any fun process => process.pid = pid
  | _ => false

section Handlers

variable {exchanges : List (Exchange CliCall)} {ending : Option Ending}

theorem makes_exitFailure (message : Bytes) :
    (exitFailure message).Makes fun _ call => KeepsLimits call :=
  ⟨keepsLimits_fprintf message, fun _ => trivial⟩

theorem course_exitFailure {message : Bytes}
    (course : (exitFailure message).Course exchanges ending) :
    exchanges = [⟨.fprintf message, ()⟩] ∧ ending = some (.exited EXIT_FAILURE) := by
  simp only [exitFailure, exit, Program.course_bind_iff, Program.course_request_iff,
    Program.course_pure_iff] at course
  rcases course with ⟨_, _, _, rfl, rfl, rfl, ended⟩
  exact ⟨rfl, ended⟩

theorem attempts_request {operation : Operation} {call : CliCall RatelimitCode}
    (isChange : ∀ code, (⟨call, code⟩ : Exchange CliCall) = exchangeOf code operation)
    (message : RatelimitCode → Bytes) {success : CliProgram Unit}
    (quiet : success.Makes fun _ call => KeepsLimits call)
    (course : Program.Course (do
      let err ← request call
      if err ≠ .ok then exitFailure (message err)
      else do
        success
        return none) exchanges ending) :
    Attempts operation (fun _ => True) exchanges ending := by
  rw [Program.course_bind_iff] at course
  rcases course with ⟨first, later, code, rfl, asked, course⟩
  rw [Program.course_request_iff, isChange] at asked
  subst asked
  by_cases ok : code = .ok
  · rw [if_neg (not_not.mpr ok), Program.course_bind_iff] at course
    rcases course with ⟨printed, rest, _, rfl, prints, ended⟩
    rcases Program.course_pure_iff.mp ended with ⟨rfl, rfl⟩
    have none : changes (printed ++ []) = [] := by
      rw [List.append_nil]
      exact changes_of_makes quiet prints
    have changed : Changes (exchangeOf code operation :: (printed ++ [])) operation code [] :=
      ⟨⟨printed ++ [], rfl, none⟩, rfl⟩
    have made : Attempts operation (fun _ => True) _ _ := .made changed trivial
    rw [if_pos ok] at made
    exact made
  · rw [if_pos ok] at course
    rcases course_exitFailure course with ⟨rfl, rfl⟩
    have changed : Changes (exchangeOf code operation :: [_]) operation code [] :=
      ⟨⟨[⟨.fprintf (message code), ()⟩], rfl, rfl⟩, rfl⟩
    have made : Attempts operation (fun _ => True) _ _ := .made changed trivial
    rw [if_neg ok] at made
    exact made

theorem attempts_cleanAll (course : cleanAll.Course exchanges ending) :
    Attempts .ratelimitCleanupAll (fun _ => True) exchanges ending :=
  attempts_request (fun _ => rfl)
    (fun err => ascii "pidnl: " ++ ratelimitCodeString err ++ ascii "\n")
    ((Program.makes_request _).mpr (keepsLimits_printf _)) course

theorem attempts_unsetLimit {pid : Int32} (course : (unsetLimit pid).Course exchanges ending) :
    Attempts (.unregisterRateLimiterByPid pid) (fun _ => True) exchanges ending :=
  attempts_request (fun _ => rfl)
    (fun err => ascii "pidnl: " ++ ratelimitCodeString err ++ ascii "\n")
    ((Program.makes_request _).mpr (keepsLimits_printf _)) course

theorem makes_printLimiting (pid : Int32) (config : RateLimitConfig) :
    (printLimiting pid config).Makes fun _ call => KeepsLimits call := by
  have prints : ∀ text, (printf text).Makes fun _ call => KeepsLimits call := fun text =>
    (Program.makes_request _).mpr (keepsLimits_printf text)
  apply Program.makes_bind (prints _)
  intro _
  apply Program.makes_bind (prints _)
  intro _
  apply Program.makes_bind (prints _)
  exact fun _ => prints _

theorem attempts_limitListed {pid : Int32} {config : RateLimitConfig}
    (limited : config ≠ .unlimited) (course : (limitListed pid config).Course exchanges ending) :
    Attempts (.limitProcessBandwidth pid config) (fun earlier => earlier.any (lists pid))
      exchanges ending := by
  rw [limitListed, if_neg limited, Program.course_bind_iff] at course
  rcases course with ⟨first, later, found, rfl, asked, course⟩
  rw [Program.course_request_iff] at asked
  subst asked
  cases found with
  | error failure =>
      rcases course_exitFailure course with ⟨rfl, rfl⟩
      exact .refused rfl Bool.false_ne_true
  | ok processes =>
      simp only at course
      split at course
      · rename_i notListed
        rcases course_exitFailure course with ⟨rfl, rfl⟩
        apply Attempts.refused rfl
        simpa [lists] using notListed
      · rename_i listed
        have attempts : Attempts (.limitProcessBandwidth pid config) (fun _ => True) later
            ending :=
          attempts_request (fun _ => rfl) _ (makes_printLimiting pid config) course
        apply attempts.prepend rfl
        intro later
        have isListed : lists pid ⟨.library .getNetworkProcesses, .ok processes⟩ = true :=
          not_not.mp listed
        simp [isListed]

/-- What a change waits for, besides root. -/
def Allowed (args : List Bytes) (input : Bytes) (operation : Operation)
    (earlier : List (Exchange CliCall)) : Prop :=
  match operation with
  | .limitProcessBandwidth pid _ => earlier.any (lists pid) = true
  | .unregisterRateLimiterByPid _ => True
  | .ratelimitCleanupAll => skipConfirmation args = true ∨ confirm input = .confirmed

inductive Handles (word : Bytes) (args : List Bytes) (input : Bytes) :
    List (Exchange CliCall) → Option Ending → Prop
  | attempts {exchanges : List (Exchange CliCall)} {ending : Option Ending}
      {operation : Operation} (asks : AsksFor word args operation)
      (attempts : Attempts operation (Allowed args input operation) exchanges ending) :
      Handles word args input exchanges ending
  /-- The user has not said yes. -/
  | declined {exchanges : List (Exchange CliCall)} (isClean : word = ascii "clean")
      (asked : skipConfirmation args = false) (aborted : confirm input = .aborted)
      (none : changes exchanges = []) :
      Handles word args input exchanges (some (.exited EXIT_SUCCESS))
  | waits {exchanges : List (Exchange CliCall)} (isClean : word = ascii "clean")
      (asked : skipConfirmation args = false) (draining : confirm input = .draining)
      (none : changes exchanges = []) : Handles word args input exchanges (some .draining)
  | asksForNothing {exchanges : List (Exchange CliCall)} {ending : Option Ending}
      (nothing : ∀ operation, ¬ AsksFor word args operation)
      (none : changes exchanges = []) : Handles word args input exchanges ending

variable {word : Bytes} {args : List Bytes} {input : Bytes}

theorem handles_cmdClean (isClean : word = ascii "clean")
    (course : (cmdClean args input).Course exchanges ending) :
    Handles word args input exchanges ending := by
  have asks : AsksFor word args .ratelimitCleanupAll := isClean ▸ .clean
  rw [cmdClean] at course
  by_cases skips : skipConfirmation args = true
  · rw [if_pos skips] at course
    have attempts : Attempts .ratelimitCleanupAll
        (Allowed args input .ratelimitCleanupAll) ([] ++ exchanges) ending :=
      (attempts_cleanAll course).prepend rfl fun _ => iff_of_true (.inl skips) trivial
    exact .attempts asks attempts
  · rw [if_neg skips] at course
    simp only [Program.course_bind_iff, Program.course_request_iff] at course
    rcases course with ⟨_, _, _, rfl, rfl, _, later, _, rfl, rfl, course⟩
    have asked := Bool.eq_false_iff.mpr skips
    cases answered : confirm input with
    | aborted =>
        simp only [answered, exit, Program.course_bind_iff, Program.course_request_iff,
          Program.course_pure_iff] at course
        rcases course with ⟨_, _, _, rfl, rfl, rfl, rfl⟩
        exact .declined isClean asked answered rfl
    | draining =>
        simp only [answered, Program.course_pure_iff] at course
        rcases course with ⟨rfl, rfl⟩
        exact .waits isClean asked answered rfl
    | confirmed =>
        simp only [answered] at course
        have attempts := attempts_cleanAll course
        apply Handles.attempts asks
        refine (attempts.prepend rfl fun _ => ?_).prepend rfl fun _ => Iff.rfl
        exact iff_of_true (.inr answered) trivial

theorem handles_exitFailure {message : Bytes}
    (nothing : ∀ operation, ¬ AsksFor word args operation)
    (course : (exitFailure message).Course exchanges ending) :
    Handles word args input exchanges ending := by
  rcases course_exitFailure course with ⟨rfl, _⟩
  exact .asksForNothing nothing rfl

theorem makes_showUsage (usage : Bytes) (status : Nat) :
    (do printf usage; exit status : Handled).Makes fun _ call => KeepsLimits call :=
  ⟨keepsLimits_printf usage, fun _ => trivial⟩

theorem handles_orExit {parsed : Except Bytes α} {next : α → Handled}
    (nothing : ∀ message, parsed = .error message →
      ∀ operation, ¬ AsksFor word args operation)
    (goesOn : ∀ value, parsed = .ok value → (next value).Course exchanges ending →
      Handles word args input exchanges ending)
    (course : (orExit parsed next).Course exchanges ending) :
    Handles word args input exchanges ending := by
  cases parsed with
  | error message => exact handles_exitFailure (nothing message rfl) course
  | ok value => exact goesOn value rfl course

theorem handles_cmdLimitSet {subcommand : Bytes} (isLimit : word = ascii "limit")
    (isSet : subcommand = ascii "set")
    (course : (cmdLimitSet args).Course exchanges ending) :
    Handles word (subcommand :: args) input exchanges ending := by
  have only : ∀ operation, AsksFor word (subcommand :: args) operation →
      ∃ pid uploadKbps downloadKbps pidArg uploadArg downloadArg rest,
        args = pidArg :: uploadArg :: downloadArg :: rest ∧ IsPid pid pidArg ∧
        parseRate uploadArg = .ok uploadKbps ∧ parseRate downloadArg = .ok downloadKbps ∧
        { uploadKbps, downloadKbps : RateLimitConfig } ≠ .unlimited := by
    intro operation asks
    cases asks with
    | limitSet isPid upload download limited =>
        exact ⟨_, _, _, _, _, _, _, rfl, isPid, upload, download, limited⟩
    | limitUnset isPid => exact absurd isSet (by decide)
    | clean => exact absurd isLimit (by decide)
  rw [cmdLimitSet.eq_def] at course
  split at course
  · rename_i pidArg uploadArg downloadArg rest
    apply handles_orExit _ _ course
    · intro message rejected operation asks
      rcases only operation asks with ⟨_, _, _, _, _, _, _, same, isPid, _⟩
      cases same
      rw [parsePid_ok_iff.mpr isPid] at rejected
      contradiction
    intro pid isPid
    apply handles_orExit
    · intro message rejected operation asks
      rcases only operation asks with ⟨_, _, _, _, _, _, _, same, _, upload, _⟩
      cases same
      rw [upload] at rejected
      contradiction
    intro uploadKbps upload
    apply handles_orExit
    · intro message rejected operation asks
      rcases only operation asks with ⟨_, _, _, _, _, _, _, same, _, _, download, _⟩
      cases same
      rw [download] at rejected
      contradiction
    intro downloadKbps download course
    by_cases unlimited : { uploadKbps, downloadKbps : RateLimitConfig } = .unlimited
    · rw [limitListed, if_pos unlimited] at course
      apply handles_exitFailure _ course
      intro operation asks
      rcases only operation asks with
        ⟨_, _, _, _, _, _, _, same, _, sameUpload, sameDownload, limited⟩
      cases same
      rw [upload] at sameUpload
      rw [download] at sameDownload
      cases sameUpload
      cases sameDownload
      exact limited unlimited
    · have asks : AsksFor word (subcommand :: pidArg :: uploadArg :: downloadArg :: rest)
          (.limitProcessBandwidth pid { uploadKbps, downloadKbps }) := by
        rw [isLimit, isSet]
        exact .limitSet (parsePid_ok_iff.mp isPid) upload download unlimited
      exact .attempts asks (attempts_limitListed unlimited course)
  · rename_i short
    apply Handles.asksForNothing _ (changes_of_makes (makes_showUsage _ _) course)
    intro operation asks
    rcases only operation asks with ⟨_, _, _, _, _, _, _, same, _⟩
    exact short _ _ _ _ same

theorem handles_cmdLimitUnset {subcommand : Bytes} (isLimit : word = ascii "limit")
    (isUnset : subcommand = ascii "unset")
    (course : (cmdLimitUnset args).Course exchanges ending) :
    Handles word (subcommand :: args) input exchanges ending := by
  have only : ∀ operation, AsksFor word (subcommand :: args) operation →
      ∃ pid pidArg rest, args = pidArg :: rest ∧ IsPid pid pidArg := by
    intro operation asks
    cases asks with
    | limitSet isPid => exact absurd isUnset (by decide)
    | limitUnset isPid => exact ⟨_, _, _, rfl, isPid⟩
    | clean => exact absurd isLimit (by decide)
  cases args with
  | nil =>
      apply Handles.asksForNothing _ (changes_of_makes (makes_showUsage _ _) course)
      intro operation asks
      rcases only operation asks with ⟨_, _, _, same, _⟩
      contradiction
  | cons pidArg rest =>
      apply handles_orExit _ _ course
      · intro message rejected operation asks
        rcases only operation asks with ⟨_, _, _, same, isPid⟩
        cases same
        rw [parsePid_ok_iff.mpr isPid] at rejected
        contradiction
      intro pid isPid course
      have asks : AsksFor word (subcommand :: pidArg :: rest)
          (.unregisterRateLimiterByPid pid) := by
        rw [isLimit, isUnset]
        exact .limitUnset (parsePid_ok_iff.mp isPid)
      exact .attempts asks (attempts_unsetLimit course)

theorem handles_handleLimit (isLimit : word = ascii "limit")
    (noHelp : hasHelpFlag args = false)
    (course : (handleLimit args).Course exchanges ending) :
    Handles word args input exchanges ending := by
  rw [handleLimit.eq_def, if_neg (Bool.eq_false_iff.mp noHelp)] at course
  cases args with
  | nil =>
      have makes : (do fprintf (ascii "missing subcommand\n"); exitFailure tryLimitHelp :
          Handled).Makes fun _ call => KeepsLimits call :=
        Program.makes_bind ((Program.makes_request _).mpr (keepsLimits_fprintf _))
          fun _ => makes_exitFailure _
      apply Handles.asksForNothing _ (changes_of_makes makes course)
      intro operation asks
      cases asks with
      | clean => exact absurd isLimit (by decide)
  | cons subcommand args =>
      simp only at course
      by_cases isSet : subcommand = ascii "set"
      · rw [if_pos isSet] at course
        exact handles_cmdLimitSet isLimit isSet course
      rw [if_neg isSet] at course
      by_cases isUnset : subcommand = ascii "unset"
      · rw [if_pos isUnset] at course
        exact handles_cmdLimitUnset isLimit isUnset course
      rw [if_neg isUnset] at course
      have makes : (do
          fprintf (ascii "unknown subcommand: " ++ subcommand ++ ascii "\n")
          exitFailure tryLimitHelp : Handled).Makes fun _ call => KeepsLimits call :=
        Program.makes_bind ((Program.makes_request _).mpr (keepsLimits_fprintf _))
          fun _ => makes_exitFailure _
      apply Handles.asksForNothing _ (changes_of_makes makes course)
      intro operation asks
      cases asks with
      | limitSet => exact isSet rfl
      | limitUnset => exact isUnset rfl
      | clean => exact absurd isLimit (by decide)

theorem makes_printRows (rows : List (ProcessInfo × RateLimitsRead)) :
    (printRows rows).Makes fun _ call => KeepsLimits call := by
  induction rows with
  | nil => trivial
  | cons row rows induction =>
      exact Program.makes_bind ((Program.makes_request _).mpr (keepsLimits_printf _))
        fun _ => induction

theorem makes_readLimits (processes : List ProcessInfo) :
    (readLimits processes).Makes fun _ call => KeepsLimits call := by
  induction processes with
  | nil => trivial
  | cons process processes induction =>
      refine Program.makes_bind ((Program.makes_request _).mpr fun _ => rfl) fun _ => ?_
      exact Program.makes_bind induction fun _ => trivial

theorem makes_cmdList : cmdList.Makes fun _ call => KeepsLimits call := by
  refine Program.makes_bind ((Program.makes_request _).mpr fun _ => rfl) fun found => ?_
  cases found with
  | error failure => exact makes_exitFailure _
  | ok processes =>
      refine Program.makes_bind ((Program.makes_request _).mpr fun _ => rfl) fun upload => ?_
      refine Program.makes_bind ((Program.makes_request _).mpr fun _ => rfl) fun download => ?_
      split
      · exact makes_exitFailure _
      · refine Program.makes_bind (makes_readLimits _) fun rows => ?_
        refine Program.makes_bind ?_ fun _ => trivial
        refine Program.makes_bind ((Program.makes_request _).mpr fun _ => rfl) fun _ => ?_
        refine Program.makes_bind ((Program.makes_request _).mpr fun _ => rfl) fun _ => ?_
        exact makes_printRows _

theorem mem_commands_of_findCommand {command : Command} (found : findCommand word = some command) :
    command ∈ commands ∧ command.name = word :=
  ⟨List.mem_of_find?_eq_some found, by simpa using List.find?_some found⟩

theorem handles_command {command : Command} (found : findCommand word = some command)
    (noHelp : hasHelpFlag args = false)
    (course : (command.handler args input).Course exchanges ending) :
    Handles word args input exchanges ending := by
  rcases mem_commands_of_findCommand found with ⟨member, rfl⟩
  simp only [commands, List.mem_cons, List.not_mem_nil, or_false] at member
  rcases member with rfl | rfl | rfl
  · apply Handles.asksForNothing _ (changes_of_makes makes_cmdList course)
    intro operation asks
    generalize isList : ascii "list" = word at asks
    cases asks with
    | limitSet => exact absurd isList (by decide)
    | limitUnset => exact absurd isList (by decide)
    | clean => exact absurd isList (by decide)
  · exact handles_handleLimit rfl noHelp course
  · exact handles_cmdClean rfl course

end Handlers

end Pidnl.Cli
