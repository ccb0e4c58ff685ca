import Pidnl.Cli.Handlers

/-! # One change for a command line

`main` of `cli/main.c`. Whatever is replied to it, it makes the change that the command
line asks for and no other, and its exit status tells whether it has been made.
-/

namespace Pidnl.Cli

open Pidnl.Foundation Pidnl.System Pidnl.Ratelimit
open Pidnl.Gui (DiscoveryFailure ProcessInfo)
open Pidnl.Gui.Commands (LibraryCall)
open Pidnl.Monitor (Operation)
open Program (request)

/-! ## The program -/

def findsMount : Exchange CliCall → Bool
  | ⟨.startup .getCgroup2Mount, some _⟩ => true
  | _ => false

def findsRoot : Exchange CliCall → Bool
  | ⟨.geteuid, euid⟩ => euid = 0
  | _ => false

/-- The change has been asked for, by root, and nothing is left that it waits for. -/
structure Granted (argv : List Bytes) (input : Bytes) (operation : Operation)
    (earlier : List (Exchange CliCall)) : Prop where
  mount : earlier.any findsMount = true
  root : earlier.any findsRoot = true
  allowed : ∃ word args, IsCommand argv word args ∧ AsksFor word args operation ∧
    Allowed args input operation earlier

def finished (handled : Option Ending) : Ending := handled.getD (.exited EXIT_SUCCESS)

inductive Goes (argv : List Bytes) (input : Bytes) :
    List (Exchange CliCall) → Ending → Prop
  /-- The file system is missing, or the user is not root. -/
  | stopped {exchanges : List (Exchange CliCall)} (none : changes exchanges = [])
      (missing : exchanges.any findsMount = false ∨ exchanges.any findsRoot = false) :
      Goes argv input exchanges (.exited EXIT_FAILURE)
  | asksForNothing {exchanges : List (Exchange CliCall)} {ending : Ending}
      (none : changes exchanges = []) (nothing : ∀ operation, ¬ Asks argv operation) :
      Goes argv input exchanges ending
  | handled {before later : List (Exchange CliCall)} {word : Bytes} {args : List Bytes}
      {ending : Option Ending} (none : changes before = [])
      (mount : before.any findsMount = true) (root : before.any findsRoot = true)
      (unlisted : ∀ pid, before.any (lists pid) = false)
      (isCommand : IsCommand argv word args)
      (handles : Handles word args input later ending) :
      Goes argv input (before ++ later) (finished ending)

section Main

variable {argv args : List Bytes} {word input : Bytes} {exchanges : List (Exchange CliCall)}
  {ending : Ending}

theorem any_eq_false_of_makes {seen : Exchange CliCall → Bool} {program : CliProgram α}
    {final : α}
    (makes : program.Makes fun _ call => ∀ reply, seen ⟨call, reply⟩ = false)
    (course : program.Course exchanges final) : exchanges.any seen = false := by
  rw [List.any_eq_false]
  intro exchange member
  rw [makes.of_course course exchange member exchange.reply]
  exact Bool.false_ne_true

theorem course_asRoot {handler : Handled} (course : (asRoot handler).Course exchanges ending) :
    ∃ euid later, exchanges = ⟨.geteuid, euid⟩ :: later ∧
      ((euid ≠ 0 ∧ (∃ message, later = [⟨.fprintf message, ()⟩]) ∧
          ending = .exited EXIT_FAILURE) ∨
        (euid = 0 ∧ ∃ handled, handler.Course later handled ∧
          ending = finished handled)) := by
  rw [asRoot, Program.course_bind_iff] at course
  rcases course with ⟨_, later, euid, rfl, asked, course⟩
  rw [Program.course_request_iff] at asked
  subst asked
  refine ⟨euid, later, rfl, ?_⟩
  by_cases root : euid = 0
  · rw [if_neg (not_not.mpr root), Program.course_bind_iff] at course
    rcases course with ⟨first, _, handled, rfl, handles, course⟩
    right
    refine ⟨root, handled, ?_⟩
    cases handled with
    | none =>
        rcases Program.course_pure_iff.mp course with ⟨rfl, rfl⟩
        rw [List.append_nil]
        exact ⟨handles, rfl⟩
    | some ended =>
        rcases Program.course_pure_iff.mp course with ⟨rfl, rfl⟩
        rw [List.append_nil]
        exact ⟨handles, rfl⟩
  · rw [if_pos root, Program.course_bind_iff] at course
    rcases course with ⟨_, _, _, rfl, printed, course⟩
    rw [Program.course_request_iff] at printed
    subst printed
    rcases Program.course_pure_iff.mp course with ⟨rfl, rfl⟩
    exact .inl ⟨root, ⟨_, rfl⟩, rfl⟩

/-- `ratelimit_init` only succeeds where it finds the file system. -/
theorem course_startup {err : RatelimitCode}
    (course : (ratelimitInit.embed CliCall.startup).Course exchanges err) :
    changes exchanges = [] ∧ exchanges.any findsMount = decide (err = .ok) ∧
      exchanges.any findsRoot = false ∧ ∀ pid, exchanges.any (lists pid) = false := by
  cases course with
  | call initialised course =>
      cases initialised with
      | false =>
          cases course
          exact ⟨rfl, rfl, rfl, fun _ => rfl⟩
      | true =>
          cases course with
          | call mount course =>
              cases mount with
              | none =>
                  cases course
                  exact ⟨rfl, rfl, rfl, fun _ => rfl⟩
              | some mount =>
                  cases course
                  exact ⟨rfl, rfl, rfl, fun _ => rfl⟩

theorem course_main (course : (main argv input).Course exchanges ending) :
    ∃ err startup later, exchanges = startup ++ later ∧
      (ratelimitInit.embed CliCall.startup).Course startup err ∧
      ((err ≠ .ok ∧ (∃ message, later = [⟨.fprintf message, ()⟩]) ∧
          ending = .exited EXIT_FAILURE) ∨
        (err = .ok ∧
          (if hasHelpFlag argv then showHelp argv
            else runCommand argv input).Course later ending)) := by
  rw [main, Program.course_bind_iff] at course
  rcases course with ⟨startup, later, err, rfl, starts, course⟩
  refine ⟨err, startup, later, rfl, starts, ?_⟩
  by_cases ok : err = .ok
  · rw [if_neg (not_not.mpr ok)] at course
    exact .inr ⟨ok, course⟩
  · rw [if_pos ok, Program.course_bind_iff] at course
    rcases course with ⟨_, _, _, rfl, printed, course⟩
    rw [Program.course_request_iff] at printed
    subst printed
    rcases Program.course_pure_iff.mp course with ⟨rfl, rfl⟩
    exact .inl ⟨ok, ⟨_, rfl⟩, rfl⟩

def Prints : CliCall Reply → Prop
  | .printf _ => True
  | .fprintf _ => True
  | _ => False

theorem prints_unseen {seen : Exchange CliCall → Bool}
    (unseen : ∀ text, seen ⟨.printf text, ()⟩ = false ∧ seen ⟨.fprintf text, ()⟩ = false)
    {program : CliProgram α} {final : α} (makes : program.Makes fun _ call => Prints call)
    (course : program.Course exchanges final) : exchanges.any seen = false := by
  refine any_eq_false_of_makes (makes.weaken fun _ call prints reply => ?_) course
  cases call with
  | printf text => exact (unseen text).1
  | fprintf text => exact (unseen text).2
  | startup call => cases prints
  | library call => cases prints
  | geteuid => cases prints
  | calloc count => cases prints

theorem changes_of_prints {program : CliProgram α} {final : α}
    (makes : program.Makes fun _ call => Prints call)
    (course : program.Course exchanges final) : changes exchanges = [] := by
  refine changes_of_makes (makes.weaken fun _ call prints => ?_) course
  cases call with
  | printf text => exact keepsLimits_printf text
  | fprintf text => exact keepsLimits_fprintf text
  | startup call => cases prints
  | library call => cases prints
  | geteuid => cases prints
  | calloc count => cases prints

theorem makes_printCommands (commands : List Command) :
    (printCommands commands).Makes fun _ call => Prints call := by
  induction commands with
  | nil => trivial
  | cons command commands induction =>
      exact Program.makes_bind ((Program.makes_request _).mpr trivial) fun _ => induction

theorem makes_rejectCommand (message : Bytes) :
    (rejectCommand message).Makes fun _ call => Prints call := by
  refine Program.makes_bind ((Program.makes_request _).mpr trivial) fun _ => ?_
  refine Program.makes_bind ((Program.makes_request _).mpr trivial) fun _ => ?_
  refine Program.makes_bind (makes_printCommands commands) fun _ => ?_
  exact Program.makes_bind ((Program.makes_request _).mpr trivial) fun _ => trivial

theorem makes_showHelp (argv : List Bytes) :
    (showHelp argv).Makes fun _ call => Prints call := by
  rw [showHelp]
  split
  · exact ⟨trivial, fun _ => trivial⟩
  · split
    · exact ⟨trivial, fun _ => trivial⟩
    · exact makes_rejectCommand _

theorem not_asks_of_help (help : hasHelpFlag argv = true) (operation : Operation) :
    ¬ Asks argv operation := by
  intro asks
  rcases asks with ⟨word, args, isCommand, _⟩
  rw [isCommand.noHelp] at help
  contradiction

theorem AsksFor.isSome_findCommand {operation : Operation}
    (asks : AsksFor word args operation) : (findCommand word).isSome = true := by
  cases asks <;> decide

theorem course_command {command : Command} (isCommand : IsCommand argv word args)
    (known : findCommand word = some command)
    (course : (main argv input).Course exchanges ending) :
    ending = .exited EXIT_FAILURE ∨
      ∃ startup later handled, exchanges = startup ++ ⟨.geteuid, 0⟩ :: later ∧
        (ratelimitInit.embed CliCall.startup).Course startup .ok ∧
        (command.handler args input).Course later handled ∧ ending = finished handled := by
  rcases course_main course with ⟨err, startup, later, rfl, starts, failed | goesOn⟩
  · exact .inl failed.2.2
  rcases goesOn with ⟨rfl, course⟩
  rw [isCommand.noHelp, if_neg Bool.false_ne_true, runCommand,
    (findArgument_iff_isCommand isCommand.noHelp).mpr isCommand] at course
  simp only [known] at course
  rcases course_asRoot course with ⟨euid, handling, rfl, stops | goesOn⟩
  · exact .inl stops.2.2
  · rcases goesOn with ⟨rfl, handled, handles, rfl⟩
    exact .inr ⟨startup, handling, handled, rfl, starts, handles, rfl⟩

theorem goes_runCommand {startup later : List (Exchange CliCall)}
    (starts : (ratelimitInit.embed CliCall.startup).Course startup .ok)
    (noHelp : hasHelpFlag argv = false)
    (course : (runCommand argv input).Course later ending) :
    Goes argv input (startup ++ later) ending := by
  rcases course_startup starts with ⟨none, mount, noRoot, unlisted⟩
  rw [runCommand] at course
  split at course
  · rename_i missing
    have noneLater := changes_of_prints (makes_rejectCommand _) course
    apply Goes.asksForNothing
    · rw [changes_append, none, noneLater]
      rfl
    · intro operation asks
      rcases asks with ⟨word, args, isCommand, _⟩
      rw [(findArgument_iff_isCommand noHelp).mpr isCommand] at missing
      contradiction
  rename_i word args found
  have isCommand := (findArgument_iff_isCommand noHelp).mp found
  split at course
  · rename_i unknown
    have noneLater := changes_of_prints (makes_rejectCommand _) course
    apply Goes.asksForNothing
    · rw [changes_append, none, noneLater]
      rfl
    · intro operation asks
      rcases asks with ⟨other, others, isOther, asksFor⟩
      rw [(findArgument_iff_isCommand noHelp).mpr isOther] at found
      cases found
      have known := asksFor.isSome_findCommand
      rw [unknown] at known
      contradiction
  rename_i command known
  rcases course_asRoot course with ⟨euid, handling, rfl, stops | goesOn⟩
  · rcases stops with ⟨notRoot, ⟨message, rfl⟩, rfl⟩
    apply Goes.stopped
    · rw [changes_append, none]
      rfl
    · right
      rw [List.any_append, noRoot]
      simp [findsRoot, notRoot]
  · rcases goesOn with ⟨rfl, handled, handles, rfl⟩
    rw [List.append_cons]
    apply Goes.handled
    · rw [changes_append, none]
      rfl
    · rw [List.any_append, mount]
      rfl
    · rw [List.any_append]
      simp [findsRoot]
    · intro pid
      rw [List.any_append, unlisted]
      rfl
    · exact isCommand
    · exact handles_command known isCommand.noHelp_args handles

theorem goes_main (course : (main argv input).Course exchanges ending) :
    Goes argv input exchanges ending := by
  rcases course_main course with ⟨err, startup, later, rfl, starts, failed | goesOn⟩
  · rcases failed with ⟨notOk, ⟨message, rfl⟩, rfl⟩
    rcases course_startup starts with ⟨none, mount, _⟩
    apply Goes.stopped
    · rw [changes_append, none]
      rfl
    · left
      rw [List.any_append, mount]
      simp [notOk, findsMount]
  · rcases goesOn with ⟨rfl, course⟩
    cases help : hasHelpFlag argv with
    | true =>
        rw [help, if_pos rfl] at course
        have none := changes_of_prints (makes_showHelp argv) course
        apply Goes.asksForNothing
        · rw [changes_append, (course_startup starts).1, none]
          rfl
        · exact not_asks_of_help help
    | false =>
        rw [help, if_neg Bool.false_ne_true] at course
        exact goes_runCommand starts help course

/-! ## The one change -/

theorem AsksFor.unique {first second : Operation} (asks : AsksFor word args first)
    (again : AsksFor word args second) : first = second := by
  have setNotUnset : ascii "set" ≠ ascii "unset" := by decide
  have limitNotClean : ascii "limit" ≠ ascii "clean" := by decide
  generalize isWord : word = otherWord at again
  generalize isArgs : args = otherArgs at again
  cases asks with
  | limitSet isPid upload download limited =>
      cases again with
      | limitSet isPid' upload' download' limited' =>
          cases isArgs
          rw [← parsePid_ok_iff] at isPid isPid'
          rw [isPid] at isPid'
          rw [upload] at upload'
          rw [download] at download'
          cases isPid'
          cases upload'
          cases download'
          rfl
      | limitUnset isPid' => exact absurd (List.cons.inj isArgs).1 setNotUnset
      | clean => exact absurd isWord limitNotClean
  | limitUnset isPid =>
      cases again with
      | limitSet isPid' => exact absurd (List.cons.inj isArgs).1.symm setNotUnset
      | limitUnset isPid' =>
          cases isArgs
          rw [← parsePid_ok_iff] at isPid isPid'
          rw [isPid] at isPid'
          cases isPid'
          rfl
      | clean => exact absurd isWord limitNotClean
  | clean =>
      cases again with
      | limitSet => exact absurd isWord.symm limitNotClean
      | limitUnset => exact absurd isWord.symm limitNotClean
      | clean => rfl

theorem Asks.unique {first second : Operation} (asks : Asks argv first)
    (again : Asks argv second) : first = second := by
  rcases asks with ⟨word, args, isCommand, asks⟩
  rcases again with ⟨other, others, isOther, again⟩
  have found := (findArgument_iff_isCommand isCommand.noHelp).mpr isCommand
  rw [(findArgument_iff_isCommand isCommand.noHelp).mpr isOther] at found
  cases found
  exact asks.unique again

theorem IsCommand.unique {others : List Bytes} {other : Bytes}
    (isCommand : IsCommand argv word args) (isOther : IsCommand argv other others) :
    word = other ∧ args = others := by
  have found := (findArgument_iff_isCommand isCommand.noHelp).mpr isCommand
  rw [(findArgument_iff_isCommand isCommand.noHelp).mpr isOther] at found
  cases found
  exact ⟨rfl, rfl⟩

theorem allowed_append_iff {before later : List (Exchange CliCall)} {operation : Operation}
    (unlisted : ∀ pid, before.any (lists pid) = false) :
    Allowed args input operation (before ++ later) ↔ Allowed args input operation later := by
  cases operation with
  | limitProcessBandwidth pid config =>
      simp only [Allowed, List.any_append, unlisted, Bool.false_or]
  | unregisterRateLimiterByPid pid => exact Iff.rfl
  | ratelimitCleanupAll => exact Iff.rfl

theorem not_granted_of_handled {before later : List (Exchange CliCall)}
    (unlisted : ∀ pid, before.any (lists pid) = false) (isCommand : IsCommand argv word args)
    (refused : ∀ operation, AsksFor word args operation →
      ¬ Allowed args input operation later) (operation : Operation) :
    ¬ Granted argv input operation (before ++ later) := by
  intro granted
  rcases granted.allowed with ⟨other, others, isOther, asks, allowed⟩
  rcases isCommand.unique isOther with ⟨rfl, rfl⟩
  exact refused operation asks ((allowed_append_iff unlisted).mp allowed)

theorem not_allowed_clean {earlier : List (Exchange CliCall)} {operation : Operation}
    (isClean : word = ascii "clean") (asked : skipConfirmation args = false)
    (no : confirm input ≠ .confirmed) (asks : AsksFor word args operation) :
    ¬ Allowed args input operation earlier := by
  have isCleanup : operation = .ratelimitCleanupAll := asks.unique (isClean ▸ .clean)
  subst isCleanup
  intro allowed
  cases allowed with
  | inl skips =>
      rw [asked] at skips
      contradiction
  | inr confirmed => exact no confirmed

/-- No more than one change is made, and it is made if and only if it has been granted
by what came before it. -/
theorem changes_granted (course : (main argv input).Course exchanges ending) :
    (changes exchanges = [] ∧ ∀ operation, ¬ Granted argv input operation exchanges) ∨
      ∃ operation code earlier, Changes exchanges operation code earlier ∧
        Granted argv input operation earlier := by
  cases goes_main course with
  | stopped none missing =>
      left
      refine ⟨none, fun operation granted => ?_⟩
      rcases missing with noMount | noRoot
      · exact absurd granted.mount (Bool.eq_false_iff.mp noMount)
      · exact absurd granted.root (Bool.eq_false_iff.mp noRoot)
  | asksForNothing none nothing =>
      left
      refine ⟨none, fun operation granted => ?_⟩
      rcases granted.allowed with ⟨word, args, isCommand, asks, _⟩
      exact nothing operation ⟨word, args, isCommand, asks⟩
  | @handled before later word args handled none mount root unlisted isCommand handles =>
      have noChange : changes later = [] → changes (before ++ later) = [] := by
        intro noneLater
        rw [changes_append, none, noneLater]
        rfl
      cases handles with
      | declined isClean asked aborted noneLater =>
          exact .inl ⟨noChange noneLater, not_granted_of_handled unlisted isCommand fun _ =>
            not_allowed_clean isClean asked (by rw [aborted]; nofun)⟩
      | waits isClean asked draining noneLater =>
          exact .inl ⟨noChange noneLater, not_granted_of_handled unlisted isCommand fun _ =>
            not_allowed_clean isClean asked (by rw [draining]; nofun)⟩
      | asksForNothing nothing noneLater =>
          exact .inl ⟨noChange noneLater, not_granted_of_handled unlisted isCommand
            fun operation asks => absurd asks (nothing operation)⟩
      | attempts asks attempts =>
          cases attempts with
          | refused noneLater notAllowed =>
              left
              refine ⟨noChange noneLater, not_granted_of_handled unlisted isCommand ?_⟩
              intro other again
              rw [again.unique asks]
              exact notAllowed
          | made changed isAllowed =>
              right
              refine ⟨_, _, _, changed.prepend none, ?_⟩
              constructor
              · rw [List.any_append, mount]
                rfl
              · rw [List.any_append, root]
                rfl
              · exact ⟨word, args, isCommand, asks,
                  (allowed_append_iff unlisted).mpr isAllowed⟩

/-- A machine with one process where everything succeeds, for a user with this uid. -/
def obliging (euid : UInt32) : Environment Frame CliCall Unit
  | _, _, .startup .cgroupInit, state => (true, state)
  | _, _, .startup .getCgroup2Mount, state => (some [], state)
  | _, _, .library .getNetworkProcesses, state =>
      (.ok [{ pid := 12, processName := ascii "nc", exePath := [], numConnections := 1
              hasTcp := 1, hasUdp := 0 }], state)
  | _, _, .library (.getRateLimitsFromCgroup _), state => (.absent, state)
  | _, _, .library (.unregisterRateLimiterByPid _), state => (.ok, state)
  | _, _, .library (.limitProcessBandwidth _ _), state => (.ok, state)
  | _, _, .library .ratelimitCleanupAll, state => (.ok, state)
  | _, _, .geteuid, state => (euid, state)
  | _, _, .calloc _, state => (true, state)
  | _, _, .printf _, state => ((), state)
  | _, _, .fprintf _, state => ((), state)

def limitTwelve : List Bytes :=
  [ascii "pidnl", ascii "limit", ascii "set", ascii "12", ascii "100", ascii "-1"]

theorem changes_granted_limitTwelve :
    ∃ earlier, Changes ((main limitTwelve []).exchanges (obliging 0) ())
      (.limitProcessBandwidth 12 { uploadKbps := 100, downloadKbps := RATELIMIT_UNLIMITED })
      .ok earlier := by
  rcases changes_granted (Program.course_of_run (obliging 0) (main limitTwelve []) ()) with
    ⟨none, _⟩ | ⟨operation, code, earlier, changed, _⟩
  · exact absurd none (by decide)
  · have made := changed.changes_eq
    rw [show changes ((main limitTwelve []).exchanges (obliging 0) ()) =
      [(.limitProcessBandwidth 12
        { uploadKbps := 100, downloadKbps := RATELIMIT_UNLIMITED }, .ok)] by decide] at made
    cases made
    exact ⟨earlier, changed⟩

/-- The user was asked whether to clean, and did not say yes. -/
def Declined (argv : List Bytes) (input : Bytes) : Prop :=
  ∃ args, IsCommand argv (ascii "clean") args ∧ skipConfirmation args = false ∧
    confirm input = .aborted

theorem ends_main {operation : Operation} (asks : Asks argv operation)
    (notDeclined : ¬ Declined argv input)
    (course : (main argv input).Course exchanges ending) :
    (ending ≠ .exited EXIT_SUCCESS ∧ changes exchanges = []) ∨
      ∃ code earlier, Changes exchanges operation code earlier ∧
        (ending = .exited EXIT_SUCCESS ↔ code = .ok) := by
  cases goes_main course with
  | stopped none missing => exact .inl ⟨nofun, none⟩
  | asksForNothing none nothing => exact absurd asks (nothing operation)
  | @handled before later word args handled none mount root unlisted isCommand handles =>
      have noChange : changes later = [] → changes (before ++ later) = [] := by
        intro noneLater
        rw [changes_append, none, noneLater]
        rfl
      rcases asks with ⟨other, others, isOther, asks⟩
      rcases isCommand.unique isOther with ⟨rfl, rfl⟩
      cases handles with
      | declined isClean asked aborted noneLater =>
          exact absurd ⟨args, isClean ▸ isCommand, asked, aborted⟩ notDeclined
      | waits isClean asked draining noneLater => exact .inl ⟨nofun, noChange noneLater⟩
      | asksForNothing nothing noneLater => exact absurd asks (nothing operation)
      | attempts again attempts =>
          rw [asks.unique again]
          cases attempts with
          | refused noneLater notAllowed => exact .inl ⟨nofun, noChange noneLater⟩
          | @made earlier code changed isAllowed =>
              refine .inr ⟨code, before ++ earlier, changed.prepend none, ?_⟩
              by_cases ok : code = .ok
              · rw [if_pos ok]
                exact iff_of_true rfl ok
              · rw [if_neg ok]
                exact iff_of_false nofun ok

/-- Unless the user has declined it, a command line that asks for a change exits with
success if and only if the change has been made and has succeeded. -/
theorem exits_success_iff {operation : Operation} (asks : Asks argv operation)
    (notDeclined : ¬ Declined argv input)
    (course : (main argv input).Course exchanges ending) :
    ending = .exited EXIT_SUCCESS ↔ changes exchanges = [(operation, .ok)] := by
  rcases ends_main asks notDeclined course with
    ⟨failure, none⟩ | ⟨code, earlier, changed, success⟩
  · rw [none]
    exact iff_of_false failure nofun
  · rw [success, changed.changes_eq]
    constructor
    · intro ok
      rw [ok]
    · intro same
      cases same
      rfl

theorem exits_success_iff_limitTwelve :
    changes ((main limitTwelve []).exchanges (obliging 0) ()) =
      [(.limitProcessBandwidth 12
        { uploadKbps := 100, downloadKbps := RATELIMIT_UNLIMITED }, .ok)] := by
  have isCommand : IsCommand limitTwelve (ascii "limit")
      [ascii "set", ascii "12", ascii "100", ascii "-1"] :=
    (findArgument_iff_isCommand (by decide)).mp (by decide)
  have isPid : IsPid 12 (ascii "12") := parsePid_ok_iff.mp (by decide)
  have notDeclined : ¬ Declined limitTwelve [] := by
    intro declined
    rcases declined with ⟨args, isClean, _⟩
    exact absurd (isCommand.unique isClean).1 (by decide)
  exact (exits_success_iff ⟨_, _, isCommand, .limitSet isPid (by decide) rfl (by decide)⟩
    notDeclined (Program.course_of_run (obliging 0) (main limitTwelve []) ())).mp (by decide)

/-! ## Without root -/

def usesLibrary : Exchange CliCall → Bool
  | ⟨.library _, _⟩ => true
  | _ => false

theorem any_of_usesLibrary {seen : Exchange CliCall → Bool}
    {before rest earlier later : List (Exchange CliCall)} {exchange : Exchange CliCall}
    (unused : before.any usesLibrary = false) (sees : before.any seen = true)
    (split : before ++ rest = earlier ++ exchange :: later)
    (uses : usesLibrary exchange = true) : earlier.any seen = true := by
  rcases List.append_eq_append_iff.mp split with ⟨more, rfl, _⟩ | ⟨more, rfl, later⟩
  · rw [List.any_append, sees]
    rfl
  · cases more with
    | nil =>
        rw [List.append_nil] at sees
        exact sees
    | cons other more =>
        cases later
        rw [List.any_append, List.any_cons, uses] at unused
        simp at unused

theorem course_rejectCommand {message : Bytes}
    (course : (rejectCommand message).Course exchanges ending) :
    ending = .exited EXIT_FAILURE := by
  simp only [rejectCommand, Program.course_bind_iff, Program.course_pure_iff] at course
  rcases course with ⟨_, _, _, _, _, _, _, _, _, _, _, _, _, _, _, _, _, _, _, ended⟩
  exact ended.2.2

theorem course_showHelp (course : (showHelp argv).Course exchanges ending) :
    ending = .exited EXIT_SUCCESS ↔ ∀ word args,
      findArgument (argv.drop 1) = some (word, args) → word ∈ commands.map Command.name := by
  rw [showHelp] at course
  split at course
  · rename_i missing
    simp only [Program.course_bind_iff, Program.course_pure_iff] at course
    rcases course with ⟨_, _, _, _, _, _, rfl⟩
    refine iff_of_true rfl ?_
    intro word args found
    rw [missing] at found
    cases found
  rename_i word args found
  rw [found]
  split at course
  · rename_i command known
    simp only [Program.course_bind_iff, Program.course_pure_iff] at course
    rcases course with ⟨_, _, _, _, _, _, rfl⟩
    rcases mem_commands_of_findCommand known with ⟨member, rfl⟩
    refine iff_of_true rfl ?_
    intro _ _ same
    cases same
    exact List.mem_map_of_mem member
  · rename_i unknown
    rw [course_rejectCommand course]
    refine iff_of_false (fun same => by cases same) ?_
    intro isKnown
    rcases List.mem_map.mp (isKnown word args rfl) with ⟨command, member, same⟩
    have unequal := List.find?_eq_none.mp unknown command member
    simp [same] at unequal

theorem unused_startup {err : RatelimitCode}
    (course : (ratelimitInit.embed CliCall.startup).Course exchanges err) :
    exchanges.any usesLibrary = false := by
  have makes : (ratelimitInit.embed CliCall.startup).Makes
      fun _ call => ∀ reply, usesLibrary ⟨call, reply⟩ = false := by
    refine ⟨fun _ => rfl, fun initialised => ?_⟩
    cases initialised with
    | false => trivial
    | true =>
        refine ⟨fun _ => rfl, fun mount => ?_⟩
        cases mount <;> trivial
  exact any_eq_false_of_makes makes course

theorem unused_or_root (course : (main argv input).Course exchanges ending) :
    exchanges.any usesLibrary = false ∨
      hasHelpFlag argv = false ∧ ∃ before later, exchanges = before ++ later ∧
        before.any usesLibrary = false ∧ before.any findsMount = true ∧
        before.any findsRoot = true := by
  rcases course_main course with ⟨err, startup, later, rfl, starts, failed | goesOn⟩
  · rcases failed with ⟨_, ⟨message, rfl⟩, _⟩
    left
    rw [List.any_append, unused_startup starts]
    rfl
  rcases goesOn with ⟨rfl, course⟩
  have noneUsed : later.any usesLibrary = false →
      (startup ++ later).any usesLibrary = false := by
    intro unused
    rw [List.any_append, unused_startup starts, unused]
    rfl
  cases help : hasHelpFlag argv with
  | true =>
      rw [help, if_pos rfl] at course
      exact .inl (noneUsed (prints_unseen (fun _ => ⟨rfl, rfl⟩) (makes_showHelp argv) course))
  | false =>
      rw [help, if_neg Bool.false_ne_true, runCommand] at course
      split at course
      · exact .inl (noneUsed
          (prints_unseen (fun _ => ⟨rfl, rfl⟩) (makes_rejectCommand _) course))
      split at course
      · exact .inl (noneUsed
          (prints_unseen (fun _ => ⟨rfl, rfl⟩) (makes_rejectCommand _) course))
      rcases course_asRoot course with ⟨euid, handling, rfl, stops | goesOn⟩
      · rcases stops with ⟨_, ⟨message, rfl⟩, _⟩
        exact .inl (noneUsed rfl)
      · rcases goesOn with ⟨rfl, _⟩
        right
        refine ⟨rfl, startup ++ [⟨.geteuid, 0⟩], handling, List.append_cons _ _ _, ?_⟩
        simp only [List.any_append, unused_startup starts, (course_startup starts).2.1]
        exact ⟨rfl, rfl, Bool.or_true _⟩

/-- The library is called for root alone, and never where there is an argument that asks
for help. Help is given if the first argument that is no option is a command, or if there
is none. -/
theorem library_needs_root (course : (main argv input).Course exchanges ending) :
    (∀ earlier exchange later, exchanges = earlier ++ exchange :: later →
      usesLibrary exchange = true → hasHelpFlag argv = false ∧
        earlier.any findsMount = true ∧ earlier.any findsRoot = true) ∧
    (hasHelpFlag argv = true → exchanges.any findsMount = true →
      (ending = .exited EXIT_SUCCESS ↔ ∀ word args,
        findArgument (argv.drop 1) = some (word, args) →
          word ∈ commands.map Command.name)) := by
  constructor
  · intro earlier exchange later split uses
    rcases unused_or_root course with unused | ⟨noHelp, before, rest, rfl, unused, mount, root⟩
    · rw [split, List.any_append, List.any_cons, uses] at unused
      simp at unused
    · exact ⟨noHelp, any_of_usesLibrary unused mount split uses,
        any_of_usesLibrary unused root split uses⟩
  · intro help mount
    rcases course_main course with ⟨err, startup, later, rfl, starts, failed | goesOn⟩
    · rcases failed with ⟨notOk, ⟨message, rfl⟩, _⟩
      rw [List.any_append, (course_startup starts).2.1] at mount
      simp [notOk, findsMount] at mount
    · rcases goesOn with ⟨_, course⟩
      rw [help, if_pos rfl] at course
      exact course_showHelp course

/-- Help on a command, for a user that is not root, and a limit, which root sets. -/
theorem library_needs_root_help :
    ((main [ascii "pidnl", ascii "clean", ascii "-h"] []).run (obliging 1000) ()).1 =
        .exited EXIT_SUCCESS ∧
      ∃ earlier exchange later,
        (main limitTwelve []).exchanges (obliging 0) () = earlier ++ exchange :: later ∧
          usesLibrary exchange = true ∧ earlier.any findsMount = true ∧
          earlier.any findsRoot = true := by
  constructor
  · have help := (library_needs_root (Program.course_of_run (obliging 1000)
      (main [ascii "pidnl", ascii "clean", ascii "-h"] []) ())).2
    apply (help (by decide) (by decide)).mpr
    intro word args found
    cases found
    decide
  · have called : ((main limitTwelve []).exchanges (obliging 0) ()).any usesLibrary = true := by
      decide
    rcases List.any_eq_true.mp called with ⟨exchange, member, uses⟩
    rcases List.append_of_mem member with ⟨earlier, later, split⟩
    have found := (library_needs_root (Program.course_of_run (obliging 0)
      (main limitTwelve []) ())).1 earlier exchange later split uses
    exact ⟨earlier, exchange, later, split, uses, found.2.1, found.2.2⟩

end Main

end Pidnl.Cli
