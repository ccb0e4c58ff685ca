import Pidnl.Cli.Clean
import Pidnl.Cli.ParseRate
import Pidnl.Gui.Commands
import Pidnl.Ratelimit.Startup

/-! # `cli/main.c`

The whole program over the functions of the library, from the arguments and what there is
to read to the exit status. Every `printf` is a call.
-/

namespace Pidnl.Cli

open Pidnl.Foundation Pidnl.System Pidnl.Ratelimit
open Pidnl.Gui (DiscoveryFailure ProcessInfo)
open Pidnl.Gui.Commands (LibraryCall)
open Program (request)

/-- The calls of `cli/main.c`, by the type of their reply. -/
inductive CliCall : Type → Type 1
  | startup (call : StartupCall Reply) : CliCall Reply
  | library (call : LibraryCall Reply) : CliCall Reply
  | geteuid : CliCall UInt32
  | calloc (count : Nat) : CliCall Bool
  | printf (text : Bytes) : CliCall Unit
  /-- To the standard error. -/
  | fprintf (text : Bytes) : CliCall Unit

abbrev CliProgram (Value : Type) := Program Frame CliCall Value

def EXIT_SUCCESS : Nat := 0
def EXIT_FAILURE : Nat := 1

inductive Ending
  | exited (status : Nat)
  /-- At the end of the input, `getchar` is called again and again. -/
  | draining
deriving DecidableEq, Repr

abbrev printf (text : Bytes) : CliProgram Unit := request (.printf text)
abbrev fprintf (text : Bytes) : CliProgram Unit := request (.fprintf text)

/-- What a handler does: `none` if it returns, or else how it ends the program. -/
abbrev Handled := CliProgram (Option Ending)

def exit (status : Nat) : Handled := pure (some (.exited status))

def exitFailure (message : Bytes) : Handled := do
  fprintf message
  exit EXIT_FAILURE

/-! ## Arguments -/

def INT_MAX : Int := 2 ^ 31 - 1

def invalidPid (arg : Bytes) : Bytes :=
  ascii "pidnl: invalid PID: " ++ arg ++ ascii "\n"

def parsePid (arg : Bytes) : Except Bytes Int32 :=
  let scanned := Decimal.strtol arg
  if scanned.outOfRange ∨ scanned.rest ≠ [] ∨ scanned.value ≤ 0 ∨
      INT_MAX < scanned.value then
    .error (invalidPid arg)
  else .ok (.ofInt scanned.value)

def orExit (parsed : Except Bytes α) (next : α → Handled) : Handled :=
  match parsed with
  | .error message => exitFailure message
  | .ok value => next value

def hasHelpFlag (argv : List Bytes) : Bool :=
  argv.any fun arg => arg = ascii "--help" ∨ arg = ascii "-h"

/-- The first argument that does not start with a dash, and those after it. -/
def findArgument : List Bytes → Option (Bytes × List Bytes)
  | [] => none
  | arg :: args => if arg.head? = some 45 then findArgument args else some (arg, args)

/-! ## Texts -/

def PROGRAM_USAGE : Bytes :=
  ascii "Usage: pidnl [OPTIONS] COMMAND [ARGS]...\n" ++
    ascii "Commands:\n" ++
    ascii "  list                List processes with network connections\n" ++
    ascii "  limit               Limit bandwidth for a process\n" ++
    ascii "  clean               Clean up all rate limits and cgroups\n" ++
    ascii "\nOptions:\n" ++
    ascii "  -h, --help          Display this help message"

def LIMIT_USAGE : Bytes :=
  ascii "Usage: pidnl limit set <pid> <upload_kbps> <download_kbps>\n" ++
    ascii "       pidnl limit unset <pid>\n\n" ++
    ascii "Commands:\n" ++
    ascii "  set <pid> <upload> <download>    Limit bandwidth for a process\n" ++
    ascii "  unset <pid>                      Remove rate limit for a process\n\n" ++
    ascii "Examples:\n" ++
    ascii "  pidnl limit set 12345 1000 2000\n" ++
    ascii "  pidnl limit unset 12345"

def CLEAN_USAGE : Bytes :=
  ascii "Usage: pidnl clean [--yes]\n\n" ++
    ascii "Clean up all rate limits and cgroups created by pidnl.\n\n" ++
    ascii "Options:\n" ++
    ascii "  --yes, -y  Skip confirmation prompt\n\n" ++
    ascii "This will remove all rate limits from processes"

def discoveryCodeString : DiscoveryFailure → Bytes
  | .alloc => ascii "Failed to allocate memory"
  | .socket => ascii "Failed to create netlink socket"
  | .bind => ascii "Failed to bind netlink socket"
  | .recvmsg => ascii "Failed to receive netlink messages"
  | .netlinkMsg => ascii "Netlink error received"

/-! ## `pidnl list` -/

def formatLimit (kbps : UInt32) : Bytes :=
  if kbps = RATELIMIT_UNLIMITED then ascii "-" else Decimal.unsigned kbps.toNat

/-- `%-*s` -/
def padRight (width : Nat) (text : Bytes) : Bytes :=
  text ++ List.replicate (width - text.length) 32

/-- `%-8s %-20s %-10s %-10s %-12s %-12s %s\n` -/
def tableLine (pid name tcp udp upload download executable : Bytes) : Bytes :=
  padRight 8 pid ++ 32 :: padRight 20 name ++ 32 :: padRight 10 tcp ++
    32 :: padRight 10 udp ++ 32 :: padRight 12 upload ++ 32 :: padRight 12 download ++
    32 :: executable ++ [10]

def tableHeader : Bytes :=
  tableLine (ascii "PID") (ascii "NAME") (ascii "TCP") (ascii "UDP") (ascii "UP(KBPS)")
    (ascii "DOWN(KBPS)") (ascii "EXECUTABLE")

def tableRule : Bytes :=
  tableLine (ascii "---") (ascii "----") (ascii "---") (ascii "---") (ascii "--------")
    (ascii "----------") (ascii "----------")

def yesNo (flag : Int32) : Bytes := if flag = 0 then ascii "No" else ascii "Yes"

def tableRow (process : ProcessInfo) (limits : RateLimitsRead) : Bytes :=
  tableLine (Decimal.signed process.pid.toInt) process.processName
    (yesNo process.hasTcp) (yesNo process.hasUdp) (formatLimit limits.uploadKbps)
    (formatLimit limits.downloadKbps)
    (if process.exePath = [] then ascii "(unknown)" else process.exePath)

/-- The loop of `print_process_list`. -/
def printRows : List (ProcessInfo × RateLimitsRead) → CliProgram Unit
  | [] => pure ()
  | (process, limits) :: rows => do
      printf (tableRow process limits)
      printRows rows

def printProcessList (rows : List (ProcessInfo × RateLimitsRead)) : CliProgram Unit := do
  printf tableHeader
  printf tableRule
  printRows rows

/-- The loop of `cmd_list` that fills the arrays of limits. -/
def readLimits : List ProcessInfo → CliProgram (List (ProcessInfo × RateLimitsRead))
  | [] => pure []
  | process :: processes => do
      let limits ← request (.library (.getRateLimitsFromCgroup process.pid))
      let rows ← readLimits processes
      pure ((process, limits) :: rows)

def cmdList : Handled := do
  match ← request (.library .getNetworkProcesses) with
  | .error failure =>
      exitFailure (ascii "pidnl: Failed to discover processes: " ++
        discoveryCodeString failure ++ ascii "\n")
  | .ok processes => do
      let uploadLimits ← request (.calloc processes.length)
      let downloadLimits ← request (.calloc processes.length)
      if !uploadLimits || !downloadLimits then
        exitFailure (ascii "pidnl: failed to allocate memory\n")
      else do
        let rows ← readLimits processes
        printProcessList rows
        return none

/-! ## `pidnl limit` -/

def notFound (pid : Int32) : Bytes :=
  ascii "pidnl: PID " ++ Decimal.signed pid.toInt ++
    ascii " not found in network process list. Run 'pidnl list' to see available PIDs.\n"

def printLimiting (pid : Int32) (config : RateLimitConfig) : CliProgram Unit := do
  printf (ascii "Limiting PID " ++ Decimal.signed pid.toInt ++ ascii " to ")
  printf (if config.uploadKbps = RATELIMIT_UNLIMITED then ascii "unlimited upload"
    else Decimal.unsigned config.uploadKbps.toNat ++ ascii " kbps upload")
  printf (if config.downloadKbps = RATELIMIT_UNLIMITED then ascii ", unlimited download"
    else ascii ", " ++ Decimal.unsigned config.downloadKbps.toNat ++ ascii " kbps download")
  printf (ascii "\n")

/-- What `cmd_limit_set` does with its arguments once they are parsed. -/
def limitListed (pid : Int32) (config : RateLimitConfig) : Handled := do
  if config = .unlimited then
    exitFailure (ascii "pidnl: Error: Cannot set both upload and download to unlimited\n")
  else
    match ← request (.library .getNetworkProcesses) with
    | .error failure =>
        exitFailure (ascii "pidnl: Failed to check process list: " ++
          discoveryCodeString failure ++ ascii "\n")
    | .ok processes =>
        if ¬ processes.any fun process => process.pid = pid then
          exitFailure (notFound pid)
        else do
          let err ← request (.library (.limitProcessBandwidth pid config))
          if err ≠ .ok then
            exitFailure (ascii "pidnl: Failed to limit bandwidth: " ++
              ratelimitCodeString err ++ ascii "\n")
          else do
            printLimiting pid config
            return none

def cmdLimitSet : List Bytes → Handled
  | pid :: upload :: download :: _ =>
      orExit (parsePid pid) fun pid =>
      orExit (parseRate upload) fun uploadKbps =>
      orExit (parseRate download) fun downloadKbps =>
      limitListed pid { uploadKbps := uploadKbps, downloadKbps := downloadKbps }
  | _ => do
      printf (LIMIT_USAGE ++ ascii "\n")
      exit EXIT_SUCCESS

def unsetLimit (pid : Int32) : Handled := do
  let err ← request (.library (.unregisterRateLimiterByPid pid))
  if err ≠ .ok then
    exitFailure (ascii "pidnl: " ++ ratelimitCodeString err ++ ascii "\n")
  else do
    printf (ascii "Removed rate limit for PID " ++ Decimal.signed pid.toInt ++ ascii "\n")
    return none

def cmdLimitUnset : List Bytes → Handled
  | pid :: _ => orExit (parsePid pid) unsetLimit
  | [] => do
      printf (LIMIT_USAGE ++ ascii "\n")
      exit EXIT_SUCCESS

def tryLimitHelp : Bytes := ascii "Try 'pidnl limit --help' for more information.\n"

def handleLimit (argv : List Bytes) : Handled :=
  if hasHelpFlag argv then do
    printf (LIMIT_USAGE ++ ascii "\n")
    exit EXIT_SUCCESS
  else
    match argv with
    | [] => do
        fprintf (ascii "missing subcommand\n")
        exitFailure tryLimitHelp
    | subcommand :: args =>
        if subcommand = ascii "set" then cmdLimitSet args
        else if subcommand = ascii "unset" then cmdLimitUnset args
        else do
          fprintf (ascii "unknown subcommand: " ++ subcommand ++ ascii "\n")
          exitFailure tryLimitHelp

/-! ## `pidnl clean` -/

def cleanAll : Handled := do
  let err ← request (.library .ratelimitCleanupAll)
  if err ≠ .ok then
    exitFailure (ascii "pidnl: " ++ ratelimitCodeString err ++ ascii "\n")
  else do
    printf (ascii "Cleanup complete.\n")
    return none

def cmdClean (argv : List Bytes) (input : Bytes) : Handled :=
  if skipConfirmation argv then cleanAll
  else do
    printf (ascii "This will remove all rate limits created by pidnl.\n")
    printf (ascii "Are you sure you want to continue? [y/N] ")
    match confirm input with
    | .aborted => do
        printf (ascii "Aborted.\n")
        exit EXIT_SUCCESS
    | .draining => return some .draining
    | .confirmed => cleanAll

/-! ## The commands -/

/-- `command`; the handler is given the input as well. -/
structure Command where
  name : Bytes
  description : Bytes
  usage : Bytes
  handler : List Bytes → Bytes → Handled

def commands : List Command :=
  [{ name := ascii "list"
     description := ascii "List processes with network connections"
     usage := PROGRAM_USAGE
     handler := fun _ _ => cmdList },
   { name := ascii "limit"
     description := ascii "Limit bandwidth for a process"
     usage := LIMIT_USAGE
     handler := fun argv _ => handleLimit argv },
   { name := ascii "clean"
     description := ascii "Clean up all rate limits"
     usage := CLEAN_USAGE
     handler := cmdClean }]

def findCommand (name : Bytes) : Option Command :=
  commands.find? fun command => command.name = name

/-- The loop of `print_command_list`, to the standard output. -/
def printCommands : List Command → CliProgram Unit
  | [] => pure ()
  | command :: commands => do
      printf (ascii "  " ++ padRight 18 command.name ++ 32 :: command.description ++
        ascii "\n")
      printCommands commands

def printCommandList : CliProgram Unit := printCommands commands

/-- What `main` prints when there is no command that it knows. -/
def rejectCommand (message : Bytes) : CliProgram Ending := do
  fprintf message
  fprintf (ascii "\nAvailable commands:\n")
  printCommandList
  fprintf (ascii "\nTry 'pidnl --help' for more information.\n")
  return .exited EXIT_FAILURE

def unknownCommand (name : Bytes) : Bytes :=
  ascii "pidnl: unknown command '" ++ name ++ ascii "'\n"

def showHelp (argv : List Bytes) : CliProgram Ending :=
  match findArgument (argv.drop 1) with
  | none => do
      printf (PROGRAM_USAGE ++ ascii "\n")
      return .exited EXIT_SUCCESS
  | some (name, _) =>
      match findCommand name with
      | some command => do
          printf (command.usage ++ ascii "\n")
          return .exited EXIT_SUCCESS
      | none => rejectCommand (unknownCommand name)

/-- The end of `main`, where the handler is called. -/
def asRoot (handler : Handled) : CliProgram Ending := do
  if (← request .geteuid) ≠ 0 then
    fprintf (ascii "pidnl: this command requires root privileges\n")
    return .exited EXIT_FAILURE
  else
    match ← handler with
    | some ending => return ending
    | none => return .exited EXIT_SUCCESS

def runCommand (argv : List Bytes) (input : Bytes) : CliProgram Ending :=
  match findArgument (argv.drop 1) with
  | none => rejectCommand (ascii "pidnl: missing command\n")
  | some (name, args) =>
      match findCommand name with
      | none => rejectCommand (unknownCommand name)
      | some command => asRoot (command.handler args input)

def main (argv : List Bytes) (input : Bytes) : CliProgram Ending := do
  let err ← ratelimitInit.embed .startup
  if err ≠ .ok then
    fprintf (ascii "pidnl: " ++ ratelimitCodeString err ++ ascii "\n")
    return .exited EXIT_FAILURE
  else if hasHelpFlag argv then showHelp argv
  else runCommand argv input

end Pidnl.Cli
