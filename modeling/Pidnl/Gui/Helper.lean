import Pidnl.Gui.Channel
import Pidnl.Ratelimit.Functions

/-! # The privileged helper

`run_privileged` of `main.c` and its handlers, from the pipe that requests are read
from to the pipe that replies are printed to: a program over the functions of the
library, whose replies may depend on every call before.
-/

namespace Pidnl.Gui

open Pidnl.Foundation Pidnl.Ratelimit

abbrev Line := Bytes

def BACKEND_CMD_LIST : Int := 0
def BACKEND_CMD_LIMIT : Int := 1
def BACKEND_CMD_QUIT : Int := 2
def BACKEND_CMD_CLEAN : Int := 3
def BACKEND_RESPONSE_OK : Int := 1
def BACKEND_RESPONSE_ERROR : Int := 2

/-- `discovery_code`, but for `DISCOVERY_OK`. -/
inductive DiscoveryFailure
  | alloc
  | socket
  | bind
  | recvmsg
  | netlinkMsg
deriving DecidableEq, Repr

/-- `process_info` -/
structure ProcessInfo where
  pid : Int32
  processName : Bytes
  exePath : Bytes
  numConnections : Int32
  hasTcp : Int32
  hasUdp : Int32
deriving DecidableEq, Repr

/-- What the functions of the library return while a request is served. -/
structure Library where
  getNetworkProcesses : Except DiscoveryFailure (List ProcessInfo)
  getRateLimitsFromCgroup : Int32 → RateLimitsRead
  unregisterRateLimiterByPid : Int32 → RatelimitCode
  limitProcessBandwidth : Int32 → RateLimitConfig → RatelimitCode
  ratelimitCleanupAll : RatelimitCode

/-! ## What is printed -/

/-- `printf("%d\n", …)` -/
def numberLine (value : Int) : Line := Decimal.signed value ++ [10]

def responseLine (code : RatelimitCode) : Line :=
  numberLine (if code = .ok then BACKEND_RESPONSE_OK else BACKEND_RESPONSE_ERROR)

def processNumbers (process : ProcessInfo) (limits : RateLimitsRead) : Bytes :=
  Decimal.signed process.pid.toInt ++ [32] ++
    Decimal.signed process.numConnections.toInt ++ [32] ++
    Decimal.signed process.hasTcp.toInt ++ [32] ++
    Decimal.signed process.hasUdp.toInt ++ [32] ++
    Decimal.unsigned limits.uploadKbps.toNat ++ [32] ++
    Decimal.unsigned limits.downloadKbps.toNat ++ [32]

def processLines (library : Library) (process : ProcessInfo) : List Line :=
  [processNumbers process (library.getRateLimitsFromCgroup process.pid) ++
      process.processName ++ [10],
    process.exePath ++ [10]]

def listLines (library : Library) (processes : List ProcessInfo) : List Line :=
  (Decimal.unsigned processes.length ++ [10]) ::
    processes.flatMap (processLines library)

/-! ## What is read -/

/-- `sscanf` with so many `%ld`, when all of them are converted and none is out of
range. -/
def scanLongs : Nat → Bytes → Option (List Int)
  | 0, _ => some []
  | count + 1, text =>
      let scanned := Decimal.strtol text
      if scanned.noDigits ∨ scanned.outOfRange then none
      else (scanLongs count scanned.rest).map fun values => scanned.value :: values

/-- `fgets` with room for so many bytes before the final NUL. It waits for more bytes
unless the room is full or the line is complete. -/
def fgets : Nat → Bytes → Option (Line × Bytes)
  | 0, input => some ([], input)
  | _ + 1, [] => none
  | room + 1, byte :: input =>
      if byte = 10 then some ([byte], input)
      else (fgets room input).map fun (line, rest) => (byte :: line, rest)

theorem length_lt_of_fgets {room : Nat} {input line rest : Bytes}
    (read : fgets (room + 1) input = some (line, rest)) : rest.length < input.length := by
  induction room generalizing input line with
  | zero =>
      cases input with
      | nil => contradiction
      | cons byte input =>
          rw [fgets] at read
          split at read <;> cases read <;> exact Nat.lt_succ_self _
  | succ room induction =>
      cases input with
      | nil => contradiction
      | cons byte input =>
          rw [fgets] at read
          split at read
          · cases read
            exact Nat.lt_succ_self _
          · rcases Option.map_eq_some_iff.mp read with ⟨⟨line, rest⟩, found, equal⟩
            cases equal
            exact Nat.lt_succ_of_lt (induction found)

theorem fgets_line {room : Nat} {text : Bytes} (noLineFeed : 10 ∉ text)
    (fits : text.length < room) (rest : Bytes) :
    fgets room (text ++ 10 :: rest) = some (text ++ [10], rest) := by
  induction text generalizing room with
  | nil =>
      cases room with
      | zero => contradiction
      | succ room => simp [fgets]
  | cons byte text induction =>
      cases room with
      | zero => contradiction
      | succ room =>
          have differs : byte ≠ 10 := fun same => noLineFeed (same ▸ .head _)
          have read := induction (fun member => noLineFeed (.tail _ member))
            (Nat.lt_of_succ_lt_succ fits)
          rw [List.cons_append, fgets, if_neg differs, read]
          rfl

theorem scanLongs_signed {value : Int} {rest : Bytes} (count : Nat)
    (ends : ∀ byte, rest.head? = some byte → Decimal.isDigit byte = false)
    (low : -2 ^ 63 ≤ value) (high : value ≤ 2 ^ 63 - 1) :
    scanLongs (count + 1) (Decimal.signed value ++ rest) =
      (scanLongs count rest).map fun values => value :: values := by
  rw [scanLongs, Decimal.strtol, Decimal.scan_signed_append ends low high]
  rfl

theorem scanLongs_space_signed {value : Int} {rest : Bytes} (count : Nat)
    (ends : ∀ byte, rest.head? = some byte → Decimal.isDigit byte = false)
    (low : -2 ^ 63 ≤ value) (high : value ≤ 2 ^ 63 - 1) :
    scanLongs (count + 1) (32 :: (Decimal.signed value ++ rest)) =
      (scanLongs count rest).map fun values => value :: values := by
  have scanned := Decimal.scan_signed_append ends low high
  rw [scanLongs, Decimal.strtol, Decimal.scan_space_cons (by decide) (by rw [scanned]),
    scanned]
  rfl

/-- What has been done when `run_privileged` waits for more requests or has quit. -/
structure Served where
  lines : List Line
  unread : Bytes
  quit : Bool
deriving DecidableEq, Repr

/-! ## The handlers and the loop -/

/-- What `handle_limit_cmd` calls for numbers in range, whatever the two functions of the
library are run on. -/
def changeLimitBy {m : Type → Type u} [Monad m]
    (unregisterRateLimiterByPid : Int32 → m RatelimitCode)
    (limitProcessBandwidth : Int32 → RateLimitConfig → m RatelimitCode) (pid : Int32)
    (config : RateLimitConfig) : m RatelimitCode :=
  if config = .unlimited then do
    match ← unregisterRateLimiterByPid pid with
    | .cgroupNotFound => pure .ok
    | code => pure code
  else limitProcessBandwidth pid config

namespace Commands

open Program (request)

/-- The functions of the library that the helper calls. -/
inductive LibraryCall : Type → Type 1
  | getNetworkProcesses : LibraryCall (Except DiscoveryFailure (List ProcessInfo))
  | getRateLimitsFromCgroup (pid : Int32) : LibraryCall RateLimitsRead
  | unregisterRateLimiterByPid (pid : Int32) : LibraryCall RatelimitCode
  | limitProcessBandwidth (pid : Int32) (config : RateLimitConfig) :
      LibraryCall RatelimitCode
  | ratelimitCleanupAll : LibraryCall RatelimitCode

abbrev Helper := Program Unit LibraryCall

/-- The loop of `handle_list_cmd`. -/
def processLines : List ProcessInfo → Helper (List Line)
  | [] => pure []
  | process :: processes => do
      let limits ← request (.getRateLimitsFromCgroup process.pid)
      let lines ← processLines processes
      pure ((processNumbers process limits ++ process.processName ++ [10]) ::
        (process.exePath ++ [10]) :: lines)

def handleListCmd : Helper (List Line) := do
  match ← request .getNetworkProcesses with
  | .error _ => pure [numberLine BACKEND_RESPONSE_ERROR]
  | .ok processes =>
      let lines ← processLines processes
      pure ((Decimal.unsigned processes.length ++ [10]) :: lines)

def changeLimit (pid : Int32) (config : RateLimitConfig) : Helper RatelimitCode :=
  changeLimitBy (fun pid => request (.unregisterRateLimiterByPid pid))
    (fun pid config => request (.limitProcessBandwidth pid config)) pid config

def handleLimitCmd (line : Line) : Helper (List Line) :=
  match scanLongs 4 line with
  | some [_, pid, upload, download] =>
      if pid ≤ 0 ∨ 2 ^ 31 - 1 < pid ∨ upload < 0 ∨ 2 ^ 32 - 1 < upload ∨
          download < 0 ∨ 2 ^ 32 - 1 < download then
        pure [numberLine BACKEND_RESPONSE_ERROR]
      else do
        let code ← changeLimit (.ofInt pid)
          { uploadKbps := .ofNat upload.toNat
            downloadKbps := .ofNat download.toNat }
        pure [responseLine code]
  | _ => pure [numberLine BACKEND_RESPONSE_ERROR]

def handleCleanCmd : Helper (List Line) := do
  let code ← request .ratelimitCleanupAll
  pure [responseLine code]

def serveLine (line : Line) : Helper (Option (List Line)) :=
  match scanLongs 1 line with
  | some [cmd] =>
      if cmd = BACKEND_CMD_LIST then do return some (← handleListCmd)
      else if cmd = BACKEND_CMD_LIMIT then do return some (← handleLimitCmd line)
      else if cmd = BACKEND_CMD_CLEAN then do return some (← handleCleanCmd)
      else if cmd = BACKEND_CMD_QUIT then pure none
      else pure (some [])
  | _ => pure (some [])

/-- What has been read and what has been done when `run_privileged` waits or has quit. -/
structure Handled where
  /-- What `fgets` has returned, call by call. -/
  commands : List Line
  served : Served
deriving DecidableEq, Repr

/-- The loop of `run_privileged`, whose `line` has 64 bytes. -/
def runPrivileged (input : Bytes) : Helper Handled :=
  match _ : fgets 63 input with
  | none =>
      pure { commands := [], served := { lines := [], unread := input, quit := false } }
  | some (line, rest) => do
      match ← serveLine line with
      | none =>
          pure { commands := [line]
                 served := { lines := [], unread := rest, quit := true } }
      | some lines =>
          let more ← runPrivileged rest
          pure { commands := line :: more.commands
                 served := { more.served with lines := lines ++ more.served.lines } }
termination_by input.length
decreasing_by exact length_lt_of_fgets ‹_›

theorem runPrivileged_waits {input : Bytes} (waits : fgets 63 input = none) :
    runPrivileged input =
      pure { commands := []
             served := { lines := [], unread := input, quit := false } } := by
  rw [runPrivileged]
  split
  · rfl
  · rename_i read
    rw [waits] at read
    contradiction

theorem runPrivileged_read {input line rest : Bytes}
    (read : fgets 63 input = some (line, rest)) :
    runPrivileged input = (do
      match ← serveLine line with
      | none =>
          pure { commands := [line]
                 served := { lines := [], unread := rest, quit := true } }
      | some lines =>
          let more ← runPrivileged rest
          pure { commands := line :: more.commands
                 served := { more.served with lines := lines ++ more.served.lines } }) := by
  rw [runPrivileged]
  split
  · rename_i waits
    rw [waits] at read
    contradiction
  · rename_i found
    rw [found] at read
    cases read
    rfl

/-- A library that finds the same processes at every call, and reads the same limits. -/
structure Lists (environment : Environment Unit LibraryCall State) (state : State)
    (library : Library) : Prop where
  found : environment [] .getNetworkProcesses state = (library.getNetworkProcesses, state)
  reads : ∀ pid, environment [] (.getRateLimitsFromCgroup pid) state =
    (library.getRateLimitsFromCgroup pid, state)

section Lists

variable {environment : Environment Unit LibraryCall State} {state : State}
  {library : Library}

theorem run_processLines (lists : Lists environment state library)
    (processes : List ProcessInfo) :
    (processLines processes).run environment state =
      (processes.flatMap (Gui.processLines library), state) := by
  induction processes with
  | nil => rfl
  | cons process processes induction =>
      simp only [processLines, Program.run_bind, Program.run_request, lists.reads, induction,
        Program.run_pure, List.flatMap_cons, Gui.processLines, List.cons_append,
        List.nil_append]

theorem run_handleListCmd (lists : Lists environment state library) :
    handleListCmd.run environment state =
      (match library.getNetworkProcesses with
        | .error _ => [numberLine BACKEND_RESPONSE_ERROR]
        | .ok processes => listLines library processes, state) := by
  rw [handleListCmd, Program.run_bind, Program.run_request, lists.found]
  cases library.getNetworkProcesses with
  | error failure => rfl
  | ok processes =>
      simp only [Program.run_bind, run_processLines lists, Program.run_pure, listLines]

end Lists

end Commands

/-! ## A library whose replies never change -/

open Commands (LibraryCall)

def fixed (library : Library) : Environment Unit LibraryCall Unit
  | _, _, .getNetworkProcesses, state => (library.getNetworkProcesses, state)
  | _, _, .getRateLimitsFromCgroup pid, state =>
      (library.getRateLimitsFromCgroup pid, state)
  | _, _, .unregisterRateLimiterByPid pid, state =>
      (library.unregisterRateLimiterByPid pid, state)
  | _, _, .limitProcessBandwidth pid config, state =>
      (library.limitProcessBandwidth pid config, state)
  | _, _, .ratelimitCleanupAll, state => (library.ratelimitCleanupAll, state)

section Fixed

variable (library : Library)

def handleListCmd : List Line := (Commands.handleListCmd.run (fixed library) ()).1

def changeLimit (pid : Int32) (config : RateLimitConfig) : RatelimitCode :=
  ((Commands.changeLimit pid config).run (fixed library) ()).1

def handleCleanCmd : List Line := (Commands.handleCleanCmd.run (fixed library) ()).1

def runPrivileged (input : Bytes) : Served :=
  ((Commands.runPrivileged input).run (fixed library) ()).1.served

theorem handleListCmd_eq :
    handleListCmd library =
      match library.getNetworkProcesses with
      | .error _ => [numberLine BACKEND_RESPONSE_ERROR]
      | .ok processes => listLines library processes := by
  have lists : Commands.Lists (fixed library) () library := ⟨rfl, fun _ => rfl⟩
  rw [handleListCmd, Commands.run_handleListCmd lists]

theorem handleCleanCmd_eq :
    handleCleanCmd library = [responseLine library.ratelimitCleanupAll] := rfl

end Fixed

end Pidnl.Gui
