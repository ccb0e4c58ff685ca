import Pidnl.Gui.Commands

/-! # The client and the helper in step

One call after the other, each served by the helper while the client reads. Reading
blocks, so it does not matter how much of a reply is written when the client begins.
-/

namespace Pidnl.Gui

open Pidnl.Foundation Pidnl.Ratelimit

structure Pipes where
  /-- What the client has written and the helper not read. -/
  requests : Bytes
  /-- What the helper has printed and the client not read. -/
  replies : Bytes
deriving DecidableEq, Repr

def Pipes.empty : Pipes where
  requests := []
  replies := []

structure Request where
  call : Call
  library : Library

structure Exchange where
  written : List Line
  reading : Reading
  pipes : Pipes
deriving DecidableEq, Repr

def exchange (glib : Glib) (pipes : Pipes) (request : Request) : Exchange :=
  let served := runPrivileged request.library (pipes.requests ++ request.call.command)
  let reading := request.call.readReply glib (pipes.replies ++ served.lines.flatten)
  { written := served.lines
    reading := reading
    pipes := { requests := served.unread, replies := reading.unread } }

def Request.outcome (request : Request) : Result :=
  let library := request.library
  match request.call with
  | .list =>
      match library.getNetworkProcesses with
      | .error _ => .text none
      | .ok processes => .text (some (listLines library processes).flatten)
  | .setLimit pid uploadKbps downloadKbps =>
      .flag (0 < pid ∧ changeLimit library pid
        { uploadKbps := uploadKbps, downloadKbps := downloadKbps } = .ok)
  | .clean => .flag (library.ratelimitCleanupAll = .ok)

/-- The call has read what was written for it, and has returned how it went. -/
structure Exchange.Matches (exchange : Exchange) (request : Request) : Prop where
  lines : exchange.reading.lines = exchange.written
  result : exchange.reading.result = some request.outcome

def InStep (glib : Glib) : Pipes → List Request → Prop
  | _, [] => True
  | pipes, request :: requests =>
      (exchange glib pipes request).Matches request ∧
        InStep glib (exchange glib pipes request).pipes requests

def Library.NamesUnbroken (library : Library) : Prop :=
  ∀ processes, library.getNetworkProcesses = .ok processes →
    ∀ process ∈ processes, Unbroken process.processName ∧ Unbroken process.exePath

/-- The processes have been found, twice their number is a `gint`, and their names and
paths are UTF-8. -/
def Library.ListReadable (library : Library) : Prop :=
  ∃ processes, library.getNetworkProcesses = .ok processes ∧
    (processes.length : Int) * 2 ≤ G_MAXINT ∧
    ∀ process ∈ processes, ValidUtf8 process.processName ∧ ValidUtf8 process.exePath

/-! ## What the helper prints -/

def Request.reply (request : Request) : List Line :=
  match request.call with
  | .list => handleListCmd request.library
  | .setLimit pid uploadKbps downloadKbps =>
      [numberLine (if 0 < pid ∧ changeLimit request.library pid
          { uploadKbps := uploadKbps, downloadKbps := downloadKbps } = .ok then
        BACKEND_RESPONSE_OK else BACKEND_RESPONSE_ERROR)]
  | .clean => handleCleanCmd request.library

theorem run_handled (call : Call) (library : Library) :
    ((Commands.handled call).run (fixed library) ()).1 =
      Request.reply { call := call, library := library } := by
  cases call with
  | list => rfl
  | clean => rfl
  | setLimit pid uploadKbps downloadKbps =>
      rw [Commands.handled, Request.reply]
      by_cases positive : 0 < pid
      · rw [Commands.handleLimitCmd_setLimit positive, Program.run_bind, Program.run_pure,
          responseLine]
        simp only [positive, true_and]
        rfl
      · rw [Commands.handleLimitCmd_of_not_positive (Int32.not_lt.mp positive)]
        simp only [positive, false_and, if_false]
        rfl

/-- The helper reads a command as it was written, and waits for the next one. -/
theorem runPrivileged_command (request : Request) :
    runPrivileged request.library request.call.command =
      { lines := request.reply, unread := [], quit := false } := by
  rcases request with ⟨call, library⟩
  rcases Commands.command_fits call with ⟨text, command, noLineFeed, fits⟩
  have read : fgets 63 call.command = some (call.command, []) := by
    rw [command]
    exact fgets_line noLineFeed fits []
  have waits : fgets 63 [] = none := rfl
  rw [runPrivileged, Commands.runPrivileged_read read, Commands.serveLine_command]
  simp only [Program.run_bind, Program.run_pure, run_handled,
    Commands.runPrivileged_waits waits, List.append_nil]

/-! ## What the client reads -/

theorem isLine_numberLine (value : Int) : IsLine (numberLine value) :=
  .of_printable (.signed value)

theorem printable_processNumbers (process : ProcessInfo) (limits : RateLimitsRead) :
    Printable (processNumbers process limits) := by
  have space : Printable [32] := .singleton (by decide)
  have field : ∀ {before : Bytes} (number : Int), Printable before →
      Printable (before ++ Decimal.signed number ++ [32]) := fun number printable =>
    (printable.append (.signed number)).append space
  have limit : ∀ {before : Bytes} (kbps : Nat), Printable before →
      Printable (before ++ Decimal.unsigned kbps ++ [32]) := fun kbps printable =>
    (printable.append (.unsigned kbps)).append space
  apply limit
  apply limit
  apply field
  apply field
  apply field
  exact (Printable.signed _).append space

section List

variable {library : Library} {processes : List ProcessInfo}

theorem isLine_of_mem_processLines {process : ProcessInfo}
    (unbroken : Unbroken process.processName ∧ Unbroken process.exePath)
    (valid : ValidUtf8 process.processName ∧ ValidUtf8 process.exePath) :
    ∀ line ∈ processLines library process, IsLine line := by
  have numbers := printable_processNumbers process
    (library.getRateLimitsFromCgroup process.pid)
  intro line member
  simp only [processLines, List.mem_cons, List.not_mem_nil, or_false] at member
  rcases member with first | second
  · rw [first]
    exact .of_text (.printable_append numbers unbroken.1)
      (numbers.validUtf8.append valid.1)
  · rw [second]
    exact .of_text unbroken.2 valid.2

theorem validUtf8_of_processLines {process : ProcessInfo}
    (valid : ∀ line ∈ processLines library process, ValidUtf8 line) :
    ValidUtf8 process.processName ∧ ValidUtf8 process.exePath := by
  have first := valid _ (.head _)
  have second := valid _ (.tail _ (.head _))
  have numbered := ((validUtf8_append_cons_iff (by decide)).mp first).1
  constructor
  · rw [processNumbers, List.append_assoc, List.singleton_append] at numbered
    exact ((validUtf8_append_cons_iff (by decide)).mp numbered).2
  · exact ((validUtf8_append_cons_iff (by decide)).mp second).1

theorem length_flatMap_processLines (library : Library) (processes : List ProcessInfo) :
    (processes.flatMap (processLines library)).length = processes.length * 2 := by
  induction processes with
  | nil => rfl
  | cons process processes induction =>
      rw [List.flatMap_cons, List.length_append, induction, List.length_cons,
        Nat.succ_mul, Nat.add_comm]
      rfl

theorem length_listLines (library : Library) (processes : List ProcessInfo) :
    (listLines library processes).length = processes.length * 2 + 1 := by
  rw [listLines, List.length_cons, length_flatMap_processLines]

theorem linesWanted_of_small {count : Nat} (small : (count : Int) * 2 ≤ G_MAXINT) :
    linesWanted count = count * 2 := by
  have limit : G_MAXINT = 2 ^ 31 - 1 := rfl
  rw [linesWanted, Int.bmod_eq_of_le_mul_two (by omega) (by omega)]
  omega

/-- A product that is no `gint` wraps to a negative number. -/
theorem linesWanted_of_large {count : Nat} (isInt : (count : Int) ≤ G_MAXINT)
    (large : G_MAXINT < (count : Int) * 2) : linesWanted count = 0 := by
  have limit : G_MAXINT = 2 ^ 31 - 1 := rfl
  rw [linesWanted, Int.bmod_def, if_neg (by omega)]
  omega

variable {glib : Glib}

theorem backendList_listLines (documented : glib.Documented)
    (small : (processes.length : Int) * 2 ≤ G_MAXINT)
    (unbroken : ∀ process ∈ processes,
      Unbroken process.processName ∧ Unbroken process.exePath)
    (valid : ∀ process ∈ processes,
      ValidUtf8 process.processName ∧ ValidUtf8 process.exePath) :
    backendList glib (listLines library processes).flatten =
      { lines := listLines library processes
        unread := []
        result := some (.text (some (listLines library processes).flatten)) } := by
  have isCount : IsLine (Decimal.unsigned processes.length ++ [10]) :=
    .of_printable (.unsigned _)
  have areLines : ∀ line ∈ processes.flatMap (processLines library), IsLine line := by
    intro line member
    rcases List.mem_flatMap.mp member with ⟨process, listed, ofProcess⟩
    exact isLine_of_mem_processLines (unbroken process listed) (valid process listed)
      line ofProcess
  have isInt : (processes.length : Int) ≤ G_MAXINT := by omega
  rw [backendList, listLines, List.flatten_cons, isCount.readLine documented]
  simp only [cString_of_isLine isCount, parseProtocolInt_unsigned documented, isInt,
    if_true]
  cases processes with
  | nil => rfl
  | cons process processes =>
      have more : ¬ (((process :: processes).length : Nat) : Int) ≤ 0 := by
        rw [List.length_cons]
        omega
      have rest := appendLines_flatten documented areLines
        (Decimal.unsigned (process :: processes).length ++ [10]) []
      rw [length_flatMap_processLines, List.append_nil] at rest
      rw [if_neg more, linesWanted_of_small small, rest]

theorem validUtf8_of_mem_appendLines (documented : glib.Documented)
    {response replies : Bytes} {count : Nat} :
    ∀ line ∈ (appendLines glib response count replies).lines, ValidUtf8 line := by
  induction count generalizing response replies with
  | zero => exact nofun
  | succ count induction =>
      intro line member
      rw [appendLines] at member
      split at member
      · cases member
      · cases member
      · rename_i first rest read
        rcases List.mem_cons.mp member with rfl | later
        · exact documented.valid _ _ _ read
        · exact induction line later

theorem validUtf8_of_mem_backendList (documented : glib.Documented) {replies : Bytes} :
    ∀ line ∈ (backendList glib replies).lines, ValidUtf8 line := by
  intro line member
  rw [backendList] at member
  split at member
  · cases member
  · cases member
  · rename_i first rest read
    have firstValid := documented.valid _ _ _ read
    simp only at member
    split at member
    · rw [List.mem_singleton.mp member]
      exact firstValid
    · rcases List.mem_cons.mp member with rfl | later
      · exact firstValid
      · exact validUtf8_of_mem_appendLines documented line later

/-- Too many processes are not read at all. -/
theorem backendList_of_large (documented : glib.Documented)
    (large : G_MAXINT < (processes.length : Int) * 2) :
    (backendList glib (listLines library processes).flatten).lines.length = 1 := by
  have isCount : IsLine (Decimal.unsigned processes.length ++ [10]) :=
    .of_printable (.unsigned _)
  rw [backendList, listLines, List.flatten_cons, isCount.readLine documented]
  simp only [cString_of_isLine isCount, parseProtocolInt_unsigned documented]
  by_cases isInt : (processes.length : Int) ≤ G_MAXINT
  · rw [if_pos isInt]
    split
    · rfl
    · rw [linesWanted_of_large isInt large]
      rfl
  · rw [if_neg isInt, if_pos (by decide)]
    rfl

/-- The reply to a LIST that has failed is taken for the count of two processes. -/
theorem backendList_error (documented : glib.Documented) :
    (backendList glib (numberLine BACKEND_RESPONSE_ERROR)).result = none := by
  have parsed : parseProtocolInt glib (numberLine BACKEND_RESPONSE_ERROR) = 2 :=
    parseProtocolInt_unsigned documented 2
  have read := (isLine_numberLine BACKEND_RESPONSE_ERROR).readLine documented []
  rw [List.append_nil] at read
  simp only [backendList, read, cString_of_isLine (isLine_numberLine _), parsed]
  have wanted : linesWanted 2 = 4 := rfl
  rw [if_neg (by decide), wanted]
  simp only [appendLines, documented.waits]

theorem readCode_numberLine (documented : glib.Documented) (ok : Prop) [Decidable ok] :
    readCode glib (numberLine
        (if ok then BACKEND_RESPONSE_OK else BACKEND_RESPONSE_ERROR)) =
      { lines := [numberLine
          (if ok then BACKEND_RESPONSE_OK else BACKEND_RESPONSE_ERROR)]
        unread := []
        result := some (.flag ok) } := by
  have parsed : ∀ value : Nat, (value : Int) ≤ G_MAXINT →
      parseProtocolInt glib (numberLine value) = value := by
    intro value small
    have read := parseProtocolInt_unsigned documented value
    rwa [if_pos small, ← Decimal.signed_natCast] at read
  have read : ∀ value : Int, glib.ioChannelReadLine (numberLine value) =
      .normal (numberLine value) [] := by
    intro value
    have whole := (isLine_numberLine value).readLine documented []
    rwa [List.append_nil] at whole
  simp only [readCode, read, cString_of_isLine (isLine_numberLine _)]
  by_cases succeeded : ok
  · have code := parsed 1 (by decide)
    simp only [succeeded, if_true]
    rw [show BACKEND_RESPONSE_OK = ((1 : Nat) : Int) from rfl, code]
    rfl
  · have code := parsed 2 (by decide)
    simp only [succeeded, if_false]
    rw [show BACKEND_RESPONSE_ERROR = ((2 : Nat) : Int) from rfl, code]
    rfl

end List

/-! ## Sessions -/

variable {glib : Glib} {request : Request}

theorem exchange_empty :
    exchange glib .empty request =
      { written := request.reply
        reading := request.call.readReply glib request.reply.flatten
        pipes :=
          { requests := []
            replies := (request.call.readReply glib request.reply.flatten).unread } } := by
  simp only [exchange, Pipes.empty, List.nil_append, runPrivileged_command]

/-- A request that finds the pipes empty leaves them empty, and its reply is read back,
unless it is a LIST that cannot be read. -/
theorem readReply_reply (documented : glib.Documented)
    (unbroken : request.library.NamesUnbroken)
    (readable : request.call = .list → request.library.ListReadable) :
    request.call.readReply glib request.reply.flatten =
      { lines := request.reply, unread := [], result := some request.outcome } := by
  rcases request with ⟨call, library⟩
  cases call with
  | list =>
      rcases readable rfl with ⟨processes, listed, small, valid⟩
      have found : library.getNetworkProcesses = .ok processes := listed
      have read : backendList glib (listLines library processes).flatten = _ :=
        backendList_listLines documented small (unbroken processes found) valid
      simpa only [Call.readReply, Request.reply, handleListCmd_eq, Request.outcome, found]
        using read
  | setLimit pid uploadKbps downloadKbps =>
      simp only [Call.readReply, Request.reply, Request.outcome, List.flatten_cons,
        List.flatten_nil, List.append_nil]
      exact readCode_numberLine documented _
  | clean =>
      simp only [Call.readReply, Request.reply, Request.outcome, handleCleanCmd_eq,
        responseLine, List.flatten_cons, List.flatten_nil, List.append_nil]
      exact readCode_numberLine documented _

theorem exchange_of_readable (documented : glib.Documented)
    (unbroken : request.library.NamesUnbroken)
    (readable : request.call = .list → request.library.ListReadable) :
    (exchange glib .empty request).Matches request ∧
      (exchange glib .empty request).pipes = .empty := by
  rw [exchange_empty, readReply_reply documented unbroken readable]
  exact ⟨⟨rfl, rfl⟩, rfl⟩

theorem listReadable_of_matches (documented : glib.Documented)
    (inStep : (exchange glib .empty request).Matches request)
    (isList : request.call = .list) : request.library.ListReadable := by
  rcases request with ⟨call, library⟩
  cases isList
  have lines := inStep.lines
  have result := inStep.result
  simp only [exchange_empty, Call.readReply, Request.reply, handleListCmd_eq]
    at lines result
  cases found : library.getNetworkProcesses with
  | error failure =>
      simp only [found, List.flatten_cons, List.flatten_nil, List.append_nil,
        backendList_error documented] at result
      contradiction
  | ok processes =>
      simp only [found] at lines
      refine ⟨processes, found, ?_, ?_⟩
      · apply Classical.byContradiction
        intro large
        have one : (backendList glib (listLines library processes).flatten).lines.length =
            1 := backendList_of_large documented (Int.not_le.mp large)
        rw [lines, length_listLines] at one
        have limit : G_MAXINT = 2 ^ 31 - 1 := rfl
        omega
      · intro process listed
        apply validUtf8_of_processLines
        intro line member
        apply validUtf8_of_mem_backendList documented
        rw [lines, listLines]
        exact .tail _ (List.mem_flatMap.mpr ⟨process, listed, member⟩)

/-- A session is in step if and only if every LIST in it can be read. -/
theorem inStep_iff_listReadable (documented : glib.Documented)
    (session : List Request)
    (unbroken : ∀ request ∈ session, request.library.NamesUnbroken) :
    InStep glib .empty session ↔
      ∀ request ∈ session, request.call = .list → request.library.ListReadable := by
  induction session with
  | nil => exact ⟨fun _ => nofun, fun _ => trivial⟩
  | cons request session induction =>
      have first := unbroken request (.head _)
      have rest := induction fun later member => unbroken later (.tail _ member)
      rw [InStep, List.forall_mem_cons]
      constructor
      · intro inStep
        have readable := listReadable_of_matches documented inStep.1
        have drained := (exchange_of_readable documented first readable).2
        rw [drained, rest] at inStep
        exact ⟨readable, inStep.2⟩
      · intro readable
        rcases exchange_of_readable documented first readable.1 with
          ⟨inStep, drained⟩
        rw [drained, rest]
        exact ⟨inStep, readable.2⟩

def finding (found : Except DiscoveryFailure (List ProcessInfo)) : Library where
  getNetworkProcesses := found
  getRateLimitsFromCgroup := fun _ => .absent
  unregisterRateLimiterByPid := fun _ => .ok
  limitProcessBandwidth := fun _ _ => .ok
  ratelimitCleanupAll := .ok

def curl : ProcessInfo where
  pid := 7
  processName := ascii "curl"
  exePath := ascii "/usr/bin/curl"
  numConnections := 1
  hasTcp := 1
  hasUdp := 0

theorem inStep_iff_listReadable_curl :
    InStep detecting .empty
      [{ call := .list, library := finding (.ok [curl]) },
        { call := .setLimit 7 500 1000, library := finding (.ok [curl]) },
        { call := .clean, library := finding (.error .recvmsg) }] := by
  have name : Printable curl.processName := by decide
  have path : Printable curl.exePath := by decide
  have unbroken : (finding (.ok [curl])).NamesUnbroken := by
    rintro processes ⟨⟩ process member
    rw [List.mem_singleton.mp member]
    exact ⟨.of_printable name, .of_printable path⟩
  have readable : (finding (.ok [curl])).ListReadable := by
    refine ⟨[curl], rfl, by decide, ?_⟩
    intro process member
    rw [List.mem_singleton.mp member]
    exact ⟨name.validUtf8, path.validUtf8⟩
  apply (inStep_iff_listReadable documented_detecting _ _).mpr
  · simp only [List.forall_mem_cons]
    exact ⟨fun _ => readable, nofun, nofun, nofun⟩
  · simp only [List.forall_mem_cons]
    exact ⟨unbroken, unbroken, nofun, nofun⟩

/-- The client of a LIST that fails waits for processes. -/
theorem not_inStep_failedList :
    (finding (.error .recvmsg)).NamesUnbroken ∧
      ¬ InStep detecting .empty
        [{ call := .list, library := finding (.error .recvmsg) }] := by
  refine ⟨nofun, ?_⟩
  intro inStep
  have result := inStep.1.result
  rw [exchange_empty] at result
  have waits := backendList_error documented_detecting
  rw [← List.append_nil (numberLine BACKEND_RESPONSE_ERROR)] at waits
  exact absurd (waits.symm.trans result) nofun

end Pidnl.Gui
