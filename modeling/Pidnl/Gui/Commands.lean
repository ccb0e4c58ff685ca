import Pidnl.Gui.Backend

/-! # The calls that commands lead to

What `run_privileged` makes of the commands that the client writes, whatever the library
replies.
-/

namespace Pidnl.Gui.Commands

open Pidnl.Foundation Pidnl.Ratelimit

/-! ## How a command is read -/

theorem not_isDigit_space {rest : Bytes} :
    ∀ byte, ((32 : UInt8) :: rest).head? = some byte → Decimal.isDigit byte = false := by
  rintro byte ⟨⟩
  rfl

theorem not_isDigit_lineFeed :
    ∀ byte, [(10 : UInt8)].head? = some byte → Decimal.isDigit byte = false := by
  rintro byte ⟨⟩
  rfl

section SetLimit

variable (pid : Int32) (uploadKbps downloadKbps : UInt32)

theorem command_setLimit :
    (Call.setLimit pid uploadKbps downloadKbps).command =
      Decimal.signed BACKEND_CMD_LIMIT ++ 32 :: (Decimal.signed pid.toInt ++
        32 :: (Decimal.signed uploadKbps.toNat ++
          32 :: (Decimal.signed downloadKbps.toNat ++ [10]))) := by
  simp only [Call.command, Decimal.signed_natCast, List.append_assoc, List.cons_append,
    List.nil_append]

theorem scanLongs_setLimit :
    scanLongs 4 (Call.setLimit pid uploadKbps downloadKbps).command =
      some [BACKEND_CMD_LIMIT, pid.toInt, uploadKbps.toNat, downloadKbps.toNat] := by
  have above := pid.le_toInt
  have below := pid.toInt_lt
  have upload := uploadKbps.toNat_lt
  have download := downloadKbps.toNat_lt
  rw [command_setLimit,
    scanLongs_signed 3 not_isDigit_space (by decide) (by decide),
    scanLongs_space_signed 2 not_isDigit_space (by omega) (by omega),
    scanLongs_space_signed 1 not_isDigit_space (by omega) (by omega),
    scanLongs_space_signed 0 not_isDigit_lineFeed (by omega) (by omega)]
  rfl

theorem scanLong_setLimit :
    scanLongs 1 (Call.setLimit pid uploadKbps downloadKbps).command =
      some [BACKEND_CMD_LIMIT] := by
  rw [command_setLimit, scanLongs_signed 0 not_isDigit_space (by decide) (by decide)]
  rfl

end SetLimit

theorem command_fits (call : Call) : ∃ text, call.command = text ++ [10] ∧
    10 ∉ text ∧ text.length < 63 := by
  have noLineFeed : ∀ {text : Bytes}, Printable text → 10 ∉ text := by
    intro text printable member
    exact absurd (printable 10 member).1 (by decide)
  cases call with
  | list => exact ⟨_, rfl, noLineFeed (.signed _), by decide⟩
  | clean => exact ⟨_, rfl, noLineFeed (.signed _), by decide⟩
  | setLimit pid uploadKbps downloadKbps =>
      have space : Printable [32] := .singleton (by decide)
      have above := pid.le_toInt
      have below := pid.toInt_lt
      have command : (Decimal.signed BACKEND_CMD_LIMIT).length ≤ 1 := by decide
      have pidDigits : (Decimal.signed pid.toInt).length ≤ 11 :=
        Decimal.length_signed_le (by decide) (by omega)
      have upload : (Decimal.unsigned uploadKbps.toNat).length ≤ 10 :=
        Decimal.length_unsigned_le (by decide) (by have := uploadKbps.toNat_lt; omega)
      have download : (Decimal.unsigned downloadKbps.toNat).length ≤ 10 :=
        Decimal.length_unsigned_le (by decide) (by have := downloadKbps.toNat_lt; omega)
      refine ⟨_, rfl, noLineFeed ?_, ?_⟩
      · exact ((((((Printable.signed _).append space).append (.signed _)).append
          space).append (.unsigned _)).append space).append (.unsigned _)
      · simp only [List.length_append, List.length_singleton]
        omega

section SetLimit

variable {pid : Int32} {uploadKbps downloadKbps : UInt32}

theorem handleLimitCmd_setLimit (positive : 0 < pid) :
    handleLimitCmd (Call.setLimit pid uploadKbps downloadKbps).command = (do
      let code ← changeLimit pid
        { uploadKbps := uploadKbps, downloadKbps := downloadKbps }
      pure [responseLine code]) := by
  have below := pid.toInt_lt
  have upload := uploadKbps.toNat_lt
  have download := downloadKbps.toNat_lt
  have inRange : 0 < pid.toInt := Int32.lt_iff_toInt_lt.mp positive
  rw [handleLimitCmd, scanLongs_setLimit]
  simp only
  rw [if_neg (by omega)]
  simp only [Int32.ofInt_toInt, Int.toNat_natCast, UInt32.ofNat_toNat]

theorem handleLimitCmd_of_not_positive (notPositive : pid ≤ 0) :
    handleLimitCmd (Call.setLimit pid uploadKbps downloadKbps).command =
      pure [numberLine BACKEND_RESPONSE_ERROR] := by
  rw [handleLimitCmd, scanLongs_setLimit]
  simp only
  rw [if_pos]
  left
  exact Int32.le_iff_toInt_le.mp notPositive

end SetLimit

def handled (call : Call) : Helper (List Line) :=
  match call with
  | .list => handleListCmd
  | .setLimit _ _ _ => handleLimitCmd call.command
  | .clean => handleCleanCmd

theorem serveLine_command (call : Call) :
    serveLine call.command = do return some (← handled call) := by
  cases call with
  | list =>
      rw [serveLine, Call.command, numberLine,
        scanLongs_signed 0 not_isDigit_lineFeed (by decide) (by decide)]
      rfl
  | setLimit pid uploadKbps downloadKbps =>
      rw [serveLine, scanLong_setLimit]
      rfl
  | clean =>
      rw [serveLine, Call.command, numberLine,
        scanLongs_signed 0 not_isDigit_lineFeed (by decide) (by decide)]
      rfl

/-! ## What a command leads to -/

/-- The call that changes limits or finds processes. -/
def answered : Call → Σ Reply, LibraryCall Reply
  | .list => ⟨_, .getNetworkProcesses⟩
  | .setLimit pid uploadKbps downloadKbps =>
      if uploadKbps = RATELIMIT_UNLIMITED ∧ downloadKbps = RATELIMIT_UNLIMITED then
        ⟨_, .unregisterRateLimiterByPid pid⟩
      else
        ⟨_, .limitProcessBandwidth pid
          { uploadKbps := uploadKbps, downloadKbps := downloadKbps }⟩
  | .clean => ⟨_, .ratelimitCleanupAll⟩

def isReading : (Σ Reply, LibraryCall Reply) → Bool
  | ⟨_, .getRateLimitsFromCgroup _⟩ => true
  | _ => false

theorem isReading_answered (call : Call) : isReading (answered call) = false := by
  cases call with
  | list => rfl
  | setLimit pid uploadKbps downloadKbps =>
      rw [answered]
      split <;> rfl
  | clean => rfl

theorem calls_processLines (environment : Environment Unit LibraryCall State)
    (processes : List ProcessInfo) (state : State) :
    ((processLines processes).calls environment state).filter (!isReading ·) = [] := by
  induction processes generalizing state with
  | nil => rfl
  | cons process processes induction =>
      simp only [processLines, Program.calls_bind, Program.calls_request,
        Program.calls_pure, List.append_nil, List.singleton_append]
      exact induction _

variable (environment : Environment Unit LibraryCall State) (state : State)

theorem calls_handleListCmd :
    (handleListCmd.calls environment state).filter (!isReading ·) = [answered .list] := by
  rw [handleListCmd, Program.calls_bind, Program.calls_request]
  split
  · rfl
  · rw [Program.calls_bind, Program.calls_pure, List.append_nil, List.filter_append,
      calls_processLines]
    rfl

section SetLimit

variable (pid : Int32) (uploadKbps downloadKbps : UInt32)

theorem calls_changeLimit :
    (changeLimit pid { uploadKbps := uploadKbps, downloadKbps := downloadKbps }).calls
        environment state =
      [answered (.setLimit pid uploadKbps downloadKbps)] := by
  have unlimited_iff : (({ uploadKbps := uploadKbps, downloadKbps := downloadKbps } :
      RateLimitConfig) = .unlimited) ↔
      uploadKbps = RATELIMIT_UNLIMITED ∧ downloadKbps = RATELIMIT_UNLIMITED := by
    simp [RateLimitConfig.unlimited]
  rw [changeLimit, changeLimitBy, answered]
  by_cases unlimited : uploadKbps = RATELIMIT_UNLIMITED ∧ downloadKbps = RATELIMIT_UNLIMITED
  · rw [if_pos unlimited, if_pos (unlimited_iff.mpr unlimited), Program.calls_bind,
      Program.calls_request]
    split <;> rfl
  · rw [if_neg unlimited, if_neg (mt unlimited_iff.mp unlimited), Program.calls_request]

end SetLimit

def IsForProcess : Call → Prop
  | .setLimit pid _ _ => 0 < pid
  | _ => True

instance (call : Call) : Decidable (IsForProcess call) := by
  cases call <;> unfold IsForProcess <;> infer_instance

structure Serves (call : Call) : Prop where
  answers : ∃ lines, ((serveLine call.command).run environment state).1 = some lines
  calls : ((serveLine call.command).calls environment state).filter (!isReading ·) =
    [answered call]

theorem serves {call : Call} (forProcess : IsForProcess call) :
    Serves environment state call := by
  constructor
  · rw [serveLine_command]
    simp
  · rw [serveLine_command, Program.calls_bind, Program.calls_pure, List.append_nil]
    cases call with
    | list => exact calls_handleListCmd environment state
    | clean => rfl
    | setLimit pid uploadKbps downloadKbps =>
        rw [handled, handleLimitCmd_setLimit forProcess]
        simp only [Program.calls_bind, calls_changeLimit, Program.calls_pure,
          List.append_nil]
        rw [List.filter_cons, isReading_answered]
        rfl

/-- Whatever the library replies, the helper reads the commands that have been written,
one by one, and every command leads to its call. -/
theorem runPrivileged_commands {calls : List Call}
    (forProcesses : ∀ call ∈ calls, IsForProcess call) :
    let input := calls.flatMap Call.command
    let handled := ((runPrivileged input).run environment state).1
    handled.commands = calls.map Call.command ∧
      handled.served.unread = [] ∧ handled.served.quit = false ∧
      ((runPrivileged input).calls environment state).filter (!isReading ·) =
        calls.map answered := by
  induction calls generalizing state with
  | nil =>
      have waits : fgets 63 [] = none := rfl
      simp only [List.flatMap_nil, runPrivileged_waits waits]
      exact ⟨rfl, rfl, rfl, rfl⟩
  | cons call calls induction =>
      rcases command_fits call with ⟨text, command, noLineFeed, fits⟩
      have read : fgets 63 ((call :: calls).flatMap Call.command) =
          some (call.command, calls.flatMap Call.command) := by
        rw [List.flatMap_cons, command, List.append_assoc]
        exact fgets_line noLineFeed fits _
      rcases serves environment state (forProcesses call (.head _)) with
        ⟨⟨lines, answers⟩, made⟩
      have rest := induction
        ((serveLine call.command).run environment state).2
        fun item member => forProcesses item (.tail _ member)
      simp only at rest ⊢
      rw [runPrivileged_read read]
      simp only [Program.run_bind, Program.calls_bind, answers, Program.run_pure,
        Program.calls_pure, List.append_nil, List.filter_append, made, List.map_cons,
        rest]
      trivial

/-- The longest command there is, with a removal and a cleanup around it. -/
theorem runPrivileged_commands_longest :
    let calls : List Call :=
      [.setLimit 7 (-1) (-1), .list, .setLimit 2147483647 4294967295 4294967294, .clean]
    let input := calls.flatMap Call.command
    let library : Library :=
      { getNetworkProcesses := .ok []
        getRateLimitsFromCgroup := fun _ => .absent
        unregisterRateLimiterByPid := fun _ => .cgroupNotFound
        limitProcessBandwidth := fun _ _ => .ok
        ratelimitCleanupAll := .ok }
    ((runPrivileged input).calls (fixed library) ()).filter (!isReading ·) =
      [⟨_, .unregisterRateLimiterByPid 7⟩, ⟨_, .getNetworkProcesses⟩,
        ⟨_, .limitProcessBandwidth 2147483647
          { uploadKbps := 4294967295, downloadKbps := 4294967294 }⟩,
        ⟨_, .ratelimitCleanupAll⟩] := by
  intro calls input library
  have forProcesses : ∀ call ∈ calls, IsForProcess call := by decide
  exact (runPrivileged_commands (fixed library) () forProcesses).2.2.2

end Pidnl.Gui.Commands
