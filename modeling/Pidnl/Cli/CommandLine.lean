import Pidnl.Cli.Functions
import Pidnl.Monitor.Store

/-! # What a command line asks for

The command lines that ask for a change of the limits, as a grammar: options, a command,
and what it is for.
-/

namespace Pidnl.Cli

open Pidnl.Foundation Pidnl.Ratelimit
open Pidnl.Monitor (Operation)

/-! ## Arguments -/

/-- A pid is a numeral without a minus sign for a positive number of an `int`. -/
def IsPid (pid : Int32) (arg : Bytes) : Prop :=
  0 < pid ∧ Decimal.IsNumeral false pid.toInt.toNat arg

section ParsePid

variable {arg : Bytes} {pid : Int32}

theorem isPid_ofInt {magnitude : Nat} (isNumeral : Decimal.IsNumeral false magnitude arg)
    (positive : 0 < magnitude) (small : (magnitude : Int) ≤ INT_MAX) :
    IsPid (.ofInt magnitude) arg := by
  rw [INT_MAX] at small
  have value : (Int32.ofInt magnitude).toInt = magnitude :=
    Int32.toInt_ofInt_of_le (by omega) (by omega)
  constructor
  · rw [Int32.lt_iff_toInt_lt, value]
    exact Int.natCast_pos.mpr positive
  · rw [value, Int.toNat_natCast]
    exact isNumeral

theorem parsePid_of_isNumeral {negative : Bool} {magnitude : Nat}
    (isNumeral : Decimal.IsNumeral negative magnitude arg) :
    parsePid arg =
      if negative = false ∧ 0 < magnitude ∧ (magnitude : Int) ≤ INT_MAX then
        .ok (.ofInt magnitude)
      else .error (invalidPid arg) := by
  have scanned := Decimal.scan_of_isNumeral (-2 ^ 63) (2 ^ 63 - 1) isNumeral
  rw [parsePid, Decimal.strtol, scanned]
  cases negative with
  | true =>
      rw [if_pos, if_neg (by simp)]
      right
      right
      left
      simp only [if_true]
      omega
  | false =>
      simp only [Bool.false_eq_true, if_false, true_and, INT_MAX]
      by_cases inRange : 0 < magnitude ∧ (magnitude : Int) ≤ 2 ^ 31 - 1
      · have kept : max (-2 ^ 63) (min (2 ^ 63 - 1) (magnitude : Int)) = magnitude := by omega
        rw [if_pos inRange, if_neg, kept]
        rw [kept]
        simp only [decide_eq_true_eq, ne_eq, not_true, false_or]
        omega
      · rw [if_neg inRange, if_pos]
        simp only [ne_eq, not_true, false_or]
        omega

/-- `parse_pid` accepts the pids and nothing else. -/
theorem parsePid_ok_iff : parsePid arg = .ok pid ↔ IsPid pid arg := by
  constructor
  · intro parsed
    have isNumeral : ∃ negative magnitude, Decimal.IsNumeral negative magnitude arg := by
      rw [parsePid] at parsed
      split at parsed
      · contradiction
      · rename_i accepted
        simp only [not_or, ne_eq, not_not] at accepted
        apply Decimal.isNumeral_of_scan _ accepted.2.1
        cases noDigits : (Decimal.strtol arg).noDigits with
        | false => exact noDigits
        | true =>
            have zero : (Decimal.strtol arg).value = 0 :=
              Decimal.scan_value_of_noDigits noDigits
            omega
    rcases isNumeral with ⟨negative, magnitude, isNumeral⟩
    rw [parsePid_of_isNumeral isNumeral] at parsed
    split at parsed
    · rename_i inRange
      cases parsed
      rcases inRange with ⟨rfl, positive, small⟩
      exact isPid_ofInt isNumeral positive small
    · contradiction
  · intro isPid
    have positive := Int32.lt_iff_toInt_lt.mp isPid.1
    have below := pid.toInt_lt
    have zero : (0 : Int32).toInt = 0 := rfl
    have back : ((pid.toInt.toNat : Nat) : Int) = pid.toInt := Int.toNat_of_nonneg (by omega)
    rw [parsePid_of_isNumeral isPid.2, if_pos ⟨rfl, by omega, by rw [INT_MAX]; omega⟩, back,
      Int32.ofInt_toInt]

end ParsePid

theorem findArgument_eq_some_iff {args rest : List Bytes} {word : Bytes} :
    findArgument args = some (word, rest) ↔
      ∃ options, args = options ++ word :: rest ∧
        (∀ option ∈ options, option.head? = some 45) ∧ word.head? ≠ some 45 := by
  induction args with
  | nil => simp [findArgument]
  | cons arg args induction =>
      rw [findArgument]
      by_cases dash : arg.head? = some 45
      · rw [if_pos dash, induction]
        constructor
        · intro found
          rcases found with ⟨options, rfl, dashes, noDash⟩
          exact ⟨arg :: options, rfl, List.forall_mem_cons.mpr ⟨dash, dashes⟩, noDash⟩
        · intro found
          rcases found with ⟨options, same, dashes, noDash⟩
          cases options with
          | nil =>
              cases same
              exact absurd dash noDash
          | cons option options =>
              cases same
              exact ⟨options, rfl, (List.forall_mem_cons.mp dashes).2, noDash⟩
      · rw [if_neg dash]
        constructor
        · intro found
          cases found
          exact ⟨[], rfl, List.forall_mem_nil _, dash⟩
        · intro found
          rcases found with ⟨options, same, dashes, _⟩
          cases options with
          | nil =>
              cases same
              rfl
          | cons option options =>
              cases same
              exact absurd (List.forall_mem_cons.mp dashes).1 dash

/-! ## The grammar -/

/-- A command with what follows it, after the name of the program and its options. No
argument asks for help. -/
structure IsCommand (argv : List Bytes) (word : Bytes) (args : List Bytes) : Prop where
  noHelp : hasHelpFlag argv = false
  split : ∃ program options, argv = program :: (options ++ word :: args) ∧
    ∀ option ∈ options, option.head? = some 45
  noDash : word.head? ≠ some 45

inductive AsksFor : Bytes → List Bytes → Operation → Prop
  | limitSet {pid : Int32} {uploadKbps downloadKbps : UInt32}
      {pidArg uploadArg downloadArg : Bytes} {rest : List Bytes}
      (isPid : IsPid pid pidArg) (upload : parseRate uploadArg = .ok uploadKbps)
      (download : parseRate downloadArg = .ok downloadKbps)
      (limited : { uploadKbps, downloadKbps : RateLimitConfig } ≠ .unlimited) :
      AsksFor (ascii "limit") (ascii "set" :: pidArg :: uploadArg :: downloadArg :: rest)
        (.limitProcessBandwidth pid { uploadKbps, downloadKbps })
  | limitUnset {pid : Int32} {pidArg : Bytes} {rest : List Bytes}
      (isPid : IsPid pid pidArg) :
      AsksFor (ascii "limit") (ascii "unset" :: pidArg :: rest)
        (.unregisterRateLimiterByPid pid)
  | clean {args : List Bytes} : AsksFor (ascii "clean") args .ratelimitCleanupAll

def Asks (argv : List Bytes) (operation : Operation) : Prop :=
  ∃ word args, IsCommand argv word args ∧ AsksFor word args operation

theorem findArgument_iff_isCommand {argv args : List Bytes} {word : Bytes}
    (noHelp : hasHelpFlag argv = false) :
    findArgument (argv.drop 1) = some (word, args) ↔ IsCommand argv word args := by
  rw [findArgument_eq_some_iff]
  constructor
  · intro found
    rcases found with ⟨options, same, dashes, noDash⟩
    cases argv with
    | nil => exact absurd same.symm (by simp)
    | cons program arguments => exact ⟨noHelp, ⟨program, options, by rw [← same]; rfl,
        dashes⟩, noDash⟩
  · intro isCommand
    rcases isCommand.split with ⟨program, options, rfl, dashes⟩
    exact ⟨options, rfl, dashes, isCommand.noDash⟩

/-- No argument of a command asks for help, so `handle_limit` finds no flag of its own. -/
theorem IsCommand.noHelp_args {argv args : List Bytes} {word : Bytes}
    (isCommand : IsCommand argv word args) : hasHelpFlag args = false := by
  rcases isCommand.split with ⟨program, options, rfl, _⟩
  have noHelp := isCommand.noHelp
  rw [hasHelpFlag, List.any_eq_false] at noHelp ⊢
  intro arg member
  apply noHelp
  exact .tail _ (List.mem_append_right _ (.tail _ member))

end Pidnl.Cli
