import Pidnl.Foundation.Decimal
import Pidnl.Foundation.Execution

/-! # The confirmation of `pidnl clean`

`cmd_clean` of `cli/main.c` up to its call of `ratelimit_cleanup_all`, one `getchar`
at a time, and what comes of it. At the end of the input `getchar` returns `EOF`, at every
further call.
-/

namespace Pidnl.Cli

open Pidnl.Foundation

/-- What `getchar` returns, with `none` for `EOF`, and the input that is left. -/
def getchar : Bytes → Option UInt8 × Bytes
  | [] => (none, [])
  | byte :: input => (some byte, input)

def skipConfirmation (argv : List Bytes) : Bool :=
  argv.any fun arg => arg = ascii "--yes" ∨ arg = ascii "-y"

inductive Position
  | confirming
  /-- The loop that reads to the end of the line. -/
  | draining
  /-- `Aborted.` has been printed, and the program exits with success. -/
  | aborted
  /-- `ratelimit_cleanup_all` is called. -/
  | cleaning
deriving DecidableEq, Repr

structure Prompt where
  position : Position
  input : Bytes
deriving DecidableEq, Repr

namespace Prompt

def isYes (ch : Option UInt8) : Bool := ch = some 121 ∨ ch = some 89

/-- `cmd_clean` before the first `getchar`. -/
def start (argv : List Bytes) (input : Bytes) : Prompt where
  position := if skipConfirmation argv then .cleaning else .confirming
  input := input

/-- A call of `getchar` and what follows up to the next one. -/
def step (prompt : Prompt) : Option Prompt :=
  let read := getchar prompt.input
  match prompt.position with
  | .confirming =>
      some { position := if isYes read.1 then .draining else .aborted, input := read.2 }
  | .draining =>
      some { position := if read.1 = some 10 then .cleaning else .draining
             input := read.2 }
  | .aborted | .cleaning => none

def afterCalls (prompt : Prompt) (calls : Nat) : Option Prompt :=
  perform (fun state (_ : Unit) => state.step) prompt (.replicate calls ())

/-- Reading ends after finitely many calls, and the cleanup follows if and only if the
first byte is `y` or `Y`. -/
def Ends (argv : List Bytes) (input : Bytes) : Prop :=
  ∃ calls final, (start argv input).afterCalls calls = some final ∧
    final.step = none ∧ (final.position = .cleaning ↔ isYes input.head? = true)

theorem afterCalls_succ (prompt : Prompt) (calls : Nat) :
    prompt.afterCalls (calls + 1) =
      prompt.step.bind fun next => next.afterCalls calls := rfl

end Prompt

/-! ## The answer -/

inductive Confirmation
  | aborted
  | confirmed
  | draining
deriving DecidableEq, Repr

/-- `while (getchar() != '\n')` -/
def drain : Bytes → Confirmation
  | [] => .draining
  | byte :: input => if byte = 10 then .confirmed else drain input

def confirm (input : Bytes) : Confirmation :=
  let read := getchar input
  if Prompt.isYes read.1 then drain read.2 else .aborted

def Confirmation.position : Confirmation → Position
  | .aborted => .aborted
  | .confirmed => .cleaning
  | .draining => .draining

theorem drain_of_lineFeed {input : Bytes} (lineFeed : 10 ∈ input) :
    drain input = .confirmed := by
  induction input with
  | nil => cases lineFeed
  | cons byte input induction =>
      rw [drain]
      split
      · rfl
      · rename_i isOther
        cases lineFeed with
        | head => contradiction
        | tail _ member => exact induction member

theorem drain_of_noLineFeed {input : Bytes} (noLineFeed : 10 ∉ input) :
    drain input = .draining := by
  induction input with
  | nil => rfl
  | cons byte input induction =>
      have isOther : byte ≠ 10 := fun same => noLineFeed (same ▸ .head _)
      rw [drain, if_neg isOther]
      exact induction fun member => noLineFeed (.tail _ member)

theorem confirm_eq (input : Bytes) :
    confirm input = if Prompt.isYes input.head? then drain input.tail else .aborted := by
  cases input <;> rfl

namespace Prompt

theorem step_draining (byte : UInt8) (input : Bytes) :
    step { position := .draining, input := byte :: input } =
      some { position := if byte = 10 then .cleaning else .draining, input := input } := by
  simp [step, getchar]

theorem afterCalls_drain (input : Bytes) :
    ∃ calls rest, afterCalls { position := .draining, input := input } calls =
      some { position := (drain input).position, input := rest } := by
  induction input with
  | nil => exact ⟨0, [], rfl⟩
  | cons byte input induction =>
      rw [drain]
      split
      · rename_i isLineFeed
        refine ⟨1, input, ?_⟩
        rw [isLineFeed]
        rfl
      · rename_i isOther
        rcases induction with ⟨calls, rest, reached⟩
        refine ⟨calls + 1, rest, ?_⟩
        rw [afterCalls_succ, step_draining, if_neg isOther]
        exact reached

theorem draining_of_drain {input : Bytes} (draining : drain input = .draining) (calls : Nat) :
    ∃ rest, afterCalls { position := .draining, input := input } calls =
      some { position := .draining, input := rest } := by
  induction calls generalizing input with
  | zero => exact ⟨input, rfl⟩
  | succ calls induction =>
      cases input with
      | nil => exact induction rfl
      | cons byte input =>
          rw [drain] at draining
          split at draining
          · contradiction
          · rename_i isOther
            rw [afterCalls_succ, step_draining, if_neg isOther]
            exact induction draining

variable {argv : List Bytes} {input : Bytes}

theorem step_start (asks : skipConfirmation argv = false) :
    (start argv input).step =
      some { position := if isYes input.head? then .draining else .aborted
             input := input.tail } := by
  rw [start, asks]
  cases input <;> rfl

theorem afterCalls_confirm (asks : skipConfirmation argv = false) (input : Bytes) :
    ∃ calls rest, (start argv input).afterCalls calls =
      some { position := (confirm input).position, input := rest } := by
  rw [confirm_eq]
  cases answer : isYes input.head? with
  | false =>
      refine ⟨1, input.tail, ?_⟩
      rw [afterCalls_succ, step_start asks, answer]
      rfl
  | true =>
      rcases afterCalls_drain input.tail with ⟨calls, rest, reached⟩
      refine ⟨calls + 1, rest, ?_⟩
      rw [afterCalls_succ, step_start asks, answer]
      exact reached

theorem ends_of_confirm (asks : skipConfirmation argv = false)
    (answered : confirm input ≠ .draining) : Ends argv input := by
  rcases afterCalls_confirm asks input with ⟨calls, rest, reached⟩
  refine ⟨calls, _, reached, ?_⟩
  rw [confirm_eq] at answered ⊢
  cases answer : isYes input.head? with
  | false =>
      have elsewhere : Position.aborted ≠ .cleaning := by decide
      exact ⟨rfl, iff_of_false elsewhere Bool.false_ne_true⟩
  | true =>
      rw [answer, if_pos rfl] at answered
      by_cases lineFeed : 10 ∈ input.tail
      · rw [if_pos rfl, drain_of_lineFeed lineFeed]
        exact ⟨rfl, iff_of_true rfl rfl⟩
      · exact absurd (drain_of_noLineFeed lineFeed) answered

theorem not_ends_of_draining (asks : skipConfirmation argv = false)
    (draining : confirm input = .draining) : ¬ Ends argv input := by
  have yes : isYes input.head? = true := by
    by_contra no
    rw [confirm_eq, if_neg no] at draining
    contradiction
  rw [confirm_eq, if_pos yes] at draining
  intro ends
  rcases ends with ⟨calls, final, reached, stopped, _⟩
  cases calls with
  | zero =>
      cases reached
      rw [step_start asks] at stopped
      contradiction
  | succ calls =>
      rw [afterCalls_succ, step_start asks, yes] at reached
      rcases draining_of_drain draining calls with ⟨rest, still⟩
      simp only [Option.bind_some, if_true] at reached
      rw [still] at reached
      cases reached
      contradiction

theorem confirm_ne_draining_iff :
    confirm input ≠ .draining ↔ (isYes input.head? = true → 10 ∈ input.tail) := by
  rw [confirm_eq]
  cases answer : isYes input.head? with
  | false =>
      have aborted : Confirmation.aborted ≠ .draining := by decide
      exact iff_of_true aborted fun yes => absurd yes Bool.false_ne_true
  | true =>
      rw [if_pos rfl, forall_prop_of_true rfl]
      by_cases lineFeed : 10 ∈ input.tail
      · rw [drain_of_lineFeed lineFeed]
        exact iff_of_true (by decide) lineFeed
      · rw [drain_of_noLineFeed lineFeed]
        exact iff_of_false (not_not.mpr rfl) lineFeed

/-- The prompt ends if and only if the answer is not yes, or a line feed follows it. -/
theorem ends_iff (asks : skipConfirmation argv = false) (input : Bytes) :
    Ends argv input ↔ (isYes input.head? = true → 10 ∈ input.tail) := by
  rw [← confirm_ne_draining_iff]
  constructor
  · exact fun ends draining => not_ends_of_draining asks draining ends
  · exact ends_of_confirm asks

theorem ends_iff_yes : Ends [] (ascii "yes\n") :=
  (ends_iff rfl (ascii "yes\n")).mpr fun _ => by decide

/-- A yes at the end of the input. -/
theorem not_ends_yes : skipConfirmation [] = false ∧ ¬ Ends [] (ascii "y") :=
  ⟨rfl, not_ends_of_draining rfl rfl⟩

end Prompt

end Pidnl.Cli
