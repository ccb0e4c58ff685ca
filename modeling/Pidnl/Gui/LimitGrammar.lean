import Pidnl.Gui.LimitEntries
import Pidnl.Foundation.Numeral

/-! # The texts that stand for limits

Which texts `parse_limit_value` takes for no limit, which for a number, and that what
`set_entry_to_value` shows is taken for what it shows.
-/

namespace Pidnl.Gui

open Pidnl.Foundation Pidnl.Ratelimit

def IsUnlimitedText (text : Bytes) : Prop :=
  text = [] ∨ text = ascii "-" ∨ text = ascii "-1"

def Denotes (text : Bytes) (number : Nat) : Prop :=
  Decimal.IsNumeral false number text ∨ number = 0 ∧ Decimal.IsNumeral true 0 text

/-- A text is taken for no limit, for a number up to the largest limit, or refused. -/
structure TakenFor (toolkit : Toolkit) (text : Bytes) : Prop where
  unlimited : parseLimitValue toolkit text = some RATELIMIT_UNLIMITED ↔
    IsUnlimitedText text
  numbers : ∀ number, Denotes text number →
    parseLimitValue toolkit text = some (.ofNat (min number (2 ^ 32 - 2)))
  others : ¬ IsUnlimitedText text → (∀ number, ¬ Denotes text number) →
    parseLimitValue toolkit text = none

variable {text : Bytes} {number : Nat}

theorem not_denotes_unlimited (unlimited : IsUnlimitedText text) (number : Nat) :
    ¬ Denotes text number := by
  have minusOne : Decimal.IsNumeral true 1 (ascii "-1") :=
    Decimal.isNumeral_iff.mpr ⟨ascii "1", rfl,
      ⟨by decide, List.all_eq_true.mp (by decide)⟩, rfl⟩
  intro denotes
  have isNumeral : ∃ negative, Decimal.IsNumeral negative number text ∧
      (negative = true → number = 0) := by
    rcases denotes with plus | ⟨rfl, minus⟩
    · exact ⟨false, plus, Bool.noConfusion⟩
    · exact ⟨true, minus, fun _ => rfl⟩
  rcases isNumeral with ⟨negative, isNumeral, zero⟩
  rcases unlimited with rfl | rfl | rfl
  · exact Decimal.not_isNumeral_nil _ _ isNumeral
  · rcases Decimal.isNumeral_iff.mp isNumeral with ⟨digits, split, all, _⟩
    cases split
    exact all.nonempty rfl
  · rcases isNumeral.unique minusOne with ⟨rfl, rfl⟩
    exact absurd (zero rfl) Nat.one_ne_zero

theorem largest_ne_unlimited {number : Nat} (small : number ≤ 2 ^ 32 - 2) :
    UInt32.ofNat number ≠ RATELIMIT_UNLIMITED := by
  intro same
  have values := congrArg UInt32.toNat same
  have most : RATELIMIT_UNLIMITED.toNat = 2 ^ 32 - 1 := rfl
  rw [UInt32.toNat_ofNat_of_lt' (by rw [UInt32.size]; omega), most] at values
  omega

section Parsing

variable {toolkit : Toolkit}

theorem parseLimitValue_of_unlimited (unlimited : IsUnlimitedText text) :
    parseLimitValue toolkit text = some RATELIMIT_UNLIMITED := if_pos unlimited

theorem parseLimitValue_of_limited (limited : ¬ IsUnlimitedText text) :
    parseLimitValue toolkit text =
      let scanned := toolkit.glib.asciiStrtoll text
      if scanned.noDigits ∨ scanned.rest ≠ [] ∨ scanned.value < 0 then none
      else if (RATELIMIT_UNLIMITED.toNat : Int) ≤ scanned.value then
        some (RATELIMIT_UNLIMITED - 1)
      else some (.ofNat scanned.value.toNat) := if_neg limited

variable (strtoll : toolkit.glib.asciiStrtoll = Decimal.strtol)

include strtoll

theorem parseLimitValue_of_denotes (denotes : Denotes text number) :
    parseLimitValue toolkit text = some (.ofNat (min number (2 ^ 32 - 2))) := by
  have limited : ¬ IsUnlimitedText text :=
    fun unlimited => not_denotes_unlimited unlimited number denotes
  -- What is scanned is the number, cut off at the largest 64-bit integer.
  have scanned : Decimal.strtol text = { (Decimal.strtol text) with
      value := min (2 ^ 63 - 1) number, rest := [], noDigits := false } := by
    rcases denotes with plus | ⟨rfl, minus⟩
    · have scan := Decimal.scan_of_isNumeral (-2 ^ 63) (2 ^ 63 - 1) plus
      simp only [Bool.false_eq_true, if_false] at scan
      rw [Decimal.strtol, scan, max_eq_right (by omega)]
    · have scan := Decimal.scan_of_isNumeral (-2 ^ 63) (2 ^ 63 - 1) minus
      rw [Decimal.strtol, scan]
      rfl
  have most : (RATELIMIT_UNLIMITED.toNat : Int) = 2 ^ 32 - 1 := rfl
  rw [parseLimitValue_of_limited limited, strtoll, scanned]
  simp only [Bool.false_eq_true, ne_eq, not_true, false_or, most]
  rw [if_neg (by omega)]
  by_cases large : 2 ^ 32 - 1 ≤ number
  · rw [if_pos (by omega), Nat.min_eq_right (by omega)]
    rfl
  · rw [if_neg (by omega), Nat.min_eq_left (by omega), min_eq_right (by omega),
      Int.toNat_natCast]

theorem parseLimitValue_of_not_denotes (limited : ¬ IsUnlimitedText text)
    (noNumber : ∀ number, ¬ Denotes text number) :
    parseLimitValue toolkit text = none := by
  simp only [parseLimitValue_of_limited limited, strtoll]
  rw [if_pos]
  apply Classical.byContradiction
  intro accepted
  rw [not_or, not_or, Bool.not_eq_true, not_not] at accepted
  rcases accepted with ⟨digits, ended, notNegative⟩
  rcases Decimal.isNumeral_of_scan digits ended with ⟨negative, magnitude, isNumeral⟩
  cases negative with
  | false => exact noNumber magnitude (.inl isNumeral)
  | true =>
      have scan := Decimal.scan_of_isNumeral (-2 ^ 63) (2 ^ 63 - 1) isNumeral
      rw [Decimal.strtol, scan] at notNegative
      simp only [if_true] at notNegative
      have zero : magnitude = 0 := by omega
      exact noNumber 0 (.inr ⟨rfl, zero ▸ isNumeral⟩)

theorem takenFor (text : Bytes) : TakenFor toolkit text where
  unlimited := by
    constructor
    · intro taken
      apply Classical.byContradiction
      intro limited
      by_cases number : ∃ number, Denotes text number
      · rcases number with ⟨number, denotes⟩
        rw [parseLimitValue_of_denotes strtoll denotes] at taken
        exact largest_ne_unlimited (Nat.min_le_right _ _) (Option.some.inj taken)
      · rw [parseLimitValue_of_not_denotes strtoll limited (not_exists.mp number)]
          at taken
        contradiction
    · exact parseLimitValue_of_unlimited
  numbers := fun _ => parseLimitValue_of_denotes strtoll
  others := parseLimitValue_of_not_denotes strtoll

/-- Every text is taken for what it says, and what is shown for a limit is taken for
that limit. -/
theorem parseLimitValue_exact :
    (∀ text, TakenFor toolkit text) ∧
      ∀ value, parseLimitValue toolkit (limitText value) = some value :=
  ⟨takenFor strtoll, parseLimitValue_of_shown strtoll⟩

end Parsing

theorem parseLimitValue_exact_detecting :
    let toolkit := { glib := detecting, strsplit := splitting, strstrip := id : Toolkit }
    parseLimitValue toolkit (ascii " +5000000000") = some 4294967294 := by
  intro toolkit
  have exact := (parseLimitValue_exact rfl : (∀ text, TakenFor toolkit text) ∧ _)
  exact (exact.1 _).numbers 5000000000 (.inl (Decimal.isNumeral_iff.mpr
    ⟨ascii "5000000000", rfl,
      ⟨by decide, List.all_eq_true.mp (by decide)⟩, rfl⟩))

end Pidnl.Gui
