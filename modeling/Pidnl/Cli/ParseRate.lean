import Pidnl.Foundation.Numeral
import Pidnl.Ratelimit.Functions

/-! # Rates on the command line

`parse_rate` of `cli/main.c`. A rate is `-1` or a number below the value that stands
for no limit; `strtoul` lets more pass than that.
-/

namespace Pidnl.Cli

open Pidnl.Foundation
open Pidnl.Ratelimit (RATELIMIT_UNLIMITED)

def invalidRate (arg : Bytes) : Bytes :=
  ascii "pidnl: invalid rate: " ++ arg ++ ascii "\n"

def parseRate (arg : Bytes) : Except Bytes UInt32 :=
  if arg = ascii "-1" then .ok RATELIMIT_UNLIMITED
  else
    let scanned := Decimal.strtoul arg
    if scanned.outOfRange ∨ scanned.rest ≠ [] ∨ 2 ^ 32 - 1 < scanned.value then
      .error (invalidRate arg)
    else .ok (.ofNat scanned.value.toNat)

/-- A number without a minus sign that is below the value for no limit. -/
def IsRate (kbps : Nat) (arg : Bytes) : Prop :=
  kbps ≤ 2 ^ 32 - 2 ∧ Decimal.IsNumeral false kbps arg

/-- `-1` and nothing else is read as no limit, rates are read as they are, and all the
rest is rejected. -/
structure ReadExactly (arg : Bytes) : Prop where
  unlimited : parseRate arg = .ok RATELIMIT_UNLIMITED ↔ arg = ascii "-1"
  rates : ∀ kbps, IsRate kbps arg → parseRate arg = .ok (.ofNat kbps)
  others : arg ≠ ascii "-1" → (∀ kbps, ¬ IsRate kbps arg) →
    parseRate arg = .error (invalidRate arg)

/-- Nothing at all, the value for no limit, and numbers that a minus sign takes to one
of 32 bits. -/
inductive Misread : Bytes → Prop
  | nothing : Misread []
  | sentinel {arg : Bytes} : Decimal.IsNumeral false (2 ^ 32 - 1) arg → Misread arg
  | negatedZero {arg : Bytes} : Decimal.IsNumeral true 0 arg → Misread arg
  | negated {arg : Bytes} {magnitude : Nat} : 2 ^ 64 - 2 ^ 32 < magnitude →
      magnitude < 2 ^ 64 → Decimal.IsNumeral true magnitude arg → Misread arg

/-! ## What is read -/

section Reading

variable {arg : Bytes} {negative : Bool} {magnitude : Nat}

theorem isNumeral_unlimited : Decimal.IsNumeral true 1 (ascii "-1") := by
  refine Decimal.isNumeral_iff.mpr ⟨ascii "1", rfl,
    ⟨by decide, List.all_eq_true.mp (by decide)⟩, rfl⟩

theorem parseRate_of_isNumeral (isNumeral : Decimal.IsNumeral negative magnitude arg)
    (other : arg ≠ ascii "-1") :
    parseRate arg =
      if 2 ^ 64 ≤ magnitude ∨ 2 ^ 32 - 1 < Decimal.wrapped negative magnitude then
        .error (invalidRate arg)
      else .ok (.ofNat (Decimal.wrapped negative magnitude)) := by
  rw [parseRate, if_neg other, Decimal.strtoul_of_isNumeral isNumeral]
  by_cases large : 2 ^ 64 ≤ magnitude
  · rw [if_pos large, if_pos (.inl rfl), if_pos (.inl large)]
  · rw [if_neg large]
    by_cases wide : 2 ^ 32 - 1 < Decimal.wrapped negative magnitude
    · have wideInt : (2 ^ 32 - 1 : Int) < Decimal.wrapped negative magnitude := by omega
      rw [if_pos (.inr (.inr wideInt)), if_pos (.inr wide)]
    · have narrow : ¬ (false = true ∨ ([] : Bytes) ≠ [] ∨
          (2 ^ 32 - 1 : Int) < Decimal.wrapped negative magnitude) := by
        simp only [Bool.false_eq_true, ne_eq, not_true, false_or]
        omega
      have narrowNat : ¬ (2 ^ 64 ≤ magnitude ∨
          2 ^ 32 - 1 < Decimal.wrapped negative magnitude) := not_or.mpr ⟨large, wide⟩
      rw [if_neg narrow, if_neg narrowNat]
      rfl

theorem parseRate_of_not_isNumeral (nonempty : arg ≠ [])
    (noNumeral : ∀ negative magnitude, ¬ Decimal.IsNumeral negative magnitude arg) :
    parseRate arg = .error (invalidRate arg) := by
  have other : arg ≠ ascii "-1" := by
    intro same
    exact noNumeral true 1 (same ▸ isNumeral_unlimited)
  rw [parseRate, if_neg other,
    if_pos (.inr (.inl (Decimal.strtoul_rest_ne_nil nonempty noNumeral)))]

end Reading

/-! ## When it is what was meant -/

section Exactly

variable {arg : Bytes} {magnitude : Nat}

theorem not_readExactly_of_isNumeral {negative : Bool} {value : UInt32}
    (isNumeral : Decimal.IsNumeral negative magnitude arg) (other : arg ≠ ascii "-1")
    (noRate : negative = false → 2 ^ 32 - 2 < magnitude)
    (read : parseRate arg = .ok value) : ¬ ReadExactly arg := by
  intro exactly
  have rejected := exactly.others other <| by
    intro kbps isRate
    rcases isNumeral.unique isRate.2 with ⟨rfl, rfl⟩
    exact absurd isRate.1 (Nat.not_le.mpr (noRate rfl))
  rw [read] at rejected
  contradiction

theorem not_readExactly_of_misread (misread : Misread arg) : ¬ ReadExactly arg := by
  cases misread with
  | nothing =>
      intro exactly
      have rejected := exactly.others (by decide) <| by
        intro kbps isRate
        exact Decimal.not_isNumeral_nil _ _ isRate.2
      cases rejected
  | sentinel isNumeral =>
      have other : arg ≠ ascii "-1" := by
        intro same
        have unique := isNumeral.unique (same ▸ isNumeral_unlimited)
        exact absurd unique.1 (by decide)
      apply not_readExactly_of_isNumeral isNumeral other
      · intro _
        omega
      · exact parseRate_of_isNumeral isNumeral other
  | negatedZero isNumeral =>
      have other : arg ≠ ascii "-1" := by
        intro same
        have unique := isNumeral.unique (same ▸ isNumeral_unlimited)
        exact absurd unique.2 (by decide)
      apply not_readExactly_of_isNumeral isNumeral other
      · intro plus
        contradiction
      · exact parseRate_of_isNumeral isNumeral other
  | @negated _ magnitude above below isNumeral =>
      have other : arg ≠ ascii "-1" := by
        intro same
        have unique := isNumeral.unique (same ▸ isNumeral_unlimited)
        omega
      have value : Decimal.wrapped true magnitude = 2 ^ 64 - magnitude :=
        Nat.mod_eq_of_lt (by omega)
      apply not_readExactly_of_isNumeral isNumeral other
      · intro plus
        contradiction
      · rw [parseRate_of_isNumeral isNumeral other, value, if_neg (by omega)]

theorem readExactly_unlimited : ReadExactly (ascii "-1") where
  unlimited := by
    constructor
    · exact fun _ => rfl
    · exact fun _ => rfl
  rates := by
    intro kbps isRate
    have unique := isRate.2.unique isNumeral_unlimited
    exact absurd unique.1 (by decide)
  others := fun other => absurd rfl other

theorem readExactly_of_error (other : arg ≠ ascii "-1")
    (noRate : ∀ kbps, ¬ IsRate kbps arg)
    (rejected : parseRate arg = .error (invalidRate arg)) : ReadExactly arg where
  unlimited := by
    rw [rejected]
    constructor
    · intro read
      contradiction
    · exact fun same => absurd same other
  rates := fun kbps isRate => absurd isRate (noRate kbps)
  others := fun _ _ => rejected

theorem readExactly_of_isRate (isRate : IsRate magnitude arg) : ReadExactly arg := by
  have other : arg ≠ ascii "-1" := by
    intro same
    have unique := isRate.2.unique (same ▸ isNumeral_unlimited)
    exact absurd unique.1 (by decide)
  have small := isRate.1
  have value : Decimal.wrapped false magnitude = magnitude := rfl
  have read : parseRate arg = .ok (.ofNat magnitude) := by
    rw [parseRate_of_isNumeral isRate.2 other, value, if_neg (by omega)]
  constructor
  · rw [read]
    constructor
    · intro same
      have values := congrArg UInt32.toNat (Except.ok.inj same)
      have most : RATELIMIT_UNLIMITED.toNat = 2 ^ 32 - 1 := rfl
      rw [UInt32.toNat_ofNat_of_lt' (by rw [UInt32.size]; omega), most] at values
      omega
    · exact fun same => absurd same other
  · intro kbps again
    rw [read, (isRate.2.unique again.2).2]
  · exact fun _ none => absurd isRate (none magnitude)

/-- An argument is read exactly unless it is empty, the value for no limit, or a number
that its minus sign takes to one of 32 bits. -/
theorem readExactly_iff (arg : Bytes) : ReadExactly arg ↔ ¬ Misread arg := by
  constructor
  · exact fun exactly misread => not_readExactly_of_misread misread exactly
  intro notMisread
  by_cases isUnlimited : arg = ascii "-1"
  · rw [isUnlimited]
    exact readExactly_unlimited
  by_cases rate : ∃ kbps, IsRate kbps arg
  · rcases rate with ⟨kbps, isRate⟩
    exact readExactly_of_isRate isRate
  have noRate : ∀ kbps, ¬ IsRate kbps arg := not_exists.mp rate
  apply readExactly_of_error isUnlimited noRate
  by_cases numeral : ∃ negative magnitude, Decimal.IsNumeral negative magnitude arg
  swap
  · apply parseRate_of_not_isNumeral
    · rintro rfl
      exact notMisread .nothing
    · exact fun negative magnitude isNumeral => numeral ⟨negative, magnitude, isNumeral⟩
  rcases numeral with ⟨negative, magnitude, isNumeral⟩
  rw [parseRate_of_isNumeral isNumeral isUnlimited, if_pos]
  by_cases large : 2 ^ 64 ≤ magnitude
  · exact .inl large
  right
  cases negative with
  | false =>
      have value : Decimal.wrapped false magnitude = magnitude := rfl
      have notSentinel : magnitude ≠ 2 ^ 32 - 1 := by
        intro same
        exact notMisread (.sentinel (same ▸ isNumeral))
      have notRate : ¬ magnitude ≤ 2 ^ 32 - 2 :=
        fun small => noRate magnitude ⟨small, isNumeral⟩
      rw [value]
      omega
  | true =>
      have nonzero : magnitude ≠ 0 := by
        intro same
        exact notMisread (.negatedZero (same ▸ isNumeral))
      have low : ¬ 2 ^ 64 - 2 ^ 32 < magnitude :=
        fun above => notMisread (.negated above (Nat.not_le.mp large) isNumeral)
      have value : Decimal.wrapped true magnitude = 2 ^ 64 - magnitude :=
        Nat.mod_eq_of_lt (by omega)
      rw [value]
      omega

/-- The empty argument is read as the rate 0. -/
theorem not_readExactly_empty :
    parseRate [] = .ok 0 ∧ ¬ ReadExactly [] :=
  ⟨rfl, not_readExactly_of_misread .nothing⟩

end Exactly

end Pidnl.Cli
