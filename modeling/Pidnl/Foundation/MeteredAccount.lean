import Mathlib.Algebra.Order.Monoid.Canonical.Defs
import Mathlib.Algebra.Order.BigOperators.Group.List
import Mathlib.Algebra.BigOperators.Group.List.Basic

/-! # Metered accounts

An account holds a balance that never exceeds a cap. Each entry of its history
waits for some duration, is credited, forgets what exceeds the cap, and is then
debited at most what remains. Credits are metered: an allowance says how much a
duration may earn. The results bound what any stretch of a history can spend.
-/

namespace Pidnl.Foundation

structure Entry (Duration : Type u) (Amount : Type v) where
  elapsed : Duration
  credit : Amount
  debit : Amount

namespace Entry

def totalElapsed [AddMonoid Duration] (entries : List (Entry Duration Amount)) :
    Duration :=
  (entries.map Entry.elapsed).sum

def totalCredit [AddMonoid Amount] (entries : List (Entry Duration Amount)) :
    Amount :=
  (entries.map Entry.credit).sum

def totalDebit [AddMonoid Amount] (entries : List (Entry Duration Amount)) :
    Amount :=
  (entries.map Entry.debit).sum

@[simp] theorem totalElapsed_nil [AddMonoid Duration] :
    totalElapsed ([] : List (Entry Duration Amount)) = 0 := rfl

@[simp] theorem totalElapsed_cons [AddMonoid Duration]
    (entry : Entry Duration Amount) (entries : List (Entry Duration Amount)) :
    totalElapsed (entry :: entries) = entry.elapsed + totalElapsed entries := by
  simp [totalElapsed]

@[simp] theorem totalCredit_nil [AddMonoid Amount] :
    totalCredit ([] : List (Entry Duration Amount)) = 0 := rfl

@[simp] theorem totalCredit_cons [AddMonoid Amount]
    (entry : Entry Duration Amount) (entries : List (Entry Duration Amount)) :
    totalCredit (entry :: entries) = entry.credit + totalCredit entries := by
  simp [totalCredit]

@[simp] theorem totalDebit_nil [AddMonoid Amount] :
    totalDebit ([] : List (Entry Duration Amount)) = 0 := rfl

@[simp] theorem totalDebit_cons [AddMonoid Amount]
    (entry : Entry Duration Amount) (entries : List (Entry Duration Amount)) :
    totalDebit (entry :: entries) = entry.debit + totalDebit entries := by
  simp [totalDebit]

end Entry

section Metering

variable [AddCommMonoid Duration] [AddCommMonoid Amount] [PartialOrder Amount]
  [IsOrderedAddMonoid Amount] [CanonicallyOrderedAdd Amount]

/-- Two waits taken one after the other never earn more than one wait of
their joint length. Rates rounded down have this property. -/
def Superadditive (allowance : Duration → Amount) : Prop :=
  ∀ first second, allowance first + allowance second ≤ allowance (first + second)

theorem totalCredit_le_allowance {allowance : Duration → Amount}
    (superadditive : Superadditive allowance)
    (entries : List (Entry Duration Amount))
    (metered : ∀ entry ∈ entries, entry.credit ≤ allowance entry.elapsed) :
    Entry.totalCredit entries ≤ allowance (Entry.totalElapsed entries) := by
  induction entries with
  | nil => simp
  | cons entry entries induction =>
      have first : entry.credit ≤ allowance entry.elapsed :=
        metered entry (by simp)
      have rest : Entry.totalCredit entries ≤
          allowance (Entry.totalElapsed entries) :=
        induction fun item member => metered item (by simp [member])
      simp only [Entry.totalCredit_cons, Entry.totalElapsed_cons]
      exact (add_le_add first rest).trans (superadditive _ _)

end Metering

section History

variable [AddCommMonoid Amount] [LinearOrder Amount]

/-- Balances along a history: `History cap first entries last`. -/
inductive History (cap : Amount) :
    Amount → List (Entry Duration Amount) → Amount → Prop
  | nil (balance) : History cap balance [] balance
  | cons {balance middle final entry entries} :
      middle + entry.debit = min cap (balance + entry.credit) →
      History cap middle entries final →
      History cap balance (entry :: entries) final

variable [IsOrderedAddMonoid Amount]

/-- Nothing is spent that was not held or credited. -/
theorem History.final_add_totalDebit_le {cap balance final : Amount}
    {entries : List (Entry Duration Amount)}
    (history : History cap balance entries final) :
    final + Entry.totalDebit entries ≤ balance + Entry.totalCredit entries := by
  induction history with
  | nil balance => simp
  | @cons balance middle final entry entries step _ induction =>
      simp only [Entry.totalDebit_cons, Entry.totalCredit_cons]
      calc final + (entry.debit + Entry.totalDebit entries)
          = (final + Entry.totalDebit entries) + entry.debit := by
            rw [add_comm entry.debit, add_assoc]
        _ ≤ (middle + Entry.totalCredit entries) + entry.debit :=
            add_le_add_left induction _
        _ = (middle + entry.debit) + Entry.totalCredit entries :=
            add_right_comm _ _ _
        _ = min cap (balance + entry.credit) + Entry.totalCredit entries := by
            rw [step]
        _ ≤ (balance + entry.credit) + Entry.totalCredit entries :=
            add_le_add_left (min_le_right _ _) _
        _ = balance + (entry.credit + Entry.totalCredit entries) := add_assoc _ _ _

/-- Whatever was held before, a stretch spends at most the cap plus what is
credited after its first entry. -/
theorem History.totalDebit_le_cap_add_totalCredit [CanonicallyOrderedAdd Amount]
    {cap balance final : Amount} {entry : Entry Duration Amount}
    {entries : List (Entry Duration Amount)}
    (history : History cap balance (entry :: entries) final) :
    Entry.totalDebit (entry :: entries) ≤ cap + Entry.totalCredit entries := by
  cases history with
  | @cons _ middle _ _ _ step rest =>
      have spent := rest.final_add_totalDebit_le
      have capped : middle + entry.debit ≤ cap := step ▸ min_le_left _ _
      rw [Entry.totalDebit_cons]
      calc entry.debit + Entry.totalDebit entries
          ≤ entry.debit + (final + Entry.totalDebit entries) :=
            add_le_add_right le_add_self _
        _ ≤ entry.debit + (middle + Entry.totalCredit entries) :=
            add_le_add_right spent _
        _ = (middle + entry.debit) + Entry.totalCredit entries := by
            rw [← add_assoc, add_comm entry.debit]
        _ ≤ cap + Entry.totalCredit entries := add_le_add_left capped _

end History

end Pidnl.Foundation
