import Mathlib.Order.Defs.LinearOrder
import Mathlib.Algebra.Order.Ring.Nat
import Mathlib.Tactic.Ring

/-! # Token buckets

A bucket earns tokens as time passes, up to a capacity. What is offered is admitted
if the bucket holds as many tokens, and takes them out.
-/

namespace Pidnl.Foundation

structure TokenBucket (Time : Type u) (Amount : Type v) where
  tokens : Amount
  last : Time
deriving DecidableEq, Repr

/-- How much a bucket holds at most, and what it earns from one time to another. -/
structure TokenMeter (Time : Type u) (Amount : Type v) where
  capacity : Amount
  earned : Time → Time → Amount

namespace TokenBucket

variable {Time : Type u} {Amount : Type v} [LinearOrder Amount] [Add Amount]
  [Sub Amount]

def filled (meter : TokenMeter Time Amount) (now : Time)
    (bucket : TokenBucket Time Amount) : Amount :=
  min meter.capacity (bucket.tokens + meter.earned bucket.last now)

def offer (meter : TokenMeter Time Amount) (bucket : TokenBucket Time Amount)
    (now : Time) (size : Amount) : Bool × TokenBucket Time Amount :=
  let tokens := bucket.filled meter now
  if size ≤ tokens then (true, { tokens := tokens - size, last := now })
  else (false, { tokens := tokens, last := now })

def after (meter : TokenMeter Time Amount) (bucket : TokenBucket Time Amount)
    (offered : List (Time × Amount)) : TokenBucket Time Amount :=
  offered.foldl (fun bucket item => (bucket.offer meter item.1 item.2).2) bucket

theorem after_concat (meter : TokenMeter Time Amount)
    (bucket : TokenBucket Time Amount) (offered : List (Time × Amount))
    (item : Time × Amount) :
    bucket.after meter (offered ++ [item]) =
      ((bucket.after meter offered).offer meter item.1 item.2).2 := by
  simp [after]

/-! ## Offers of one size -/

def admitted (meter : TokenMeter Time Amount) (size : Amount) :
    TokenBucket Time Amount → List Time → Nat
  | _, [] => 0
  | bucket, now :: times =>
      let offered := bucket.offer meter now size
      (if offered.1 then 1 else 0) + admitted meter size offered.2 times

section Admitted

variable {meter : TokenMeter Time Amount} {size : Amount}
  {bucket : TokenBucket Time Amount} {now : Time} (times : List Time)

theorem admitted_cons_of_le (enough : size ≤ bucket.filled meter now) :
    bucket.admitted meter size (now :: times) =
      1 + admitted meter size ⟨bucket.filled meter now - size, now⟩ times := by
  simp [admitted, offer, enough]

theorem admitted_cons_of_not_le (short : ¬ size ≤ bucket.filled meter now) :
    bucket.admitted meter size (now :: times) =
      admitted meter size ⟨bucket.filled meter now, now⟩ times := by
  simp [admitted, offer, short]

end Admitted

end TokenBucket

structure TokenMeter.AtMost {Time : Type u} (meter other : TokenMeter Time Nat) : Prop where
  capacity : meter.capacity ≤ other.capacity
  earned : ∀ last now, meter.earned last now ≤ other.earned last now

namespace TokenBucket

variable {Time : Type u} {lower higher : TokenMeter Time Nat}

theorem filled_le (atMost : lower.AtMost higher) {first second : TokenBucket Time Nat}
    (together : first.last = second.last) {ahead : Nat}
    (behind : first.tokens ≤ second.tokens + ahead) (now : Time) :
    first.filled lower now ≤ second.filled higher now + ahead := by
  have capacity := atMost.capacity
  have earned := atMost.earned first.last now
  rw [filled, filled, ← together]
  omega

/-- The bucket that earns more admits no fewer offers. What it has admitted before the
other makes up for the tokens it may have fewer. -/
theorem admitted_le (atMost : lower.AtMost higher) (size : Nat) (times : List Time)
    {first second : TokenBucket Time Nat} (together : first.last = second.last)
    {lead : Nat} (behind : first.tokens ≤ second.tokens + lead * size) :
    first.admitted lower size times ≤ lead + second.admitted higher size times := by
  induction times generalizing first second lead with
  | nil => exact Nat.zero_le _
  | cons now times induction =>
      have filled := filled_le atMost together behind now
      have next : ∀ {low high lead : Nat}, low ≤ high + lead * size →
          admitted lower size ⟨low, now⟩ times ≤
            lead + admitted higher size ⟨high, now⟩ times := by
        intro low high lead behind
        apply induction
        · rfl
        · exact behind
      by_cases enough : size ≤ first.filled lower now
      · rw [admitted_cons_of_le times enough]
        by_cases alsoEnough : size ≤ second.filled higher now
        · have taken : first.filled lower now - size ≤
              second.filled higher now - size + lead * size := by omega
          have rest := next taken
          rw [admitted_cons_of_le times alsoEnough]
          omega
        · -- The higher bucket has admitted one more before.
          cases lead with
          | zero => omega
          | succ lead =>
              rw [Nat.succ_mul] at filled
              have taken : first.filled lower now - size ≤
                  second.filled higher now + lead * size := by omega
              have rest := next taken
              rw [admitted_cons_of_not_le times alsoEnough]
              omega
      · rw [admitted_cons_of_not_le times enough]
        by_cases alsoEnough : size ≤ second.filled higher now
        · have taken : first.filled lower now ≤
              second.filled higher now - size + (lead + 1) * size := by
            rw [Nat.succ_mul]
            omega
          have rest := next taken
          rw [admitted_cons_of_le times alsoEnough]
          omega
        · rw [admitted_cons_of_not_le times alsoEnough]
          exact next filled

def Earns (meter : TokenMeter Time Nat) (gain : Nat) (last : Time) (times : List Time) : Prop :=
  (last :: times).IsChain fun earlier later => gain ≤ meter.earned earlier later

/-- An offer that fits the bucket is admitted once enough has been earned over its tries:
a try that is refused takes nothing out. -/
theorem exists_admitted {meter : TokenMeter Time Nat} {size gain : Nat}
    (fits : size ≤ meter.capacity) {times : List Time} {bucket : TokenBucket Time Nat}
    (nonempty : times ≠ []) (earns : Earns meter gain bucket.last times)
    (enough : size ≤ bucket.tokens + times.length * gain) :
    0 < bucket.admitted meter size times := by
  induction times generalizing bucket with
  | nil => contradiction
  | cons now times induction =>
      rcases List.isChain_cons_cons.mp earns with ⟨earned, later⟩
      have filled : bucket.filled meter now =
          min meter.capacity (bucket.tokens + meter.earned bucket.last now) := rfl
      by_cases admits : size ≤ bucket.filled meter now
      · rw [admitted_cons_of_le times admits]
        omega
      · rw [admitted_cons_of_not_le times admits]
        rw [List.length_cons, Nat.succ_mul] at enough
        apply induction
        · intro none
          rw [none, List.length_nil] at enough
          omega
        · exact later
        · show size ≤ bucket.filled meter now + times.length * gain
          omega

end TokenBucket

end Pidnl.Foundation
