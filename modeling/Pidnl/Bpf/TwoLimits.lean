import Pidnl.Bpf.Bucket

/-! # Two limits on one flow

Packets of one size, policed with a limit and with a higher one. The higher limit may
admit a packet earlier and then hold fewer tokens; it never admits fewer packets.
-/

namespace Pidnl.Bpf

open Pidnl.Foundation

def uniform (size : UInt32) (readings : List UInt64) : List Packet :=
  readings.map fun now => { now := now, size := size }

def admittedPackets (handled : List Handled) : Nat :=
  handled.countP fun item => item.verdict = .allow

theorem refill_mono {lower higher : Nat} (raised : lower ≤ higher) (elapsedNs : Nat) :
    refill lower elapsedNs ≤ refill higher elapsedNs :=
  Nat.div_le_div_right (Nat.mul_le_mul_right _ raised)

theorem bytesPerSecond_mono {lower higher : UInt32} (raised : lower ≤ higher) :
    bytesPerSecond lower ≤ bytesPerSecond higher :=
  Nat.div_le_div_right (Nat.mul_le_mul_right _ (UInt32.le_iff_toNat_le.mp raised))

theorem bucketMeter_atMost {lower higher : UInt32} (raised : lower ≤ higher) :
    (bucketMeter lower).AtMost (bucketMeter higher) where
  capacity := Nat.mul_le_mul_left 2 (bytesPerSecond_mono raised)
  earned := fun _ _ => refill_mono (bytesPerSecond_mono raised) _

theorem admittedPackets_police {limitKbps size : UInt32} {state : RateLimitState}
    {bucket : TokenBucket UInt64 Nat} (isBucket : IsBucket limitKbps state bucket)
    (readings : List UInt64) :
    admittedPackets (police (limitBps limitKbps) state (uniform size readings)) =
      bucket.admitted (bucketMeter limitKbps) size.toNat readings := by
  induction readings generalizing state bucket with
  | nil => rfl
  | cons now readings induction =>
      have step := lockedSection_of_isBucket isBucket { now := now, size := size }
      simp only at step
      have rest := induction step.2
      simp only [uniform, List.map_cons, police, admittedPackets, List.countP_cons,
        TokenBucket.admitted] at rest ⊢
      rw [rest, step.1, Nat.add_comm]
      cases (bucket.offer (bucketMeter limitKbps) now size.toNat).1 <;> rfl

/-- Raising a limit never admits fewer packets of one size, however far the run has
come. -/
theorem admittedPackets_mono {lower higher : UInt32} (raised : lower ≤ higher)
    (direction : Direction) {rateState : RateState}
    (zeroed : rateState.lookupElem direction.key = some .zero) (size : UInt32)
    (readings : List UInt64) (count : Nat) :
    admittedPackets
        ((applyAll direction lower rateState (uniform size readings)).take count) ≤
      admittedPackets
        ((applyAll direction higher rateState (uniform size readings)).take count) := by
  have cut : (uniform size readings).take count = uniform size (readings.take count) :=
    List.map_take.symm
  rw [applyAll_eq_police direction lower _ _ _ zeroed,
    applyAll_eq_police direction higher _ _ _ zeroed, police_take, police_take, cut,
    admittedPackets_police (isBucket_zero lower),
    admittedPackets_police (isBucket_zero higher)]
  have compared : emptyBucket.admitted (bucketMeter lower) size.toNat
      (readings.take count) ≤ 0 + emptyBucket.admitted (bucketMeter higher) size.toNat
      (readings.take count) :=
    TokenBucket.admitted_le (bucketMeter_atMost raised) size.toNat _ rfl
      (Nat.le_add_right _ _)
  rwa [Nat.zero_add] at compared

theorem admittedPackets_mono_tenfold :
    admittedPackets (applyAll .upload 8 ⟨#v[.zero, .zero]⟩
        (uniform 1000 [2000000000, 2000000001, 2000000002])) ≤
      admittedPackets (applyAll .upload 80 ⟨#v[.zero, .zero]⟩
        (uniform 1000 [2000000000, 2000000001, 2000000002])) :=
  admittedPackets_mono (by decide) .upload rfl 1000
    [2000000000, 2000000001, 2000000002] 3

end Pidnl.Bpf
