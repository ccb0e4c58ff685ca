import Pidnl.Bpf.TwoLimits
import Mathlib.Data.List.Chain

/-! # Packets that get through

A packet that is dropped costs nothing. Tried again, a packet that the bucket can hold is
admitted as soon as enough has been earned between its tries; a larger one never is.
-/

namespace Pidnl.Bpf

open Pidnl.Foundation

def Apart (gapNs : Nat) (start : UInt64) (readings : List UInt64) : Prop :=
  (start :: readings).IsChain fun earlier later => earlier.toNat + gapNs ≤ later.toNat

instance (gapNs : Nat) (start : UInt64) (readings : List UInt64) :
    Decidable (Apart gapNs start readings) :=
  inferInstanceAs (Decidable (List.IsChain _ _))

theorem refill_mono_elapsed (rate : Nat) {shorter longer : Nat} (ordered : shorter ≤ longer) :
    refill rate shorter ≤ refill rate longer := by
  apply Nat.div_le_div_right
  apply Nat.mul_le_mul_left
  omega

theorem earns_of_apart {limitKbps : UInt32} {gapNs : Nat} {start : UInt64}
    {readings : List UInt64} (apart : Apart gapNs start readings) :
    TokenBucket.Earns (bucketMeter limitKbps) (refill (bytesPerSecond limitKbps) gapNs) start
      readings := by
  have gains : ∀ earlier later : UInt64, earlier.toNat + gapNs ≤ later.toNat →
      refill (bytesPerSecond limitKbps) gapNs ≤
        (bucketMeter limitKbps).earned earlier later := by
    intro earlier later gap
    have ordered : earlier ≤ later := UInt64.le_iff_toNat_le.mpr (by omega)
    apply refill_mono_elapsed
    rw [elapsed_toNat ordered]
    omega
  exact apart.imp gains

def SomeAdmitted (direction : Direction) (limitKbps : UInt32) (rateState : RateState)
    (history later : List Packet) : Prop :=
  0 < admittedPackets
    ((applyAll direction limitKbps rateState (history ++ later)).drop history.length)

theorem police_history_isBucket {limitKbps : UInt32} {state : RateLimitState}
    {bucket : TokenBucket UInt64 Nat} (isBucket : IsBucket limitKbps state bucket)
    (history later : List Packet) :
    ∃ middle reached, IsBucket limitKbps middle reached ∧
      reached.last = lastReading bucket.last history ∧
      (police (limitBps limitKbps) state (history ++ later)).drop history.length =
        police (limitBps limitKbps) middle later := by
  induction history generalizing state bucket with
  | nil => exact ⟨state, bucket, isBucket, rfl, rfl⟩
  | cons packet history induction =>
      have next := (lockedSection_of_isBucket isBucket packet).2
      rcases induction next with ⟨middle, reached, isReached, last, rest⟩
      refine ⟨middle, reached, isReached, ?_, rest⟩
      rw [last, lastReading]
      congr 1
      rw [TokenBucket.offer]
      split <;> rfl

variable {direction : Direction} {limitKbps size : UInt32} {rateState : RateState}

theorem someAdmitted_of_apart (zeroed : rateState.lookupElem direction.key = some .zero)
    {history : List Packet} {readings : List UInt64} {gapNs : Nat} (nonempty : readings ≠ [])
    (apart : Apart gapNs (lastReading 0 history) readings)
    (fits : size.toNat ≤ 2 * bytesPerSecond limitKbps)
    (enough : size.toNat ≤ readings.length * refill (bytesPerSecond limitKbps) gapNs) :
    SomeAdmitted direction limitKbps rateState history (uniform size readings) := by
  rcases police_history_isBucket (isBucket_zero limitKbps) history (uniform size readings) with
    ⟨middle, bucket, isBucket, last, rest⟩
  rw [SomeAdmitted, applyAll_eq_police direction limitKbps _ _ _ zeroed, rest,
    admittedPackets_police isBucket]
  apply TokenBucket.exists_admitted fits nonempty
  · rw [last]
    exact earns_of_apart apart
  · omega

theorem size_le_of_allow {state : RateLimitState} {packets : List Packet} :
    ∀ item ∈ police (limitBps limitKbps) state packets, item.verdict = .allow →
      item.packet.size.toNat ≤ 2 * bytesPerSecond limitKbps := by
  induction packets generalizing state with
  | nil => exact nofun
  | cons packet packets induction =>
      intro item member allowed
      cases member with
      | head =>
          have left := lockedSection_tokens (limitBps limitKbps) packet.now packet.size state
          have atMost := refilled_le (small_limitBps limitKbps) packet.now state
          simp only at allowed ⊢
          rw [allowed, debit] at left
          rw [limitBps_toNat] at atMost
          omega
      | tail _ later => exact induction item later allowed

/-- Whatever came before, a packet that two seconds of the limit can pay for is admitted
once its tries have earned its size, and no larger packet ever is. -/
theorem delivered (zeroed : rateState.lookupElem direction.key = some .zero) :
    (size.toNat ≤ 2 * bytesPerSecond limitKbps →
      ∀ history readings gapNs, readings ≠ [] →
        Apart gapNs (lastReading 0 history) readings →
        size.toNat ≤ readings.length * refill (bytesPerSecond limitKbps) gapNs →
          SomeAdmitted direction limitKbps rateState history (uniform size readings)) ∧
      (2 * bytesPerSecond limitKbps < size.toNat →
        ∀ packets, ∀ item ∈ applyAll direction limitKbps rateState packets,
          item.packet.size = size → item.verdict = .drop) := by
  constructor
  · intro fits history readings gapNs nonempty apart enough
    exact someAdmitted_of_apart zeroed nonempty apart fits enough
  · intro large packets item member same
    rw [applyAll_eq_police direction limitKbps _ _ _ zeroed] at member
    cases verdict : item.verdict with
    | drop => rfl
    | allow =>
        have fits := size_le_of_allow item member verdict
        rw [same] at fits
        omega

/-- A packet of 1500 bytes passes a limit of 1000 bytes a second at the second try. -/
theorem delivered_secondTry :
    SomeAdmitted .upload 8 ⟨#v[.zero, .zero]⟩ [⟨5, 40⟩]
      (uniform 1500 [1000000005, 2000000005]) :=
  (delivered rfl).1 (by decide) [⟨5, 40⟩] [1000000005, 2000000005] (10 ^ 9) (by decide)
    (by decide) (by decide)

end Pidnl.Bpf
