import Pidnl.Bpf.ApplyRateLimit
import Mathlib.Tactic.Ring
import Mathlib.Tactic.NormNum

/-! # The policer over the integers

What the 64-bit section computes, read as natural numbers. A limit of 32 bits
keeps every product and sum far below the word size, so nothing wraps.
-/

namespace Pidnl.Bpf

/-- `limit_kbps * 1000 / 8` over the integers. -/
def bytesPerSecond (limitKbps : UInt32) : Nat := limitKbps.toNat * 1000 / 8

/-- `tokens_to_add` over the integers, for the elapsed nanoseconds. -/
def refill (rate elapsedNs : Nat) : Nat :=
  rate * min (elapsedNs / 1000) 1000000 / 1000000

theorem bytesPerSecond_lt (limitKbps : UInt32) :
    bytesPerSecond limitKbps < 2 ^ 39 := by
  have bound : limitKbps.toNat < 2 ^ 32 := limitKbps.toNat_lt
  simp only [bytesPerSecond]
  omega

theorem limitBps_toNat (limitKbps : UInt32) :
    (limitBps limitKbps).toNat = bytesPerSecond limitKbps := by
  have bound : limitKbps.toNat < 2 ^ 32 := limitKbps.toNat_lt
  have small : limitKbps.toNat * 1000 < 2 ^ 64 := by omega
  have product : (limitKbps.toUInt64 * 1000).toNat = limitKbps.toNat * 1000 := by
    rw [UInt64.toNat_mul, UInt32.toNat_toUInt64]
    exact Nat.mod_eq_of_lt small
  rw [limitBps, UInt64.toNat_div, product]
  rfl

theorem small_limitBps (limitKbps : UInt32) : (limitBps limitKbps).toNat < 2 ^ 39 := by
  rw [limitBps_toNat]
  exact bytesPerSecond_lt limitKbps

theorem elapsed_toNat {now last : UInt64} (ordered : last ≤ now) :
    (now - last).toNat = now.toNat - last.toNat :=
  UInt64.toNat_sub_of_le _ _ ordered

/-- `tokens_to_add` wraps nowhere except in the subtraction of the clocks. -/
theorem tokensToAdd_toNat {limitBps : UInt64} (small : limitBps.toNat < 2 ^ 39)
    (now : UInt64) (state : RateLimitState) :
    (tokensToAdd limitBps now state).toNat =
      refill limitBps.toNat (now - state.lastUpdateNs).toNat := by
  have micros : ((now - state.lastUpdateNs) / 1000).toNat =
      (now - state.lastUpdateNs).toNat / 1000 := by
    rw [UInt64.toNat_div]; rfl
  have capped : (if (now - state.lastUpdateNs) / 1000 > 1000000 then 1000000
      else (now - state.lastUpdateNs) / 1000).toNat =
      min ((now - state.lastUpdateNs).toNat / 1000) 1000000 := by
    split
    · rename_i exceeds
      have exceedsNat : 1000000 < (now - state.lastUpdateNs).toNat / 1000 := by
        simpa [UInt64.lt_iff_toNat_lt, micros] using exceeds
      rw [Nat.min_eq_right (by omega)]; rfl
    · rename_i within
      have withinNat : (now - state.lastUpdateNs).toNat / 1000 ≤ 1000000 := by
        simpa [UInt64.lt_iff_toNat_lt, micros] using within
      rw [Nat.min_eq_left withinNat, micros]
  have product : limitBps.toNat *
      min ((now - state.lastUpdateNs).toNat / 1000) 1000000 < 2 ^ 64 := by
    calc limitBps.toNat * min ((now - state.lastUpdateNs).toNat / 1000) 1000000
        ≤ limitBps.toNat * 1000000 := Nat.mul_le_mul_left _ (Nat.min_le_right _ _)
      _ < 2 ^ 64 := by omega
  simp only [tokensToAdd, refill, UInt64.toNat_div, UInt64.toNat_mul]
  rw [capped, Nat.mod_eq_of_lt product]; rfl

theorem maxTokens_toNat {limitBps : UInt64} (small : limitBps.toNat < 2 ^ 39) :
    (limitBps * 2).toNat = 2 * limitBps.toNat := by
  have factor : (2 : UInt64).toNat = 2 := rfl
  rw [UInt64.toNat_mul, factor]
  omega

theorem refill_le_rate (rate elapsedNs : Nat) : refill rate elapsedNs ≤ rate := by
  apply Nat.div_le_of_le_mul
  rw [Nat.mul_comm 1000000]
  exact Nat.mul_le_mul_left _ (Nat.min_le_right _ _)

theorem refill_le (rate elapsedNs : Nat) :
    refill rate elapsedNs ≤ rate * elapsedNs / 10 ^ 9 := by
  calc refill rate elapsedNs
      ≤ rate * (elapsedNs / 1000) / 1000000 :=
        Nat.div_le_div_right (Nat.mul_le_mul_left _ (Nat.min_le_left _ _))
    _ ≤ rate * elapsedNs / 1000 / 1000000 :=
        Nat.div_le_div_right (Nat.mul_div_le_mul_div_assoc _ _ _)
    _ = rate * elapsedNs / 10 ^ 9 := Nat.div_div_eq_div_mul _ _ _

/-- The bucket's invariant: no more than two seconds of tokens. -/
def Within (limitBps : UInt64) (state : RateLimitState) : Prop :=
  state.tokens.toNat ≤ 2 * limitBps.toNat

theorem refilled_le {limitBps : UInt64} (small : limitBps.toNat < 2 ^ 39)
    (now : UInt64) (state : RateLimitState) :
    (refilled limitBps now state).toNat ≤ 2 * limitBps.toNat := by
  simp only [refilled]
  split
  · exact le_of_eq (maxTokens_toNat small)
  · rename_i within
    have withinNat := UInt64.le_iff_toNat_le.mp (UInt64.not_lt.mp within)
    rwa [maxTokens_toNat small] at withinNat

theorem refilled_toNat {limitBps : UInt64} (small : limitBps.toNat < 2 ^ 39)
    (now : UInt64) {state : RateLimitState}
    (within : Within limitBps state) :
    (refilled limitBps now state).toNat = min (2 * limitBps.toNat)
      (state.tokens.toNat + (tokensToAdd limitBps now state).toNat) := by
  have held : state.tokens.toNat ≤ 2 * limitBps.toNat := within
  have added : (tokensToAdd limitBps now state).toNat ≤ limitBps.toNat := by
    rw [tokensToAdd_toNat small]
    exact refill_le_rate _ _
  have sum : (state.tokens + tokensToAdd limitBps now state).toNat =
      state.tokens.toNat + (tokensToAdd limitBps now state).toNat := by
    rw [UInt64.toNat_add]
    omega
  simp only [refilled]
  split
  · rename_i exceeds
    have exceedsNat := UInt64.lt_iff_toNat_lt.mp exceeds
    rw [maxTokens_toNat small, sum] at exceedsNat
    rw [maxTokens_toNat small, Nat.min_eq_left (by omega)]
  · rename_i notExceeds
    have withinNat := UInt64.le_iff_toNat_le.mp (UInt64.not_lt.mp notExceeds)
    rw [maxTokens_toNat small, sum] at withinNat
    rw [sum, Nat.min_eq_right withinNat]

/-! ## The locked section -/

def debit (verdict : Verdict) (packetSize : UInt32) : Nat :=
  match verdict with
  | .allow => packetSize.toNat
  | .drop => 0

@[simp] theorem lockedSection_lastUpdateNs (limitBps now : UInt64)
    (packetSize : UInt32) (state : RateLimitState) :
    (lockedSection limitBps now packetSize state).2.lastUpdateNs = now := by
  simp only [lockedSection]
  split <;> rfl

theorem lockedSection_tokens (limitBps now : UInt64) (packetSize : UInt32)
    (state : RateLimitState) :
    (lockedSection limitBps now packetSize state).2.tokens.toNat +
        debit (lockedSection limitBps now packetSize state).1 packetSize =
      (refilled limitBps now state).toNat := by
  simp only [lockedSection]
  split
  · rename_i enough
    have enoughNat : packetSize.toNat ≤ (refilled limitBps now state).toNat := by
      simpa [UInt64.le_iff_toNat_le] using enough
    simp only [debit]
    rw [UInt64.toNat_sub_of_le _ _ enough, UInt32.toNat_toUInt64]
    omega
  · simp [debit]

theorem lockedSection_within {limitBps : UInt64}
    (small : limitBps.toNat < 2 ^ 39) (now : UInt64) (packetSize : UInt32)
    (state : RateLimitState) :
    Within limitBps (lockedSection limitBps now packetSize state).2 := by
  have left := lockedSection_tokens limitBps now packetSize state
  have capped := refilled_le small now state
  simp only [Within]
  omega

theorem police_drop {limitBps : UInt64} (small : limitBps.toNat < 2 ^ 39)
    {state : RateLimitState} (within : Within limitBps state)
    (packets : List Packet) (count : Nat) :
    ∃ middle, Within limitBps middle ∧
      (police limitBps state packets).drop count =
        police limitBps middle (packets.drop count) := by
  induction packets generalizing state count with
  | nil => exact ⟨state, within, by simp [police]⟩
  | cons packet packets induction =>
      cases count with
      | zero => exact ⟨state, within, rfl⟩
      | succ count =>
          simpa [police] using induction
            (lockedSection_within small packet.now packet.size state) count

end Pidnl.Bpf
