import Pidnl.Bpf.Refill

/-! # The policer over unbounded integers

The algorithm of `apply_rate_limit` with integers in place of words. From the zeroed
entry, and as long as the clock does not go back, no operation on words wraps, so that
both give every packet the same verdict.
-/

namespace Pidnl.Bpf

/-! ## The ideal algorithm -/

namespace Ideal

structure State where
  tokens : Int
  lastUpdateNs : Int
deriving DecidableEq, Repr

def State.zero : State where
  tokens := 0
  lastUpdateNs := 0

def limitBps (limitKbps : Int) : Int := limitKbps * 1000 / 8

def elapsedUs (now : Int) (state : State) : Int :=
  let elapsedUs := (now - state.lastUpdateNs) / 1000
  if elapsedUs > 1000000 then 1000000 else elapsedUs

def tokensToAdd (limitBps now : Int) (state : State) : Int :=
  (limitBps * elapsedUs now state) / 1000000

def refilled (limitBps now : Int) (state : State) : Int :=
  let tokens := state.tokens + tokensToAdd limitBps now state
  let maxTokens := limitBps * 2
  if tokens > maxTokens then maxTokens else tokens

def lockedSection (limitBps now packetSize : Int) (state : State) : Verdict × State :=
  let tokens := refilled limitBps now state
  if tokens ≥ packetSize then
    (.allow, { tokens := tokens - packetSize, lastUpdateNs := now })
  else
    (.drop, { tokens := tokens, lastUpdateNs := now })

def verdicts (limitKbps : Int) (state : State) : List Packet → List Verdict
  | [] => []
  | packet :: packets =>
      let result := lockedSection (limitBps limitKbps) packet.now.toNat
        packet.size.toNat state
      result.1 :: verdicts limitKbps result.2 packets

end Ideal

/-! ## Words that do not wrap -/

/-- `elapsed_us`, capped at one second. -/
def elapsedUs (now : UInt64) (state : RateLimitState) : UInt64 :=
  let elapsedUs := (now - state.lastUpdateNs) / 1000
  if elapsedUs > 1000000 then 1000000 else elapsedUs

/-- No 64-bit operation of `apply_rate_limit` wraps when it handles the packet. -/
structure NoWrap (limitKbps : UInt32) (packet : Packet) (state : RateLimitState) :
    Prop where
  /-- `limit_kbps * 1000` -/
  kilobits : limitKbps.toNat * 1000 < 2 ^ 64
  /-- `now - last_update_ns` -/
  elapsed : state.lastUpdateNs.toNat ≤ packet.now.toNat
  /-- `limit_bps * elapsed_us` -/
  earned : (limitBps limitKbps).toNat * (elapsedUs packet.now state).toNat < 2 ^ 64
  /-- `tokens + tokens_to_add` -/
  added : state.tokens.toNat +
    (tokensToAdd (limitBps limitKbps) packet.now state).toNat < 2 ^ 64
  /-- `limit_bps * 2` -/
  doubled : (limitBps limitKbps).toNat * 2 < 2 ^ 64
  /-- `tokens - packet_size` -/
  taken : (lockedSection (limitBps limitKbps) packet.now packet.size state).1 = .allow →
    packet.size.toNat ≤ (refilled (limitBps limitKbps) packet.now state).toNat

theorem elapsedUs_le (now : UInt64) (state : RateLimitState) :
    (elapsedUs now state).toNat ≤ 1000000 := by
  rw [elapsedUs]
  split
  · exact Nat.le_refl _
  · rename_i within
    exact UInt64.le_iff_toNat_le.mp (UInt64.not_lt.mp within)

theorem noWrap_of_within {limitKbps : UInt32} {packet : Packet} {state : RateLimitState}
    (within : Within (limitBps limitKbps) state)
    (ordered : state.lastUpdateNs ≤ packet.now) : NoWrap limitKbps packet state := by
  have kilobits : limitKbps.toNat < 2 ^ 32 := limitKbps.toNat_lt
  have small := small_limitBps limitKbps
  have held : state.tokens.toNat ≤ 2 * (limitBps limitKbps).toNat := within
  have elapsed := elapsedUs_le packet.now state
  have added : (tokensToAdd (limitBps limitKbps) packet.now state).toNat ≤
      (limitBps limitKbps).toNat := by
    rw [tokensToAdd_toNat small]
    exact refill_le_rate _ _
  constructor
  · omega
  · exact UInt64.le_iff_toNat_le.mp ordered
  · calc (limitBps limitKbps).toNat * (elapsedUs packet.now state).toNat
        ≤ (limitBps limitKbps).toNat * 1000000 := Nat.mul_le_mul_left _ elapsed
      _ < 2 ^ 64 := by omega
  · omega
  · omega
  · intro allowed
    have left := lockedSection_tokens (limitBps limitKbps) packet.now packet.size state
    rw [allowed, debit] at left
    omega

/-! ## The same verdicts -/

structure Represents (state : RateLimitState) (ideal : Ideal.State) : Prop where
  tokens : (state.tokens.toNat : Int) = ideal.tokens
  lastUpdateNs : (state.lastUpdateNs.toNat : Int) = ideal.lastUpdateNs

theorem represents_zero : Represents .zero .zero := ⟨rfl, rfl⟩

section Ideal

variable {limitKbps : UInt32} {state : RateLimitState} {ideal : Ideal.State}

theorem limitBps_ideal (limitKbps : UInt32) :
    ((limitBps limitKbps).toNat : Int) = Ideal.limitBps limitKbps.toNat := by
  rw [limitBps_toNat, bytesPerSecond, Ideal.limitBps]
  push_cast
  rfl

theorem tokensToAdd_ideal (represents : Represents state ideal) {now : UInt64}
    (ordered : state.lastUpdateNs ≤ now) :
    ((tokensToAdd (limitBps limitKbps) now state).toNat : Int) =
      Ideal.tokensToAdd (Ideal.limitBps limitKbps.toNat) now.toNat ideal := by
  have small := small_limitBps limitKbps
  have orderedNat := UInt64.le_iff_toNat_le.mp ordered
  have elapsed : Ideal.elapsedUs now.toNat ideal =
      (min ((now.toNat - state.lastUpdateNs.toNat) / 1000) 1000000 : Nat) := by
    rw [Ideal.elapsedUs, ← represents.lastUpdateNs]
    split <;> omega
  rw [tokensToAdd_toNat small, elapsed_toNat ordered, refill, Ideal.tokensToAdd, elapsed,
    ← limitBps_ideal]
  push_cast
  rfl

theorem refilled_ideal (within : Within (limitBps limitKbps) state)
    (represents : Represents state ideal) {now : UInt64}
    (ordered : state.lastUpdateNs ≤ now) :
    ((refilled (limitBps limitKbps) now state).toNat : Int) =
      Ideal.refilled (Ideal.limitBps limitKbps.toNat) now.toNat ideal := by
  have small := small_limitBps limitKbps
  have added : ((tokensToAdd (limitBps limitKbps) now state).toNat : Int) = _ :=
    tokensToAdd_ideal represents ordered
  rw [refilled_toNat small now within, Ideal.refilled, ← added, ← represents.tokens,
    ← limitBps_ideal]
  split <;> omega

theorem lockedSection_ideal (within : Within (limitBps limitKbps) state)
    (represents : Represents state ideal) {packet : Packet}
    (ordered : state.lastUpdateNs ≤ packet.now) :
    let result := lockedSection (limitBps limitKbps) packet.now packet.size state
    let idealResult := Ideal.lockedSection (Ideal.limitBps limitKbps.toNat)
      packet.now.toNat packet.size.toNat ideal
    result.1 = idealResult.1 ∧ Represents result.2 idealResult.2 := by
  intro result idealResult
  have filled := refilled_ideal within represents ordered
  have enough : refilled (limitBps limitKbps) packet.now state ≥ packet.size.toUInt64 ↔
      Ideal.refilled (Ideal.limitBps limitKbps.toNat) packet.now.toNat ideal ≥
        packet.size.toNat := by
    rw [ge_iff_le, UInt64.le_iff_toNat_le, UInt32.toNat_toUInt64, ← filled]
    exact Int.ofNat_le.symm
  by_cases holds : refilled (limitBps limitKbps) packet.now state ≥ packet.size.toUInt64
  · have isResult : result = (.allow, ⟨refilled (limitBps limitKbps) packet.now state -
      packet.size.toUInt64, packet.now⟩) := if_pos holds
    have isIdeal : idealResult = (.allow, ⟨Ideal.refilled (Ideal.limitBps limitKbps.toNat)
      packet.now.toNat ideal - packet.size.toNat, packet.now.toNat⟩) :=
      if_pos (enough.mp holds)
    have least := UInt64.le_iff_toNat_le.mp holds
    rw [isResult, isIdeal]
    refine ⟨rfl, ?_, rfl⟩
    rw [UInt64.toNat_sub_of_le _ _ holds, ← filled, UInt32.toNat_toUInt64]
    rw [UInt32.toNat_toUInt64] at least
    exact Int.ofNat_sub least
  · have isResult : result = (.drop, ⟨refilled (limitBps limitKbps) packet.now state,
      packet.now⟩) := if_neg holds
    have isIdeal : idealResult = (.drop, ⟨Ideal.refilled (Ideal.limitBps limitKbps.toNat)
      packet.now.toNat ideal, packet.now.toNat⟩) := if_neg fun more => holds (enough.mpr more)
    rw [isResult, isIdeal]
    exact ⟨rfl, filled, rfl⟩

theorem police_ideal {packets : List Packet} (within : Within (limitBps limitKbps) state)
    (represents : Represents state ideal)
    (ordered : (state.lastUpdateNs :: packets.map Packet.now).Pairwise (· ≤ ·)) :
    (∀ handled ∈ police (limitBps limitKbps) state packets,
        NoWrap limitKbps handled.packet handled.before ∧
          Within (limitBps limitKbps) handled.after) ∧
      (police (limitBps limitKbps) state packets).map Handled.verdict =
        Ideal.verdicts limitKbps.toNat ideal packets := by
  induction packets generalizing state ideal with
  | nil => exact ⟨nofun, rfl⟩
  | cons packet packets induction =>
      rw [List.map_cons, List.pairwise_cons] at ordered
      have first : state.lastUpdateNs ≤ packet.now := ordered.1 _ (.head _)
      have withinNext := lockedSection_within (small_limitBps limitKbps) packet.now
        packet.size state
      rcases lockedSection_ideal within represents first with ⟨verdict, representsNext⟩
      have orderedNext := ordered.2
      rw [← lockedSection_lastUpdateNs (limitBps limitKbps) packet.now packet.size state]
        at orderedNext
      rcases induction withinNext representsNext orderedNext with ⟨rest, verdicts⟩
      constructor
      · intro handled member
        rcases List.mem_cons.mp member with rfl | later
        · exact ⟨noWrap_of_within within first, withinNext⟩
        · exact rest handled later
      · rw [police, List.map_cons, Ideal.verdicts]
        exact congrArg₂ List.cons verdict verdicts

end Ideal

/-- From the zeroed entry the policer does what it would do over unbounded integers. -/
theorem applyAll_ideal (direction : Direction) (limitKbps : UInt32)
    (rateState : RateState) (zeroed : rateState.lookupElem direction.key = some .zero)
    (packets : List Packet)
    (clock : packets.Pairwise fun earlier later => earlier.now ≤ later.now) :
    (∀ handled ∈ applyAll direction limitKbps rateState packets,
        NoWrap limitKbps handled.packet handled.before ∧
          handled.after.tokens.toNat ≤ 2 * (limitBps limitKbps).toNat) ∧
      (applyAll direction limitKbps rateState packets).map Handled.verdict =
        Ideal.verdicts limitKbps.toNat .zero packets := by
  rw [applyAll_eq_police direction limitKbps packets rateState .zero zeroed]
  have ordered : (RateLimitState.zero.lastUpdateNs :: packets.map Packet.now).Pairwise
      (· ≤ ·) := by
    rw [List.pairwise_cons, List.pairwise_map]
    exact ⟨fun now _ => UInt64.le_iff_toNat_le.mpr (Nat.zero_le _), clock⟩
  exact police_ideal (Nat.zero_le _) represents_zero ordered

/-- The highest limit, and the clock from its first to its last reading. -/
theorem applyAll_ideal_highest :
    let packets : List Packet := [⟨0, 1500⟩, ⟨18446744073709551615, 4294967295⟩]
    (applyAll .upload 4294967295 ⟨#v[.zero, .zero]⟩ packets).map Handled.verdict =
      Ideal.verdicts 4294967295 .zero packets :=
  (applyAll_ideal .upload 4294967295 ⟨#v[.zero, .zero]⟩ rfl
    [⟨0, 1500⟩, ⟨18446744073709551615, 4294967295⟩] (by decide)).2

end Pidnl.Bpf
