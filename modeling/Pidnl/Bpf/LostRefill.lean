import Pidnl.Bpf.Conformance

/-! # Refill lost between packets

Each packet restarts the clock after its elapsed time was cut down to
microseconds and its tokens to whole bytes. What the two divisions discard is
gone. It is counted here in nanobytes, 10^-9 of a byte: a stretch of packets is
served at its rate up to one byte exactly when less than two bytes are lost.
-/

namespace Pidnl.Bpf

/-- The nanobytes one refill leaves out. -/
def truncated (rate elapsedNs : Nat) : Nat :=
  1000 * (rate * (elapsedNs / 1000) % 1000000) + rate * (elapsedNs % 1000)

/-- Nanobytes left out over a run whose previous clock reading is `start`. -/
def lostNanobytes (rate : Nat) (start : UInt64) : List Packet → Nat
  | [] => 0
  | packet :: packets =>
      truncated rate (packet.now.toNat - start.toNat) +
        lostNanobytes rate packet.now packets

/-- Tokens a packet finds in addition to those the entry held. -/
def creditedTokens (limitBps : UInt64) (handled : List Handled) : Nat :=
  (handled.map fun item =>
    (refilled limitBps item.packet.now item.before).toNat -
      item.before.tokens.toNat).sum

/-- The branch that cuts the tokens down to `max_tokens` is taken. -/
def CapReached (limitBps : UInt64) (item : Handled) : Prop :=
  2 * limitBps.toNat < item.before.tokens.toNat +
    (tokensToAdd limitBps item.packet.now item.before).toNat

instance (limitBps : UInt64) (item : Handled) :
    Decidable (CapReached limitBps item) :=
  inferInstanceAs (Decidable (_ < _))

/-- The clock readings do not decrease and lie at most one second apart. -/
def Spaced (start : UInt64) (packets : List Packet) : Prop :=
  (start :: packets.map Packet.now).IsChain fun earlier later =>
    earlier ≤ later ∧ later.toNat - earlier.toNat ≤ 10 ^ 9

instance (start : UInt64) (packets : List Packet) :
    Decidable (Spaced start packets) :=
  inferInstanceAs (Decidable (List.IsChain _ _))

theorem refill_add_truncated (rate : Nat) {elapsedNs : Nat}
    (short : elapsedNs ≤ 10 ^ 9) :
    10 ^ 9 * refill rate elapsedNs + truncated rate elapsedNs =
      rate * elapsedNs := by
  have uncut : min (elapsedNs / 1000) 1000000 = elapsedNs / 1000 := by omega
  have micros := Nat.div_add_mod elapsedNs 1000
  have bytes := Nat.div_add_mod (rate * (elapsedNs / 1000)) 1000000
  simp only [refill, truncated, uncut]
  calc 10 ^ 9 * (rate * (elapsedNs / 1000) / 1000000) +
        (1000 * (rate * (elapsedNs / 1000) % 1000000) + rate * (elapsedNs % 1000))
      = 1000 * (1000000 * (rate * (elapsedNs / 1000) / 1000000) +
          rate * (elapsedNs / 1000) % 1000000) + rate * (elapsedNs % 1000) := by
        omega
    _ = rate * (1000 * (elapsedNs / 1000) + elapsedNs % 1000) := by
        rw [bytes]; ring
    _ = rate * elapsedNs := by rw [micros]

theorem gained_toNat {limitBps : UInt64} (small : limitBps.toNat < 2 ^ 39)
    {packet : Packet} {state after : RateLimitState} {verdict : Verdict}
    (within : Within limitBps state) (ordered : state.lastUpdateNs ≤ packet.now)
    (uncapped : ¬ CapReached limitBps ⟨packet, state, after, verdict⟩) :
    (refilled limitBps packet.now state).toNat - state.tokens.toNat =
      refill limitBps.toNat (packet.now.toNat - state.lastUpdateNs.toNat) := by
  have below : state.tokens.toNat +
      (tokensToAdd limitBps packet.now state).toNat ≤ 2 * limitBps.toNat :=
    Nat.not_lt.mp uncapped
  rw [refilled_toNat small packet.now within, Nat.min_eq_right below,
    tokensToAdd_toNat small, elapsed_toNat ordered]
  omega

/-- Below the cap nothing but the truncations is lost. -/
theorem creditedTokens_add_lostNanobytes {limitBps : UInt64}
    (small : limitBps.toNat < 2 ^ 39) {state : RateLimitState}
    (within : Within limitBps state) {packets : List Packet}
    (spaced : Spaced state.lastUpdateNs packets)
    (uncapped : ∀ item ∈ police limitBps state packets,
      ¬ CapReached limitBps item) :
    10 ^ 9 * creditedTokens limitBps (police limitBps state packets) +
        lostNanobytes limitBps.toNat state.lastUpdateNs packets =
      limitBps.toNat * ((lastReading state.lastUpdateNs packets).toNat -
        state.lastUpdateNs.toNat) := by
  induction packets generalizing state with
  | nil => simp [creditedTokens, police, lostNanobytes, lastReading]
  | cons packet packets induction =>
      rw [Spaced, List.map_cons, List.isChain_cons_cons] at spaced
      rcases spaced with ⟨⟨first, short⟩, later⟩
      have firstNat := UInt64.le_iff_toNat_le.mp first
      let after := (lockedSection limitBps packet.now packet.size state).2
      have afterNow : after.lastUpdateNs = packet.now :=
        lockedSection_lastUpdateNs ..
      have rest := induction
        (lockedSection_within small packet.now packet.size state)
        (afterNow.symm ▸ later)
        (fun item member => uncapped item (.tail _ member))
      rw [afterNow] at rest
      have gained := gained_toNat small within first (uncapped _ (.head _))
      have exact := refill_add_truncated limitBps.toNat short
      have readings : packet.now ≤ lastReading packet.now packets := by
        apply le_lastReading
        exact (later.imp fun _ _ both => both.1).pairwise
      have readingsNat := UInt64.le_iff_toNat_le.mp readings
      have split : (lastReading packet.now packets).toNat -
          state.lastUpdateNs.toNat =
          (packet.now.toNat - state.lastUpdateNs.toNat) +
            ((lastReading packet.now packets).toNat - packet.now.toNat) := by
        omega
      have product := Nat.mul_add limitBps.toNat
        (packet.now.toNat - state.lastUpdateNs.toNat)
        ((lastReading packet.now packets).toNat - packet.now.toNat)
      simp only [police, creditedTokens, List.map_cons, List.sum_cons,
        lostNanobytes, lastReading, gained, split, product] at rest ⊢
      rw [← exact, ← rest]
      ring

theorem shortfall_iff {credited lost earned : Nat}
    (total : 10 ^ 9 * credited + lost = earned) :
    earned / 10 ^ 9 ≤ credited + 1 ↔ lost < 2 * 10 ^ 9 := by
  omega

/-- Packets `1..n` of a run, handled after packet `0`, are credited the rate up
to one byte if and only if the truncations between them lose less than two
bytes. -/
theorem refill_kept_iff (direction : Direction) (limitKbps : UInt32)
    (rateState : RateState) (packet : Packet) (packets : List Packet)
    (spaced : Spaced packet.now packets)
    (uncapped : ∀ item ∈ (applyAll direction limitKbps rateState
      (packet :: packets)).tail, ¬ CapReached (limitBps limitKbps) item) :
    bytesPerSecond limitKbps *
          ((lastReading packet.now packets).toNat - packet.now.toNat) / 10 ^ 9 ≤
        creditedTokens (limitBps limitKbps)
          (applyAll direction limitKbps rateState (packet :: packets)).tail + 1 ↔
      lostNanobytes (bytesPerSecond limitKbps) packet.now packets < 2 * 10 ^ 9 := by
  have small : (limitBps limitKbps).toNat < 2 ^ 39 :=
    limitBps_toNat limitKbps ▸ bytesPerSecond_lt limitKbps
  rcases rateState.lookupElem_isSome direction with ⟨state, found⟩
  rw [applyAll_eq_police direction limitKbps _ rateState state found] at uncapped ⊢
  let after := (lockedSection (limitBps limitKbps) packet.now packet.size state).2
  have afterNow : after.lastUpdateNs = packet.now := lockedSection_lastUpdateNs ..
  have total := creditedTokens_add_lostNanobytes small
    (lockedSection_within small packet.now packet.size state)
    (afterNow.symm ▸ spaced) uncapped
  rw [afterNow, limitBps_toNat] at total
  exact shortfall_iff total

/-- At 1 kbps, a packet every 7 ms: 125 bytes a second earn 0.875 of a byte
between two packets, and every one of them is rounded down to nothing. -/
def starvedPackets : List Packet :=
  [⟨7000000, 1500⟩, ⟨14000000, 1500⟩, ⟨21000000, 1500⟩]

theorem refill_kept_iff_starved :
    125 * (21000000 - 0) / 10 ^ 9 ≤ creditedTokens (limitBps 1)
        (applyAll .upload 1 ⟨#v[.zero, .zero]⟩ (⟨0, 1500⟩ :: starvedPackets)).tail
          + 1 ↔
      lostNanobytes 125 0 starvedPackets < 2 * 10 ^ 9 :=
  refill_kept_iff .upload 1 ⟨#v[.zero, .zero]⟩ ⟨0, 1500⟩ starvedPackets
    (by decide) (by decide)

/-- Refill is not always kept: the starved run gains no token in 21 ms. -/
theorem refill_not_kept :
    ¬ ∀ (direction : Direction) (limitKbps : UInt32) (rateState : RateState)
        (packet : Packet) (packets : List Packet), 1 ≤ limitKbps →
        Spaced packet.now packets →
        (∀ item ∈ (applyAll direction limitKbps rateState
          (packet :: packets)).tail, ¬ CapReached (limitBps limitKbps) item) →
        bytesPerSecond limitKbps *
            ((lastReading packet.now packets).toNat - packet.now.toNat) / 10 ^ 9 ≤
          creditedTokens (limitBps limitKbps)
            (applyAll direction limitKbps rateState (packet :: packets)).tail
              + 1 := by
  intro kept
  have starved := kept .upload 1 ⟨#v[.zero, .zero]⟩ ⟨0, 1500⟩ starvedPackets
    (by decide) (by decide) (by decide)
  exact absurd starved (by decide)

end Pidnl.Bpf
