import Pidnl.Foundation.MeteredAccount
import Pidnl.Bpf.Refill

/-! # Rate conformance

A run of the policer is the history of an account metered by the configured
rate and capped at two seconds of it. Any window of the run therefore admits at
most the cap plus what the rate earns over the window.
-/

namespace Pidnl.Bpf

open Pidnl.Foundation

/-- What `rate` earns over a duration in nanoseconds, rounded down. -/
def allowance (rate elapsedNs : Nat) : Nat := rate * elapsedNs / 10 ^ 9

theorem allowance_superadditive (rate : Nat) : Superadditive (allowance rate) := by
  intro first second
  simp only [allowance, Nat.mul_add]
  exact Nat.div_add_div_le_add_div

def account (limitBps : UInt64) (handled : Handled) : Entry Nat Nat where
  elapsed := handled.packet.now.toNat - handled.before.lastUpdateNs.toNat
  credit := (tokensToAdd limitBps handled.packet.now handled.before).toNat
  debit := debit handled.verdict handled.packet.size

def admittedBytes (handled : List Handled) : Nat :=
  ((handled.filter fun item => item.verdict = .allow).map
    fun item => item.packet.size.toNat).sum

theorem totalDebit_account (limitBps : UInt64) (handled : List Handled) :
    Entry.totalDebit (handled.map (account limitBps)) = admittedBytes handled := by
  induction handled with
  | nil => rfl
  | cons item handled induction =>
      rw [List.map_cons, Entry.totalDebit_cons, induction]
      cases verdict : item.verdict <;>
        simp [admittedBytes, account, debit, verdict]

theorem police_history {limitBps : UInt64} (small : limitBps.toNat < 2 ^ 39)
    {state : RateLimitState} (within : Within limitBps state)
    (packets : List Packet) :
    ∃ final, History (2 * limitBps.toNat) state.tokens.toNat
      ((police limitBps state packets).map (account limitBps)) final := by
  induction packets generalizing state with
  | nil => exact ⟨_, .nil _⟩
  | cons packet packets induction =>
      rcases induction
          (lockedSection_within small packet.now packet.size state) with
        ⟨final, rest⟩
      refine ⟨final, .cons ?_ rest⟩
      simp only [account]
      rw [lockedSection_tokens, refilled_toNat small packet.now within]

section Ordered

variable {limitBps : UInt64} {state : RateLimitState} {packets : List Packet}

theorem police_metered (small : limitBps.toNat < 2 ^ 39)
    (ordered : (state.lastUpdateNs :: packets.map Packet.now).Pairwise (· ≤ ·)) :
    ∀ entry ∈ (police limitBps state packets).map (account limitBps),
      entry.credit ≤ allowance limitBps.toNat entry.elapsed := by
  induction packets generalizing state with
  | nil => simp [police]
  | cons packet packets induction =>
      rw [List.map_cons, List.pairwise_cons] at ordered
      intro entry member
      rw [police, List.map_cons, List.mem_cons] at member
      rcases member with rfl | member
      · have first : state.lastUpdateNs ≤ packet.now := ordered.1 _ (by simp)
        simp only [account, allowance]
        rw [tokensToAdd_toNat small, elapsed_toNat first]
        exact refill_le _ _
      · exact induction (by simpa using ordered.2) entry member

theorem le_lastReading {start : UInt64}
    (ordered : (start :: packets.map Packet.now).Pairwise (· ≤ ·)) :
    start ≤ lastReading start packets := by
  induction packets generalizing start with
  | nil => exact UInt64.le_refl _
  | cons packet packets induction =>
      rw [List.map_cons, List.pairwise_cons] at ordered
      exact UInt64.le_trans (ordered.1 _ (by simp)) (induction ordered.2)

theorem police_totalElapsed
    (ordered : (state.lastUpdateNs :: packets.map Packet.now).Pairwise (· ≤ ·)) :
    Entry.totalElapsed ((police limitBps state packets).map (account limitBps)) =
      (lastReading state.lastUpdateNs packets).toNat - state.lastUpdateNs.toNat := by
  induction packets generalizing state with
  | nil => simp [police, lastReading]
  | cons packet packets induction =>
      rw [List.map_cons, List.pairwise_cons] at ordered
      have first := UInt64.le_iff_toNat_le.mp (ordered.1 packet.now (by simp))
      have later := UInt64.le_iff_toNat_le.mp (le_lastReading ordered.2)
      rw [police, List.map_cons, Entry.totalElapsed_cons,
        induction (by simpa using ordered.2)]
      simp only [account, lockedSection_lastUpdateNs, lastReading]
      omega

theorem police_totalCredit_le (small : limitBps.toNat < 2 ^ 39)
    (ordered : (state.lastUpdateNs :: packets.map Packet.now).Pairwise (· ≤ ·)) :
    Entry.totalCredit ((police limitBps state packets).map (account limitBps)) ≤
      allowance limitBps.toNat ((lastReading state.lastUpdateNs packets).toNat -
        state.lastUpdateNs.toNat) := by
  rw [← police_totalElapsed ordered]
  exact totalCredit_le_allowance (allowance_superadditive _) _
    (police_metered small ordered)

theorem police_admittedBytes_le (small : limitBps.toNat < 2 ^ 39)
    (within : Within limitBps state) {packet : Packet}
    (ordered : (packet.now :: packets.map Packet.now).Pairwise (· ≤ ·)) :
    admittedBytes (police limitBps state (packet :: packets)) ≤
      2 * limitBps.toNat + allowance limitBps.toNat
        ((lastReading packet.now packets).toNat - packet.now.toNat) := by
  rcases police_history small within (packet :: packets) with ⟨final, history⟩
  have spent := history.totalDebit_le_cap_add_totalCredit
  let after := (lockedSection limitBps packet.now packet.size state).2
  have afterNow : after.lastUpdateNs = packet.now := lockedSection_lastUpdateNs ..
  have credited := police_totalCredit_le small (afterNow ▸ ordered)
  rw [afterNow] at credited
  rw [← totalDebit_account limitBps]
  exact spent.trans (Nat.add_le_add_left credited _)

end Ordered

/-- The packets from position `first` to position `last`. -/
def window (first last : Nat) (items : List α) : List α :=
  (items.drop first).take (last + 1 - first)

theorem window_eq_cons {items : List α} {first last : Nat} (ordered : first ≤ last)
    (inside : last < items.length) :
    window first last items = items[first] ::
      (items.drop (first + 1)).take (last - first) := by
  have length : last + 1 - first = (last - first) + 1 := by omega
  rw [window, List.drop_eq_getElem_cons (by omega), length, List.take_succ_cons]

theorem lastReading_window {packets : List Packet} {first last : Nat}
    (ordered : first ≤ last) (inside : last < packets.length) :
    lastReading packets[first].now
      ((packets.drop (first + 1)).take (last - first)) = packets[last].now := by
  have whole : lastReading 0 (window first last packets) = packets[last].now := by
    have length : (window first last packets).length = last + 1 - first := by
      simp only [window, List.length_take, List.length_drop]
      omega
    have position : first + (last + 1 - first - 1) = last := by omega
    have final : (window first last packets).getLast? = some packets[last] := by
      rw [List.getLast?_eq_getElem?, length, window,
        List.getElem?_take_of_lt (by omega), List.getElem?_drop, position]
      exact List.getElem?_eq_getElem inside
    rw [lastReading_eq_getLast?, final]
    rfl
  rwa [window_eq_cons ordered inside, lastReading] at whole

/-- In every window of every run, the policer admits at most two seconds of the
configured rate plus what the rate earns between the window's first and last
clock reading. -/
theorem admittedBytes_window_le (direction : Direction) (limitKbps : UInt32)
    (rateState : RateState)
    (zeroed : rateState.lookupElem direction.key = some .zero)
    (packets : List Packet)
    (clock : packets.Pairwise fun earlier later => earlier.now ≤ later.now)
    (first last : Nat) (ordered : first ≤ last) (inside : last < packets.length) :
    admittedBytes (window first last
        (applyAll direction limitKbps rateState packets)) ≤
      2 * bytesPerSecond limitKbps + bytesPerSecond limitKbps *
        (packets[last].now.toNat - packets[first].now.toNat) / 10 ^ 9 := by
  have small : (limitBps limitKbps).toNat < 2 ^ 39 :=
    limitBps_toNat limitKbps ▸ bytesPerSecond_lt limitKbps
  rw [applyAll_eq_police direction limitKbps packets rateState _ zeroed]
  have initially : Within (limitBps limitKbps) .zero := Nat.zero_le _
  rcases police_drop small initially packets first with
    ⟨middle, within, dropped⟩
  have readings : (packets[first].now ::
      ((packets.drop (first + 1)).take (last - first)).map Packet.now).Pairwise
        (· ≤ ·) := by
    rw [← List.map_cons, ← window_eq_cons ordered inside, List.pairwise_map]
    exact (clock.sublist (List.drop_sublist _ _)).sublist (List.take_sublist _ _)
  have conformant := police_admittedBytes_le small within readings
  rw [lastReading_window ordered inside, limitBps_toNat] at conformant
  rw [window, dropped, police_take, ← window, window_eq_cons ordered inside]
  exact conformant

/-- Two seconds after boot a 8 kbps limit lets through one packet of its burst
and drops the next. -/
theorem admittedBytes_window_le_burst :
    admittedBytes (window 0 1 (applyAll .upload 8
      ⟨#v[.zero, .zero]⟩ [⟨2000000000, 900⟩, ⟨2000001000, 900⟩])) ≤
      2 * bytesPerSecond 8 + bytesPerSecond 8 * (2000001000 - 2000000000) / 10 ^ 9 :=
  admittedBytes_window_le .upload 8 ⟨#v[.zero, .zero]⟩ rfl
    [⟨2000000000, 900⟩, ⟨2000001000, 900⟩] (by decide) 0 1 (by decide) (by decide)

end Pidnl.Bpf
