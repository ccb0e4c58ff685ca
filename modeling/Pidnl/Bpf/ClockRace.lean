import Pidnl.Foundation.Execution
import Pidnl.Bpf.LostRefill

/-! # Calls on several CPUs

`apply_rate_limit` reads the clock before it takes the lock. Calls on different
CPUs may therefore enter the locked section in another order than the one their
clock readings have. The machine below interleaves the two steps of any number
of calls.
-/

namespace Pidnl.Bpf

open Pidnl.Foundation

structure Race where
  clock : UInt64
  inFlight : List (Nat × Packet)
  entry : RateLimitState
  /-- The packets in the order in which their locked sections ran. -/
  lockOrder : List Packet

inductive RaceAction
  /-- A call takes its reading of the global clock. -/
  | readClock (call : Nat) (packet : Packet)
  /-- A call that has read the clock runs its locked section. -/
  | runLocked (call : Nat)

namespace Race

/-- Clock readings are at or after the entry's last update. -/
def start (entry : RateLimitState) : Race where
  clock := entry.lastUpdateNs
  inFlight := []
  entry := entry
  lockOrder := []

def step (limitBps : UInt64) (race : Race) : RaceAction → Option Race
  | .readClock call packet =>
      if race.clock ≤ packet.now ∧ race.inFlight.lookup call = none then
        some { race with
          clock := packet.now
          inFlight := (call, packet) :: race.inFlight }
      else
        none
  | .runLocked call =>
      match race.inFlight.lookup call with
      | none => none
      | some packet =>
          some { race with
            inFlight := race.inFlight.filter fun pending => pending.1 ≠ call
            entry := (lockedSection limitBps packet.now packet.size race.entry).2
            lockOrder := race.lockOrder ++ [packet] }

def handled (limitBps : UInt64) (entry : RateLimitState) (race : Race) :
    List Handled :=
  police limitBps entry race.lockOrder

/-- Credits stay within the rate and the clock kept in the entry never goes
back. -/
def Conforms (limitKbps : UInt32) (entry : RateLimitState) (race : Race) : Prop :=
  creditedTokens (limitBps limitKbps) (race.handled (limitBps limitKbps) entry) ≤
      bytesPerSecond limitKbps *
        (race.clock.toNat - entry.lastUpdateNs.toNat) / 10 ^ 9 ∧
    ∀ item ∈ race.handled (limitBps limitKbps) entry,
      item.before.lastUpdateNs ≤ item.after.lastUpdateNs

instance (limitKbps : UInt32) (entry : RateLimitState) (race : Race) :
    Decidable (Conforms limitKbps entry race) :=
  inferInstanceAs (Decidable (_ ∧ _))

def LockFollowsClock (race : Race) : Prop :=
  race.lockOrder.Pairwise fun earlier later => earlier.now ≤ later.now

instance (race : Race) : Decidable race.LockFollowsClock :=
  inferInstanceAs (Decidable (List.Pairwise _ _))

structure ReadingsBounded (entry : RateLimitState) (race : Race) : Prop where
  clock : entry.lastUpdateNs ≤ race.clock
  inFlight : ∀ pending ∈ race.inFlight,
    entry.lastUpdateNs ≤ pending.2.now ∧ pending.2.now ≤ race.clock
  lockOrder : ∀ packet ∈ race.lockOrder,
    entry.lastUpdateNs ≤ packet.now ∧ packet.now ≤ race.clock

theorem start_readingsBounded (entry : RateLimitState) :
    (start entry).ReadingsBounded entry where
  clock := UInt64.le_refl _
  inFlight := by simp [start]
  lockOrder := by simp [start]

theorem mem_of_lookup {call : Nat} {packet : Packet}
    {inFlight : List (Nat × Packet)}
    (found : inFlight.lookup call = some packet) : (call, packet) ∈ inFlight := by
  induction inFlight with
  | nil => simp at found
  | cons pending inFlight induction =>
      rw [List.lookup_cons] at found
      split at found
      · rename_i same
        cases found
        rw [beq_iff_eq] at same
        simp [same]
      · exact List.mem_cons_of_mem _ (induction found)

theorem step_readingsBounded {limitBps : UInt64} {entry : RateLimitState}
    {race next : Race} {action : RaceAction} (bounded : race.ReadingsBounded entry)
    (stepped : race.step limitBps action = some next) :
    next.ReadingsBounded entry := by
  cases action with
  | readClock call packet =>
      simp only [step, Option.ite_none_right_eq_some, Option.some.injEq]
        at stepped
      rcases stepped with ⟨⟨advances, _⟩, rfl⟩
      have later : ∀ {reading : UInt64}, reading ≤ race.clock →
          reading ≤ packet.now := fun before => UInt64.le_trans before advances
      refine ⟨later bounded.clock, ?_, ?_⟩
      · intro pending member
        rcases List.mem_cons.mp member with rfl | member
        · exact ⟨later bounded.clock, UInt64.le_refl _⟩
        · have between := bounded.inFlight pending member
          exact ⟨between.1, later between.2⟩
      · intro item member
        have between := bounded.lockOrder item member
        exact ⟨between.1, later between.2⟩
  | runLocked call =>
      simp only [step] at stepped
      split at stepped
      · contradiction
      · rename_i packet found
        cases stepped
        refine ⟨bounded.clock, ?_, ?_⟩
        · intro pending member
          exact bounded.inFlight pending (List.mem_of_mem_filter member)
        · intro item member
          rcases List.mem_append.mp member with member | member
          · exact bounded.lockOrder item member
          · rw [List.mem_singleton] at member
            subst item
            exact bounded.inFlight _ (mem_of_lookup found)

theorem run_readingsBounded {limitBps : UInt64} {entry : RateLimitState}
    {race : Race} {actions : List RaceAction}
    (run : perform (step limitBps) (start entry) actions = some race) :
    race.ReadingsBounded entry :=
  perform.invariant (fun _ _ _ => step_readingsBounded)
    (start_readingsBounded entry) run

end Race

theorem police_monotone_iff (limitBps : UInt64) (state : RateLimitState)
    (packets : List Packet) :
    (∀ item ∈ police limitBps state packets,
        item.before.lastUpdateNs ≤ item.after.lastUpdateNs) ↔
      (state.lastUpdateNs :: packets.map Packet.now).Pairwise (· ≤ ·) := by
  rw [← List.isChain_iff_pairwise]
  induction packets generalizing state with
  | nil => simp [police]
  | cons packet packets induction =>
      rw [police, List.forall_mem_cons, List.map_cons, List.isChain_cons_cons,
        induction, lockedSection_lastUpdateNs]

theorem creditedTokens_le_totalCredit (limitBps : UInt64) (handled : List Handled) :
    creditedTokens limitBps handled ≤
      Entry.totalCredit (handled.map (account limitBps)) := by
  induction handled with
  | nil => exact Nat.le_refl _
  | cons item handled induction =>
      have added : (refilled limitBps item.packet.now item.before).toNat -
          item.before.tokens.toNat ≤
          (tokensToAdd limitBps item.packet.now item.before).toNat := by
        have sum := UInt64.toNat_add item.before.tokens
          (tokensToAdd limitBps item.packet.now item.before)
        simp only [refilled]
        split
        · rename_i exceeds
          have exceedsNat := UInt64.lt_iff_toNat_lt.mp exceeds
          omega
        · omega
      simp only [creditedTokens, List.map_cons, List.sum_cons,
        Entry.totalCredit_cons] at induction ⊢
      exact Nat.add_le_add added induction

namespace Race

/-- Over every interleaving of any number of calls, the run conforms if and only
if the lock was taken in the order of the clock readings. -/
theorem conforms_iff_lockFollowsClock (limitKbps : UInt32)
    (entry : RateLimitState) (actions : List RaceAction) (race : Race)
    (run : perform (step (limitBps limitKbps)) (start entry) actions = some race) :
    race.Conforms limitKbps entry ↔ race.LockFollowsClock := by
  have bounded := run_readingsBounded run
  have readings : (entry.lastUpdateNs :: race.lockOrder.map Packet.now).Pairwise
      (· ≤ ·) ↔ race.LockFollowsClock := by
    rw [List.pairwise_cons, List.pairwise_map]
    constructor
    · exact fun both => both.2
    · intro follows
      refine ⟨?_, follows⟩
      intro reading member
      rcases List.mem_map.mp member with ⟨packet, packetMember, rfl⟩
      exact (bounded.lockOrder packet packetMember).1
  rw [← readings, ← police_monotone_iff (limitBps limitKbps)]
  constructor
  · exact fun conforms => conforms.2
  · intro monotone
    refine ⟨?_, monotone⟩
    have small : (limitBps limitKbps).toNat < 2 ^ 39 :=
      limitBps_toNat limitKbps ▸ bytesPerSecond_lt limitKbps
    have ordered := (police_monotone_iff _ _ _).mp monotone
    have lastRead : lastReading entry.lastUpdateNs race.lockOrder ≤ race.clock := by
      rw [lastReading_eq_getLast?]
      cases last : race.lockOrder.getLast? with
      | none => exact bounded.clock
      | some packet =>
          exact (bounded.lockOrder packet (List.mem_of_getLast? last)).2
    have lastReadNat := UInt64.le_iff_toNat_le.mp lastRead
    calc creditedTokens (limitBps limitKbps)
          (race.handled (limitBps limitKbps) entry)
        ≤ allowance (limitBps limitKbps).toNat
            ((lastReading entry.lastUpdateNs race.lockOrder).toNat -
              entry.lastUpdateNs.toNat) :=
          (creditedTokens_le_totalCredit _ _).trans
            (police_totalCredit_le small ordered)
      _ ≤ bytesPerSecond limitKbps *
            (race.clock.toNat - entry.lastUpdateNs.toNat) / 10 ^ 9 := by
          rw [limitBps_toNat]
          apply Nat.div_le_div_right
          apply Nat.mul_le_mul_left
          omega

/-- Two CPUs read the clock at 1 and 2 µs; the later reading wins the lock. -/
def overtaking : List RaceAction :=
  [.readClock 0 ⟨1000, 100⟩, .readClock 1 ⟨2000, 100⟩, .runLocked 1, .runLocked 0]

def overtaken : Race where
  clock := 2000
  inFlight := []
  entry := { tokens := 999902, lastUpdateNs := 1000 }
  lockOrder := [⟨2000, 100⟩, ⟨1000, 100⟩]

theorem conforms_iff_lockFollowsClock_overtaken :
    overtaken.Conforms 8000 .zero ↔ overtaken.LockFollowsClock :=
  conforms_iff_lockFollowsClock 8000 .zero overtaking overtaken (by rfl)

/-- The overtaken call meets a later clock, its unsigned difference wraps, and a
whole second of tokens is credited within 2 µs. -/
theorem overtaking_not_conforms :
    ¬ ∀ (limitKbps : UInt32) (entry : RateLimitState) (actions : List RaceAction)
        (race : Race),
        perform (step (limitBps limitKbps)) (start entry) actions = some race →
        race.Conforms limitKbps entry := by
  intro conforms
  have overtakes := conforms 8000 .zero overtaking overtaken (by rfl)
  exact absurd overtakes (by decide)

end Race

end Pidnl.Bpf
