import Pidnl.Bpf.Refill
import Pidnl.Foundation.TokenBucket

/-! # The policer as a token bucket

The locked section over 64-bit words does what a token bucket over the natural
numbers does, which earns the configured rate and holds two seconds of it.
-/

namespace Pidnl.Bpf

open Pidnl.Foundation

def bucketMeter (limitKbps : UInt32) : TokenMeter UInt64 Nat where
  capacity := 2 * bytesPerSecond limitKbps
  earned := fun last now => refill (bytesPerSecond limitKbps) (now - last).toNat

def emptyBucket : TokenBucket UInt64 Nat where
  tokens := 0
  last := 0

def Packet.offered (packet : Packet) : UInt64 × Nat :=
  (packet.now, packet.size.toNat)

/-- The verdict of a bucket with the limit that has been offered these packets, and
no others, on one more. -/
def bucketVerdict (limitKbps : UInt32) (packets : List Packet) (packet : Packet) :
    Verdict :=
  let bucket := emptyBucket.after (bucketMeter limitKbps) (packets.map Packet.offered)
  if (bucket.offer (bucketMeter limitKbps) packet.now packet.size.toNat).1 then .allow
  else .drop

structure IsBucket (limitKbps : UInt32) (state : RateLimitState)
    (bucket : TokenBucket UInt64 Nat) : Prop where
  within : Within (limitBps limitKbps) state
  tokens : state.tokens.toNat = bucket.tokens
  last : state.lastUpdateNs = bucket.last

theorem isBucket_zero (limitKbps : UInt32) : IsBucket limitKbps .zero emptyBucket :=
  ⟨Nat.zero_le _, rfl, rfl⟩

variable {limitKbps : UInt32} {state : RateLimitState}
  {bucket : TokenBucket UInt64 Nat}

theorem refilled_of_isBucket (isBucket : IsBucket limitKbps state bucket) (now : UInt64) :
    (refilled (limitBps limitKbps) now state).toNat =
      bucket.filled (bucketMeter limitKbps) now := by
  rw [refilled_toNat (small_limitBps limitKbps) now isBucket.within,
    tokensToAdd_toNat (small_limitBps limitKbps), limitBps_toNat, isBucket.tokens,
    isBucket.last]
  rfl

theorem lockedSection_of_isBucket (isBucket : IsBucket limitKbps state bucket)
    (packet : Packet) :
    let offered := bucket.offer (bucketMeter limitKbps) packet.now packet.size.toNat
    let result := lockedSection (limitBps limitKbps) packet.now packet.size state
    result.1 = (if offered.1 then .allow else .drop) ∧
      IsBucket limitKbps result.2 offered.2 := by
  intro offered result
  have within : Within (limitBps limitKbps) result.2 :=
    lockedSection_within (small_limitBps limitKbps) packet.now packet.size state
  have filled := refilled_of_isBucket isBucket packet.now
  have enough : refilled (limitBps limitKbps) packet.now state ≥ packet.size.toUInt64 ↔
      packet.size.toNat ≤ bucket.filled (bucketMeter limitKbps) packet.now := by
    rw [ge_iff_le, UInt64.le_iff_toNat_le, UInt32.toNat_toUInt64, filled]
  by_cases holds : packet.size.toNat ≤ bucket.filled (bucketMeter limitKbps) packet.now
  · have isOffered : offered = (true, ⟨bucket.filled (bucketMeter limitKbps) packet.now -
      packet.size.toNat, packet.now⟩) := if_pos holds
    have isResult : result = (.allow, ⟨refilled (limitBps limitKbps) packet.now state -
      packet.size.toUInt64, packet.now⟩) := if_pos (enough.mpr holds)
    rw [isResult] at within
    rw [isOffered, isResult]
    refine ⟨rfl, within, ?_, rfl⟩
    rw [UInt64.toNat_sub_of_le _ _ (enough.mpr holds), filled, UInt32.toNat_toUInt64]
  · have isOffered : offered = (false,
      ⟨bucket.filled (bucketMeter limitKbps) packet.now, packet.now⟩) := if_neg holds
    have isResult : result = (.drop,
      ⟨refilled (limitBps limitKbps) packet.now state, packet.now⟩) :=
      if_neg fun more => holds (enough.mp more)
    rw [isResult] at within
    rw [isOffered, isResult]
    exact ⟨rfl, within, filled, rfl⟩

theorem bucketVerdict_of_isBucket {packets : List Packet}
    (isBucket : IsBucket limitKbps state
      (emptyBucket.after (bucketMeter limitKbps) (packets.map Packet.offered)))
    (packet : Packet) :
    let result := lockedSection (limitBps limitKbps) packet.now packet.size state
    result.1 = bucketVerdict limitKbps packets packet ∧
      IsBucket limitKbps result.2 (emptyBucket.after (bucketMeter limitKbps)
        ((packets ++ [packet]).map Packet.offered)) := by
  rcases lockedSection_of_isBucket isBucket packet with ⟨verdict, next⟩
  refine ⟨verdict, ?_⟩
  rw [List.map_append, List.map_singleton, TokenBucket.after_concat]
  exact next

end Pidnl.Bpf
