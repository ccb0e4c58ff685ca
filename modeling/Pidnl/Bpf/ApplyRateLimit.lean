import Mathlib.Data.Nat.Basic
import Mathlib.Tactic.Common

/-! # The eBPF policer

`apply_rate_limit` and the two programs that call it, with the maps they share.
Arithmetic is the program's own: 64-bit words that wrap.
-/

namespace Pidnl.Bpf

inductive Direction
  | upload
  | download
deriving DecidableEq, Repr

/-- `DIRECTION_UPLOAD` and `DIRECTION_DOWNLOAD`, the keys of both maps. -/
def Direction.key : Direction → UInt32
  | .upload => 0
  | .download => 1

/-- The array map behind `BPF_MAP_TYPE_ARRAY`: every key below `maxEntries` is
always present. -/
structure ArrayMap (Value : Type) (maxEntries : Nat) where
  entries : Vector Value maxEntries
deriving DecidableEq

namespace ArrayMap

/-- `bpf_map_lookup_elem`, with `none` for the null pointer. -/
def lookupElem (map : ArrayMap Value maxEntries) (key : UInt32) : Option Value :=
  map.entries[key.toNat]?

/-- `bpf_map_update_elem`, or a write through the pointer a lookup returned. -/
def updateElem (map : ArrayMap Value maxEntries) (key : UInt32) (value : Value) :
    ArrayMap Value maxEntries :=
  ⟨map.entries.setIfInBounds key.toNat value⟩

theorem lookupElem_isSome (map : ArrayMap Value 2) (direction : Direction) :
    ∃ value, map.lookupElem direction.key = some value := by
  cases direction <;> simp [lookupElem, Direction.key]

@[simp] theorem lookupElem_updateElem (map : ArrayMap Value 2)
    (direction : Direction) (value : Value) :
    (map.updateElem direction.key value).lookupElem direction.key = some value := by
  cases direction <;> simp [lookupElem, updateElem, Direction.key]

theorem lookupElem_updateElem_of_ne (map : ArrayMap Value 2)
    {written read : Direction} (different : read ≠ written) (value : Value) :
    (map.updateElem written.key value).lookupElem read.key =
      map.lookupElem read.key := by
  cases written <;> cases read <;>
    simp_all [lookupElem, updateElem, Direction.key]

end ArrayMap

/-- A value of the `rate_state` map. Its spin lock is not data: the section it
guards is `lockedSection`, which runs as one step. -/
structure RateLimitState where
  tokens : UInt64
  lastUpdateNs : UInt64
deriving DecidableEq, Repr

def RateLimitState.zero : RateLimitState where
  tokens := 0
  lastUpdateNs := 0

/-- A program's return value: 1 lets the packet pass, 0 drops it. -/
inductive Verdict
  | drop
  | allow
deriving DecidableEq, Repr

abbrev RateState := ArrayMap RateLimitState 2
abbrev RateLimits := ArrayMap UInt32 2

def limitBps (limitKbps : UInt32) : UInt64 :=
  limitKbps.toUInt64 * 1000 / 8

/-- `tokens_to_add`: elapsed time in microseconds, capped at one second. -/
def tokensToAdd (limitBps now : UInt64) (state : RateLimitState) : UInt64 :=
  let elapsedUs := (now - state.lastUpdateNs) / 1000
  let elapsedUs := if elapsedUs > 1000000 then 1000000 else elapsedUs
  (limitBps * elapsedUs) / 1000000

/-- The tokens at hand when the packet is looked at: refilled, then capped. -/
def refilled (limitBps now : UInt64) (state : RateLimitState) : UInt64 :=
  let tokens := state.tokens + tokensToAdd limitBps now state
  let maxTokens := limitBps * 2
  if tokens > maxTokens then maxTokens else tokens

/-- `apply_rate_limit` between `bpf_spin_lock` and `bpf_spin_unlock`. -/
def lockedSection (limitBps now : UInt64) (packetSize : UInt32)
    (state : RateLimitState) : Verdict × RateLimitState :=
  let tokens := refilled limitBps now state
  if tokens ≥ packetSize.toUInt64 then
    (.allow, { tokens := tokens - packetSize.toUInt64, lastUpdateNs := now })
  else
    (.drop, { tokens := tokens, lastUpdateNs := now })

def applyRateLimit (direction limitKbps packetSize : UInt32) (now : UInt64)
    (rateState : RateState) : Verdict × RateState :=
  match rateState.lookupElem direction with
  | none => (.allow, rateState)
  | some state =>
      let result := lockedSection (limitBps limitKbps) now packetSize state
      (result.1, rateState.updateElem direction result.2)

/-- `egress_rl` and `ingress_rl` differ in the direction alone. -/
def cgroupSkbProgram (direction : Direction) (skbLen : UInt32) (now : UInt64)
    (rateLimits : RateLimits) (rateState : RateState) : Verdict × RateState :=
  match rateLimits.lookupElem direction.key with
  | none => (.allow, rateState)
  | some limit => applyRateLimit direction.key limit skbLen now rateState

def egressRl := cgroupSkbProgram .upload
def ingressRl := cgroupSkbProgram .download

/-! ## Runs -/

/-- A packet, with the reading of `bpf_ktime_get_ns` its handling takes. -/
structure Packet where
  now : UInt64
  size : UInt32
deriving DecidableEq, Repr

/-- A handled packet, with the map entry it met and the one it left. -/
structure Handled where
  packet : Packet
  before : RateLimitState
  after : RateLimitState
  verdict : Verdict
deriving DecidableEq, Repr

/-- Packets of one direction, handled one after another by `applyRateLimit`. -/
def applyAll (direction : Direction) (limitKbps : UInt32) (rateState : RateState) :
    List Packet → List Handled
  | [] => []
  | packet :: packets =>
      let result := applyRateLimit direction.key limitKbps packet.size packet.now
        rateState
      { packet := packet
        before := (rateState.lookupElem direction.key).getD .zero
        after := (result.2.lookupElem direction.key).getD .zero
        verdict := result.1 } :: applyAll direction limitKbps result.2 packets

def police (limitBps : UInt64) (state : RateLimitState) :
    List Packet → List Handled
  | [] => []
  | packet :: packets =>
      let result := lockedSection limitBps packet.now packet.size state
      { packet := packet
        before := state
        after := result.2
        verdict := result.1 } :: police limitBps result.2 packets

/-- In its direction the map entry is all that a run of `applyRateLimit` uses. -/
theorem applyAll_eq_police (direction : Direction) (limitKbps : UInt32)
    (packets : List Packet) : ∀ (rateState : RateState) (state : RateLimitState),
    rateState.lookupElem direction.key = some state →
    applyAll direction limitKbps rateState packets =
      police (limitBps limitKbps) state packets := by
  induction packets with
  | nil => intro _ _ _; rfl
  | cons packet packets induction =>
      intro rateState state found
      simp only [applyAll, police, applyRateLimit, found, Option.getD_some,
        ArrayMap.lookupElem_updateElem]
      rw [induction _ _ (ArrayMap.lookupElem_updateElem _ _ _)]

theorem applyRateLimit_other_direction {direction other : Direction}
    (different : other ≠ direction) (limitKbps packetSize : UInt32) (now : UInt64)
    (rateState : RateState) :
    (applyRateLimit direction.key limitKbps packetSize now
      rateState).2.lookupElem other.key = rateState.lookupElem other.key := by
  cases found : rateState.lookupElem direction.key with
  | none => simp [applyRateLimit, found]
  | some state =>
      simp only [applyRateLimit, found]
      exact ArrayMap.lookupElem_updateElem_of_ne rateState different _

theorem police_take (limitBps : UInt64) (state : RateLimitState)
    (packets : List Packet) (count : Nat) :
    (police limitBps state packets).take count =
      police limitBps state (packets.take count) := by
  induction packets generalizing state count with
  | nil => simp [police]
  | cons packet packets induction =>
      cases count with
      | zero => simp [police]
      | succ count => simp [police, induction]

def lastReading (start : UInt64) : List Packet → UInt64
  | [] => start
  | packet :: packets => lastReading packet.now packets

theorem lastReading_eq_getLast? (start : UInt64) (packets : List Packet) :
    lastReading start packets =
      (packets.getLast?.map Packet.now).getD start := by
  induction packets generalizing start with
  | nil => rfl
  | cons packet packets induction =>
      rw [lastReading, induction, List.getLast?_cons]
      cases packets.getLast? <;> rfl

end Pidnl.Bpf
