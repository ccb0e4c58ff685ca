import Pidnl.Ratelimit.Settled
import Pidnl.Bpf.Bucket

/-! # Packets of a cgroup

A packet meets every program that is attached at its direction's hook. What a
direction's packets can change is that direction's entry in the map of the programs
they meet.
-/

namespace Pidnl.Ratelimit

open Pidnl.Foundation Pidnl.System
open Pidnl.Bpf (Packet Verdict RateLimitState)

def runProgram (kernel : Kernel) (attachType : AttachType) (packet : Packet)
    (id : LinkId) : Verdict × Kernel :=
  let object := (kernel.links id).object
  let maps := kernel.objects object
  let result := Pidnl.Bpf.cgroupSkbProgram attachType.direction packet.size packet.now
    maps.rateLimits maps.rateState
  (result.1,
    { kernel with
      objects := Function.update kernel.objects object
        { maps with rateState := result.2 } })

def receive (kernel : Kernel) (cgroup : CgroupId) (attachType : AttachType)
    (packet : Packet) : Verdict × Kernel :=
  (kernel.attached cgroup attachType).foldl
    (fun outcome id =>
      let result := runProgram outcome.2 attachType packet id
      (if outcome.1 = .drop then .drop else result.1, result.2))
    (.allow, kernel)

def limitFor (kernel : Kernel) (attachType : AttachType) (object : ObjectId) :
    Option UInt32 :=
  (kernel.objects object).rateLimits.lookupElem attachType.direction.key

def stateFor (kernel : Kernel) (attachType : AttachType) (object : ObjectId) :
    Option RateLimitState :=
  (kernel.objects object).rateState.lookupElem attachType.direction.key

/-- What polices a direction: the limit and the bucket of each attached program. -/
def policers (kernel : Kernel) (cgroup : CgroupId) (attachType : AttachType) :
    List (Option UInt32 × Option RateLimitState) :=
  (kernel.attached cgroup attachType).map fun id =>
    (limitFor kernel attachType (kernel.links id).object,
      stateFor kernel attachType (kernel.links id).object)

variable {kernel after : Kernel} {cgroup : CgroupId} {attachType : AttachType}

theorem policers_eq_nil :
    policers kernel cgroup attachType = [] ↔
      kernel.attached cgroup attachType = [] :=
  List.map_eq_nil_iff

/-! ## What is attached -/

/-- No number that has not been given out is a link that lives. -/
def Unused (kernel : Kernel) : Prop :=
  ∀ id, kernel.nextId ≤ id → (kernel.links id).refs = 0

theorem Settled.unused (settled : Settled kernel) : Unused kernel := by
  intro id fresh
  by_contra lives
  rcases settled.pinned id (Nat.pos_of_ne_zero lives) with ⟨path, found⟩
  exact absurd (settled.pinIds path id found).1 (Nat.not_lt.mpr fresh)

theorem mem_attached_iff (unused : Unused kernel) (id : LinkId) :
    id ∈ kernel.attached cgroup attachType ↔
      kernel.IsAttached cgroup attachType id := by
  rw [Kernel.attached, List.mem_filter, decide_eq_true_eq, List.mem_range]
  constructor
  · exact And.right
  · intro isAttached
    refine ⟨?_, isAttached⟩
    by_contra fresh
    have dead := unused id (Nat.not_lt.mp fresh)
    have lives := isAttached.1
    omega

theorem attached_eq_nil_iff (unused : Unused kernel) :
    kernel.attached cgroup attachType = [] ↔
      ∀ id, ¬ kernel.IsAttached cgroup attachType id := by
  rw [List.eq_nil_iff_forall_not_mem]
  simp only [mem_attached_iff unused]

theorem attached_congr (unused : Unused kernel) (nextId : kernel.nextId ≤ after.nextId)
    (same : ∀ id, after.IsAttached cgroup attachType id ↔
      kernel.IsAttached cgroup attachType id) :
    after.attached cgroup attachType = kernel.attached cgroup attachType := by
  rcases Nat.exists_eq_add_of_le nextId with ⟨more, isMore⟩
  have none : ((List.range more).map (kernel.nextId + ·)).filter
      (fun id => decide (after.IsAttached cgroup attachType id)) = [] := by
    rw [List.filter_eq_nil_iff]
    intro id member isAttached
    rcases List.mem_map.mp member with ⟨offset, _, rfl⟩
    have lives := ((same _).mp (of_decide_eq_true isAttached)).1
    have dead := unused (kernel.nextId + offset) (Nat.le_add_right _ _)
    omega
  rw [Kernel.attached, Kernel.attached, isMore, List.range_add, List.filter_append, none,
    List.append_nil]
  apply List.filter_congr
  intro id _
  exact decide_eq_decide.mpr (same id)

theorem attached_eq_singleton (unused : Unused kernel) {id : LinkId}
    (only : ∀ other, kernel.IsAttached cgroup attachType other ↔ other = id) :
    kernel.attached cgroup attachType = [id] := by
  have used : id < kernel.nextId := by
    by_contra fresh
    have dead := unused id (Nat.not_lt.mp fresh)
    have lives := ((only id).mpr rfl).1
    omega
  have same : ∀ other ∈ List.range kernel.nextId,
      decide (kernel.IsAttached cgroup attachType other) = (other == id) := by
    intro other _
    rw [Bool.eq_iff_iff, decide_eq_true_eq, beq_iff_eq]
    exact only other
  rw [Kernel.attached, List.filter_congr same, List.filter_beq,
    List.count_eq_one_of_mem List.nodup_range (List.mem_range.mpr used),
    List.replicate_one]

theorem policers_congr (unused : Unused kernel) (nextId : kernel.nextId ≤ after.nextId)
    (same : ∀ id, after.IsAttached cgroup attachType id ↔
      kernel.IsAttached cgroup attachType id)
    (entries : ∀ id, kernel.IsAttached cgroup attachType id →
      limitFor after attachType (after.links id).object =
          limitFor kernel attachType (kernel.links id).object ∧
        stateFor after attachType (after.links id).object =
          stateFor kernel attachType (kernel.links id).object) :
    policers after cgroup attachType = policers kernel cgroup attachType := by
  rw [policers, policers, attached_congr unused nextId same]
  apply List.map_congr_left
  intro id member
  have equal := entries id ((mem_attached_iff unused id).mp member)
  rw [equal.1, equal.2]

/-! ## What packets change -/

/-- What packets may have done: they change entries of maps, and none of a direction
in which no program is attached. -/
structure Traffic (cgroup : CgroupId) (before after : Kernel) : Prop where
  same : after = { before with objects := after.objects }
  limits : ∀ attachType object,
    limitFor after attachType object = limitFor before attachType object
  states : ∀ attachType, before.attached cgroup attachType = [] → ∀ object,
    stateFor after attachType object = stateFor before attachType object

namespace Traffic

variable {first second third : Kernel}

theorem refl (kernel : Kernel) : Traffic cgroup kernel kernel :=
  ⟨rfl, fun _ _ => rfl, fun _ _ _ => rfl⟩

theorem attached (traffic : Traffic cgroup first second) (attachType : AttachType) :
    second.attached cgroup attachType = first.attached cgroup attachType := by
  rw [traffic.same]
  rfl

theorem trans (earlier : Traffic cgroup first second)
    (later : Traffic cgroup second third) : Traffic cgroup first third := by
  refine ⟨?_, ?_, ?_⟩
  · have sameSecond := earlier.same
    have sameThird := later.same
    rw [sameSecond] at sameThird
    exact sameThird
  · intro attachType object
    rw [later.limits, earlier.limits]
  · intro attachType none object
    rw [later.states attachType ((earlier.attached attachType).trans none),
      earlier.states attachType none]

end Traffic

theorem limitFor_runProgram (kernel : Kernel) (attachType other : AttachType)
    (packet : Packet) (id : LinkId) (object : ObjectId) :
    limitFor (runProgram kernel attachType packet id).2 other object =
      limitFor kernel other object := by
  simp only [limitFor, runProgram, Function.update_apply]
  split
  · rename_i same
    rw [same]
  · rfl

theorem stateFor_runProgram_of_ne (kernel : Kernel) {attachType other : AttachType}
    (different : other ≠ attachType) (packet : Packet) (id : LinkId)
    (object : ObjectId) :
    stateFor (runProgram kernel attachType packet id).2 other object =
      stateFor kernel other object := by
  simp only [stateFor, runProgram, Function.update_apply]
  split
  · rename_i same
    rw [same]
    simp only [Pidnl.Bpf.cgroupSkbProgram]
    split
    · rfl
    · apply Pidnl.Bpf.applyRateLimit_other_direction
      exact fun equal => different (AttachType.direction_injective equal)
  · rfl

/-- The program behind a link gives the verdict of its entry, and leaves the entry as
the locked section does. -/
theorem runProgram_of_entry {id : LinkId} {limit : UInt32} {state : RateLimitState}
    (isLimit : limitFor kernel attachType (kernel.links id).object = some limit)
    (isState : stateFor kernel attachType (kernel.links id).object = some state)
    (packet : Packet) :
    let result := Pidnl.Bpf.lockedSection (Pidnl.Bpf.limitBps limit) packet.now
      packet.size state
    let outcome := runProgram kernel attachType packet id
    outcome.1 = result.1 ∧
      stateFor outcome.2 attachType (kernel.links id).object = some result.2 := by
  intro result outcome
  have program : Pidnl.Bpf.cgroupSkbProgram attachType.direction packet.size packet.now
      (kernel.objects (kernel.links id).object).rateLimits
      (kernel.objects (kernel.links id).object).rateState =
      (result.1, (kernel.objects (kernel.links id).object).rateState.updateElem
        attachType.direction.key result.2) := by
    rw [limitFor] at isLimit
    rw [stateFor] at isState
    simp only [Pidnl.Bpf.cgroupSkbProgram, isLimit, Pidnl.Bpf.applyRateLimit, isState]
    rfl
  constructor
  · exact congrArg Prod.fst program
  · simp only [outcome, runProgram, program, stateFor, Function.update_self,
      Pidnl.Bpf.ArrayMap.lookupElem_updateElem]

theorem receive_of_one {id : LinkId} (attached : kernel.attached cgroup attachType = [id])
    (packet : Packet) :
    receive kernel cgroup attachType packet = runProgram kernel attachType packet id := by
  rw [receive, attached]
  rfl

theorem receive_of_none (none : kernel.attached cgroup attachType = [])
    (packet : Packet) :
    receive kernel cgroup attachType packet = (.allow, kernel) := by
  rw [receive, none]
  rfl

theorem policers_runProgram_of_ne {other : AttachType} (different : other ≠ attachType)
    (packet : Packet) (id : LinkId) :
    policers (runProgram kernel attachType packet id).2 cgroup other =
      policers kernel cgroup other := by
  have attached : (runProgram kernel attachType packet id).2.attached cgroup other =
    kernel.attached cgroup other := rfl
  rw [policers, policers, attached]
  apply List.map_congr_left
  intro link _
  have links : (runProgram kernel attachType packet id).2.links link =
    kernel.links link := rfl
  rw [links, limitFor_runProgram, stateFor_runProgram_of_ne kernel different]

theorem traffic_runProgram {id : LinkId}
    (attached : kernel.attached cgroup attachType = [id]) (packet : Packet) :
    Traffic cgroup kernel (runProgram kernel attachType packet id).2 := by
  refine ⟨rfl, ?_, ?_⟩
  · intro other object
    exact limitFor_runProgram kernel attachType other packet id object
  · intro other none object
    apply stateFor_runProgram_of_ne
    intro same
    rw [same, attached] at none
    contradiction

end Pidnl.Ratelimit
