import Pidnl.Monitor.Ledger

/-! # What a ledger keeps

An operation leaves the limits alone that it does not concern, as long as the daemon does not
take their pids for earlier processes. Where it does, they are as good as removed.
-/

namespace Pidnl.Monitor.Ledger

open Pidnl.Foundation Pidnl.Ratelimit

variable {ledger : Ledger} {operation : Operation} {pid : Int32}

/-! ## What a ledger keeps -/

theorem seen_iff :
    ledger.seen pid = true ↔ ledger.running pid = true ∧ ledger.stale pid = false := by
  rw [seen, Bool.and_eq_true_iff, Bool.not_eq_true']

@[simp] theorem running_apply (ledger : Ledger) (operation : Operation) :
    (ledger.apply operation).running = ledger.running := by
  cases operation with
  | limitProcessBandwidth pid config =>
      rw [apply]
      split
      · rfl
      · split <;> rfl
  | unregisterRateLimiterByPid pid => rfl
  | ratelimitCleanupAll => rfl

theorem stale_of_apply (isStale : (ledger.apply operation).stale pid = true) :
    ledger.stale pid = true := by
  cases operation with
  | limitProcessBandwidth other config =>
      rw [apply] at isStale
      split at isStale
      · exact isStale
      · split at isStale
        · contradiction
        · exact isStale
  | unregisterRateLimiterByPid other => contradiction
  | ratelimitCleanupAll => contradiction

theorem seen_apply (seen : ledger.seen pid = true) (operation : Operation) :
    (ledger.apply operation).seen pid = true := by
  rw [seen_iff] at seen ⊢
  rw [running_apply]
  refine ⟨seen.1, Bool.eq_false_iff.mpr fun isStale => ?_⟩
  exact Bool.false_ne_true (seen.2.symm.trans (stale_of_apply isStale))

theorem seen_reap (seen : ledger.seen pid = true) : ledger.reap.seen pid = true :=
  seen_iff.mpr ⟨(seen_iff.mp seen).1, rfl⟩

theorem limits_reap_of_seen (seen : ledger.seen pid = true) :
    ledger.reap.limits pid = ledger.limits pid := by
  apply if_neg
  intro ended
  rw [seen] at ended
  exact absurd ended.2 (by decide)

theorem limits_reap_watch (seen : ledger.seen pid = true) (limits : LimitStore)
    (other : Int32) : ((ledger.withLimits limits).watch other).reap.limits pid = limits pid := by
  have still : ((ledger.withLimits limits).watch other).seen pid = true := seen
  exact limits_reap_of_seen still

theorem limits_reap_unwatch (seen : ledger.seen pid = true) (limits : LimitStore)
    (other : Int32) :
    ((ledger.withLimits limits).unwatch other).reap.limits pid = limits pid := by
  have still : ((ledger.withLimits limits).unwatch other).seen pid = true := seen
  exact limits_reap_of_seen still

theorem limits_apply_of_spares (seen : ledger.seen pid = true)
    (spares : operation.Spares pid) :
    (ledger.apply operation).limits pid = ledger.limits pid := by
  cases operation with
  | limitProcessBandwidth other config =>
      have different : pid ≠ other := Ne.symm spares
      simp only [apply]
      split
      · rfl
      · split
        · exact (limits_reap_watch seen _ other).trans (Function.update_of_ne different _ _)
        · exact Function.update_of_ne different _ _
  | unregisterRateLimiterByPid other =>
      have different : pid ≠ other := Ne.symm spares
      exact (limits_reap_unwatch seen _ other).trans (Function.update_of_ne different _ _)
  | ratelimitCleanupAll => exact absurd spares id

/-- A process that runs gets its limit, unless its pid is watched for another one. -/
theorem limits_apply_self {config : RateLimitConfig} (positive : 0 < pid)
    (seen : ledger.seen pid = true) :
    (ledger.apply (.limitProcessBandwidth pid config)).limits pid = some config := by
  simp only [apply, if_neg (Int32.not_le.mpr positive), if_pos (seen_iff.mp seen).1]
  exact (limits_reap_watch seen _ pid).trans (Function.update_self _ _ _)

theorem limits_of_reap {config : RateLimitConfig}
    (left : ledger.reap.limits pid = some config) : ledger.limits pid = some config := by
  simp only [reap] at left
  split at left
  · contradiction
  · exact left

theorem limits_apply_cases {config : RateLimitConfig}
    (limited : (ledger.apply operation).limits pid = some config) :
    ledger.limits pid = some config ∨
      operation = .limitProcessBandwidth pid config ∧ ledger.running pid = true := by
  cases operation with
  | limitProcessBandwidth other others =>
      simp only [apply] at limited
      split at limited
      · exact .inl limited
      split at limited
      · rename_i running
        have set := limits_of_reap limited
        simp only [watch, withLimits, LimitStore.apply, Function.update_apply] at set
        split at set
        · rename_i same
          subst same
          cases set
          exact .inr ⟨rfl, running⟩
        · exact .inl set
      · simp only [withLimits, Function.update_apply] at limited
        split at limited
        · contradiction
        · exact .inl limited
  | unregisterRateLimiterByPid other =>
      left
      have kept := limits_of_reap limited
      simp only [unwatch, withLimits, LimitStore.apply, Function.update_apply] at kept
      split at kept
      · contradiction
      · exact kept
  | ratelimitCleanupAll => cases limited

/-! ## No limit that is not watched -/

def AllWatched (ledger : Ledger) : Prop :=
  ∀ pid, (ledger.limits pid).isSome → pid ∈ ledger.watched

/-- There is room to watch the process that a limit is for. -/
def Room (ledger : Ledger) : Operation → Prop
  | .limitProcessBandwidth pid _ => pid ∈ ledger.watched ∨ ¬ ledger.watched.IsFull
  | _ => True

theorem AllWatched.reap (allWatched : ledger.AllWatched) : ledger.reap.AllWatched := by
  intro pid limited
  simp only [Ledger.reap] at limited
  split at limited
  · contradiction
  · rename_i alive
    have watched := allWatched pid limited
    apply BoundedSet.mem_filter.mpr
    refine ⟨watched, ?_⟩
    by_contra ended
    exact alive ⟨watched, Bool.eq_false_iff.mpr ended⟩

theorem AllWatched.apply (allWatched : ledger.AllWatched) (room : ledger.Room operation) :
    (ledger.apply operation).AllWatched := by
  cases operation with
  | limitProcessBandwidth pid config =>
      simp only [Ledger.apply]
      split
      · exact allWatched
      · split
        · apply AllWatched.reap
          intro other limited
          apply BoundedSet.mem_insertIfRoom.mpr
          by_cases same : other = pid
          · subst same
            exact room.imp id fun room => ⟨rfl, room⟩
          · left
            apply allWatched
            exact (congrArg Option.isSome (Function.update_of_ne same _ _)).symm.trans limited
        · intro other limited
          by_cases same : other = pid
          · subst same
            simp [withLimits] at limited
          · apply allWatched
            exact (congrArg Option.isSome (Function.update_of_ne same _ _)).symm.trans limited
  | unregisterRateLimiterByPid pid =>
      apply AllWatched.reap
      intro other limited
      apply BoundedSet.mem_erase.mpr
      by_cases same : other = pid
      · subst same
        simp [unwatch, withLimits, LimitStore.apply] at limited
      · refine ⟨same, allWatched other ?_⟩
        exact (congrArg Option.isSome (Function.update_of_ne same _ _)).symm.trans limited
  | ratelimitCleanupAll => exact fun pid limited => absurd limited Bool.false_ne_true

theorem watched_apply_self {config : RateLimitConfig} (positive : 0 < pid)
    (seen : ledger.seen pid = true)
    (room : ledger.Room (.limitProcessBandwidth pid config)) :
    pid ∈ (ledger.apply (.limitProcessBandwidth pid config)).watched := by
  simp only [apply, if_neg (Int32.not_le.mpr positive), if_pos (seen_iff.mp seen).1]
  apply BoundedSet.mem_filter.mpr
  exact ⟨BoundedSet.mem_insertIfRoom.mpr (room.imp id fun free => ⟨rfl, free⟩), seen⟩

/-! ## Limits that are to be removed -/

def Lost (ledger : Ledger) (pid : Int32) : Prop :=
  pid ∈ ledger.watched ∧ ledger.seen pid = false

theorem Lost.limits_reap (lost : ledger.Lost pid) : ledger.reap.limits pid = none :=
  if_pos lost

theorem lost_of_stale (member : pid ∈ ledger.watched) (isStale : ledger.stale pid = true) :
    ledger.Lost pid := by
  refine ⟨member, ?_⟩
  rw [seen, isStale, Bool.not_true, Bool.and_false]

/-- The limit of a process whose pid is watched for another one is gone at once. -/
theorem Lost.limits_apply_self {config : RateLimitConfig} (lost : ledger.Lost pid)
    (positive : 0 < pid) (running : ledger.running pid = true) :
    (ledger.apply (.limitProcessBandwidth pid config)).limits pid = none := by
  have still : ((ledger.withLimits (ledger.limits.apply
      (.limitProcessBandwidth pid config))).watch pid).Lost pid :=
    ⟨BoundedSet.mem_insertIfRoom.mpr (.inl lost.1), lost.2⟩
  simp only [apply, if_neg (Int32.not_le.mpr positive), if_pos running]
  exact still.limits_reap

theorem Lost.apply {config : RateLimitConfig} (lost : ledger.Lost pid)
    (limited : (ledger.apply operation).limits pid = some config) :
    (ledger.apply operation).Lost pid := by
  cases operation with
  | limitProcessBandwidth other others =>
      simp only [Ledger.apply] at limited ⊢
      split at limited
      · rename_i notPositive
        rw [if_pos notPositive]
        exact lost
      rename_i positive
      split at limited
      · have still : ((ledger.withLimits (ledger.limits.apply
            (.limitProcessBandwidth other others))).watch other).Lost pid :=
          ⟨BoundedSet.mem_insertIfRoom.mpr (.inl lost.1), lost.2⟩
        rw [still.limits_reap] at limited
        contradiction
      · rename_i notRunning
        rw [if_neg positive, if_neg notRunning]
        exact lost
  | unregisterRateLimiterByPid other =>
      by_cases same : pid = other
      · subst same
        have left : Function.update ledger.limits pid none pid = some config :=
          limits_of_reap limited
        rw [Function.update_self] at left
        contradiction
      · have still : ((ledger.withLimits (ledger.limits.apply
            (.unregisterRateLimiterByPid other))).unwatch other).Lost pid :=
          ⟨BoundedSet.mem_erase.mpr ⟨same, lost.1⟩, lost.2⟩
        have left : ((ledger.withLimits (ledger.limits.apply
            (.unregisterRateLimiterByPid other))).unwatch other).reap.limits pid =
          some config := limited
        rw [still.limits_reap] at left
        contradiction
  | ratelimitCleanupAll => cases limited

theorem Lost.starts (lost : ledger.Lost pid) (other : Int32) : (ledger.starts other).Lost pid := by
  rw [Ledger.starts]
  split
  · exact lost
  · by_cases same : pid = other
    · subst same
      refine ⟨lost.1, ?_⟩
      simp [Ledger.seen, lost.1]
    · refine ⟨lost.1, ?_⟩
      have seen := lost.2
      simp only [Ledger.seen, setRunning, Function.update_of_ne same] at seen ⊢
      exact seen

theorem Lost.exits (lost : ledger.Lost pid) (other : Int32) : (ledger.exits other).Lost pid := by
  refine ⟨lost.1, ?_⟩
  have seen := lost.2
  by_cases same : pid = other
  · subst same
    simp [Ledger.seen, Ledger.exits, setRunning]
  · simp only [Ledger.seen, Ledger.exits, setRunning, Function.update_of_ne same] at seen ⊢
    exact seen

theorem lost_of_exits (member : pid ∈ ledger.watched) : (ledger.exits pid).Lost pid := by
  refine ⟨member, ?_⟩
  simp [Ledger.seen, Ledger.exits, setRunning]

end Pidnl.Monitor.Ledger
