import Pidnl.Monitor.Reliable
import Pidnl.Ratelimit.InstallOutcome
import Pidnl.Foundation.Execution

/-! # The limits as a store

With no failing call and processes that go on running, `limit_process_bandwidth`,
`unregister_rate_limiter_by_pid` and `ratelimit_cleanup_all` write to a map from
pids to limits, and `get_rate_limits_from_cgroup` reads it.
-/

namespace Pidnl.Monitor

open Pidnl.Foundation Pidnl.System Pidnl.Ratelimit

inductive Operation
  | limitProcessBandwidth (pid : Int32) (config : RateLimitConfig)
  | unregisterRateLimiterByPid (pid : Int32)
  | ratelimitCleanupAll
deriving DecidableEq

namespace Operation

def program : Operation → ClientProgram RatelimitCode
  | .limitProcessBandwidth pid config => Monitor.limitProcessBandwidth pid config
  | .unregisterRateLimiterByPid pid => Monitor.unregisterRateLimiterByPid pid
  | .ratelimitCleanupAll => Monitor.ratelimitCleanupAll

def IsLive (running : Int32 → Bool) : Operation → Prop
  | .limitProcessBandwidth pid _ => 0 < pid ∧ running pid = true
  | _ => True

def Spares (pid : Int32) : Operation → Prop
  | .limitProcessBandwidth other _ => other ≠ pid
  | .unregisterRateLimiterByPid other => other ≠ pid
  | .ratelimitCleanupAll => False

end Operation

def World.call (world : World) (operation : Operation) : World :=
  (World.execute .none operation.program world).2

def World.calls (world : World) (operations : List Operation) : World :=
  operations.foldl World.call world

/-- `get_rate_limits_from_cgroup` as a client calls it. -/
def World.read (world : World) (pid : Int32) : RateLimitsRead :=
  (World.execute .none (inClient (getRateLimitsFromCgroup pid)) world).1

/-! ## The map -/

/-- The limits that have been set and not been removed. -/
abbrev LimitStore := Int32 → Option RateLimitConfig

namespace LimitStore

def empty : LimitStore := fun _ => none

def apply (store : LimitStore) : Operation → LimitStore
  | .limitProcessBandwidth pid config => Function.update store pid (some config)
  | .unregisterRateLimiterByPid pid => Function.update store pid none
  | .ratelimitCleanupAll => empty

def applyAll (store : LimitStore) (operations : List Operation) : LimitStore :=
  operations.foldl apply store

def read (store : LimitStore) (pid : Int32) : RateLimitsRead :=
  match store pid with
  | none => .absent
  | some config =>
      { result := 0
        uploadKbps := config.uploadKbps
        downloadKbps := config.downloadKbps }

end LimitStore

/-! ## What each call does -/

variable {world : World}

theorem installFails_none (pid : Int32) (config : RateLimitConfig) :
    installFails .none pid config = false := by
  simp [installFails, cgroupsFail, createFails, openFails, replaceFails, pinDirFails,
    attachBpfFails, directionFails, attachFails]

theorem sweptFree_none (kernel : Kernel) (pid : Int32) (config : RateLimitConfig) :
    SweptFree .none kernel pid config :=
  fun _ _ => rfl

structure Sets (pid : Int32) (config : RateLimitConfig) (before after : World) :
    Prop where
  affects : Affects {pid} before.kernel after.kernel
  hasCgroup : hasCgroup after.kernel pid = true
  slots : ∀ attachType, slot after.kernel pid attachType =
    installed config attachType .empty
  daemon : ∃ pidfd, after.daemon =
    some ((before.daemon.getD .empty).watch pid pidfd)

structure Unsets (pid : Int32) (before after : World) : Prop where
  affects : Affects {pid} before.kernel after.kernel
  hasCgroup : hasCgroup after.kernel pid = false
  daemon : ∀ other, Watched after.daemon other ↔
    ((before.daemon.getD .empty).unwatch pid).IsWatched other

structure Cleans (before after : World) : Prop where
  affects : Affects Set.univ before.kernel after.kernel
  hasCgroup : ∀ pid, hasCgroup after.kernel pid = false
  daemon : after.daemon = none ∨ after.daemon = before.daemon

theorem sets_limitProcessBandwidth (sound : Sound world) {pid : Int32}
    (positive : 0 < pid) (running : world.kernel.running pid = true)
    (config : RateLimitConfig) :
    Sets pid config world (world.call (.limitProcessBandwidth pid config)) := by
  have outcome := execute_installLimit .client .none sound.settled pid config
  generalize installed : Kernel.execute .client .none (installLimit pid config)
    world.kernel = result at outcome
  rcases result with ⟨code, kernel⟩
  have ok : code = .ok := outcome.succeeds.mpr
    ⟨positive, running, installFails_none pid config, sweptFree_none _ _ _⟩
  subst ok
  rcases outcome.slots rfl with ⟨present, slots⟩
  have settled := outcome.affects.settled
  have soundAfter : Sound { world with kernel := kernel } := by
    constructor
    · exact settled
    · intro other watched
      rw [outcome.affects.running]
      exact sound.alive other watched
  have stillRunning : kernel.running pid = true := by
    rw [outcome.affects.running]
    exact running
  rcases execute_monitorWatchPid pid soundAfter stillRunning with ⟨quiet, daemon⟩
  have called : world.call (.limitProcessBandwidth pid config) =
      (World.execute .none (monitorWatchPid pid) { world with kernel := kernel }).2 := by
    simp [World.call, Operation.program, limitProcessBandwidth, installed]
  rw [called]
  constructor
  · exact outcome.affects.trans (.of_quiet settled quiet)
  · exact (Settled.hasCgroup_quiet quiet pid).trans present
  · intro attachType
    exact (settled.slot_quiet quiet pid attachType).trans (slots attachType)
  · exact ⟨kernel.nextId, daemon⟩

theorem unsets_unregisterRateLimiterByPid (sound : Sound world) (pid : Int32) :
    Unsets pid world (world.call (.unregisterRateLimiterByPid pid)) := by
  rcases execute_monitorUnwatchPid pid sound with ⟨quiet, watched⟩
  generalize unwatches : World.execute .none (monitorUnwatchPid pid) world =
    unwatched at quiet watched
  have called : world.call (.unregisterRateLimiterByPid pid) =
      { unwatched.2 with kernel := (Kernel.execute .client .none
          (deletePidCgroup pid) unwatched.2.kernel).2 } := by
    simp [World.call, Operation.program, unregisterRateLimiterByPid, unwatches]
  have settled := sound.settled.quiet quiet
  have removed := execute_deletePidCgroup .client .none settled pid
  rw [called]
  constructor
  · exact (Affects.of_quiet sound.settled quiet).trans removed.affects
  · exact execute_deletePidCgroup_none .client settled pid
  · exact watched

theorem cleans_ratelimitCleanupAll (sound : Sound world) :
    Cleans world (world.call .ratelimitCleanupAll) := by
  rcases execute_cleanupCgroups .client sound.settled with ⟨_, affects, gone⟩
  generalize cleans : Kernel.execute .client .none cleanupCgroups world.kernel =
    cleaned at affects gone
  have soundAfter : Sound { world with kernel := cleaned.2 } := by
    constructor
    · exact affects.settled
    · intro other watched
      rw [affects.running]
      exact sound.alive other watched
  cases stops : cleaned.1.2 with
  | false =>
      have called : world.call .ratelimitCleanupAll =
          { world with kernel := cleaned.2 } := by
        simp [World.call, Operation.program, ratelimitCleanupAll, cleans, stops]
      rw [called]
      exact ⟨affects, gone, .inr rfl⟩
  | true =>
      have called : world.call .ratelimitCleanupAll =
          (World.execute .none monitorStop { world with kernel := cleaned.2 }).2 := by
        simp [World.call, Operation.program, ratelimitCleanupAll, cleans, stops]
      rcases execute_monitorStop soundAfter with ⟨quiet, stopped⟩
      rw [called]
      constructor
      · exact affects.trans (.of_quiet affects.settled quiet)
      · intro pid
        exact (Settled.hasCgroup_quiet quiet pid).trans (gone pid)
      · exact .inl stopped

/-! ## Soundness is kept -/

theorem Sets.sound {pid : Int32} {config : RateLimitConfig} {after : World}
    (sound : Sound world) (running : world.kernel.running pid = true)
    (sets : Sets pid config world after) : Sound after := by
  constructor
  · exact sets.affects.settled
  · intro other watched
    rcases sets.daemon with ⟨pidfd, daemon⟩
    rw [daemon, watched_some, WatchTable.isWatched_watch] at watched
    rw [sets.affects.running]
    cases watched with
    | inl already => exact sound.running_of_isWatched already
    | inr same => exact same.1 ▸ running

theorem Unsets.sound {pid : Int32} {after : World} (sound : Sound world)
    (unsets : Unsets pid world after) : Sound after := by
  constructor
  · exact unsets.affects.settled
  · intro other watched
    rw [unsets.daemon] at watched
    rw [unsets.affects.running]
    exact sound.running_of_isWatched (WatchTable.isWatched_of_unwatch watched)

theorem Cleans.sound {after : World} (sound : Sound world)
    (cleans : Cleans world after) : Sound after := by
  constructor
  · exact cleans.affects.settled
  · intro other watched
    rw [cleans.affects.running]
    cases cleans.daemon with
    | inl stopped =>
        rw [stopped] at watched
        exact absurd watched (not_watched_none other)
    | inr same => exact sound.alive other (same ▸ watched)

/-! ## The map is kept -/

theorem read_eq_standingLimits (sound : Sound world) (pid : Int32) :
    world.read pid = standingLimits world.kernel pid := by
  rw [World.read, World.execute_inClient]
  exact execute_getRateLimitsFromCgroup .client sound.settled pid

structure Holds (world : World) (store : LimitStore) : Prop extends Sound world where
  limits : ∀ pid, standingLimits world.kernel pid = store.read pid

theorem standingLimits_of_affects {pids : Set Int32} {before after : Kernel}
    (affects : Affects pids before after) {pid : Int32} (outside : pid ∉ pids) :
    standingLimits after pid = standingLimits before pid := by
  simp only [standingLimits, affects.slots pid outside, affects.cgroups pid outside]

theorem standingLimits_of_absent {kernel : Kernel} {pid : Int32}
    (absent : hasCgroup kernel pid = false) : standingLimits kernel pid = .absent := by
  simp [standingLimits, absent]

theorem limit_installed_empty (config : RateLimitConfig) (attachType : AttachType) :
    (installed config attachType .empty).limit.getD RATELIMIT_UNLIMITED =
      config.limit attachType := by
  rw [installed]
  split
  · rename_i unlimited
    exact unlimited.symm
  · rfl

theorem holds_fresh (cgroup2Mount bpffsMount : Path) (running : Int32 → Bool) :
    Holds (.fresh cgroup2Mount bpffsMount running) .empty := by
  constructor
  · constructor
    · exact settled_empty cgroup2Mount bpffsMount running
    · intro pid watched
      exact absurd watched (not_watched_none pid)
  · exact fun _ => standingLimits_of_absent rfl

theorem Holds.call {store : LimitStore} (holds : Holds world store)
    {operation : Operation} (live : operation.IsLive world.kernel.running) :
    Holds (world.call operation) (store.apply operation) ∧
      (world.call operation).kernel.running = world.kernel.running := by
  have sound := holds.toSound
  cases operation with
  | limitProcessBandwidth pid config =>
      have sets := sets_limitProcessBandwidth sound live.1 live.2 config
      refine ⟨⟨sets.sound sound live.2, ?_⟩, sets.affects.running⟩
      intro other
      by_cases same : other = pid
      · subst same
        simp [standingLimits, live.1, sets.hasCgroup, sets.slots,
          limit_installed_empty, LimitStore.read, LimitStore.apply,
          RateLimitConfig.limit]
      · rw [standingLimits_of_affects sets.affects same, holds.limits]
        simp [LimitStore.read, LimitStore.apply, Function.update_of_ne same]
  | unregisterRateLimiterByPid pid =>
      have unsets := unsets_unregisterRateLimiterByPid sound pid
      refine ⟨⟨unsets.sound sound, ?_⟩, unsets.affects.running⟩
      intro other
      by_cases same : other = pid
      · subst same
        rw [standingLimits_of_absent unsets.hasCgroup]
        simp [LimitStore.read, LimitStore.apply]
      · rw [standingLimits_of_affects unsets.affects same, holds.limits]
        simp [LimitStore.read, LimitStore.apply, Function.update_of_ne same]
  | ratelimitCleanupAll =>
      have cleans := cleans_ratelimitCleanupAll sound
      refine ⟨⟨cleans.sound sound, ?_⟩, cleans.affects.running⟩
      intro other
      rw [standingLimits_of_absent (cleans.hasCgroup other)]
      rfl

theorem Holds.calls {store : LimitStore} (holds : Holds world store)
    {operations : List Operation}
    (live : ∀ operation ∈ operations, operation.IsLive world.kernel.running) :
    Holds (world.calls operations) (store.applyAll operations) ∧
      (world.calls operations).kernel.running = world.kernel.running := by
  induction operations generalizing world store with
  | nil => exact ⟨holds, rfl⟩
  | cons operation operations induction =>
      rcases holds.call (live operation List.mem_cons_self) with ⟨next, running⟩
      rcases induction next (by
        intro later member
        rw [running]
        exact live later (List.mem_cons_of_mem _ member)) with ⟨last, runningLast⟩
      exact ⟨last, runningLast.trans running⟩

theorem Holds.read {store : LimitStore} (holds : Holds world store) (pid : Int32) :
    world.read pid = store.read pid := by
  rw [read_eq_standingLimits holds.toSound, holds.limits]

theorem LimitStore.read_apply_of_spares {store : LimitStore} {pid : Int32}
    {operation : Operation} (spares : operation.Spares pid) :
    (store.apply operation).read pid = store.read pid := by
  cases operation with
  | limitProcessBandwidth other config =>
      simp [LimitStore.read, LimitStore.apply, Function.update_of_ne (Ne.symm spares)]
  | unregisterRateLimiterByPid other =>
      simp [LimitStore.read, LimitStore.apply, Function.update_of_ne (Ne.symm spares)]
  | ratelimitCleanupAll => cases spares

/-- What is read for a pid is what the map holds for it, and calls for other pids
do not change what is read. -/
theorem read_calls (cgroup2Mount bpffsMount : Path) (running : Int32 → Bool)
    (operations : List Operation)
    (live : ∀ operation ∈ operations, operation.IsLive running) (pid : Int32) :
    let world := (World.fresh cgroup2Mount bpffsMount running).calls operations
    world.read pid = (LimitStore.empty.applyAll operations).read pid ∧
      ∀ operation : Operation, operation.IsLive running → operation.Spares pid →
        (world.call operation).read pid = world.read pid := by
  rcases (holds_fresh cgroup2Mount bpffsMount running).calls live with
    ⟨holds, sameRunning⟩
  constructor
  · exact holds.read pid
  · intro operation isLive spares
    have next := holds.call (by rw [sameRunning]; exact isLive)
    rw [next.1.read, holds.read, LimitStore.read_apply_of_spares spares]

def busy : World := .fresh [] [] fun _ => true

theorem read_calls_replaced :
    (busy.calls
      [.limitProcessBandwidth 7 { uploadKbps := 100, downloadKbps := 200 },
        .limitProcessBandwidth 7
          { uploadKbps := 300, downloadKbps := RATELIMIT_UNLIMITED },
        .unregisterRateLimiterByPid 8]).read 7 =
      { result := 0, uploadKbps := 300, downloadKbps := RATELIMIT_UNLIMITED } :=
  (read_calls [] [] (fun _ => true) _ (by simp [Operation.IsLive]) 7).1

end Pidnl.Monitor
