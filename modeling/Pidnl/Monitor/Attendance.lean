import Pidnl.Monitor.Store

/-! # Limits and the monitor that watches over them

A limit whose process is in no watch table stays when the process dies. The table
is bounded and `limit_process_bandwidth` does not look at the monitor's reply, so
a limit is attended only as long as there is a slot for it.
-/

namespace Pidnl.Monitor

open Pidnl.Foundation Pidnl.System Pidnl.Ratelimit

def Enforced (kernel : Kernel) (pid : Int32) : Prop :=
  ∃ cgroup, kernel.cgroups.lookup (buildCgroupName pid) = some cgroup ∧
    ∃ attachType, kernel.attached cgroup attachType ≠ []

/-- Every pid with a program at its cgroup is watched by the daemon that runs. -/
def Attended (world : World) : Prop :=
  ∀ pid, Enforced world.kernel pid → Watched world.daemon pid

instance (running : Int32 → Bool) : DecidablePred (Operation.IsLive running)
  | .limitProcessBandwidth _ _ => inferInstanceAs (Decidable (_ ∧ _))
  | .unregisterRateLimiterByPid _ => inferInstanceAs (Decidable True)
  | .ratelimitCleanupAll => inferInstanceAs (Decidable True)

def World.step (world : World) (operation : Operation) : Option World :=
  if operation.IsLive world.kernel.running then some (world.call operation) else none

def SlotLeft (world : World) : Operation → Prop
  | .limitProcessBandwidth pid _ =>
      Watched world.daemon pid ∨ (world.daemon.getD .empty).freeSlot.isSome
  | _ => True

/-! ## What is enforced -/

theorem enforced_iff {kernel : Kernel} (settled : Settled kernel) {pid : Int32} :
    Enforced kernel pid ↔ hasCgroup kernel pid = true ∧
      ∃ attachType, (slot kernel pid attachType).isLive = true := by
  constructor
  · intro enforced
    rcases enforced with ⟨cgroup, isCgroup, attachType, attached⟩
    constructor
    · rw [hasCgroup, isCgroup]
      rfl
    · refine ⟨attachType, Classical.byContradiction fun notLive => attached ?_⟩
      apply attached_of_not_live settled isCgroup
      intro id found
      rw [slot, found] at notLive
      cases inCgroup : (kernel.links id).cgroup with
      | none => rfl
      | some other =>
          simp only [linkSlot, inCgroup] at notLive
          exact absurd rfl notLive
  · intro standing
    rcases standing with ⟨present, attachType, live⟩
    rcases Option.isSome_iff_exists.mp present with ⟨cgroup, isCgroup⟩
    refine ⟨cgroup, isCgroup, attachType, ?_⟩
    rw [slot] at live
    cases found : kernel.pins.lookup (pinPath kernel.bpffsMount pid attachType) with
    | none =>
        rw [found] at live
        contradiction
    | some id =>
        rw [found] at live
        cases inCgroup : (kernel.links id).cgroup with
        | none =>
            simp only [linkSlot, inCgroup] at live
            contradiction
        | some other =>
            rw [attached_of_live settled isCgroup found inCgroup]
            exact List.cons_ne_nil id []

theorem enforced_of_affects {pids : Set Int32} {before after : Kernel}
    (settled : Settled before) (affects : Affects pids before after) {pid : Int32}
    (outside : pid ∉ pids) : Enforced after pid ↔ Enforced before pid := by
  simp only [enforced_iff settled, enforced_iff affects.settled,
    affects.cgroups pid outside, affects.slots pid outside]

theorem not_enforced_of_absent {kernel : Kernel} {pid : Int32}
    (absent : hasCgroup kernel pid = false) : ¬ Enforced kernel pid := by
  intro enforced
  rcases enforced with ⟨cgroup, isCgroup, _⟩
  rw [hasCgroup, isCgroup] at absent
  contradiction

/-! ## Runs that leave slots -/

structure Attends (world : World) : Prop extends Sound world where
  attended : Attended world

variable {world : World}

theorem Attends.call (attends : Attends world) {operation : Operation}
    (live : operation.IsLive world.kernel.running) (left : SlotLeft world operation) :
    Attends (world.call operation) := by
  have sound := attends.toSound
  cases operation with
  | limitProcessBandwidth pid config =>
      have sets := sets_limitProcessBandwidth sound live.1 live.2 config
      constructor
      · exact sets.sound sound live.2
      · intro other enforced
        rcases sets.daemon with ⟨pidfd, daemon⟩
        rw [daemon, watched_some, WatchTable.isWatched_watch, watched_getD]
        by_cases same : other = pid
        · subst same
          exact left.imp id fun free => ⟨rfl, free⟩
        · rw [enforced_of_affects sound.settled sets.affects same] at enforced
          exact .inl (attends.attended other enforced)
  | unregisterRateLimiterByPid pid =>
      have unsets := unsets_unregisterRateLimiterByPid sound pid
      constructor
      · exact unsets.sound sound
      · intro other enforced
        rw [unsets.daemon]
        by_cases same : other = pid
        · subst same
          exact absurd enforced (not_enforced_of_absent unsets.hasCgroup)
        · rw [enforced_of_affects sound.settled unsets.affects same] at enforced
          apply WatchTable.isWatched_unwatch_of_ne same
          exact (watched_getD _ _).mpr (attends.attended other enforced)
  | ratelimitCleanupAll =>
      have cleans := cleans_ratelimitCleanupAll sound
      constructor
      · exact cleans.sound sound
      · intro other enforced
        exact absurd enforced (not_enforced_of_absent (cleans.hasCgroup other))

theorem Attends.step (attends : Attends world) {operation : Operation} {next : World}
    (left : SlotLeft world operation) (stepped : world.step operation = some next) :
    Attends next := by
  rw [World.step] at stepped
  split at stepped
  · rename_i live
    cases stepped
    exact attends.call live left
  · contradiction

theorem attends_fresh (cgroup2Mount bpffsMount : Path) (running : Int32 → Bool) :
    Attends (.fresh cgroup2Mount bpffsMount running) := by
  constructor
  · exact (holds_fresh cgroup2Mount bpffsMount running).toSound
  · intro pid enforced
    exact absurd enforced (not_enforced_of_absent rfl)

/-- As long as every limit finds a slot, none is unattended. -/
theorem attended_of_slotsLeft (cgroup2Mount bpffsMount : Path)
    (running : Int32 → Bool) {operations : List Operation} {world : World}
    (left : Guarded World.step SlotLeft (.fresh cgroup2Mount bpffsMount running)
      operations)
    (run : perform World.step (.fresh cgroup2Mount bpffsMount running) operations =
      some world) : Attended world := by
  have attends : Attends world := by
    apply perform.invariant_of_guarded _ _ left run
    · intro state operation next attends left stepped
      exact attends.step left stepped
    · exact attends_fresh cgroup2Mount bpffsMount running
  exact attends.attended

theorem attended_of_slotsLeft_single :
    Attended (busy.call (.limitProcessBandwidth 7
      { uploadKbps := 100, downloadKbps := 200 })) := by
  have run : perform World.step busy [.limitProcessBandwidth 7
        { uploadKbps := 100, downloadKbps := 200 }] =
      some (busy.call (.limitProcessBandwidth 7
        { uploadKbps := 100, downloadKbps := 200 })) := by
    rw [perform, World.step, if_pos ⟨by decide, rfl⟩]
    rfl
  apply attended_of_slotsLeft [] [] (fun _ => true) _ run
  constructor
  · right
    apply WatchTable.freeSlot_isSome_of_lt
    exact MAX_WATCHED_PIDS_pos
  · exact fun _ _ => trivial

/-! ## More limits than slots -/

def pidAt (index : Nat) : Int32 := .ofNat (index + 1)

def setAt (index : Nat) : Operation :=
  .limitProcessBandwidth (pidAt index)
    { uploadKbps := 100, downloadKbps := RATELIMIT_UNLIMITED }

def limitEach (count : Nat) : List Operation := (List.range count).map setAt

theorem toInt_pidAt {index : Nat} (small : index ≤ MAX_WATCHED_PIDS) :
    (pidAt index).toInt = index + 1 := by
  rw [MAX_WATCHED_PIDS] at small
  exact Int32.toInt_ofNat_of_lt (by omega)

theorem pidAt_positive {index : Nat} (small : index ≤ MAX_WATCHED_PIDS) :
    0 < pidAt index := by
  rw [Int32.lt_iff_toInt_lt, toInt_pidAt small]
  exact Int.ofNat_succ_pos index

theorem pidAt_injective {left right : Nat} (leftSmall : left ≤ MAX_WATCHED_PIDS)
    (rightSmall : right ≤ MAX_WATCHED_PIDS) (equal : pidAt left = pidAt right) :
    left = right := by
  have sameInt := congrArg Int32.toInt equal
  rw [toInt_pidAt leftSmall, toInt_pidAt rightSmall] at sameInt
  omega

structure Filled (count : Nat) (world : World) : Prop extends Sound world where
  running : world.kernel.running = fun _ => true
  watchedCount : (world.daemon.getD .empty).watchedCount = count
  watched : ∀ pid, Watched world.daemon pid → ∃ index < count, pid = pidAt index

theorem Filled.step {count : Nat} (fits : count ≤ MAX_WATCHED_PIDS)
    (filled : Filled count world) :
    world.step (setAt count) = some (world.call (setAt count)) ∧
      Sets (pidAt count) { uploadKbps := 100, downloadKbps := RATELIMIT_UNLIMITED }
        world (world.call (setAt count)) ∧
      ¬ Watched world.daemon (pidAt count) := by
  have runs : world.kernel.running (pidAt count) = true := by rw [filled.running]
  have positive := pidAt_positive fits
  refine ⟨if_pos ⟨positive, runs⟩,
    sets_limitProcessBandwidth filled.toSound positive runs _, ?_⟩
  intro watched
  rcases filled.watched _ watched with ⟨index, earlier, same⟩
  have equal := pidAt_injective fits (earlier.le.trans fits) same
  omega

theorem filled_limitEach {count : Nat} (fits : count ≤ MAX_WATCHED_PIDS) :
    ∃ world, perform World.step busy (limitEach count) = some world ∧
      Filled count world := by
  induction count with
  | zero =>
      refine ⟨busy, rfl, (attends_fresh [] [] _).toSound, rfl, rfl, ?_⟩
      exact fun pid watched => absurd watched (not_watched_none pid)
  | succ count induction =>
      rcases induction (by omega) with ⟨world, run, filled⟩
      rcases filled.step (by omega) with ⟨stepped, sets, unwatched⟩
      rcases sets.daemon with ⟨pidfd, daemon⟩
      have room : (world.daemon.getD .empty).freeSlot.isSome := by
        apply WatchTable.freeSlot_isSome_of_lt
        rw [filled.watchedCount]
        omega
      refine ⟨world.call (setAt count), ?_, sets.sound filled.toSound ?_, ?_, ?_, ?_⟩
      · rw [limitEach, List.range_succ, List.map_append, perform.append_eq_some]
        exact ⟨world, run, perform.cons_eq_some.mpr ⟨_, stepped, rfl⟩⟩
      · rw [filled.running]
      · rw [sets.affects.running, filled.running]
      · rw [daemon, Option.getD_some, WatchTable.watchedCount_watch _ _ _ _ room,
          filled.watchedCount]
        exact fun watched => unwatched ((watched_getD _ _).mp watched)
      · intro pid watched
        rw [daemon, watched_some, WatchTable.isWatched_watch, watched_getD] at watched
        cases watched with
        | inl already =>
            rcases filled.watched pid already with ⟨index, earlier, same⟩
            exact ⟨index, by omega, same⟩
        | inr last => exact ⟨count, by omega, last.1⟩

/-- One limit more than the table has slots, and the last one is unattended. -/
theorem not_attended_limitEach :
    ∃ world, perform World.step busy (limitEach (MAX_WATCHED_PIDS + 1)) =
        some world ∧ ¬ Attended world := by
  rcases filled_limitEach (Nat.le_refl MAX_WATCHED_PIDS) with ⟨world, run, filled⟩
  rcases filled.step (Nat.le_refl _) with ⟨stepped, sets, unwatched⟩
  rcases sets.daemon with ⟨pidfd, daemon⟩
  refine ⟨world.call (setAt MAX_WATCHED_PIDS), ?_, ?_⟩
  · rw [limitEach, List.range_succ, List.map_append, perform.append_eq_some]
    exact ⟨world, run, perform.cons_eq_some.mpr ⟨_, stepped, rfl⟩⟩
  · intro attended
    have watched := attended (pidAt MAX_WATCHED_PIDS)
      ((enforced_iff sets.affects.settled).mpr
        ⟨sets.hasCgroup, .egress, by rw [sets.slots]; rfl⟩)
    have full := WatchTable.freeSlot_eq_none_of_full filled.watchedCount
    rw [daemon, watched_some, WatchTable.watch_of_full _ _ _ full,
      watched_getD] at watched
    exact unwatched watched

end Pidnl.Monitor
