import Pidnl.Monitor.Store

/-! # What a failed change leaves of the old limit

`limit_process_bandwidth` on a pid whose limit is in force, with one call inside
it that fails. Almost every failure is answered by removing the pid's cgroup.
-/

namespace Pidnl.Monitor

open Pidnl.Foundation Pidnl.System Pidnl.Ratelimit

structure InForce (world : World) (pid : Int32) : Prop where
  settled : Settled world.kernel
  running : world.kernel.running pid = true
  hasCgroup : hasCgroup world.kernel pid = true
  /-- A program is attached, and pinned. -/
  live : ∃ attachType, (slot world.kernel pid attachType).isLive = true
  watched : Watched world.daemon pid

structure Unchanged (pid : Int32) (before after : World) : Prop where
  read : after.read pid = before.read pid
  pins : ∀ attachType,
    after.kernel.pins.lookup (pinPath after.kernel.bpffsMount pid attachType) =
      before.kernel.pins.lookup (pinPath before.kernel.bpffsMount pid attachType)
  daemon : after.daemon = before.daemon

variable {world : World} {pid : Int32} (config : RateLimitConfig)

theorem unchanged_of_cgroupsFail (inForce : InForce world pid) (faults : Faults)
    (fails : cgroupsFail faults pid = true) :
    Unchanged pid world
      (World.execute faults (limitProcessBandwidth pid config) world).2 := by
  have outcome := execute_installLimit .client faults inForce.settled pid config
  have same := outcome.early
    (positive_of_hasCgroup inForce.settled inForce.hasCgroup) fails inForce.hasCgroup
  have notOk : ¬ (Kernel.execute .client faults (installLimit pid config)
      world.kernel).1 = .ok := by
    intro ok
    have noneFail := (outcome.succeeds.mp ok).2.2.1
    simp [installFails, fails] at noneFail
  rw [execute_limitProcessBandwidth, if_neg notOk, same]
  exact ⟨rfl, fun _ => rfl, rfl⟩

/-- Any other reported failure takes the limit away, unless the cgroup cannot be
deleted. -/
theorem read_of_failed (inForce : InForce world pid) (faults : Faults)
    (made : cgroupsFail faults pid = false) (deletes : deleteFails faults = false)
    (failed : (World.execute faults (limitProcessBandwidth pid config) world).1 ≠
      .ok) :
    (World.execute faults (limitProcessBandwidth pid config) world).2.read pid =
      .absent := by
  have outcome := execute_installLimit .client faults inForce.settled pid config
  rw [execute_limitProcessBandwidth] at failed ⊢
  generalize Kernel.execute .client faults (installLimit pid config) world.kernel =
    result at outcome failed ⊢
  rcases result with ⟨code, kernel⟩
  have notOk : code ≠ .ok := by
    intro ok
    simp only [ok, if_true, ne_eq, not_true] at failed
  have gone := outcome.undone
    (positive_of_hasCgroup inForce.settled inForce.hasCgroup) made notOk
  simp only [notOk, if_false, World.read, World.execute_inClient]
  rw [execute_getRateLimitsFromCgroup .client outcome.affects.settled]
  exact standingLimits_of_absent (gone.trans deletes)

theorem read_ne_absent (inForce : InForce world pid) : world.read pid ≠ .absent := by
  rw [World.read, World.execute_inClient]
  simp only
  rw [execute_getRateLimitsFromCgroup .client inForce.settled, standingLimits,
    if_pos ⟨positive_of_hasCgroup inForce.settled inForce.hasCgroup,
      inForce.hasCgroup⟩]
  intro same
  have results : (0 : Int32) = -1 := congrArg RateLimitsRead.result same
  exact absurd results (by decide)

/-- A single failing call that keeps the cgroup from being deleted is the deletion
itself, and that is asked for only if another call has failed. -/
theorem installFails_of_deleteFails {site : List Frame} {function : ExternalFunction}
    (fails : deleteFails (.only site function) = true) :
    installFails (.only site function) pid config = false ∧
      SweptFree (.only site function) world.kernel pid config := by
  simp only [deleteFails, Faults.here, Faults.inside, Faults.only,
    decide_eq_true_eq] at fails
  rcases fails with ⟨rfl, rfl⟩
  constructor
  · simp [installFails, cgroupsFail, createFails, openFails, replaceFails, pinDirFails,
      attachBpfFails, directionFails, attachFails, Faults.here, Faults.inside,
      Faults.only]
  · intro attachType _
    simp [swept, unlinked, Faults.here, Faults.inside, Faults.only]

/-- With a single failing call, a reported failure keeps the old limit if and only
if the failing call is one that makes the cgroups, or none that is reported. -/
theorem failed_unchanged_iff (inForce : InForce world pid) (config : RateLimitConfig)
    (site : List Frame) (function : ExternalFunction) :
    let faults := Faults.only site function
    let outcome := World.execute faults (limitProcessBandwidth pid config) world
    (outcome.1 ≠ .ok → Unchanged pid world outcome.2) ↔
      cgroupsFail faults pid = true ∨
        installFails faults pid config = false ∧
          SweptFree faults world.kernel pid config := by
  intro faults outcome
  have succeeds := ok_limitProcessBandwidth_iff faults world pid config
    inForce.settled
  have positive := positive_of_hasCgroup inForce.settled inForce.hasCgroup
  constructor
  · intro kept
    apply Classical.byContradiction
    intro neither
    have made : cgroupsFail faults pid = false :=
      Bool.eq_false_iff.mpr fun fails => neither (.inl fails)
    have deletes : deleteFails faults = false :=
      Bool.eq_false_iff.mpr fun fails =>
        neither (.inr (installFails_of_deleteFails config fails))
    have failed : outcome.1 ≠ .ok := fun ok =>
      neither (.inr (succeeds.mp ok).2.2)
    have lost := read_of_failed config inForce faults made deletes failed
    rw [(kept failed).read] at lost
    exact read_ne_absent inForce lost
  · intro either failed
    cases either with
    | inl fails => exact unchanged_of_cgroupsFail config inForce faults fails
    | inr noneFails =>
        exact absurd (succeeds.mpr ⟨positive, inForce.running, noneFails⟩) failed

/-! ## A limit that is lost -/

def limited : World :=
  busy.call (.limitProcessBandwidth 7 { uploadKbps := 100, downloadKbps := 200 })

theorem inForce_limited : InForce limited 7 := by
  have sound : Sound busy := (holds_fresh [] [] _).toSound
  have sets := sets_limitProcessBandwidth sound (by decide : (0 : Int32) < 7) rfl
    { uploadKbps := 100, downloadKbps := 200 }
  have soundAfter := sets.sound sound rfl
  rcases sets.daemon with ⟨pidfd, daemon⟩
  constructor
  · exact soundAfter.settled
  · rw [limited, sets.affects.running]
    rfl
  · exact sets.hasCgroup
  · exact ⟨.egress, by rw [limited, sets.slots]; rfl⟩
  · rw [limited, daemon, watched_some, WatchTable.isWatched_watch]
    exact .inr ⟨rfl, WatchTable.freeSlot_isSome_of_lt MAX_WATCHED_PIDS_pos⟩

theorem failed_unchanged_iff_parentCgroup :
    Unchanged 7 limited
      (World.execute (.only [.createCgroup [cgroupRoot]] .cgroupNewCgroup)
        (limitProcessBandwidth 7 { uploadKbps := 300, downloadKbps := 400 })
        limited).2 := by
  apply (failed_unchanged_iff inForce_limited { uploadKbps := 300, downloadKbps := 400 }
    [.createCgroup [cgroupRoot]] .cgroupNewCgroup).mpr (.inl (by decide))
  intro ok
  have noneFail := ((ok_limitProcessBandwidth_iff _ limited 7 _
    inForce_limited.settled).mp ok).2.2.1
  exact absurd noneFail (by decide)

/-- The BPF object cannot be loaded, and the old limit is gone. -/
theorem failed_not_unchanged :
    let outcome := World.execute (.only [.attachBpfPrograms] .ratelimitBpfLoad)
      (limitProcessBandwidth 7 { uploadKbps := 300, downloadKbps := 400 }) limited
    outcome.1 ≠ .ok ∧ ¬ Unchanged 7 limited outcome.2 := by
  have fails : (World.execute (.only [.attachBpfPrograms] .ratelimitBpfLoad)
      (limitProcessBandwidth 7 { uploadKbps := 300, downloadKbps := 400 })
      limited).1 ≠ .ok := by
    intro ok
    have noneFail := ((ok_limitProcessBandwidth_iff _ limited 7 _
      inForce_limited.settled).mp ok).2.2.1
    exact absurd noneFail (by decide)
  constructor
  · exact fails
  · intro kept
    have lost := read_of_failed _ inForce_limited _ (by decide) (by decide) fails
    rw [kept.read] at lost
    exact read_ne_absent inForce_limited lost

end Pidnl.Monitor
