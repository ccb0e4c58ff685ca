import Pidnl.Monitor.Attendance
import Pidnl.Monitor.FirstLimit
import Pidnl.Monitor.Reached

/-! # What unset reports

`unregister_rate_limiter_by_pid` on a pid whose limit is in force, when calls into
libcgroup, libbpf and the bpffs fail. The pid is unwatched first, and what
`delete_cgroup` meets is not reported.
-/

namespace Pidnl.Monitor

open Pidnl.Foundation Pidnl.System Pidnl.Ratelimit

/-! ## One limit -/

section Deleting

variable (owner : Process) (faults : Faults) (kernel : Kernel) (pid : Int32)

/-- `delete_pid_cgroup` reports no failure from `delete_cgroup` on. -/
theorem ok_deletePidCgroup_iff :
    (Kernel.execute owner faults (deletePidCgroup pid) kernel).1 = .ok ↔
      hasCgroup kernel pid = true ∧ removeFails faults pid = false := by
  have made : ∀ inner : Faults, Kernel.exec owner (inner.here .cgroupNewCgroup) kernel
    (.cgroupNewCgroup (buildCgroupName pid)) =
      (!inner.here .cgroupNewCgroup, kernel) := fun _ => rfl
  have got : ∀ inner : Faults, Kernel.exec owner (inner.here .cgroupGetCgroup) kernel
    (.cgroupGetCgroup (buildCgroupName pid)) =
      (!inner.here .cgroupGetCgroup && hasCgroup kernel pid, kernel) := fun _ => rfl
  simp only [deletePidCgroup, removeFails, ask, Kernel.execute_inside,
    Kernel.execute_bind, Kernel.execute_request, made]
  generalize faults.inside (.deletePidCgroup pid) = inner
  cases inner.here .cgroupNewCgroup with
  | true => simp
  | false =>
      simp only [Bool.not_false, Bool.not_true, Bool.false_eq_true, if_false, got,
        Kernel.execute_bind, Kernel.execute_request, Bool.false_or]
      cases inner.here .cgroupGetCgroup with
      | true => simp
      | false =>
          cases present : hasCgroup kernel pid with
          | false => simp
          | true =>
              rcases Option.isSome_iff_exists.mp present with ⟨cgroup, isCgroup⟩
              simp only [Bool.not_false, Bool.and_self, Bool.not_true,
                Bool.false_eq_true, if_false, Kernel.execute_bind,
                execute_openCgroupFd, Bool.false_or, true_and]
              cases openFails inner with
              | true => simp
              | false =>
                  simp only [Bool.false_eq_true, if_false]
                  rw [isCgroup]
                  simp

end Deleting

/-- `detach_pinned_links` finds the bpffs and unlinks the pin of a direction. -/
def unlinks (faults : Faults) (attachType : AttachType) : Bool :=
  let inner := faults.inside .detachPinnedLinks
  !inner.here .getBpffsMount && !(inner.inside (.direction attachType)).here .unlink

theorem swept_eq_empty_iff {faults : Faults} {attachType : AttachType} {slot : Slot} :
    swept faults attachType slot = .empty ↔
      slot = .empty ∨ unlinks faults attachType = true := by
  rw [swept, unlinks]
  generalize faults.inside .detachPinnedLinks = inner
  cases inner.here .getBpffsMount with
  | true => simp
  | false =>
      simp only [unlinked, Bool.false_eq_true, if_false, Bool.not_false, Bool.true_and]
      generalize inner.inside (.direction attachType) = innermost
      cases innermost.here .unlink with
      | false => simp
      | true =>
          simp only [if_true, Bool.not_true, Bool.false_eq_true, or_false]
          split
          · exact Iff.rfl
          · exact Slot.detached_eq_empty_iff

/-! ## The watch table -/

def watchEntry (daemon : Option Daemon.Table) (pid : Int32) :
    Option (SlotIndex × PidfdEntry Fd) :=
  daemon.bind fun table =>
    (table.findPidSlot pid).map fun found => (found.slot, found.entry)

theorem watchEntry_eq_none_iff {daemon : Option Daemon.Table} {pid : Int32} :
    watchEntry daemon pid = none ↔ ¬ Watched daemon pid := by
  cases daemon with
  | none => simp [watchEntry]
  | some table =>
      rw [watched_some, ← WatchTable.findPidSlot_eq_none_iff]
      simp [watchEntry]

namespace Daemon

variable {kernel : Kernel} (faults : Faults) (pid : Int32) {table : Table}

theorem affects_handleDeaths_watched (settled : Settled kernel) (slots : List SlotIndex)
    (table : Table) : Affects { other | table.IsWatched other } kernel
      (Kernel.execute .monitor faults (handleDeaths slots table) kernel).2 := by
  induction slots generalizing kernel table with
  | nil => exact .refl settled
  | cons slot slots induction =>
      rw [handleDeaths]
      split
      · exact induction settled table
      · rename_i entry active
        have readable : Kernel.exec .monitor (faults.here .total) kernel
          (.pidfdReadable entry.pid) = (!kernel.running entry.pid, kernel) := rfl
        simp only [ask, Kernel.execute_bind, Kernel.execute_request, readable,
          Kernel.execute_ite]
        split
        · have watched : ({entry.pid} : Set Int32) ⊆ { other | table.IsWatched other } := by
            rw [Set.singleton_subset_iff]
            exact ⟨slot, entry, active, rfl⟩
          have first := (execute_unregisterRateLimiterByPid faults entry.pid table
            settled).2.affects.mono watched
          have rest := induction first.settled (table.unwatch entry.pid)
          rw [execute_unregisterRateLimiterByPid_result]
          exact first.trans (rest.mono fun other => WatchTable.isWatched_of_unwatch)
        · exact induction settled table

/-- UNWATCH takes the pid out of the table, and its limit stands. -/
theorem execute_serveUnwatch (settled : Settled kernel) (distinct : table.PidsDistinct) :
    let outcome := Kernel.execute .monitor faults (serveClient .unwatch pid table) kernel
    Affects {pid}ᶜ kernel outcome.2 ∧ ¬ Watched outcome.1.2 pid := by
  intro outcome
  have unwatched := WatchTable.not_isWatched_unwatch distinct pid
  constructor
  · have handled := execute_removePidFromWatch (faults.inside .monitorRun) pid table settled
    simp only [outcome, serveClient, Kernel.execute_inside, Kernel.execute_bind,
      Kernel.execute_ite, Kernel.execute_pure, runCommand]
    generalize Kernel.execute .monitor (faults.inside .monitorRun)
      (removePidFromWatch pid table) kernel = removed at handled ⊢
    rcases handled with ⟨same, quiet⟩
    have others : { other | (table.unwatch pid).IsWatched other } ⊆ {pid}ᶜ := by
      intro other watched equal
      rw [Set.mem_singleton_iff.mp equal] at watched
      exact unwatched watched
    have deaths := (affects_handleDeaths_watched (faults.inside .monitorRun)
      (settled.quiet quiet) (List.finRange MAX_WATCHED_PIDS) (table.unwatch pid)).mono
      others
    rw [← same] at deaths
    have affects := (Affects.of_quiet settled quiet).trans deaths
    split
    · exact affects.trans (.of_quiet affects.settled
        (quiet_closePidfds _ _ affects.settled _))
    · exact affects
  · intro watched
    rcases watched with ⟨after, goesOn, slot, entry, active, holds⟩
    rcases entries_of_serveClient faults .unwatch pid table goesOn with
      ⟨handled, isHandled, within⟩
    rw [execute_runCommand_result] at isHandled
    rw [← isHandled] at within
    exact unwatched ⟨slot, entry, within slot entry active, holds⟩

end Daemon

/-! ## The messages -/

def isMessaging : ExternalFunction → Bool
  | .socket | .connect | .pipe | .fork | .poll | .write | .read => true
  | .startDaemon | .bindSocket | .accept | .peerCredentials => true
  | .readCommand | .writeResult => true
  | _ => false

def MessagesPass (faults : Faults) : Prop :=
  ∀ site function, isMessaging function = true → faults site function = false

theorem execute_sendCommand_of_passes {faults : Faults} (passes : MessagesPass faults)
    (world : World) (command : Command) (pid : Int32) :
    let served := Kernel.execute .monitor (faults.inside .sendCommand)
      (Daemon.serveClient command pid (world.daemon.getD .empty)) world.kernel
    World.execute faults (sendCommand command pid) world =
      (served.1.1,
        { kernel := served.2, daemon := served.1.2, message := none }) := by
  have socket := fun site => passes site .socket rfl
  have connect := fun site => passes site .connect rfl
  have write := fun site => passes site .write rfl
  have read := fun site => passes site .read rfl
  have accept := fun site => passes site .accept rfl
  have peerCredentials := fun site => passes site .peerCredentials rfl
  have readCommand := fun site => passes site .readCommand rfl
  have writeResult := fun site => passes site .writeResult rfl
  have pipe := fun site => passes site .pipe rfl
  have fork := fun site => passes site .fork rfl
  have poll := fun site => passes site .poll rfl
  have startDaemon := fun site => passes site .startDaemon rfl
  have bindSocket := fun site => passes site .bindSocket rfl
  cases present : world.daemon <;>
    simp [sendCommand, monitorEnsureRunning, askMonitor, execute_monitorConnect,
      World.exec, World.startDaemon, World.serve, present, connectFails, Faults.here,
      Faults.inside, socket, connect, pipe, fork, poll, startDaemon, bindSocket, write,
      read, accept, peerCredentials, readCommand, writeResult]

/-! ## Unset -/

structure UnsetOutcome (faults : Faults) (pid : Int32) (before : World)
    (outcome : RatelimitCode × World) : Prop where
  settled : Settled outcome.2.kernel
  ok : outcome.1 = .ok ↔ removeFails faults pid = false
  cgroup : hasCgroup outcome.2.kernel pid =
    (removeFails faults pid || deleteFails (faults.inside (.deletePidCgroup pid)))
  slots : ∀ attachType, slot outcome.2.kernel pid attachType =
    removed faults pid attachType (slot before.kernel pid attachType)
  unwatched : ¬ Watched outcome.2.daemon pid

structure LimitGone (kernel : Kernel) (pid : Int32) : Prop where
  noCgroup : hasCgroup kernel pid = false
  /-- Every attached program is attached to the cgroup of another pid. -/
  noProgram : ∀ cgroup attachType id, kernel.IsAttached cgroup attachType id →
    ∃ other ≠ pid, kernel.cgroups.lookup (buildCgroupName other) = some cgroup
  noLink : ¬ Pinned kernel pid

/-- The programs of a pid and its entry in the watch table are as they were. -/
structure LimitKept (pid : Int32) (before after : World) : Prop where
  cgroup : hasCgroup after.kernel pid = hasCgroup before.kernel pid
  programs : ∀ attachType,
    slot after.kernel pid attachType = slot before.kernel pid attachType
  watchEntry : watchEntry after.daemon pid = watchEntry before.daemon pid

def TellsTruth (faults : Faults) (world : World) (pid : Int32) : Prop :=
  let outcome := World.execute faults (unregisterRateLimiterByPid pid) world
  (outcome.1 = .ok → LimitGone outcome.2.kernel pid) ∧
    (outcome.1 ≠ .ok → LimitKept pid world outcome.2)

/-- The cgroup is found and opened, every link that is pinned is unlinked, and the
cgroup is deleted. -/
structure RemovesAll (faults : Faults) (kernel : Kernel) (pid : Int32) : Prop where
  reaches : removeFails faults pid = false
  deletes : deleteFails (faults.inside (.deletePidCgroup pid)) = false
  unpins : ∀ attachType, slot kernel pid attachType ≠ .empty →
    unlinks ((faults.inside (.deletePidCgroup pid)).inside .deleteCgroup) attachType =
      true

/-- The cgroup is not found or not opened, and the pid has no entry to lose. -/
structure TouchesNothing (faults : Faults) (world : World) (pid : Int32) : Prop where
  fails : removeFails faults pid = true
  unwatched : ¬ Watched world.daemon pid

section Unset

variable {world : World} {pid : Int32} {faults : Faults}

theorem execute_unregister_of_passes (orderly : Orderly world)
    (passes : MessagesPass faults) (standing : hasCgroup world.kernel pid = true) :
    UnsetOutcome faults pid world
      (World.execute faults (unregisterRateLimiterByPid pid) world) := by
  have distinct : (world.daemon.getD .empty).PidsDistinct := by
    cases present : world.daemon with
    | none => exact WatchTable.pidsDistinct_empty
    | some table => exact orderly.distinct table present
  rcases Daemon.execute_serveUnwatch (faults.inside .sendCommand) pid orderly.settled
    distinct with ⟨affects, unwatched⟩
  have sent := execute_sendCommand_of_passes passes world .unwatch pid
  generalize Kernel.execute .monitor (faults.inside .sendCommand)
    (Daemon.serveClient .unwatch pid (world.daemon.getD .empty)) world.kernel = served
    at sent affects unwatched
  have same : pid ∉ ({pid}ᶜ : Set Int32) := fun out => out rfl
  have present : hasCgroup served.2 pid = true := by
    rw [affects.cgroups pid same]
    exact standing
  have outcome := execute_deletePidCgroup .client faults affects.settled pid
  have code := ok_deletePidCgroup_iff .client faults served.2 pid
  have unset : World.execute faults (unregisterRateLimiterByPid pid) world =
      ((Kernel.execute .client faults (deletePidCgroup pid) served.2).1,
        { kernel := (Kernel.execute .client faults (deletePidCgroup pid) served.2).2
          daemon := served.1.2, message := none }) := by
    simp only [unregisterRateLimiterByPid, monitorUnwatchPid, World.execute_bind, sent,
      World.execute_inClient]
  rw [unset]
  constructor
  · exact outcome.affects.settled
  · rw [code, present]
    exact and_iff_right rfl
  · rw [outcome.cgroup, present, Bool.true_and]
  · intro attachType
    rw [outcome.slots, if_pos present, affects.slots pid same]
  · exact unwatched

theorem removed_eq_empty_iff (reaches : removeFails faults pid = false)
    (deletes : deleteFails (faults.inside (.deletePidCgroup pid)) = false)
    {attachType : AttachType} {slot : Slot} :
    removed faults pid attachType slot = .empty ↔ (slot ≠ .empty →
      unlinks ((faults.inside (.deletePidCgroup pid)).inside .deleteCgroup) attachType =
        true) := by
  rw [removed, reaches, deletes, if_neg Bool.false_ne_true, if_neg Bool.false_ne_true,
    Slot.detached_eq_empty_iff, swept_eq_empty_iff, ne_eq, or_iff_not_imp_left]

theorem limitGone_of_removesAll {outcome : RatelimitCode × World}
    (unset : UnsetOutcome faults pid world outcome)
    (removes : RemovesAll faults world.kernel pid) : LimitGone outcome.2.kernel pid := by
  have noCgroup : hasCgroup outcome.2.kernel pid = false := by
    rw [unset.cgroup, removes.reaches, removes.deletes]
    rfl
  refine ⟨noCgroup, fun _ _ _ => noProgram_of_settled unset.settled noCgroup, ?_⟩
  intro pinned
  rcases pinned_iff.mp pinned with ⟨attachType, held⟩
  apply held
  rw [unset.slots, removed_eq_empty_iff removes.reaches removes.deletes]
  exact removes.unpins attachType

theorem removesAll_of_limitGone {outcome : RatelimitCode × World}
    (unset : UnsetOutcome faults pid world outcome) (ok : outcome.1 = .ok)
    (gone : LimitGone outcome.2.kernel pid) : RemovesAll faults world.kernel pid := by
  have reaches := unset.ok.mp ok
  have deletes : deleteFails (faults.inside (.deletePidCgroup pid)) = false := by
    rw [← gone.noCgroup, unset.cgroup, reaches, Bool.false_or]
  refine ⟨reaches, deletes, ?_⟩
  intro attachType
  rw [← removed_eq_empty_iff reaches deletes, ← unset.slots]
  apply Classical.byContradiction
  exact fun held => gone.noLink (pinned_iff.mpr ⟨attachType, held⟩)

/-- An unset that fails keeps the programs and loses the entry. -/
theorem limitKept_iff {outcome : RatelimitCode × World}
    (unset : UnsetOutcome faults pid world outcome)
    (standing : hasCgroup world.kernel pid = true)
    (fails : removeFails faults pid = true) :
    LimitKept pid world outcome.2 ↔ ¬ Watched world.daemon pid := by
  have lost := watchEntry_eq_none_iff.mpr unset.unwatched
  constructor
  · intro kept
    rw [← watchEntry_eq_none_iff, ← kept.watchEntry]
    exact lost
  · intro unwatched
    refine ⟨?_, ?_, lost.trans (watchEntry_eq_none_iff.mpr unwatched).symm⟩
    · rw [unset.cgroup, fails, standing]
      rfl
    · intro attachType
      rw [unset.slots, removed, if_pos fails]

theorem tellsTruth_iff_of_outcome (orderly : Orderly world) (passes : MessagesPass faults)
    (standing : hasCgroup world.kernel pid = true) :
    TellsTruth faults world pid ↔
      RemovesAll faults world.kernel pid ∨ TouchesNothing faults world pid := by
  have unset := execute_unregister_of_passes orderly passes standing
  rw [TellsTruth]
  cases fails : removeFails faults pid with
  | false =>
      have ok := unset.ok.mpr fails
      constructor
      · exact fun truth => .inl (removesAll_of_limitGone unset ok (truth.1 ok))
      · intro either
        refine ⟨fun _ => ?_, fun notOk => absurd ok notOk⟩
        cases either with
        | inl removes => exact limitGone_of_removesAll unset removes
        | inr touches =>
            rw [touches.fails] at fails
            contradiction
  | true =>
      have notOk : (World.execute faults (unregisterRateLimiterByPid pid) world).1 ≠
          .ok := by
        intro ok
        rw [unset.ok.mp ok] at fails
        contradiction
      have kept := limitKept_iff unset standing fails
      constructor
      · exact fun truth => .inr ⟨fails, kept.mp (truth.2 notOk)⟩
      · intro either
        refine ⟨fun ok => absurd ok notOk, fun _ => kept.mpr ?_⟩
        cases either with
        | inl removes =>
            rw [removes.reaches] at fails
            contradiction
        | inr touches => exact touches.unwatched

/-- Unset tells the truth about a limit in force if and only if it comes to remove all
of it, or is stopped early with no entry to lose. -/
theorem tellsTruth_iff (cgroup2Mount bpffsMount : Path) (running : Int32 → Bool)
    {events : List Event}
    (run : perform World.react (.fresh cgroup2Mount bpffsMount running) events =
      some world) (inForce : Enforced world.kernel pid) (passes : MessagesPass faults) :
    TellsTruth faults world pid ↔
      RemovesAll faults world.kernel pid ∨ TouchesNothing faults world pid := by
  have orderly := orderly_of_run cgroup2Mount bpffsMount running run
  exact tellsTruth_iff_of_outcome orderly passes
    ((enforced_iff orderly.settled).mp inForce).1

end Unset

theorem messagesPass_only {function : ExternalFunction} (site : List Frame)
    (notMessaging : isMessaging function = false) :
    MessagesPass (.only site function) := by
  intro other messaging isMessage
  apply decide_eq_false
  intro same
  rw [← same.2, isMessage] at notMessaging
  contradiction

theorem enforced_limited : Enforced limited.kernel 7 :=
  (enforced_iff inForce_limited.settled).mpr
    ⟨inForce_limited.hasCgroup, inForce_limited.live⟩

/-- The bpffs directory is not removed, and unset still tells the truth. -/
theorem tellsTruth_iff_limited : TellsTruth keepsDirectory limited 7 := by
  apply (tellsTruth_iff [] [] (fun _ => true) perform_setLimit enforced_limited
    (messagesPass_only _ rfl)).mpr
  refine .inl ⟨by decide, by decide, ?_⟩
  intro attachType _
  cases attachType <;> decide

/-- The cgroup cannot be deleted, and success is reported; or it cannot be opened, and
the limit is left without its entry in the watch table. -/
theorem not_tellsTruth_limited :
    ¬ TellsTruth (.only [.deletePidCgroup 7, .deleteCgroup] .cgroupDeleteCgroup)
        limited 7 ∧
      ¬ TellsTruth (.only [.deletePidCgroup 7, .openCgroupFd] .openReadOnly)
        limited 7 := by
  have orderly := orderly_of_run [] [] (fun _ => true) perform_setLimit
  constructor
  · intro truth
    rcases (tellsTruth_iff_of_outcome orderly (messagesPass_only _ rfl)
      inForce_limited.hasCgroup).mp truth with removes | touches
    · exact absurd removes.deletes (by decide)
    · exact absurd touches.fails (by decide)
  · intro truth
    rcases (tellsTruth_iff_of_outcome orderly (messagesPass_only _ rfl)
      inForce_limited.hasCgroup).mp truth with removes | touches
    · exact absurd removes.reaches (by decide)
    · exact touches.unwatched inForce_limited.watched

end Pidnl.Monitor
