import Pidnl.Monitor.Computer
import Pidnl.Monitor.Unset
import Pidnl.Monitor.EventLoop
import Pidnl.Ratelimit.ParentCgroup

/-! # A ledger of processes and limits

What pidnl is for, as a ledger of the processes that run, their limits, and the pids that
are watched. With no failing call the library, the daemon and the kernel keep it, while
processes start and end and pids are given out again.
-/

namespace Pidnl.Monitor

open Pidnl.Foundation Pidnl.System Pidnl.Ratelimit
open EventLoop (WatchSet)

@[ext] structure Ledger where
  running : Int32 → Bool
  limits : LimitStore
  watched : WatchSet
  /-- The pids that are watched for a process that has ended, and name another one. -/
  stale : Int32 → Bool

namespace Ledger

def fresh (running : Int32 → Bool) : Ledger where
  running := running
  limits := .empty
  watched := .empty
  stale := fun _ => false

/-- Whether the process runs that a pid is watched for. -/
def seen (ledger : Ledger) (pid : Int32) : Bool := ledger.running pid && !ledger.stale pid

/-- What has ended and is watched goes, with its limit. -/
def reap (ledger : Ledger) : Ledger :=
  { ledger with
    limits := fun pid =>
      if pid ∈ ledger.watched ∧ ledger.seen pid = false then none else ledger.limits pid
    watched := ledger.watched.filter ledger.seen
    stale := fun _ => false }

def withLimits (ledger : Ledger) (limits : LimitStore) : Ledger :=
  { ledger with limits := limits }

def watch (ledger : Ledger) (pid : Int32) : Ledger :=
  { ledger with watched := ledger.watched.insertIfRoom pid }

def unwatch (ledger : Ledger) (pid : Int32) : Ledger :=
  { ledger with watched := ledger.watched.erase pid }

/-- What an operation does. The daemon looks for deaths whenever it is called. -/
def apply (ledger : Ledger) (operation : Operation) : Ledger :=
  let limits := ledger.limits.apply operation
  match operation with
  | .limitProcessBandwidth pid _ =>
      if pid ≤ 0 then ledger
      else if ledger.running pid then ((ledger.withLimits limits).watch pid).reap
      else ledger.withLimits (Function.update ledger.limits pid none)
  | .unregisterRateLimiterByPid pid => ((ledger.withLimits limits).unwatch pid).reap
  | .ratelimitCleanupAll =>
      { ledger with limits := limits, watched := .empty, stale := fun _ => false }

def answer (ledger : Ledger) : Operation → RatelimitCode
  | .limitProcessBandwidth pid _ =>
      if pid ≤ 0 then .invalidPid
      else if ledger.running pid then .ok else .libcgAttach
  | .unregisterRateLimiterByPid pid =>
      if (ledger.limits pid).isSome then .ok else .cgroupNotFound
  | .ratelimitCleanupAll => .ok

end Ledger

/-! ## Processes that start and end -/

namespace Ledger

def setRunning (ledger : Ledger) (pid : Int32) (runs : Bool) : Int32 → Bool :=
  Function.update ledger.running pid runs

def starts (ledger : Ledger) (pid : Int32) : Ledger :=
  if ledger.running pid then ledger
  else
    { ledger with
      running := ledger.setRunning pid true
      stale := Function.update ledger.stale pid (decide (pid ∈ ledger.watched)) }

def exits (ledger : Ledger) (pid : Int32) : Ledger :=
  { ledger with running := ledger.setRunning pid false }

section Starts

variable (ledger : Ledger) (pid : Int32)

@[simp] theorem limits_starts : (ledger.starts pid).limits = ledger.limits := by
  rw [starts]
  split <;> rfl

@[simp] theorem watched_starts : (ledger.starts pid).watched = ledger.watched := by
  rw [starts]
  split <;> rfl

@[simp] theorem running_starts_self : (ledger.starts pid).running pid = true := by
  rw [starts]
  split
  · assumption
  · exact Function.update_self _ _ _

theorem stale_starts_self {ledger : Ledger} {pid : Int32} (ended : ledger.running pid = false)
    (member : pid ∈ ledger.watched) : (ledger.starts pid).stale pid = true := by
  rw [starts, if_neg (Bool.eq_false_iff.mp ended)]
  exact (Function.update_self _ _ _).trans (decide_eq_true member)

end Starts

end Ledger

/-! ## The table and the set -/

namespace WatchTable

theorem PidsDistinct.freeSlot_isSome_iff {table : WatchTable Fd} {set : WatchSet}
    (distinct : table.PidsDistinct) (same : ∀ pid, table.IsWatched pid ↔ pid ∈ set) :
    table.freeSlot.isSome ↔ ¬ set.IsFull := by
  have isPids : EventLoop.Watch.pids { table := table, openPidfds := ∅ } = set :=
    EventLoop.Watch.pids_eq_of_mem_iff same
  have counted : set.members.card = table.watchedCount := by
    rw [← isPids, table.counted, EventLoop.Watch.pids]
    apply Finset.card_image_of_injOn
    intro slot active other alsoActive equal
    simp only [Finset.coe_filter, Finset.mem_univ, true_and, Set.mem_ofPred_eq] at active alsoActive
    rcases Option.isSome_iff_exists.mp active with ⟨entry, found⟩
    rcases Option.isSome_iff_exists.mp alsoActive with ⟨second, alsoFound⟩
    apply distinct slot other entry second found alsoFound
    simpa [found, alsoFound] using equal
  rw [BoundedSet.IsFull, counted]
  constructor
  · intro free full
    rw [freeSlot_eq_none_of_full full] at free
    contradiction
  · intro room
    apply freeSlot_isSome_of_lt
    rw [← counted] at room ⊢
    exact lt_of_le_of_ne set.bounded room

theorem isWatched_unwatch_iff {table : WatchTable Pidfd} (distinct : table.PidsDistinct)
    {pid other : Int32} :
    (table.unwatch pid).IsWatched other ↔ other ≠ pid ∧ table.IsWatched other := by
  constructor
  · intro watched
    refine ⟨?_, isWatched_of_unwatch watched⟩
    intro same
    subst same
    exact not_isWatched_unwatch distinct other watched
  · exact fun both => isWatched_unwatch_of_ne both.1 both.2

end WatchTable

/-! ## The daemon's pass over the slots -/

namespace Daemon

variable {kernel : Kernel} {table : Table}

def dying (table : Table) (kernel : Kernel) : Set Int32 :=
  { pid | table.IsWatched pid ∧ kernel.running pid = false }

structure Reaps (table : Table) (kernel : Kernel) (outcome : Table × Kernel) : Prop where
  affects : Affects (dying table kernel) kernel outcome.2
  gone : ∀ pid ∈ dying table kernel, hasCgroup outcome.2 pid = false
  watched : ∀ pid, outcome.1.IsWatched pid ↔ table.IsWatched pid ∧ kernel.running pid = true
  distinct : outcome.1.PidsDistinct
  root : hasRoot kernel = true → hasRoot outcome.2 = true

theorem execute_handleDeaths_cons (slot : SlotIndex) (slots : List SlotIndex) :
    Kernel.execute .monitor .none (handleDeaths (slot :: slots) table) kernel =
      match table.entries slot with
      | none => Kernel.execute .monitor .none (handleDeaths slots table) kernel
      | some entry =>
          if kernel.running entry.pid then
            Kernel.execute .monitor .none (handleDeaths slots table) kernel
          else
            Kernel.execute .monitor .none (handleDeaths slots (table.unwatch entry.pid))
              (Kernel.execute .monitor .none
                (unregisterRateLimiterByPid entry.pid table) kernel).2 := by
  rw [handleDeaths]
  cases table.entries slot with
  | none => rfl
  | some entry =>
      have readable : Kernel.exec .monitor (Faults.none.here .total) kernel
        (.pidfdReadable entry.pid) = (!kernel.running entry.pid, kernel) := rfl
      simp only [ask, Kernel.execute_bind, Kernel.execute_request, readable]
      cases kernel.running entry.pid with
      | true => rfl
      | false =>
          simp only [Bool.not_false, if_true, Kernel.execute_bind, Bool.false_eq_true,
            if_false, execute_unregisterRateLimiterByPid_result]

theorem removes_unregister (table : Table) (settled : Settled kernel) (pid : Int32) :
    let after := (Kernel.execute .monitor .none (unregisterRateLimiterByPid pid table)
      kernel).2
    Removes kernel after ∧ after.running = kernel.running ∧ hasCgroup after pid = false ∧
      (hasRoot kernel = true → hasRoot after = true) := by
  rcases execute_removePidFromWatch .none pid table settled with ⟨_, quiet⟩
  simp only [unregisterRateLimiterByPid, Kernel.execute_bind, Kernel.execute_pure]
  generalize (Kernel.execute .monitor .none (removePidFromWatch pid table) kernel).2 =
    middle at quiet ⊢
  have removes := removes_deletePidCgroup .monitor (settled.quiet quiet) pid
  refine ⟨Removes.trans ⟨.of_quiet settled quiet, ?_⟩ removes, ?_, ?_, ?_⟩
  · intro other present
    rwa [Settled.hasCgroup_quiet quiet] at present
  · rw [removes.affects.running, quiet.running]
  · exact execute_deletePidCgroup_none .monitor (settled.quiet quiet) pid
  · intro root
    apply hasRoot_execute (keepsRoot_deletePidCgroup pid)
    rw [hasRoot_quiet quiet]
    exact root

structure Passes (slots : List SlotIndex) (table : Table) (kernel : Kernel)
    (outcome : Table × Kernel) : Prop where
  removes : Removes kernel outcome.2
  /-- A process that runs keeps its entry. -/
  kept : ∀ pid, kernel.running pid = true → table.IsWatched pid → outcome.1.IsWatched pid
  alive : ∀ slot ∈ slots, ∀ entry, outcome.1.entries slot = some entry →
    kernel.running entry.pid = true
  gone : ∀ pid, table.IsWatched pid → ¬ outcome.1.IsWatched pid →
    hasCgroup outcome.2 pid = false
  root : hasRoot kernel = true → hasRoot outcome.2 = true

section Passes

variable {slots : List SlotIndex} {outcome : Table × Kernel}

theorem Passes.spares {slot : SlotIndex} (passes : Passes slots table kernel outcome)
    (runs : ∀ entry, outcome.1.entries slot = some entry →
      kernel.running entry.pid = true) :
    Passes (slot :: slots) table kernel outcome where
  removes := passes.removes
  kept := passes.kept
  alive := by
    intro other member entry left
    rcases List.mem_cons.mp member with rfl | later
    · exact runs entry left
    · exact passes.alive other later entry left
  gone := passes.gone
  root := passes.root

theorem Passes.reaps {pid : Int32} {middle : Kernel}
    (passes : Passes slots (table.unwatch pid) middle outcome)
    (ended : ¬ kernel.running pid = true) (removes : Removes kernel middle)
    (running : middle.running = kernel.running) (gone : hasCgroup middle pid = false)
    (root : hasRoot kernel = true → hasRoot middle = true) :
    Passes slots table kernel outcome where
  removes := removes.trans passes.removes
  kept := by
    intro other alive watched
    apply passes.kept other (by rwa [running])
    apply WatchTable.isWatched_unwatch_of_ne _ watched
    intro same
    exact ended (same ▸ alive)
  alive := by
    rw [← running]
    exact passes.alive
  gone := by
    intro other watched left
    by_cases same : other = pid
    · apply Bool.eq_false_iff.mpr
      intro present
      have still := passes.removes.cgroups other present
      rw [same, gone] at still
      contradiction
    · exact passes.gone other (WatchTable.isWatched_unwatch_of_ne same watched) left
  root := passes.root ∘ root

theorem passes_handleDeaths (settled : Settled kernel) (distinct : table.PidsDistinct)
    (slots : List SlotIndex) :
    Passes slots table kernel
      (Kernel.execute .monitor .none (handleDeaths slots table) kernel) := by
  induction slots generalizing table kernel with
  | nil => exact ⟨.refl settled, fun _ _ watched => watched, nofun,
      fun _ watched unwatched => absurd watched unwatched, id⟩
  | cons slot slots induction =>
      rw [execute_handleDeaths_cons]
      cases active : table.entries slot with
      | none =>
          apply (induction settled distinct).spares
          intro entry left
          have before := entries_of_handleDeaths .none slots table left
          rw [active] at before
          contradiction
      | some head =>
          by_cases runs : kernel.running head.pid = true
          · simp only [if_pos runs]
            apply (induction settled distinct).spares
            intro entry left
            have before := entries_of_handleDeaths .none slots table left
            rw [active] at before
            cases before
            exact runs
          · simp only [if_neg runs]
            rcases removes_unregister table settled head.pid with
              ⟨removes, running, gone, root⟩
            have passed := induction removes.affects.settled (distinct.unwatch head.pid)
            apply (passed.reaps runs removes running gone root).spares
            intro entry left
            have before := entries_of_handleDeaths .none slots _ left
            have same := WatchTable.entries_of_unwatch before
            rw [active] at same
            cases same
            have unwatched := WatchTable.not_isWatched_unwatch distinct head.pid
            exact absurd ⟨_, _, before, rfl⟩ unwatched

end Passes

theorem reaps_handleDeaths (settled : Settled kernel) (distinct : table.PidsDistinct) :
    Reaps table kernel (Kernel.execute .monitor .none
      (handleDeaths (List.finRange MAX_WATCHED_PIDS) table) kernel) := by
  have passed := passes_handleDeaths settled distinct (List.finRange MAX_WATCHED_PIDS)
  have dead := affects_handleDeaths .none table settled (List.finRange MAX_WATCHED_PIDS)
  have watched := affects_handleDeaths_watched .none settled
    (List.finRange MAX_WATCHED_PIDS) table
  have within : ∀ {slot : SlotIndex} {entry : PidfdEntry Fd}, (Kernel.execute .monitor .none
      (handleDeaths (List.finRange MAX_WATCHED_PIDS) table) kernel).1.entries slot =
        some entry → table.entries slot = some entry :=
    entries_of_handleDeaths .none _ table
  generalize Kernel.execute .monitor .none
    (handleDeaths (List.finRange MAX_WATCHED_PIDS) table) kernel = outcome
    at passed dead watched within ⊢
  have alive : ∀ pid, outcome.1.IsWatched pid → kernel.running pid = true := by
    intro pid left
    rcases left with ⟨slot, entry, active, rfl⟩
    exact passed.alive slot (List.mem_finRange slot) entry active
  constructor
  · refine ⟨dead.settled, dead.cgroup2Mount, dead.bpffsMount, dead.running, ?_, ?_⟩
    · intro pid outside attachType
      by_cases isWatched : table.IsWatched pid
      · exact dead.slots pid (fun ended => outside ⟨isWatched, ended⟩) attachType
      · exact watched.slots pid isWatched attachType
    · intro pid outside
      by_cases isWatched : table.IsWatched pid
      · exact dead.cgroups pid fun ended => outside ⟨isWatched, ended⟩
      · exact watched.cgroups pid isWatched
  · intro pid isDying
    apply passed.gone pid isDying.1
    intro left
    have runs := alive pid left
    rw [isDying.2] at runs
    contradiction
  · intro pid
    constructor
    · intro left
      refine ⟨?_, alive pid left⟩
      rcases left with ⟨slot, entry, active, holds⟩
      exact ⟨slot, entry, within active, holds⟩
    · exact fun both => passed.kept pid both.2 both.1
  · exact distinct.of_entries fun _ _ => within
  · exact passed.root

/-- What a turn leaves once its command has been handled. The daemon goes on unless it
is told to stop or watches nothing. -/
structure Turns (goesOn : Prop) (table : Table) (kernel : Kernel)
    (outcome : Option Table × Kernel) : Prop where
  affects : Affects (dying table kernel) kernel outcome.2
  gone : ∀ pid ∈ dying table kernel, hasCgroup outcome.2 pid = false
  watched : ∀ pid, (outcome.1.getD .empty).IsWatched pid ↔
    goesOn ∧ table.IsWatched pid ∧ kernel.running pid = true
  distinct : (outcome.1.getD .empty).PidsDistinct
  root : hasRoot kernel = true → hasRoot outcome.2 = true

section Turns

variable {goesOn : Prop} {survived : Table} {middle : Kernel}

theorem Reaps.continues (reaps : Reaps table kernel (survived, middle)) (unstopped : goesOn) :
    Turns goesOn table kernel (some survived, middle) where
  affects := reaps.affects
  gone := reaps.gone
  watched := fun pid => by rw [and_iff_right unstopped]; exact reaps.watched pid
  distinct := reaps.distinct
  root := reaps.root

theorem Reaps.ends (reaps : Reaps table kernel (survived, middle))
    (ended : goesOn → survived.watchedCount = 0) (slots : List SlotIndex) :
    Turns goesOn table kernel (none, (Kernel.execute .monitor .none
      (closePidfds survived slots) middle).2) := by
  have quiet := quiet_closePidfds .none survived reaps.affects.settled slots
  constructor
  · exact reaps.affects.trans (.of_quiet reaps.affects.settled quiet)
  · intro pid isDying
    rw [Settled.hasCgroup_quiet quiet]
    exact reaps.gone pid isDying
  · intro pid
    constructor
    · exact fun watched => absurd watched (WatchTable.not_isWatched_empty pid)
    · intro left
      have unwatched := WatchTable.watchedCount_eq_zero_iff.mp (ended left.1) pid
      exact absurd ((reaps.watched pid).mpr left.2) unwatched
  · exact WatchTable.pidsDistinct_empty
  · intro root
    rw [hasRoot_quiet quiet]
    exact reaps.root root

theorem turns_serveClient {command : Command} {pid : Int32} {result : MonitorCode}
    {handled : Table} (settled : Settled middle) (distinct : handled.PidsDistinct)
    (runs : Kernel.execute .monitor .none (runCommand command pid table) kernel =
      ((result, handled), middle)) :
    let outcome := Kernel.execute .monitor .none (serveClient command pid table) kernel
    Turns (command ≠ .stop) handled middle (outcome.1.2, outcome.2) := by
  have reaps := reaps_handleDeaths settled distinct
  simp only [serveClient, Kernel.execute_inside, Faults.none_inside, Kernel.execute_bind,
    Kernel.execute_ite, Kernel.execute_pure, runs]
  generalize Kernel.execute .monitor .none
    (handleDeaths (List.finRange MAX_WATCHED_PIDS) handled) middle = outcome at reaps ⊢
  split
  · rename_i ends
    apply reaps.ends
    intro goesOn
    exact ends.resolve_left goesOn
  · rename_i goesOn
    exact reaps.continues fun stops => goesOn (.inl stops)

theorem turns_idleTurn (settled : Settled kernel) (distinct : table.PidsDistinct) :
    Turns True table kernel (Kernel.execute .monitor .none (idleTurn table) kernel) := by
  have reaps := reaps_handleDeaths settled distinct
  simp only [idleTurn, Kernel.execute_inside, Faults.none_inside, Kernel.execute_bind,
    Kernel.execute_ite, Kernel.execute_pure]
  generalize Kernel.execute .monitor .none
    (handleDeaths (List.finRange MAX_WATCHED_PIDS) table) kernel = outcome at reaps ⊢
  split
  · rename_i ends
    exact reaps.ends (fun _ => ends) _
  · exact reaps.continues trivial

end Turns

end Daemon

/-! ## Keeping the ledger -/

/-- Kernel and watch table hold what the ledger says, while these processes run. -/
structure Agrees (running : Int32 → Bool) (kernel : Kernel) (table : Daemon.Table)
    (ledger : Ledger) : Prop where
  settled : Settled kernel
  running : kernel.running = running
  limits : ∀ pid, standingLimits kernel pid = ledger.limits.read pid
  distinct : table.PidsDistinct
  watched : ∀ pid, table.IsWatched pid ↔ pid ∈ ledger.watched
  root : ∀ pid ∈ ledger.watched, hasRoot kernel = true

structure Computer.Follows (computer : Computer) (ledger : Ledger) : Prop where
  agrees : Agrees ledger.running computer.world.kernel computer.world.table ledger
  stale : computer.stale = ledger.stale
  within : ∀ pid, ledger.stale pid = true → pid ∈ ledger.watched

theorem follows_fresh (cgroup2Mount bpffsMount : Path) (running : Int32 → Bool) :
    (Computer.fresh cgroup2Mount bpffsMount running).Follows (.fresh running) where
  agrees :=
    { settled := settled_empty cgroup2Mount bpffsMount running
      running := rfl
      limits := fun _ => standingLimits_of_absent rfl
      distinct := WatchTable.pidsDistinct_empty
      watched := fun pid =>
        iff_of_false (WatchTable.not_isWatched_empty pid) (BoundedSet.notMem_empty pid)
      root := fun pid watched => absurd watched (BoundedSet.notMem_empty pid) }
  stale := rfl
  within := fun _ isStale => absurd isStale Bool.false_ne_true

namespace Agrees

variable {running : Int32 → Bool} {kernel after : Kernel} {table : Daemon.Table}
  {ledger : Ledger} {pid : Int32}

theorem hasCgroup_eq (agrees : Agrees running kernel table ledger) (pid : Int32) :
    hasCgroup kernel pid = (ledger.limits pid).isSome := by
  have same := agrees.limits pid
  rw [standingLimits, LimitStore.read] at same
  cases present : hasCgroup kernel pid with
  | true =>
      rw [if_pos ⟨positive_of_hasCgroup agrees.settled present, present⟩] at same
      cases held : ledger.limits pid with
      | none =>
          rw [held] at same
          cases same
      | some config => rfl
  | false =>
      rw [if_neg (by simp [present])] at same
      cases held : ledger.limits pid with
      | none => rfl
      | some config =>
          rw [held] at same
          cases same

theorem withRunning (agrees : Agrees running kernel table ledger) (others : Int32 → Bool) :
    Agrees others (Monitor.withRunning kernel others) table ledger where
  settled := agrees.settled.withRunning others
  running := rfl
  limits := agrees.limits
  distinct := agrees.distinct
  watched := agrees.watched
  root := agrees.root

theorem quiet (agrees : Agrees running kernel table ledger) (quiet : Quiet kernel after) :
    Agrees running after table ledger where
  settled := agrees.settled.quiet quiet
  running := quiet.running.trans agrees.running
  limits := by
    intro pid
    have affects : Affects ∅ kernel after := .of_quiet agrees.settled quiet
    rw [standingLimits_of_affects affects (Set.notMem_empty pid), agrees.limits]
  distinct := agrees.distinct
  watched := agrees.watched
  root := by
    intro pid watched
    rw [hasRoot_quiet quiet]
    exact agrees.root pid watched

theorem affects {pids : Set Int32} (agrees : Agrees running kernel table ledger)
    (limits : LimitStore) (affects : Affects pids kernel after)
    (root : hasRoot kernel = true → hasRoot after = true)
    (inside : ∀ pid ∈ pids, standingLimits after pid = limits.read pid)
    (outside : ∀ pid ∉ pids, limits pid = ledger.limits pid) :
    Agrees running after table (ledger.withLimits limits) where
  settled := affects.settled
  running := affects.running.trans agrees.running
  limits := by
    intro pid
    by_cases member : pid ∈ pids
    · exact inside pid member
    · have same : limits.read pid = ledger.limits.read pid := by
        rw [LimitStore.read, LimitStore.read, outside pid member]
      rw [standingLimits_of_affects affects member, agrees.limits]
      exact same.symm
  distinct := agrees.distinct
  watched := agrees.watched
  root := fun pid watched => root (agrees.root pid watched)

theorem removes (agrees : Agrees running kernel table ledger)
    (affects : Affects {pid} kernel after) (root : hasRoot kernel = true → hasRoot after = true)
    (gone : hasCgroup after pid = false) :
    Agrees running after table
      (ledger.withLimits (Function.update ledger.limits pid none)) := by
  apply agrees.affects _ affects root
  · intro other same
    cases Set.mem_singleton_iff.mp same
    rw [standingLimits_of_absent gone, LimitStore.read, Function.update_self]
  · intro other different
    exact Function.update_of_ne different _ _

theorem turn {goesOn : Prop} {outcome : Option Daemon.Table × Kernel}
    (agrees : Agrees ledger.seen kernel table ledger)
    (turns : Daemon.Turns goesOn table kernel outcome) (unstopped : goesOn) :
    Agrees ledger.seen outcome.2 (outcome.1.getD .empty) ledger.reap := by
  have dying_iff : ∀ pid, pid ∈ Daemon.dying table kernel ↔
      pid ∈ ledger.watched ∧ ledger.seen pid = false := by
    intro pid
    rw [← agrees.watched, ← agrees.running]
    rfl
  have reaped := agrees.affects ledger.reap.limits turns.affects turns.root
    (by
      intro pid isDying
      rw [standingLimits_of_absent (turns.gone pid isDying), LimitStore.read, Ledger.reap]
      simp only [(dying_iff pid).mp isDying, and_self, if_true])
    (by
      intro pid outside
      rw [dying_iff] at outside
      exact if_neg outside)
  have left : ∀ pid, (outcome.1.getD .empty).IsWatched pid ↔ pid ∈ ledger.reap.watched := by
    intro pid
    rw [turns.watched, agrees.watched, agrees.running, and_iff_right unstopped]
    exact BoundedSet.mem_filter.symm
  exact ⟨reaped.settled, reaped.running, reaped.limits, turns.distinct, left,
    fun pid watched => reaped.root pid (BoundedSet.mem_filter.mp watched).1⟩

end Agrees

namespace Computer.Follows

variable {computer : Computer} {ledger : Ledger}

theorem isWatched_of_stale (follows : computer.Follows ledger) {pid : Int32}
    (isStale : computer.stale pid = true) : computer.world.table.IsWatched pid := by
  apply (follows.agrees.watched pid).mpr
  apply follows.within
  rw [← follows.stale]
  exact isStale

/-- The daemon sees the processes that it watches. -/
theorem viewed (follows : computer.Follows ledger) :
    Agrees ledger.seen (Daemon.viewed computer.stale computer.world.kernel)
      computer.world.table ledger := by
  have seen : (fun pid => computer.world.kernel.running pid && !computer.stale pid) =
      ledger.seen := by
    rw [follows.agrees.running, follows.stale]
    rfl
  rw [Daemon.viewed, seen]
  exact follows.agrees.withRunning ledger.seen

theorem of_viewed {after : World} {kernel : Kernel} {told : Ledger}
    (follows : computer.Follows ledger) (running : told.running = ledger.running)
    (stale : told.stale = ledger.stale) (agrees : Agrees told.seen kernel after.table told.reap)
    (same : after.kernel = Monitor.withRunning kernel computer.world.kernel.running) :
    (computer.withWorld after).Follows told.reap := by
  refine ⟨?_, ?_, fun _ isStale => absurd isStale Bool.false_ne_true⟩
  · have kept := agrees.withRunning computer.world.kernel.running
    rw [← same] at kept
    exact { kept with
      running := kept.running.trans (follows.agrees.running.trans running.symm) }
  · funext pid
    apply Bool.eq_false_iff.mpr
    intro isStale
    have both := Bool.and_eq_true_iff.mp isStale
    have watched := (agrees.watched pid).mp (WatchTable.findPidSlot_isSome_iff.mp both.2)
    have seen := (BoundedSet.mem_filter.mp watched).2
    rw [Ledger.seen, stale, ← follows.stale, both.1] at seen
    simp at seen

theorem setRunning (follows : computer.Follows ledger) (pid : Int32) (runs : Bool) :
    Agrees (ledger.setRunning pid runs) (computer.setRunning pid runs).kernel
      (computer.setRunning pid runs).table ledger := by
  have changed : Function.update computer.world.kernel.running pid runs =
      ledger.setRunning pid runs := by
    rw [follows.agrees.running]
    rfl
  exact { follows.agrees.withRunning (Function.update computer.world.kernel.running pid runs) with
    running := changed }

theorem starts (follows : computer.Follows ledger) (pid : Int32) :
    (computer.starts pid).Follows (ledger.starts pid) := by
  have same : computer.world.kernel.running pid = ledger.running pid :=
    congrFun follows.agrees.running pid
  rw [Computer.starts, Ledger.starts, same]
  split
  · exact follows
  · have watched : (computer.world.table.findPidSlot pid).isSome =
        decide (pid ∈ ledger.watched) := by
      rw [Bool.eq_iff_iff, decide_eq_true_iff]
      exact WatchTable.findPidSlot_isSome_iff.trans (follows.agrees.watched pid)
    refine ⟨{ follows.setRunning pid true with }, ?_, ?_⟩
    · simp only [follows.stale, watched]
    · intro other isStale
      simp only [Function.update_apply] at isStale
      split at isStale
      · rename_i same
        subst same
        exact decide_eq_true_iff.mp isStale
      · exact follows.within other isStale

theorem exits (follows : computer.Follows ledger) (pid : Int32) :
    (computer.exits pid).Follows (ledger.exits pid) where
  agrees := { follows.setRunning pid false with }
  stale := follows.stale
  within := follows.within

end Computer.Follows

end Pidnl.Monitor
