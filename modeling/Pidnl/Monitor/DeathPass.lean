import Pidnl.Monitor.EventLoop

/-! # The deaths of a turn

The pass over the slots compares descriptor numbers with an array that was filled before
the command of the turn. What is read from a slot in the pass is a pidfd of the table,
so descriptors that removing a limit opens and closes do not come into it.
-/

namespace Pidnl.Monitor.EventLoop

open Pidnl.Foundation

namespace Watch

def activeSlots (watch : Watch) : List SlotIndex :=
  (List.finRange MAX_WATCHED_PIDS).filter fun slot => (watch.table.entries slot).isSome

/-- Where the pidfd of an active slot is in the array for `poll`. -/
def pollIndex (watch : Watch) (slot : SlotIndex) : Nat :=
  watch.activeSlots.idxOf slot + 1

def handleSlots (watch : Watch) (fds : List PollFd) (slots : List SlotIndex) : Watch :=
  slots.foldl (fun watch slot => watch.handleSlot fds slot) watch

/-- The calls of `unregister_rate_limiter_by_pid` in these turns. -/
def deaths (watch : Watch) (fds : List PollFd) : List SlotIndex → List Int32
  | [] => []
  | slot :: slots =>
      (watch.dead fds slot).toList ++ (watch.handleSlot fds slot).deaths fds slots

def ReportedDead (polled : Watch) (revents : Nat → Bool) (watch : Watch)
    (slot : SlotIndex) (pid : Int32) : Prop :=
  ∃ entry, watch.table.entries slot = some entry ∧ entry.pid = pid ∧
    polled.table.entries slot = some entry ∧ revents (polled.pollIndex slot)

/-- Every pid that is dead is unregistered once, and nothing else changes. -/
structure HandlesDeaths (polled : Watch) (revents : Nat → Bool) (served : Watch)
    (calls : List Int32) (handled : Watch) : Prop where
  once : calls.Nodup
  mem_calls : ∀ pid, pid ∈ calls ↔ ∃ slot, polled.ReportedDead revents served slot pid
  cleared : ∀ slot pid, polled.ReportedDead revents served slot pid →
    handled.table.entries slot = none
  unchanged : ∀ slot, (∀ pid, ¬ polled.ReportedDead revents served slot pid) →
    handled.table.entries slot = served.table.entries slot

/-! ## What was polled -/

theorem any_mapIdx_filterMap {slots : List SlotIndex} (nodup : slots.Nodup)
    (pidfdOf : SlotIndex → Option Fd) (revents : Nat → Bool) (first : Nat) (pidfd : Fd) :
    ((slots.filterMap pidfdOf).mapIdx fun index fd =>
        ({ fd := fd, pollin := revents (index + first) } : PollFd)).any
          (fun polled => polled.fd = pidfd && polled.pollin) ↔
      ∃ slot ∈ slots, pidfdOf slot = some pidfd ∧
        revents ((slots.filter fun slot => (pidfdOf slot).isSome).idxOf slot + first) := by
  induction slots generalizing first with
  | nil => simp
  | cons head tail induction =>
      rcases List.nodup_cons.mp nodup with ⟨headNotMem, tailNodup⟩
      have rest := induction tailNodup
      have ne_head : ∀ slot ∈ tail, head ≠ slot := by
        intro slot member equal
        exact headNotMem (equal ▸ member)
      cases found : pidfdOf head with
      | none =>
          rw [List.filterMap_cons_none found, rest,
            List.filter_cons_of_neg (by simp [found])]
          simp [found]
      | some fd =>
          rw [List.filterMap_cons_some found, List.mapIdx_cons, List.any_cons,
            List.filter_cons_of_pos (by simp [found])]
          have shifted : ∀ index, index + 1 + first = index + (first + 1) := by
            intro index
            omega
          simp only [shifted, Bool.or_eq_true, rest, Bool.and_eq_true, decide_eq_true_eq]
          constructor
          · intro member
            rcases member with ⟨equal, reported⟩ | ⟨slot, member, holds, reported⟩
            · refine ⟨head, .head _, found.trans (congrArg some equal), ?_⟩
              rwa [List.idxOf_cons_self]
            · refine ⟨slot, .tail _ member, holds, ?_⟩
              rw [List.idxOf_cons_ne _ (ne_head slot member), Nat.succ_add_eq_add_succ]
              exact reported
          · intro member
            rcases member with ⟨slot, member, holds, reported⟩
            rcases List.mem_cons.mp member with rfl | member
            · rw [List.idxOf_cons_self] at reported
              rw [found] at holds
              cases holds
              exact .inl ⟨rfl, reported⟩
            · rw [List.idxOf_cons_ne _ (ne_head slot member),
                Nat.succ_add_eq_add_succ] at reported
              exact .inr ⟨slot, member, holds, reported⟩

theorem any_polled (watch : Watch) (monitorSocket : Fd) (revents : Nat → Bool)
    (pidfd : Fd) :
    ((polled revents (watch.pollArray monitorSocket)).tail.any
        fun polled => polled.fd = pidfd && polled.pollin) ↔
      ∃ slot entry, watch.table.entries slot = some entry ∧ entry.pidfd = pidfd ∧
        revents (watch.pollIndex slot) := by
  rw [polled, pollArray, List.mapIdx_cons, List.tail_cons,
    any_mapIdx_filterMap (List.nodup_finRange _)]
  simp only [List.mem_finRange, true_and, Option.isSome_map, Option.map_eq_some_iff,
    pollIndex, activeSlots]
  constructor
  · intro reported
    rcases reported with ⟨slot, ⟨entry, active, holds⟩, reported⟩
    exact ⟨slot, entry, active, holds, reported⟩
  · intro reported
    rcases reported with ⟨slot, entry, active, holds, reported⟩
    exact ⟨slot, ⟨entry, active, holds⟩, reported⟩

theorem dead_eq_some_iff {watch : Watch} {fds : List PollFd} {slot : SlotIndex}
    {pid : Int32} :
    watch.dead fds slot = some pid ↔
      ∃ entry, watch.table.entries slot = some entry ∧ entry.pid = pid ∧
        (fds.tail.any fun polled => polled.fd = entry.pidfd && polled.pollin) := by
  rw [dead]
  cases watch.table.entries slot with
  | none => simp
  | some entry => simp [and_comm]

/-- Where a pidfd of the table is one that was polled, it belongs to the same slot and
the same pid. -/
def FollowsPoll (polled watch : Watch) : Prop :=
  ∀ {slot other : SlotIndex} {entry old : PidfdEntry Fd},
    watch.table.entries slot = some entry → polled.table.entries other = some old →
      old.pidfd = entry.pidfd → other = slot ∧ old = entry

theorem Kept.followsPoll {watch : Watch} (kept : watch.Kept) : watch.FollowsPoll watch := by
  intro slot other entry old active polled equal
  cases kept.pidfds_distinct polled active equal
  rw [polled] at active
  exact ⟨rfl, Option.some.inj active⟩

theorem entries_handleMessage {watch : Watch} {msg : Message} {opened : Option Fd}
    {slot : SlotIndex} {entry : PidfdEntry Fd}
    (active : (watch.handleMessage msg opened).2.table.entries slot = some entry) :
    watch.table.entries slot = some entry ∨ opened = some entry.pidfd := by
  have removed : ∀ pid, (watch.removePidFromWatch pid).2.table.entries slot = some entry →
      watch.table.entries slot = some entry := by
    intro pid active
    rw [removePidFromWatch] at active
    split at active
    · exact active
    · rename_i found _
      by_cases same : slot = found.slot
      · simp [WatchTable.clear, same] at active
      · simpa [WatchTable.clear, same] using active
  rw [handleMessage] at active
  split at active
  · rw [addPidToWatch] at active
    split at active
    · exact .inl active
    · split at active
      · exact .inl active
      · rename_i free _
        cases opened with
        | none => exact .inl (removed _ active)
        | some pidfd =>
            by_cases same : slot = free.1
            · simp only [WatchTable.insert, same, Function.update_self] at active
              cases active
              exact .inr rfl
            · simp only [WatchTable.insert, Function.update_of_ne same] at active
              exact .inl active
  · split at active
    · exact .inl (removed _ active)
    · split at active <;> exact .inl active

theorem Kept.followsPoll_handleMessage {watch : Watch} (kept : watch.Kept) (msg : Message)
    {opened : Option Fd} (unused : ∀ pidfd ∈ opened, pidfd ∉ watch.openPidfds) :
    watch.FollowsPoll (watch.handleMessage msg opened).2 := by
  intro slot other entry old active polled equal
  rcases entries_handleMessage active with before | fresh
  · exact kept.followsPoll before polled equal
  · exact absurd ((kept.open_iff _).mpr ⟨other, old, polled, equal⟩) (unused _ fresh)

theorem FollowsPoll.dead_iff {before watch : Watch} (follows : before.FollowsPoll watch)
    {monitorSocket : Fd} {revents : Nat → Bool} {slot : SlotIndex} {pid : Int32} :
    watch.dead (polled revents (before.pollArray monitorSocket)) slot = some pid ↔
      before.ReportedDead revents watch slot pid := by
  rw [dead_eq_some_iff]
  simp only [any_polled]
  constructor
  · intro dead
    rcases dead with ⟨entry, active, holds, other, old, polled, equal, reported⟩
    rcases follows active polled equal with ⟨rfl, rfl⟩
    exact ⟨old, active, holds, polled, reported⟩
  · intro dead
    rcases dead with ⟨entry, active, holds, polled, reported⟩
    exact ⟨entry, active, holds, slot, entry, polled, rfl, reported⟩

/-! ## The pass -/

theorem Kept.entries_handleSlot {watch : Watch} (kept : watch.Kept) (fds : List PollFd)
    (slot other : SlotIndex) :
    (watch.handleSlot fds slot).table.entries other =
      if other = slot ∧ (watch.dead fds slot).isSome then none
      else watch.table.entries other := by
  rw [Watch.handleSlot]
  cases isDead : watch.dead fds slot with
  | none => simp
  | some pid =>
      rcases dead_eq_some_iff.mp isDead with ⟨entry, active, holds, _⟩
      have watched : watch.table.IsWatched pid := ⟨slot, entry, active, holds⟩
      rcases Option.isSome_iff_exists.mp (WatchTable.findPidSlot_isSome_iff.mpr watched)
        with ⟨found, finds⟩
      have same : found.slot = slot :=
        kept.pids_distinct found.active active (found.holds.trans holds.symm)
      simp only [unregisterRateLimiterByPid, Watch.removePidFromWatch, finds, WatchTable.clear,
        same, Function.update_apply, Option.isSome_some, and_true]

/-- Whether a slot is dead does not change while the others are handled. -/
theorem Kept.dead_handleSlot {watch : Watch} (kept : watch.Kept) (fds : List PollFd)
    {slot other : SlotIndex} (different : other ≠ slot) :
    (watch.handleSlot fds slot).dead fds other = watch.dead fds other := by
  have entries := kept.entries_handleSlot fds slot other
  rw [if_neg (different ·.1)] at entries
  rw [dead, dead, entries]

theorem Kept.handleSlots {watch : Watch} (kept : watch.Kept) (fds : List PollFd)
    {slots : List SlotIndex} (nodup : slots.Nodup) :
    watch.deaths fds slots = slots.filterMap (watch.dead fds) ∧
      ∀ other, (watch.handleSlots fds slots).table.entries other =
        if other ∈ slots ∧ (watch.dead fds other).isSome then none
        else watch.table.entries other := by
  induction slots generalizing watch with
  | nil => simp [deaths, Watch.handleSlots]
  | cons head tail induction =>
      rcases List.nodup_cons.mp nodup with ⟨headNotMem, tailNodup⟩
      rcases induction (kept.handleSlot fds head) tailNodup with ⟨calls, entries⟩
      have deadLater : ∀ other ∈ tail,
          (watch.handleSlot fds head).dead fds other = watch.dead fds other := by
        intro other member
        apply kept.dead_handleSlot
        intro equal
        exact headNotMem (equal ▸ member)
      constructor
      · rw [deaths, calls, List.filterMap_congr deadLater]
        cases isDead : watch.dead fds head with
        | none => rw [List.filterMap_cons_none isDead]; rfl
        | some pid => rw [List.filterMap_cons_some isDead]; rfl
      · intro other
        have later := entries other
        rw [Watch.handleSlots, List.foldl_cons]
        rw [Watch.handleSlots] at later
        rw [later, kept.entries_handleSlot]
        by_cases member : other ∈ tail
        · have different : other ≠ head := fun equal => headNotMem (equal ▸ member)
          simp [member, different, deadLater other member]
        · by_cases same : other = head
          · subst same
            simp [member]
          · simp [member, same]

theorem FollowsPoll.handleSlots {before watch : Watch}
    (follows : before.FollowsPoll watch) (kept : watch.Kept) (monitorSocket : Fd)
    (revents : Nat → Bool) :
    let fds := polled revents (before.pollArray monitorSocket)
    before.HandlesDeaths revents watch (watch.deaths fds (List.finRange MAX_WATCHED_PIDS))
      (watch.handleSlots fds (List.finRange MAX_WATCHED_PIDS)) := by
  intro fds
  rcases kept.handleSlots fds (List.nodup_finRange _) with ⟨calls, entries⟩
  have dead_iff : ∀ {slot pid}, watch.dead fds slot = some pid ↔
    before.ReportedDead revents watch slot pid := follows.dead_iff
  constructor
  · rw [calls]
    apply (List.nodup_finRange _).filterMap
    intro slot other pid isDead alsoDead
    rcases dead_eq_some_iff.mp isDead with ⟨entry, active, holds, _⟩
    rcases dead_eq_some_iff.mp alsoDead with ⟨same, alsoActive, alsoHolds, _⟩
    exact kept.pids_distinct active alsoActive (holds.trans alsoHolds.symm)
  · intro pid
    simp only [calls, List.mem_filterMap, List.mem_finRange, true_and, dead_iff]
  · intro slot pid reported
    rw [entries, if_pos]
    rw [dead_iff.mpr reported]
    exact ⟨List.mem_finRange slot, rfl⟩
  · intro slot alive
    rw [entries, if_neg]
    intro dead
    rcases Option.isSome_iff_exists.mp dead.2 with ⟨pid, isDead⟩
    exact alive pid (dead_iff.mp isDead)

end Watch

/-! ## Turns of the loop -/

def turnEvents (revents : Nat → Bool) (client : Option (Connection × Option Fd)) :
    List Event :=
  .poll (.returned revents) ::
    (client.map fun (connection, opened) => .accept connection opened).toList

/-- Handling the slots one by one, and what the set hears of it. -/
theorem perform_handleSlots (monitorSocket : Fd) (running : Bool) (fds : List PollFd)
    (slots : List SlotIndex) (watch : Watch) (written : List MonitorCode) :
    let state : State :=
      { watch := watch
        position := .handlingDeaths running fds slots
        written := written }
    let events := List.replicate slots.length .handleSlot
    perform (step monitorSocket) state events =
        some { watch := watch.handleSlots fds slots
               position := .handlingDeaths running fds []
               written := written } ∧
      setEvents monitorSocket state events = (watch.deaths fds slots).map .death := by
  induction slots generalizing watch with
  | nil => exact ⟨rfl, rfl⟩
  | cons slot slots induction =>
      rcases induction (watch.handleSlot fds slot) with ⟨performed, heard⟩
      constructor
      · exact performed
      · simp only [List.length_cons, List.replicate_succ, setEvents, State.setEvent, step,
          heard, Watch.deaths, List.map_append]
        cases watch.dead fds slot <;> rfl

variable {monitorSocket : Fd}

theorem begins_of_turn {state begun : State} {revents : Nat → Bool}
    {client : Option (Connection × Option Fd)} (keeps : Keeps state)
    (turn : perform (step monitorSocket) state (turnEvents revents client) = some begun)
    {running : Bool} {fds : List PollFd} {slots : List SlotIndex}
    (begins : begun.position = .handlingDeaths running fds slots) :
    fds = polled revents (state.watch.pollArray monitorSocket) ∧
      slots = List.finRange MAX_WATCHED_PIDS ∧
      state.watch.FollowsPoll begun.watch := by
  rcases perform.cons_eq_some.mp turn with ⟨middle, hasPolled, rest⟩
  cases step_cases hasPolled with
  | polled position revents =>
      simp only [afterPoll] at rest
      cases client with
      | none =>
          cases rest
          simp only at begins
          split at begins
          · contradiction
          · cases begins
            exact ⟨rfl, rfl, keeps.kept.followsPoll⟩
      | some served =>
          rcases served with ⟨connection, opened⟩
          rcases perform.cons_eq_some.mp rest with ⟨next, accepted, ended⟩
          cases ended
          cases step_cases accepted with
          | dropped => contradiction
          | served accepting heard unused =>
              simp only at accepting
              split at accepting
              · cases accepting
                cases begins
                exact ⟨rfl, rfl, keeps.kept.followsPoll_handleMessage _
                  fun pidfd fresh => (unused pidfd fresh).1⟩
              · contradiction

/-- Whatever the poll reports and whatever the client asks for, the pass over the slots
unregisters the pids whose own pidfd was reported, and those only. -/
theorem handlesDeaths {events : List Event} {state begun : State}
    (run : perform (step monitorSocket) initial events = some state)
    {revents : Nat → Bool} {client : Option (Connection × Option Fd)}
    (turn : perform (step monitorSocket) state (turnEvents revents client) = some begun)
    {running : Bool} {fds : List PollFd} {slots : List SlotIndex}
    (begins : begun.position = .handlingDeaths running fds slots) :
    ∃ handled calls,
      perform (step monitorSocket) begun (List.replicate slots.length .handleSlot) =
          some handled ∧
        handled.position = .handlingDeaths running fds [] ∧
        setEvents monitorSocket begun (List.replicate slots.length .handleSlot) =
          calls.map .death ∧
        state.watch.HandlesDeaths revents begun.watch calls handled.watch := by
  have keeps := keeps_perform Keeps.initial run
  rcases begins_of_turn keeps turn begins with ⟨rfl, rfl, follows⟩
  have kept := (keeps_perform keeps turn).kept
  have pass := perform_handleSlots monitorSocket running
    (polled revents (state.watch.pollArray monitorSocket)) (List.finRange MAX_WATCHED_PIDS)
    begun.watch begun.written
  rw [← begins] at pass
  exact ⟨_, _, pass.1, rfl, pass.2, follows.handleSlots kept monitorSocket revents⟩

theorem handleSlots_of_tail_eq_nil {fds : List PollFd} (unpolled : fds.tail = [])
    (watch : Watch) (slots : List SlotIndex) : watch.handleSlots fds slots = watch := by
  induction slots with
  | nil => rfl
  | cons slot slots induction =>
      have alive : watch.dead fds slot = none := by
        rw [Watch.dead, unpolled]
        cases watch.table.entries slot <;> rfl
      rw [Watch.handleSlots, List.foldl_cons, Watch.handleSlot, alive]
      exact induction

def watchingSeven : State := { watching with position := .polling }

theorem isWatched_watchingSeven : watchingSeven.watch.table.IsWatched 7 := by
  have refines := congrArg Prod.snd
    (Watch.Kept.empty.handleMessage_refines (watchMessage 7) (some 4))
  have absent : (7 : Int32) ∉ Watch.empty.pids :=
    WatchTable.not_isWatched_empty 7 ∘ Watch.mem_pids.mp
  have room : ¬ Watch.empty.pids.IsFull := by
    rw [BoundedSet.IsFull, Watch.Kept.empty.card_pids]
    exact MAX_WATCHED_PIDS_pos.ne
  simp only [WatchSet.handleMessage, watchMessage, if_true, if_neg absent, dif_neg room,
    Option.isSome_some] at refines
  rw [← Watch.mem_pids]
  refine refines ▸ ?_
  exact Finset.mem_insert_self _ _

theorem perform_watchingSeven :
    perform (step 3) initial (watchEvents 7 4 ++
        (List.replicate (List.finRange MAX_WATCHED_PIDS).length .handleSlot ++ [.endTurn])) =
      some watchingSeven := by
  have unpolled : (polled (fun index => index = 0) (Watch.empty.pollArray 3)).tail = [] := by
    simp [polled, Watch.pollArray, Watch.empty, WatchTable.empty]
  have pass := (perform_handleSlots 3 true
    (polled (fun index => index = 0) (Watch.empty.pollArray 3))
    (List.finRange MAX_WATCHED_PIDS) watching.watch watching.written).1
  rw [handleSlots_of_tail_eq_nil unpolled] at pass
  apply perform.append_eq_some.mpr
  refine ⟨watching, refines_watchSet_watching.1, ?_⟩
  apply perform.append_eq_some.mpr
  refine ⟨_, pass, ?_⟩
  have watches : watching.watch.table.watchedCount ≠ 0 := fun none =>
    WatchTable.watchedCount_eq_zero_iff.mp none 7 isWatched_watchingSeven
  simp only [perform, step, afterDeaths, if_neg watches]
  rfl

theorem handlesDeaths_watchingSeven :
    ∃ (handled : State) (calls : List Int32), 7 ∈ calls ∧ handled.position =
        .handlingDeaths true (polled (· ≠ 0) (watchingSeven.watch.pollArray 3)) [] ∧
      watchingSeven.watch.HandlesDeaths (· ≠ 0) watchingSeven.watch calls
        handled.watch := by
  have turn : perform (step 3) watchingSeven (turnEvents (· ≠ 0) none) =
      some { watchingSeven with
        position := .handlingDeaths true
          (polled (· ≠ 0) (watchingSeven.watch.pollArray 3))
          (List.finRange MAX_WATCHED_PIDS) } := by
    simp [perform, step, turnEvents, watchingSeven, afterPoll, polled, Watch.pollArray]
  rcases handlesDeaths perform_watchingSeven turn rfl with
    ⟨handled, calls, _, position, _, handles⟩
  refine ⟨handled, calls, ?_, position, handles⟩
  rcases isWatched_watchingSeven with ⟨slot, entry, active, holds⟩
  exact (handles.mem_calls 7).mpr ⟨slot, entry, active, holds, active, by
    simp [Watch.pollIndex]⟩

end Pidnl.Monitor.EventLoop
