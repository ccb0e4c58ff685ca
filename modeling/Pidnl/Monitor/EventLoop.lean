import Pidnl.Monitor.Table
import Pidnl.Foundation.Execution
import Pidnl.Foundation.BoundedSet
import Mathlib.Data.Finset.Image

/-! # The event loop and the set it keeps

The loop of `monitor_run` call by call, with the pidfds that are open. Seen from
outside, the table is a set of pids of bounded size: every reply and every change
is that of the set.
-/

namespace Pidnl.Monitor.EventLoop

open Pidnl.Foundation

abbrev Fd := Nat

/-- The values of `CMD_WATCH`, `CMD_UNWATCH` and `CMD_STOP` in a message. -/
def CMD_WATCH : Int32 := 1
def CMD_UNWATCH : Int32 := 2
def CMD_STOP : Int32 := 3

/-- `struct monitor_cmd` -/
structure Message where
  cmd : Int32
  pid : Int32
deriving DecidableEq, Repr

/-! ## The table and its descriptors -/

/-- `watched_pids`, with the pidfds that are open. -/
structure Watch where
  table : WatchTable Fd
  openPidfds : Finset Fd

namespace Watch

def empty : Watch where
  table := .empty
  openPidfds := ∅

def removePidFromWatch (watch : Watch) (pid : Int32) : MonitorCode × Watch :=
  match watch.table.findPidSlot pid with
  | none => (.notFound, watch)
  | some found =>
      (.ok, { table := watch.table.clear found
              openPidfds := watch.openPidfds.erase found.entry.pidfd })

/-- `unregister_rate_limiter_by_pid` in the daemon, as far as the table goes: its
`send_command` is a call of `remove_pid_from_watch`. -/
def unregisterRateLimiterByPid (watch : Watch) (pid : Int32) : Watch :=
  (watch.removePidFromWatch pid).2

/-- `add_pid_to_watch`, with what `pidfd_open` returns. -/
def addPidToWatch (watch : Watch) (pid : Int32) (opened : Option Fd) :
    MonitorCode × Watch :=
  if (watch.table.findPidSlot pid).isSome then (.ok, watch)
  else match watch.table.freeSlot with
    | none => (.slots, watch)
    | some slot =>
        match opened with
        | none => (.pidfd, watch.unregisterRateLimiterByPid pid)
        | some pidfd =>
            (.ok, { table := watch.table.insert slot { pid := pid, pidfd := pidfd }
                    openPidfds := insert pidfd watch.openPidfds })

/-- The result for a message; `MONITOR_NOT_FOUND` where the command is unknown. -/
def handleMessage (watch : Watch) (msg : Message) (opened : Option Fd) :
    MonitorCode × Watch :=
  if msg.cmd = CMD_WATCH then watch.addPidToWatch msg.pid opened
  else if msg.cmd = CMD_UNWATCH then watch.removePidFromWatch msg.pid
  else if msg.cmd = CMD_STOP then (.ok, watch)
  else (.notFound, watch)

/-- The descriptors handed to `poll`: the socket's, then the pidfds. -/
def pollArray (monitorSocket : Fd) (watch : Watch) : List Fd :=
  monitorSocket :: (List.finRange MAX_WATCHED_PIDS).filterMap fun slot =>
    (watch.table.entries slot).map PidfdEntry.pidfd

end Watch

/-- `struct pollfd` after `poll`: whether `revents` has `POLLIN`. -/
structure PollFd where
  fd : Fd
  pollin : Bool
deriving DecidableEq, Repr

/-- The array as `poll` leaves it. -/
def polled (revents : Nat → Bool) (fds : List Fd) : List PollFd :=
  fds.mapIdx fun index fd => { fd := fd, pollin := revents index }

namespace Watch

def dead (watch : Watch) (fds : List PollFd) (slot : SlotIndex) : Option Int32 :=
  match watch.table.entries slot with
  | none => none
  | some entry =>
      if fds.tail.any fun polled => polled.fd = entry.pidfd && polled.pollin then
        some entry.pid
      else none

/-- A turn of the loop that handles deaths. -/
def handleSlot (watch : Watch) (fds : List PollFd) (slot : SlotIndex) : Watch :=
  match watch.dead fds slot with
  | none => watch
  | some pid => watch.unregisterRateLimiterByPid pid

/-- The loop that closes the pidfds when the event loop has been left. -/
def closePidfds (watch : Watch) : List SlotIndex → Finset Fd → Finset Fd
  | [], fds => fds
  | slot :: slots, fds =>
      match watch.table.entries slot with
      | none => watch.closePidfds slots fds
      | some entry => watch.closePidfds slots (fds.erase entry.pidfd)

end Watch

/-! ## The loop -/

inductive Exit
  | pollFailed
  | nothingWatched
  | stopped
deriving DecidableEq, Repr

inductive Position
  | polling
  | accepting (fds : List PollFd)
  | handlingDeaths (running : Bool) (fds : List PollFd) (slots : List SlotIndex)
  | left (exit : Exit)
  | ended

structure State where
  watch : Watch
  position : Position
  /-- The results written to clients. -/
  written : List MonitorCode

inductive PollResult
  | interrupted
  | failed
  | returned (revents : Nat → Bool)

/-- What `accept` gives: nothing, or a peer with its uid, if that is known, and its
message, if it sends a whole one. -/
inductive Connection
  | failed
  | peer (uid : Option UInt32) (message : Option Message)
deriving DecidableEq, Repr

def Connection.heard : Connection → Option Message
  | .failed => none
  | .peer none _ => none
  | .peer (some uid) message => if uid = 0 then message else none

inductive Event
  | poll (result : PollResult)
  | accept (connection : Connection) (opened : Option Fd)
  | handleSlot
  | endTurn
  | cleanUp

def initial : State where
  watch := .empty
  position := .polling
  written := []

/-- A pidfd that is opened gets a number that is not in use. -/
def State.IsUnused (state : State) (monitorSocket : Fd) (opened : Option Fd) : Prop :=
  ∀ pidfd ∈ opened, pidfd ∉ state.watch.openPidfds ∧ pidfd ≠ monitorSocket

instance (state : State) (monitorSocket : Fd) (opened : Option Fd) :
    Decidable (state.IsUnused monitorSocket opened) :=
  inferInstanceAs (Decidable (∀ _ ∈ opened, _))

/-- Where the loop goes once `poll` has filled the array. -/
def afterPoll (fds : List PollFd) : Position :=
  if fds.head?.any PollFd.pollin then .accepting fds
  else .handlingDeaths true fds (List.finRange MAX_WATCHED_PIDS)

/-- Where the loop goes when the deaths are handled. -/
def afterDeaths (running : Bool) (watch : Watch) : Position :=
  if watch.table.watchedCount = 0 then .left .nothingWatched
  else if running then .polling
  else .left .stopped

def step (monitorSocket : Fd) (state : State) (event : Event) : Option State :=
  match state.position, event with
  | .polling, .poll .interrupted => some state
  | .polling, .poll .failed => some { state with position := .left .pollFailed }
  | .polling, .poll (.returned revents) =>
      some { state with
        position := afterPoll (polled revents (state.watch.pollArray monitorSocket)) }
  | .accepting fds, .accept connection opened =>
      match connection.heard with
      | none => some { state with position := .polling }
      | some msg =>
          if state.IsUnused monitorSocket opened then
            let handled := state.watch.handleMessage msg opened
            some {
              watch := handled.2
              position := .handlingDeaths (msg.cmd ≠ CMD_STOP) fds
                (List.finRange MAX_WATCHED_PIDS)
              written := state.written ++ [handled.1] }
          else none
  | .handlingDeaths running fds (slot :: slots), .handleSlot =>
      some { state with
        watch := state.watch.handleSlot fds slot
        position := .handlingDeaths running fds slots }
  | .handlingDeaths running _ [], .endTurn =>
      some { state with position := afterDeaths running state.watch }
  /- The process ends, and its table with it. -/
  | .left _, .cleanUp =>
      some { state with
        watch := { table := .empty
                   openPidfds := state.watch.closePidfds
                     (List.finRange MAX_WATCHED_PIDS) state.watch.openPidfds }
        position := .ended }
  | _, _ => none

/-! ## A set of pids -/

/-- What the monitor is, seen from outside: a set of pids of bounded size. -/
abbrev WatchSet := BoundedSet MAX_WATCHED_PIDS Int32

namespace WatchSet

/-- The reply to a message and the set after it; a pid can be watched only if its
pidfd opens. -/
def handleMessage (set : WatchSet) (msg : Message) (opens : Bool) :
    MonitorCode × WatchSet :=
  if msg.cmd = CMD_WATCH then
    if msg.pid ∈ set then (.ok, set)
    else if full : set.IsFull then (.slots, set)
    else if opens then (.ok, set.insert msg.pid full)
    else (.pidfd, set)
  else if msg.cmd = CMD_UNWATCH then
    if msg.pid ∈ set then (.ok, set.erase msg.pid) else (.notFound, set)
  else if msg.cmd = CMD_STOP then (.ok, set)
  else (.notFound, set)

end WatchSet

structure SetState where
  set : WatchSet
  written : List MonitorCode

inductive SetEvent
  | message (msg : Message) (opens : Bool)
  | death (pid : Int32)
  | processEnd

def SetState.step (state : SetState) : SetEvent → SetState
  | .message msg opens =>
      { set := (state.set.handleMessage msg opens).2
        written := state.written ++ [(state.set.handleMessage msg opens).1] }
  | .death pid => { state with set := state.set.erase pid }
  | .processEnd => { state with set := .empty }

namespace Watch

def pids (watch : Watch) : WatchSet where
  members := (Finset.univ.filter fun slot => (watch.table.entries slot).isSome).image
    fun slot => ((watch.table.entries slot).map PidfdEntry.pid).getD 0
  bounded := by
    apply Finset.card_image_le.trans
    apply (Finset.card_filter_le _ _).trans
    rw [Finset.card_univ, Fintype.card_fin]

theorem mem_pids {watch : Watch} {pid : Int32} :
    pid ∈ watch.pids ↔ watch.table.IsWatched pid := by
  simp only [BoundedSet.mem_iff, pids, Finset.mem_image, Finset.mem_filter,
    Finset.mem_univ, true_and]
  constructor
  · rintro ⟨slot, active, holds⟩
    rcases Option.isSome_iff_exists.mp active with ⟨entry, found⟩
    rw [found] at holds
    exact ⟨slot, entry, found, holds⟩
  · rintro ⟨slot, entry, found, holds⟩
    refine ⟨slot, ?_, ?_⟩
    · rw [found]
      rfl
    · rw [found]
      exact holds

theorem pids_eq_of_mem_iff {watch : Watch} {set : WatchSet}
    (equal : ∀ pid, watch.table.IsWatched pid ↔ pid ∈ set) : watch.pids = set := by
  apply BoundedSet.ext
  ext pid
  exact mem_pids.trans (equal pid)

/-! ## What holds of the table and its descriptors -/

/-- Active slots hold different pids and different pidfds, and their pidfds are the
ones that are open. -/
structure Kept (watch : Watch) : Prop where
  pids_distinct : ∀ {slot other : SlotIndex} {entry same : PidfdEntry Fd},
    watch.table.entries slot = some entry → watch.table.entries other = some same →
      entry.pid = same.pid → slot = other
  pidfds_distinct : ∀ {slot other : SlotIndex} {entry same : PidfdEntry Fd},
    watch.table.entries slot = some entry → watch.table.entries other = some same →
      entry.pidfd = same.pidfd → slot = other
  open_iff : ∀ pidfd, pidfd ∈ watch.openPidfds ↔
    ∃ slot entry, watch.table.entries slot = some entry ∧ entry.pidfd = pidfd

theorem Kept.empty : Kept .empty where
  pids_distinct := by
    intro slot other entry same active
    cases active
  pidfds_distinct := by
    intro slot other entry same active
    cases active
  open_iff := by
    intro pidfd
    constructor
    · intro member
      cases member
    · rintro ⟨slot, entry, active, _⟩
      cases active

variable {watch : Watch}

theorem Kept.card_pids (kept : watch.Kept) :
    watch.pids.members.card = watch.table.watchedCount := by
  rw [watch.table.counted, pids]
  apply Finset.card_image_of_injOn
  intro slot active other alsoActive equal
  simp only [Finset.coe_filter, Finset.mem_univ, true_and, Set.mem_ofPred_eq] at active alsoActive
  rcases Option.isSome_iff_exists.mp active with ⟨entry, found⟩
  rcases Option.isSome_iff_exists.mp alsoActive with ⟨same, alsoFound⟩
  apply kept.pids_distinct found alsoFound
  simpa [found, alsoFound] using equal

theorem Kept.isFull_iff (kept : watch.Kept) :
    watch.pids.IsFull ↔ watch.table.freeSlot = none := by
  rw [BoundedSet.IsFull, kept.card_pids]
  constructor
  · exact WatchTable.freeSlot_eq_none_of_full
  · intro full
    apply Nat.le_antisymm
    · rw [← kept.card_pids]
      exact watch.pids.bounded
    · apply Nat.le_of_not_lt
      intro room
      have free := WatchTable.freeSlot_isSome_of_lt room
      rw [full] at free
      contradiction

theorem Kept.clear (kept : watch.Kept) {pid : Int32}
    (found : watch.table.ActiveSlot pid) :
    Kept { table := watch.table.clear found
           openPidfds := watch.openPidfds.erase found.entry.pidfd } := by
  have before : ∀ {slot : SlotIndex} {entry : PidfdEntry Fd},
      (watch.table.clear found).entries slot = some entry ↔
        slot ≠ found.slot ∧ watch.table.entries slot = some entry := by
    intro slot entry
    by_cases same : slot = found.slot <;> simp [WatchTable.clear, same]
  constructor
  · intro slot other entry same active alsoActive equal
    exact kept.pids_distinct (before.mp active).2 (before.mp alsoActive).2 equal
  · intro slot other entry same active alsoActive equal
    exact kept.pidfds_distinct (before.mp active).2 (before.mp alsoActive).2 equal
  · intro pidfd
    rw [Finset.mem_erase, kept.open_iff]
    constructor
    · rintro ⟨different, slot, entry, active, rfl⟩
      refine ⟨slot, entry, before.mpr ⟨?_, active⟩, rfl⟩
      rintro rfl
      rw [found.active] at active
      cases active
      exact different rfl
    · rintro ⟨slot, entry, active, rfl⟩
      refine ⟨?_, slot, entry, (before.mp active).2, rfl⟩
      intro equal
      exact (before.mp active).1
        (kept.pidfds_distinct (before.mp active).2 found.active equal)

theorem Kept.insert (kept : watch.Kept) {pid : Int32} {pidfd : Fd}
    (absent : ¬ watch.table.IsWatched pid) (unused : pidfd ∉ watch.openPidfds)
    (slot : watch.table.FreeSlot) :
    Kept { table := watch.table.insert slot { pid := pid, pidfd := pidfd }
           openPidfds := Insert.insert pidfd watch.openPidfds } := by
  have after : ∀ {other : SlotIndex} {entry : PidfdEntry Fd},
      (watch.table.insert slot { pid := pid, pidfd := pidfd }).entries other =
          some entry ↔
        other = slot.1 ∧ entry = { pid := pid, pidfd := pidfd } ∨
          other ≠ slot.1 ∧ watch.table.entries other = some entry := by
    intro other entry
    by_cases same : other = slot.1 <;> simp [WatchTable.insert, same, eq_comm]
  constructor
  · intro first second entry same active alsoActive equal
    rcases after.mp active with ⟨new, rfl⟩ | ⟨_, old⟩ <;>
      rcases after.mp alsoActive with ⟨alsoNew, rfl⟩ | ⟨_, alsoOld⟩
    · exact new.trans alsoNew.symm
    · exact absurd ⟨second, same, alsoOld, equal.symm⟩ absent
    · exact absurd ⟨first, entry, old, equal⟩ absent
    · exact kept.pids_distinct old alsoOld equal
  · intro first second entry same active alsoActive equal
    rcases after.mp active with ⟨new, rfl⟩ | ⟨_, old⟩ <;>
      rcases after.mp alsoActive with ⟨alsoNew, rfl⟩ | ⟨_, alsoOld⟩
    · exact new.trans alsoNew.symm
    · exact absurd ((kept.open_iff _).mpr ⟨second, same, alsoOld, equal.symm⟩) unused
    · exact absurd ((kept.open_iff _).mpr ⟨first, entry, old, equal⟩) unused
    · exact kept.pidfds_distinct old alsoOld equal
  · intro other
    rw [Finset.mem_insert, kept.open_iff]
    constructor
    · rintro (rfl | ⟨taken, entry, active, rfl⟩)
      · exact ⟨slot.1, _, after.mpr (.inl ⟨rfl, rfl⟩), rfl⟩
      · refine ⟨taken, entry, after.mpr (.inr ⟨?_, active⟩), rfl⟩
        rintro rfl
        rw [slot.2] at active
        contradiction
    · rintro ⟨taken, entry, active, rfl⟩
      rcases after.mp active with ⟨_, rfl⟩ | ⟨_, old⟩
      · exact .inl rfl
      · exact .inr ⟨taken, entry, old, rfl⟩

theorem Kept.removePidFromWatch (kept : watch.Kept) (pid : Int32) :
    (watch.removePidFromWatch pid).2.Kept := by
  rw [Watch.removePidFromWatch]
  split
  · exact kept
  · rename_i found _
    exact kept.clear found

theorem Kept.addPidToWatch (kept : watch.Kept) {pid : Int32} {opened : Option Fd}
    (unused : ∀ pidfd ∈ opened, pidfd ∉ watch.openPidfds) :
    (watch.addPidToWatch pid opened).2.Kept := by
  rw [Watch.addPidToWatch]
  split
  · exact kept
  · rename_i absent
    split
    · exact kept
    · rename_i slot _
      cases opened with
      | none => exact kept.removePidFromWatch pid
      | some pidfd =>
          apply kept.insert _ (unused pidfd rfl) slot
          exact absent ∘ WatchTable.findPidSlot_isSome_iff.mpr

theorem Kept.handleMessage (kept : watch.Kept) (msg : Message) {opened : Option Fd}
    (unused : ∀ pidfd ∈ opened, pidfd ∉ watch.openPidfds) :
    (watch.handleMessage msg opened).2.Kept := by
  rw [Watch.handleMessage]
  split
  · exact kept.addPidToWatch unused
  · split
    · exact kept.removePidFromWatch msg.pid
    · split <;> exact kept

theorem Kept.handleSlot (kept : watch.Kept) (fds : List PollFd) (slot : SlotIndex) :
    (watch.handleSlot fds slot).Kept := by
  rw [Watch.handleSlot]
  split
  · exact kept
  · exact kept.removePidFromWatch _

/-! ## The table is the set -/

theorem Kept.removePidFromWatch_refines (kept : watch.Kept) (pid : Int32) :
    ((watch.removePidFromWatch pid).1, (watch.removePidFromWatch pid).2.pids) =
      if pid ∈ watch.pids then (.ok, watch.pids.erase pid)
      else (.notFound, watch.pids) := by
  by_cases member : pid ∈ watch.pids
  · rw [if_pos member]
    rcases Option.isSome_iff_exists.mp
      (WatchTable.findPidSlot_isSome_iff.mpr (mem_pids.mp member)) with ⟨found, finds⟩
    rw [Watch.removePidFromWatch, finds]
    apply congrArg (Prod.mk MonitorCode.ok)
    apply pids_eq_of_mem_iff
    intro other
    rw [BoundedSet.mem_iff, BoundedSet.erase, Finset.mem_erase]
    constructor
    · rintro ⟨slot, entry, active, rfl⟩
      by_cases same : slot = found.slot
      · simp [same, WatchTable.clear] at active
      · simp only [WatchTable.clear, Function.update_of_ne same] at active
        refine ⟨?_, mem_pids.mpr ⟨slot, entry, active, rfl⟩⟩
        intro equal
        exact same (kept.pids_distinct active found.active (equal.trans found.holds.symm))
    · rintro ⟨different, watched⟩
      exact WatchTable.isWatched_clear_of_ne found different (mem_pids.mp watched)
  · rw [if_neg member, Watch.removePidFromWatch,
      WatchTable.findPidSlot_eq_none_iff.mpr (member ∘ mem_pids.mpr)]

theorem pids_unregisterRateLimiterByPid (kept : watch.Kept) (pid : Int32) :
    (watch.unregisterRateLimiterByPid pid).pids = watch.pids.erase pid := by
  have refines := congrArg Prod.snd (kept.removePidFromWatch_refines pid)
  rw [unregisterRateLimiterByPid]
  refine refines.trans ?_
  split
  · rfl
  · rename_i absent
    exact (BoundedSet.erase_of_notMem absent).symm

theorem Kept.addPidToWatch_refines (kept : watch.Kept) (pid : Int32)
    (opened : Option Fd) :
    ((watch.addPidToWatch pid opened).1, (watch.addPidToWatch pid opened).2.pids) =
      if pid ∈ watch.pids then (.ok, watch.pids)
      else if full : watch.pids.IsFull then (.slots, watch.pids)
      else if opened.isSome then (.ok, watch.pids.insert pid full)
      else (.pidfd, watch.pids) := by
  by_cases member : pid ∈ watch.pids
  · rw [if_pos member, Watch.addPidToWatch,
      if_pos (WatchTable.findPidSlot_isSome_iff.mpr (mem_pids.mp member))]
  · rw [if_neg member, Watch.addPidToWatch,
      if_neg (member ∘ mem_pids.mpr ∘ WatchTable.findPidSlot_isSome_iff.mp)]
    by_cases full : watch.pids.IsFull
    · rw [dif_pos full, kept.isFull_iff.mp full]
    · rw [dif_neg full]
      rcases Option.isSome_iff_exists.mp
        (Option.isSome_iff_ne_none.mpr (full ∘ kept.isFull_iff.mpr)) with ⟨slot, free⟩
      rw [free]
      cases opened with
      | none =>
          apply congrArg (Prod.mk MonitorCode.pidfd)
          rw [pids_unregisterRateLimiterByPid kept]
          exact BoundedSet.erase_of_notMem member
      | some pidfd =>
          apply congrArg (Prod.mk MonitorCode.ok)
          apply pids_eq_of_mem_iff
          intro other
          rw [WatchTable.isWatched_insert, BoundedSet.mem_iff, BoundedSet.insert,
            Finset.mem_insert, ← mem_pids, BoundedSet.mem_iff]

theorem Kept.handleMessage_refines (kept : watch.Kept) (msg : Message)
    (opened : Option Fd) :
    ((watch.handleMessage msg opened).1, (watch.handleMessage msg opened).2.pids) =
      WatchSet.handleMessage watch.pids msg opened.isSome := by
  rw [Watch.handleMessage, WatchSet.handleMessage]
  split
  · exact kept.addPidToWatch_refines msg.pid opened
  · split
    · exact kept.removePidFromWatch_refines msg.pid
    · split <;> rfl

/-- The table changes as it does by the functions of the daemon. -/
theorem addPidToWatch_table (watch : Watch) (pid : Int32) (opened : Option Fd) :
    ((watch.addPidToWatch pid opened).1, (watch.addPidToWatch pid opened).2.table) =
      watch.table.addPidToWatch pid opened := by
  have removes : (watch.removePidFromWatch pid).2.table =
      (watch.table.removePidFromWatch pid).2 := by
    rw [Watch.removePidFromWatch, WatchTable.removePidFromWatch]
    cases watch.table.findPidSlot pid <;> rfl
  rw [Watch.addPidToWatch, WatchTable.addPidToWatch]
  split
  · rfl
  · cases watch.table.freeSlot with
    | none => rfl
    | some slot =>
        cases opened with
        | none => exact congrArg (Prod.mk MonitorCode.pidfd) removes
        | some pidfd => rfl

/-! ## Arrays of descriptors -/

theorem length_pollArray_le (monitorSocket : Fd) (watch : Watch) :
    (watch.pollArray monitorSocket).length ≤ MAX_WATCHED_PIDS + 1 := by
  rw [pollArray, List.length_cons]
  apply Nat.succ_le_succ
  apply (List.length_filterMap_le _ _).trans
  rw [List.length_finRange]

theorem mem_closePidfds {slots : List SlotIndex} {fds : Finset Fd} {pidfd : Fd} :
    pidfd ∈ watch.closePidfds slots fds ↔
      pidfd ∈ fds ∧ ∀ slot ∈ slots, ∀ entry,
        watch.table.entries slot = some entry → entry.pidfd ≠ pidfd := by
  induction slots generalizing fds with
  | nil => simp [closePidfds]
  | cons slot slots induction =>
      rw [closePidfds]
      split
      · rename_i inactive
        simp [induction, inactive]
      · rename_i entry active
        rw [induction, Finset.mem_erase, ne_comm]
        simp only [List.mem_cons, forall_eq_or_imp, active, Option.some.injEq,
          forall_eq']
        tauto

theorem Kept.closePidfds (kept : watch.Kept) :
    watch.closePidfds (List.finRange MAX_WATCHED_PIDS) watch.openPidfds = ∅ := by
  apply Finset.eq_empty_of_forall_notMem
  intro pidfd member
  rcases mem_closePidfds.mp member with ⟨isOpen, closed⟩
  rcases (kept.open_iff pidfd).mp isOpen with ⟨slot, entry, active, same⟩
  exact closed slot (List.mem_finRange slot) entry active same

end Watch

/-! ## Steps -/

inductive Stepped (monitorSocket : Fd) (state : State) : Event → State → Prop
  | interrupted (position : state.position = .polling) :
      Stepped monitorSocket state (.poll .interrupted) state
  | pollFailed (position : state.position = .polling) :
      Stepped monitorSocket state (.poll .failed)
        { state with position := .left .pollFailed }
  | polled (position : state.position = .polling) (revents : Nat → Bool) :
      Stepped monitorSocket state (.poll (.returned revents))
        { state with
          position := afterPoll (polled revents (state.watch.pollArray monitorSocket)) }
  | dropped {fds : List PollFd} (position : state.position = .accepting fds)
      {connection : Connection} (unheard : connection.heard = none)
      (opened : Option Fd) :
      Stepped monitorSocket state (.accept connection opened)
        { state with position := .polling }
  | served {fds : List PollFd} (position : state.position = .accepting fds)
      {connection : Connection} {msg : Message} (heard : connection.heard = some msg)
      {opened : Option Fd} (unused : state.IsUnused monitorSocket opened) :
      Stepped monitorSocket state (.accept connection opened)
        { watch := (state.watch.handleMessage msg opened).2
          position := .handlingDeaths (msg.cmd ≠ CMD_STOP) fds
            (List.finRange MAX_WATCHED_PIDS)
          written := state.written ++ [(state.watch.handleMessage msg opened).1] }
  | slotHandled {running : Bool} {fds : List PollFd} {slot : SlotIndex}
      {slots : List SlotIndex}
      (position : state.position = .handlingDeaths running fds (slot :: slots)) :
      Stepped monitorSocket state .handleSlot
        { state with
          watch := state.watch.handleSlot fds slot
          position := .handlingDeaths running fds slots }
  | turnEnded {running : Bool} {fds : List PollFd}
      (position : state.position = .handlingDeaths running fds []) :
      Stepped monitorSocket state .endTurn
        { state with position := afterDeaths running state.watch }
  | cleanedUp {exit : Exit} (position : state.position = .left exit) :
      Stepped monitorSocket state .cleanUp
        { state with
          watch := { table := .empty
                     openPidfds := state.watch.closePidfds
                       (List.finRange MAX_WATCHED_PIDS) state.watch.openPidfds }
          position := .ended }

variable {monitorSocket : Fd} {state next : State} {event : Event}

theorem step_cases (stepped : step monitorSocket state event = some next) :
    Stepped monitorSocket state event next := by
  unfold step at stepped
  split at stepped
  · rename_i position
    cases stepped
    exact .interrupted position
  · rename_i position
    cases stepped
    exact .pollFailed position
  · rename_i revents position
    cases stepped
    exact .polled position revents
  · rename_i fds connection opened position
    split at stepped
    · rename_i unheard
      cases stepped
      exact .dropped position unheard opened
    · rename_i msg heard
      split at stepped
      · rename_i unused
        cases stepped
        exact .served position heard unused
      · contradiction
  · rename_i position
    cases stepped
    exact .slotHandled position
  · rename_i position
    cases stepped
    exact .turnEnded position
  · rename_i position
    cases stepped
    exact .cleanedUp position
  · contradiction

structure Keeps (state : State) : Prop where
  kept : state.watch.Kept
  left : state.position = .left .nothingWatched →
    ∀ slot, state.watch.table.entries slot = none

theorem Keeps.initial : Keeps initial where
  kept := .empty
  left := by
    intro position
    contradiction

theorem entries_eq_none_of_unwatched {watch : Watch}
    (unwatched : watch.table.watchedCount = 0) (slot : SlotIndex) :
    watch.table.entries slot = none := by
  cases active : watch.table.entries slot with
  | none => rfl
  | some entry =>
      have absent := WatchTable.watchedCount_eq_zero_iff.mp unwatched entry.pid
      exact absurd ⟨slot, entry, active, rfl⟩ absent

theorem keeps_step (keeps : Keeps state)
    (stepped : step monitorSocket state event = some next) : Keeps next := by
  cases step_cases stepped with
  | interrupted => exact keeps
  | pollFailed => exact { kept := keeps.kept, left := by simp }
  | polled position revents =>
      refine { kept := keeps.kept, left := ?_ }
      intro position
      simp only [afterPoll] at position
      split at position <;> contradiction
  | dropped => exact { kept := keeps.kept, left := by simp }
  | @served _ _ _ msg _ _ unused =>
      exact {
        kept := keeps.kept.handleMessage msg fun pidfd opened => (unused pidfd opened).1
        left := by simp }
  | @slotHandled _ fds slot _ =>
      exact { kept := keeps.kept.handleSlot fds slot, left := by simp }
  | @turnEnded running fds =>
      refine { kept := keeps.kept, left := ?_ }
      intro position slot
      apply entries_eq_none_of_unwatched
      simp only [afterDeaths] at position
      split at position
      · assumption
      · split at position <;> simp at position
  | cleanedUp =>
      refine { kept := ?_, left := by simp }
      rw [keeps.kept.closePidfds]
      exact .empty

/-! ## Runs -/

def State.seen (state : State) : SetState where
  set := state.watch.pids
  written := state.written

def State.setEvent (state : State) (event : Event) : Option SetEvent :=
  match state.position, event with
  | .accepting _, .accept connection opened =>
      connection.heard.map fun msg => .message msg opened.isSome
  | .handlingDeaths _ fds (slot :: _), .handleSlot =>
      (state.watch.dead fds slot).map .death
  | .left _, .cleanUp => some .processEnd
  | _, _ => none

def setEvents (monitorSocket : Fd) (state : State) : List Event → List SetEvent
  | [] => []
  | event :: events =>
      (state.setEvent event).toList ++
        match step monitorSocket state event with
        | none => []
        | some next => setEvents monitorSocket next events

theorem pids_empty (openPidfds : Finset Fd) :
    Watch.pids { table := .empty, openPidfds := openPidfds } = .empty := by
  apply Watch.pids_eq_of_mem_iff
  intro pid
  constructor
  · intro watched
    exact absurd watched (WatchTable.not_isWatched_empty pid)
  · intro member
    cases member

/-- A step of the loop is a step of the set, or none. -/
theorem seen_step (keeps : Keeps state)
    (stepped : step monitorSocket state event = some next) :
    next.seen = (state.setEvent event).toList.foldl SetState.step state.seen := by
  cases step_cases stepped with
  | interrupted position => simp [State.setEvent, position]
  | pollFailed position => simp [State.setEvent, position, State.seen]
  | polled position => simp [State.setEvent, position, State.seen]
  | dropped position unheard => simp [State.setEvent, position, unheard, State.seen]
  | @served _ position _ msg heard opened _ =>
      have refines := keeps.kept.handleMessage_refines msg opened
      simp [State.setEvent, position, heard, State.seen, SetState.step, ← refines]
  | @slotHandled _ fds slot _ position =>
      simp only [State.setEvent, position, State.seen, Watch.handleSlot]
      cases state.watch.dead fds slot with
      | none => rfl
      | some pid =>
          simp [SetState.step, Watch.pids_unregisterRateLimiterByPid keeps.kept]
  | turnEnded position => simp [State.setEvent, position, State.seen]
  | cleanedUp position =>
      simp [State.setEvent, position, State.seen, SetState.step, pids_empty]

theorem seen_perform {events : List Event} {final : State} (keeps : Keeps state)
    (run : perform (step monitorSocket) state events = some final) :
    final.seen =
      (setEvents monitorSocket state events).foldl SetState.step state.seen := by
  induction events generalizing state with
  | nil =>
      cases run
      rfl
  | cons event events induction =>
      rcases perform.cons_eq_some.mp run with ⟨next, stepped, rest⟩
      rw [setEvents, stepped, List.foldl_append, ← seen_step keeps stepped]
      exact induction (keeps_step keeps stepped) rest

theorem keeps_perform {events : List Event} {final : State} (keeps : Keeps state)
    (run : perform (step monitorSocket) state events = some final) : Keeps final :=
  perform.invariant (fun _ _ _ before stepped => keeps_step before stepped) keeps run

theorem step_of_unheard {connection : Connection} {opened : Option Fd}
    (unheard : connection.heard = none)
    (stepped : step monitorSocket state (.accept connection opened) = some next) :
    next.watch = state.watch ∧ next.written = state.written := by
  cases step_cases stepped with
  | dropped => exact ⟨rfl, rfl⟩
  | served _ heard =>
      rw [unheard] at heard
      contradiction

/-- What a run of the loop comes to: one slot and one open pidfd for each pid of the
set, and the replies of the set. -/
structure RefinesWatchSet (monitorSocket : Fd) (events : List Event) (state : State) :
    Prop where
  kept : state.watch.Kept
  counted : state.watch.table.watchedCount =
    (Finset.univ.filter fun slot => (state.watch.table.entries slot).isSome).card
  polls : (state.watch.pollArray monitorSocket).length ≤ MAX_WATCHED_PIDS + 2
  seen : state.seen = (setEvents monitorSocket initial events).foldl SetState.step
    { set := .empty, written := [] }
  unheard : ∀ connection opened next, connection.heard = none →
    step monitorSocket state (.accept connection opened) = some next →
      next.watch = state.watch ∧ next.written = state.written
  left : state.position = .left .nothingWatched →
    ∀ slot, state.watch.table.entries slot = none

theorem refines_watchSet (monitorSocket : Fd) {events : List Event} {state : State}
    (run : perform (step monitorSocket) initial events = some state) :
    RefinesWatchSet monitorSocket events state := by
  have keeps := keeps_perform Keeps.initial run
  constructor
  · exact keeps.kept
  · exact state.watch.table.counted
  · exact (Watch.length_pollArray_le monitorSocket state.watch).trans (Nat.le_succ _)
  · rw [seen_perform Keeps.initial run, State.seen, initial, Watch.empty, pids_empty]
  · intro connection opened next unheard stepped
    exact step_of_unheard unheard stepped
  · exact keeps.left

def watchMessage (pid : Int32) : Message :=
  { cmd := CMD_WATCH, pid := pid }

def watchEvents (pid : Int32) (pidfd : Fd) : List Event :=
  [.poll (.returned fun index => index = 0),
    .accept (.peer (some 0) (some (watchMessage pid))) (some pidfd)]

def watching : State where
  watch := (Watch.empty.handleMessage (watchMessage 7) (some 4)).2
  position := .handlingDeaths true
    (polled (fun index => index = 0) (Watch.empty.pollArray 3))
    (List.finRange MAX_WATCHED_PIDS)
  written := [(Watch.empty.handleMessage (watchMessage 7) (some 4)).1]

theorem refines_watchSet_watching :
    perform (step 3) initial (watchEvents 7 4) = some watching ∧
      RefinesWatchSet 3 (watchEvents 7 4) watching := by
  have run : perform (step 3) initial (watchEvents 7 4) = some watching := by
    have goesOn : CMD_WATCH ≠ CMD_STOP := by decide
    simp [perform, step, initial, watchEvents, watching, watchMessage, afterPoll, polled,
      Watch.pollArray, Connection.heard, State.IsUnused, Watch.empty, goesOn]
  exact ⟨run, refines_watchSet 3 run⟩

end Pidnl.Monitor.EventLoop
