import Mathlib.Data.Fintype.Card
import Mathlib.Data.List.FinRange
import Mathlib.Tactic.Common

/-! # The watch table of the monitor

The static `watched_pids` array with its count. The type of the pidfds is left
open. An entry that is not active holds nothing that is ever read.
-/

namespace Pidnl.Monitor

/-- `CMD_WATCH`, `CMD_UNWATCH` and `CMD_STOP`. -/
inductive Command
  | watch
  | unwatch
  | stop
deriving DecidableEq, Repr

/-- `monitor_code` -/
inductive MonitorCode
  | ok
  | socket
  | connect
  | bind
  | listen
  | pipe
  | fork
  | write
  | read
  | pidfd
  | slots
  | notFound
  | timeout
deriving DecidableEq, Repr

@[irreducible] def MAX_WATCHED_PIDS : Nat := 1024

theorem MAX_WATCHED_PIDS_pos : 0 < MAX_WATCHED_PIDS := by
  rw [MAX_WATCHED_PIDS]
  omega

/-- An active `struct pidfd_entry`. -/
structure PidfdEntry (Pidfd : Type) where
  pid : Int32
  pidfd : Pidfd
deriving DecidableEq, Repr

abbrev SlotIndex := Fin MAX_WATCHED_PIDS

section Counting

variable {Index Value : Type} [Fintype Index] [DecidableEq Index]
  {entries : Index → Option Value} {index : Index}

theorem card_isSome_update_some (free : entries index = none) (value : Value) :
    (Finset.univ.filter fun other =>
        (Function.update entries index (some value) other).isSome).card =
      (Finset.univ.filter fun other => (entries other).isSome).card + 1 := by
  have inserted : (Finset.univ.filter fun other =>
      (Function.update entries index (some value) other).isSome) =
      insert index (Finset.univ.filter fun other => (entries other).isSome) := by
    ext other
    by_cases same : other = index <;> simp [same]
  rw [inserted, Finset.card_insert_of_notMem (by simp [free])]

theorem card_isSome_update_none (active : (entries index).isSome) :
    (Finset.univ.filter fun other =>
        (Function.update entries index none other).isSome).card =
      (Finset.univ.filter fun other => (entries other).isSome).card - 1 := by
  have erased : (Finset.univ.filter fun other =>
      (Function.update entries index none other).isSome) =
      (Finset.univ.filter fun other => (entries other).isSome).erase index := by
    ext other
    by_cases same : other = index <;> simp [same]
  rw [erased, Finset.card_erase_of_mem (by simp [active])]

end Counting

/-- `watched_pids`, and `watched_count`, which counts the active entries. -/
structure WatchTable (Pidfd : Type) where
  entries : SlotIndex → Option (PidfdEntry Pidfd)
  watchedCount : Nat
  counted : watchedCount = (Finset.univ.filter fun slot => (entries slot).isSome).card

namespace WatchTable

variable {Pidfd : Type}

def empty : WatchTable Pidfd where
  entries := fun _ => none
  watchedCount := 0
  counted := by simp

structure ActiveSlot (table : WatchTable Pidfd) (pid : Int32) where
  slot : SlotIndex
  entry : PidfdEntry Pidfd
  active : table.entries slot = some entry
  holds : entry.pid = pid

abbrev FreeSlot (table : WatchTable Pidfd) :=
  { slot : SlotIndex // table.entries slot = none }

def activeSlot? (table : WatchTable Pidfd) (pid : Int32) (slot : SlotIndex) :
    Option (table.ActiveSlot pid) :=
  match active : table.entries slot with
  | none => none
  | some entry =>
      if holds : entry.pid = pid then some ⟨slot, entry, active, holds⟩ else none

/-- `find_pid_slot` -/
def findPidSlot (table : WatchTable Pidfd) (pid : Int32) :
    Option (table.ActiveSlot pid) :=
  (List.finRange MAX_WATCHED_PIDS).findSome? (table.activeSlot? pid)

/-- The loop of `add_pid_to_watch` that looks for a slot. -/
def freeSlot (table : WatchTable Pidfd) : Option table.FreeSlot :=
  (List.finRange MAX_WATCHED_PIDS).findSome? fun slot =>
    if free : table.entries slot = none then some ⟨slot, free⟩ else none

def IsWatched (table : WatchTable Pidfd) (pid : Int32) : Prop :=
  ∃ slot entry, table.entries slot = some entry ∧ entry.pid = pid

/-- The last lines of `add_pid_to_watch`. -/
def insert (table : WatchTable Pidfd) (free : table.FreeSlot)
    (entry : PidfdEntry Pidfd) : WatchTable Pidfd where
  entries := Function.update table.entries free.1 (some entry)
  watchedCount := table.watchedCount + 1
  counted := by rw [table.counted, card_isSome_update_some free.2]

/-- The lines of `remove_pid_from_watch` that clear an entry. -/
def clear (table : WatchTable Pidfd) {pid : Int32} (found : table.ActiveSlot pid) :
    WatchTable Pidfd where
  entries := Function.update table.entries found.slot none
  watchedCount := table.watchedCount - 1
  counted := by
    rw [table.counted, card_isSome_update_none]
    rw [found.active]
    rfl

/-! ## What the loops find -/

theorem activeSlot?_isSome_iff {table : WatchTable Pidfd} {pid : Int32}
    {slot : SlotIndex} :
    (table.activeSlot? pid slot).isSome ↔
      ∃ entry, table.entries slot = some entry ∧ entry.pid = pid := by
  rw [activeSlot?]
  split
  · rename_i inactive
    simp [inactive]
  · rename_i entry active
    by_cases same : entry.pid = pid <;> simp [active, same]

theorem findPidSlot_isSome_iff {table : WatchTable Pidfd} {pid : Int32} :
    (table.findPidSlot pid).isSome ↔ table.IsWatched pid := by
  rw [findPidSlot, List.findSome?_isSome_iff]
  constructor
  · rintro ⟨slot, _, found⟩
    exact ⟨slot, activeSlot?_isSome_iff.mp found⟩
  · rintro ⟨slot, found⟩
    exact ⟨slot, List.mem_finRange slot, activeSlot?_isSome_iff.mpr found⟩

theorem findPidSlot_eq_none_iff {table : WatchTable Pidfd} {pid : Int32} :
    table.findPidSlot pid = none ↔ ¬ table.IsWatched pid := by
  rw [← findPidSlot_isSome_iff, Option.not_isSome_iff_eq_none]

theorem freeSlot_isSome_iff {table : WatchTable Pidfd} :
    table.freeSlot.isSome ↔ ∃ slot, table.entries slot = none := by
  rw [freeSlot, List.findSome?_isSome_iff]
  constructor
  · rintro ⟨slot, _, found⟩
    by_cases free : table.entries slot = none
    · exact ⟨slot, free⟩
    · simp [free] at found
  · rintro ⟨slot, free⟩
    exact ⟨slot, List.mem_finRange slot, by simp [free]⟩

theorem freeSlot_isSome_of_lt {table : WatchTable Pidfd}
    (room : table.watchedCount < MAX_WATCHED_PIDS) : table.freeSlot.isSome := by
  rw [freeSlot_isSome_iff]
  apply Classical.byContradiction
  intro full
  have all : (Finset.univ.filter fun slot => (table.entries slot).isSome) =
      Finset.univ := by
    rw [Finset.filter_eq_self]
    intro slot _
    apply Option.isSome_iff_ne_none.mpr
    exact fun free => full ⟨slot, free⟩
  rw [table.counted, all, Finset.card_univ, Fintype.card_fin] at room
  exact Nat.lt_irrefl _ room

theorem freeSlot_eq_none_of_full {table : WatchTable Pidfd}
    (full : table.watchedCount = MAX_WATCHED_PIDS) : table.freeSlot = none := by
  apply Option.not_isSome_iff_eq_none.mp
  intro some
  rcases freeSlot_isSome_iff.mp some with ⟨slot, free⟩
  have within : (Finset.univ.filter fun slot => (table.entries slot).isSome) ⊂
      Finset.univ := by
    refine Finset.filter_ssubset.mpr ⟨slot, Finset.mem_univ slot, ?_⟩
    simp [free]
  have fewer := Finset.card_lt_card within
  rw [← table.counted, full, Finset.card_univ, Fintype.card_fin] at fewer
  exact Nat.lt_irrefl _ fewer

theorem watchedCount_eq_zero_iff {table : WatchTable Pidfd} :
    table.watchedCount = 0 ↔ ∀ pid, ¬ table.IsWatched pid := by
  rw [table.counted, Finset.card_eq_zero, Finset.filter_eq_empty_iff]
  constructor
  · rintro inactive pid ⟨slot, entry, active, _⟩
    exact inactive (Finset.mem_univ slot) (by rw [active]; rfl)
  · intro unwatched slot _ active
    rcases Option.isSome_iff_exists.mp active with ⟨entry, found⟩
    exact unwatched entry.pid ⟨slot, entry, found, rfl⟩

/-! ## What changes -/

@[simp] theorem not_isWatched_empty (pid : Int32) :
    ¬ (empty : WatchTable Pidfd).IsWatched pid := by
  rintro ⟨slot, entry, active, _⟩
  cases active

theorem isWatched_insert {table : WatchTable Pidfd} (free : table.FreeSlot)
    (entry : PidfdEntry Pidfd) (pid : Int32) :
    (table.insert free entry).IsWatched pid ↔
      pid = entry.pid ∨ table.IsWatched pid := by
  constructor
  · rintro ⟨slot, other, active, rfl⟩
    by_cases same : slot = free.1
    · subst same
      simp only [insert, Function.update_self, Option.some.injEq] at active
      exact .inl (congrArg PidfdEntry.pid active.symm)
    · simp only [insert, Function.update_of_ne same] at active
      exact .inr ⟨slot, other, active, rfl⟩
  · rintro (rfl | ⟨slot, other, active, same⟩)
    · exact ⟨free.1, entry, Function.update_self _ _ _, rfl⟩
    · have different : slot ≠ free.1 := by
        rintro rfl
        rw [free.2] at active
        contradiction
      exact ⟨slot, other, (Function.update_of_ne different _ _).trans active, same⟩

theorem entries_of_insert {table : WatchTable Pidfd} {free : table.FreeSlot}
    {entry other : PidfdEntry Pidfd} {slot : SlotIndex}
    (active : (table.insert free entry).entries slot = some other) :
    other = entry ∨ table.entries slot = some other := by
  by_cases same : slot = free.1
  · subst same
    simp only [insert, Function.update_self, Option.some.injEq] at active
    exact .inl active.symm
  · simp only [insert, Function.update_of_ne same] at active
    exact .inr active

theorem isWatched_clear_of_ne {table : WatchTable Pidfd} {pid other : Int32}
    (found : table.ActiveSlot pid) (different : other ≠ pid)
    (watched : table.IsWatched other) : (table.clear found).IsWatched other := by
  rcases watched with ⟨slot, entry, active, rfl⟩
  have apart : slot ≠ found.slot := by
    intro same
    rw [same, found.active] at active
    cases active
    exact different found.holds
  exact ⟨slot, entry, (Function.update_of_ne apart _ _).trans active, rfl⟩

/-! ## Commands -/

/-- `remove_pid_from_watch`, but for closing the pidfd. -/
def removePidFromWatch (table : WatchTable Pidfd) (pid : Int32) :
    MonitorCode × WatchTable Pidfd :=
  match table.findPidSlot pid with
  | none => (.notFound, table)
  | some found => (.ok, table.clear found)

/-- `add_pid_to_watch`, with what `pidfd_open` returns. Without a pidfd the pid is
unregistered. -/
def addPidToWatch (table : WatchTable Pidfd) (pid : Int32) (opened : Option Pidfd) :
    MonitorCode × WatchTable Pidfd :=
  if (table.findPidSlot pid).isSome then (.ok, table)
  else match table.freeSlot with
    | none => (.slots, table)
    | some slot =>
        match opened with
        | none => (.pidfd, (table.removePidFromWatch pid).2)
        | some pidfd => (.ok, table.insert slot { pid := pid, pidfd := pidfd })

def runCommand (command : Command) (table : WatchTable Pidfd) (pid : Int32)
    (opened : Option Pidfd) : MonitorCode × WatchTable Pidfd :=
  match command with
  | .watch => table.addPidToWatch pid opened
  | .unwatch => table.removePidFromWatch pid
  | .stop => (.ok, table)

def unwatch (table : WatchTable Pidfd) (pid : Int32) : WatchTable Pidfd :=
  (table.removePidFromWatch pid).2

def watch (table : WatchTable Pidfd) (pid : Int32) (pidfd : Pidfd) :
    WatchTable Pidfd :=
  (table.addPidToWatch pid (some pidfd)).2

variable (table : WatchTable Pidfd) (pid other : Int32) (pidfd : Pidfd)

theorem entries_of_unwatch {table : WatchTable Pidfd} {pid : Int32}
    {slot : SlotIndex} {entry : PidfdEntry Pidfd}
    (active : (table.unwatch pid).entries slot = some entry) :
    table.entries slot = some entry := by
  rw [unwatch, removePidFromWatch] at active
  split at active
  · exact active
  · rename_i found _
    by_cases same : slot = found.slot
    · simp [same, clear] at active
    · simpa [clear, Function.update_of_ne same] using active

theorem isWatched_of_unwatch {table : WatchTable Pidfd} {pid other : Int32}
    (watched : (table.unwatch pid).IsWatched other) : table.IsWatched other := by
  rcases watched with ⟨slot, entry, active, holds⟩
  exact ⟨slot, entry, entries_of_unwatch active, holds⟩

theorem isWatched_unwatch_of_ne {table : WatchTable Pidfd} {pid other : Int32}
    (different : other ≠ pid) (watched : table.IsWatched other) :
    (table.unwatch pid).IsWatched other := by
  rw [unwatch, removePidFromWatch]
  split
  · exact watched
  · exact isWatched_clear_of_ne _ different watched

theorem removePidFromWatch_ok_iff :
    (table.removePidFromWatch pid).1 = .ok ↔ table.IsWatched pid := by
  rw [removePidFromWatch, ← findPidSlot_isSome_iff]
  cases table.findPidSlot pid <;> simp

theorem addPidToWatch_of_found (opened : Option Pidfd)
    (watched : table.IsWatched pid) : table.addPidToWatch pid opened = (.ok, table) := by
  rw [addPidToWatch, if_pos (findPidSlot_isSome_iff.mpr watched)]

theorem addPidToWatch_of_full (opened : Option Pidfd)
    (absent : ¬ table.IsWatched pid) (full : table.freeSlot = none) :
    table.addPidToWatch pid opened = (.slots, table) := by
  rw [addPidToWatch, if_neg (absent ∘ findPidSlot_isSome_iff.mp), full]

theorem addPidToWatch_of_unopened (absent : ¬ table.IsWatched pid)
    (room : table.freeSlot.isSome) : table.addPidToWatch pid none = (.pidfd, table) := by
  rcases Option.isSome_iff_exists.mp room with ⟨slot, free⟩
  rw [addPidToWatch, if_neg (absent ∘ findPidSlot_isSome_iff.mp), free,
    removePidFromWatch, findPidSlot_eq_none_iff.mpr absent]

theorem addPidToWatch_of_free (pidfd : Pidfd) (absent : ¬ table.IsWatched pid)
    {slot : table.FreeSlot} (free : table.freeSlot = some slot) :
    table.addPidToWatch pid (some pidfd) =
      (.ok, table.insert slot { pid := pid, pidfd := pidfd }) := by
  rw [addPidToWatch, if_neg (absent ∘ findPidSlot_isSome_iff.mp), free]

theorem isWatched_watch :
    (table.watch pid pidfd).IsWatched other ↔
      table.IsWatched other ∨ other = pid ∧ table.freeSlot.isSome := by
  by_cases watched : table.IsWatched pid
  · rw [watch, addPidToWatch_of_found _ _ _ watched]
    constructor
    · exact Or.inl
    · intro either
      cases either with
      | inl already => exact already
      | inr same => exact same.1 ▸ watched
  · cases free : table.freeSlot with
    | none =>
        rw [watch, addPidToWatch_of_full _ _ _ watched free]
        simp
    | some slot =>
        rw [watch, addPidToWatch_of_free _ _ _ watched free, isWatched_insert]
        simp [or_comm]

theorem watchedCount_watch (absent : ¬ table.IsWatched pid)
    (room : table.freeSlot.isSome) :
    (table.watch pid pidfd).watchedCount = table.watchedCount + 1 := by
  rcases Option.isSome_iff_exists.mp room with ⟨slot, free⟩
  rw [watch, addPidToWatch_of_free _ _ _ absent free]
  rfl

theorem watch_of_full (full : table.freeSlot = none) :
    table.watch pid pidfd = table := by
  by_cases watched : table.IsWatched pid
  · rw [watch, addPidToWatch_of_found _ _ _ watched]
  · rw [watch, addPidToWatch_of_full _ _ _ watched full]

theorem watchedCount_watch_ne_zero : (table.watch pid pidfd).watchedCount ≠ 0 := by
  intro none
  have absent := watchedCount_eq_zero_iff.mp none
  cases full : table.freeSlot with
  | some slot =>
      apply absent pid
      rw [isWatched_watch, full]
      exact .inr ⟨rfl, rfl⟩
  | none =>
      rw [watch_of_full _ _ _ full] at none
      have room : table.watchedCount < MAX_WATCHED_PIDS := by
        rw [none]
        exact MAX_WATCHED_PIDS_pos
      have free := freeSlot_isSome_of_lt room
      rw [full] at free
      contradiction

end WatchTable

end Pidnl.Monitor
