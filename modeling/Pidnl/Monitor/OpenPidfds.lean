import Pidnl.Monitor.Bookkeeping
import Pidnl.Ratelimit.Descriptors
import Mathlib.Algebra.BigOperators.Fin

/-! # What stays open

Between two calls no descriptor is open but the pidfds of the daemon's table, one for every
slot in use.
-/

namespace Pidnl.Monitor

open Pidnl.Foundation Pidnl.Foundation.Program Pidnl.System Pidnl.Ratelimit

/-! ## The pidfds of a table -/

namespace WatchTable

variable {Pidfd : Type}

def pidfds (table : WatchTable Pidfd) : Multiset Pidfd :=
  ∑ slot, holding ((table.entries slot).map PidfdEntry.pidfd)

theorem mem_pidfds {table : WatchTable Pidfd} {pidfd : Pidfd} :
    pidfd ∈ table.pidfds ↔ ∃ slot entry, table.entries slot = some entry ∧
      entry.pidfd = pidfd := by
  simp [pidfds, Multiset.mem_sum, holding, Option.map_eq_some_iff]

@[simp] theorem pidfds_empty : (empty : WatchTable Pidfd).pidfds = 0 := by
  simp [pidfds, empty]

theorem pidfds_eq_add {table other : WatchTable Pidfd} {slot : SlotIndex}
    (free : other.entries slot = none)
    (same : ∀ index, index ≠ slot → table.entries index = other.entries index) :
    table.pidfds = holding ((table.entries slot).map PidfdEntry.pidfd) + other.pidfds := by
  have among : slot ∈ (Finset.univ : Finset SlotIndex) := Finset.mem_univ slot
  rw [pidfds, pidfds, ← Finset.add_sum_erase _ _ among, ← Finset.add_sum_erase _ _ among, free,
    Option.map_none, holding_none, zero_add]
  congr 1
  apply Finset.sum_congr rfl
  intro index member
  rw [same index (Finset.ne_of_mem_erase member)]

theorem pidfds_clear {table : WatchTable Pidfd} {pid : Int32} (found : table.ActiveSlot pid) :
    table.pidfds = {found.entry.pidfd} + (table.clear found).pidfds := by
  have freed : (table.clear found).entries found.slot = none := by simp [clear]
  rw [pidfds_eq_add freed, found.active]
  · rfl
  · intro index different
    simp [clear, different]

theorem pidfds_insert {table : WatchTable Pidfd} (free : table.FreeSlot)
    (entry : PidfdEntry Pidfd) :
    (table.insert free entry).pidfds = {entry.pidfd} + table.pidfds := by
  have active : (table.insert free entry).entries free.1 = some entry := by simp [insert]
  rw [pidfds_eq_add free.2, active]
  · rfl
  · intro index different
    simp [insert, different]

end WatchTable

/-! ## The daemon -/

namespace Daemon

theorem owns_removePidFromWatch (pid : Int32) (table : Table) :
    OwnsFds (removePidFromWatch pid table) table.pidfds fun removed => removed.2.pidfds := by
  rw [removePidFromWatch]
  split
  · exact owns_pure (MonitorCode.notFound, table) fun removed => removed.2.pidfds
  · rename_i found _
    apply owns_close_bind (table.clear found).pidfds (table.pidfds_clear found) fun _ => rfl
    intro closed
    exact owns_pure (MonitorCode.ok, table.clear found) fun removed => removed.2.pidfds

theorem owns_unregisterRateLimiterByPid (pid : Int32) (table : Table) :
    OwnsFds (unregisterRateLimiterByPid pid table) table.pidfds fun left => left.2.pidfds := by
  apply (owns_removePidFromWatch pid table).bind
  intro unwatched
  apply (closes_deletePidCgroup pid).then
  intro code
  exact owns_pure (code, unwatched.2) fun left => left.2.pidfds

theorem owns_addPidToWatch (pid : Int32) (table : Table) :
    OwnsFds (addPidToWatch pid table) table.pidfds fun added => added.2.pidfds := by
  rw [addPidToWatch]
  split
  · exact owns_pure (MonitorCode.ok, table) fun added => added.2.pidfds
  split
  · exact owns_pure (MonitorCode.slots, table) fun added => added.2.pidfds
  rename_i slot _
  apply owns_open_bind rfl
  intro opened
  cases opened with
  | none =>
      have nothing : kernelHandling.opens (.pidfdOpen pid) none + table.pidfds = table.pidfds :=
        zero_add _
      rw [nothing]
      apply (owns_unregisterRateLimiterByPid pid table).bind
      intro unregistered
      exact owns_pure (MonitorCode.pidfd, unregistered.2) fun added => added.2.pidfds
  | some pidfd =>
      let inserted := table.insert slot { pid := pid, pidfd := pidfd }
      have held : kernelHandling.opens (.pidfdOpen pid) (some pidfd) + table.pidfds =
          inserted.pidfds := (table.pidfds_insert slot { pid := pid, pidfd := pidfd }).symm
      rw [held]
      exact owns_pure (MonitorCode.ok, inserted) fun added => added.2.pidfds

theorem owns_runCommand (command : Command) (pid : Int32) (table : Table) :
    OwnsFds (runCommand command pid table) table.pidfds fun handled => handled.2.pidfds := by
  cases command with
  | watch => exact owns_addPidToWatch pid table
  | unwatch => exact owns_removePidFromWatch pid table
  | stop => exact owns_pure (MonitorCode.ok, table) fun handled => handled.2.pidfds

theorem owns_handleDeaths (slots : List SlotIndex) (table : Table) :
    OwnsFds (handleDeaths slots table) table.pidfds WatchTable.pidfds := by
  induction slots generalizing table with
  | nil => exact owns_pure table WatchTable.pidfds
  | cons slot slots induction =>
      rw [handleDeaths]
      split
      · exact induction table
      · rename_i entry _
        apply owns_ask rfl fun _ => rfl
        intro readable
        split
        · apply (owns_unregisterRateLimiterByPid entry.pid table).bind
          intro unregistered
          exact induction unregistered.2
        · exact induction table

theorem owns_closePidfds (table : Table) (slots : List SlotIndex) :
    OwnsFds (closePidfds table slots)
      (slots.map fun slot => holding ((table.entries slot).map PidfdEntry.pidfd)).sum
      fun _ => 0 := by
  induction slots with
  | nil => exact balances_pure ()
  | cons slot slots induction =>
      rw [closePidfds, List.map_cons, List.sum_cons]
      split
      · rename_i free
        rw [free, Option.map_none, holding_none, zero_add]
        exact induction
      · rename_i entry active
        rw [active]
        exact owns_close_bind _ rfl (fun _ => rfl) fun _ => induction

/-- The pidfds of a daemon that goes on, or those of none. -/
def leftPidfds (left : Option Table) : Multiset Fd := (left.getD .empty).pidfds

theorem leftPidfds_none : leftPidfds none = 0 := WatchTable.pidfds_empty

theorem owns_closeAll {value : α} {post : α → Multiset Fd} (none : post value = 0)
    (table : Table) :
    OwnsFds (closePidfds table (List.finRange MAX_WATCHED_PIDS) >>= fun _ => pure value)
      table.pidfds post := by
  have all : table.pidfds = _ :=
    Fin.sum_univ_def fun slot => holding ((table.entries slot).map PidfdEntry.pidfd)
  rw [all]
  apply (owns_closePidfds table _).bind
  intro closed
  rw [← none]
  exact owns_pure value post

theorem owns_serveClient (command : Command) (pid : Int32) (table : Table) :
    OwnsFds (serveClient command pid table) table.pidfds fun served => leftPidfds served.2 := by
  rw [serveClient, OwnsFds, owns_inside]
  apply (owns_runCommand command pid table).bind
  intro handled
  apply (owns_handleDeaths _ handled.2).bind
  intro left
  split
  · apply owns_closeAll
    exact leftPidfds_none
  · exact owns_pure (handled.1, some left) fun served => leftPidfds served.2

theorem owns_idleTurn (table : Table) :
    OwnsFds (idleTurn table) table.pidfds leftPidfds := by
  rw [idleTurn, OwnsFds, owns_inside]
  apply (owns_handleDeaths _ table).bind
  intro left
  split
  · apply owns_closeAll
    exact leftPidfds_none
  · exact owns_pure (some left) leftPidfds

theorem keepsOpen_environment (stale : Int32 → Bool) :
    KeepsOpen kernelHandling (environment stale) Kernel.openFds Kernel.Numbered := by
  apply Kernel.keepsOpen
  intro Reply site call kernel
  cases call with
  | pidfdReadable pid => exact .refl kernel
  | _ => exact Kernel.reopens_exec .monitor false kernel _

end Daemon

/-! ## The computer -/

/-- Exactly the pidfds of the table are open, and each is in one slot. -/
structure Computer.OpensPidfds (computer : Computer) : Prop where
  numbered : computer.world.kernel.Numbered
  only : OpensOnly computer.world.kernel.openFds ∅ computer.world.table.pidfds
  within : ∀ pid, computer.stale pid = true → computer.world.table.IsWatched pid

namespace Computer.OpensPidfds

variable {computer : Computer}

theorem fresh (cgroup2Mount bpffsMount : Path) (running : Int32 → Bool) :
    (Computer.fresh cgroup2Mount bpffsMount running).OpensPidfds where
  numbered := fun _ _ => rfl
  only := by
    have none : (Computer.fresh cgroup2Mount bpffsMount running).world.kernel.openFds = ∅ := by
      ext fd
      exact iff_of_false Bool.false_ne_true id
    have noneWatched :
        (Computer.fresh cgroup2Mount bpffsMount running).world.table.pidfds = 0 :=
      WatchTable.pidfds_empty
    rw [none, noneWatched]
    exact opensOnly_none ∅
  within := fun _ isStale => absurd isStale Bool.false_ne_true

theorem inClient (opens : computer.OpensPidfds) {program : KernelProgram α}
    (closes : ClosesFds program) :
    (Computer.execute (Monitor.inClient program) computer).2.OpensPidfds := by
  have keeps := Kernel.keepsOpen_environment .client .none
  have owns := closes.frame computer.world.table.pidfds
  simp only [zero_add] at owns
  rw [Computer.execute_inClient]
  exact ⟨keeps.sound_run program opens.numbered,
    keeps.opensOnly_run owns opens.numbered opens.only, opens.within⟩

theorem turn (opens : computer.OpensPidfds) {program : KernelProgram α}
    (left : α → Option Daemon.Table) (message : Option (Command × Int32))
    (owns : OwnsFds program computer.world.table.pidfds fun value =>
      Daemon.leftPidfds (left value)) :
    let turned := Daemon.execute computer.stale program computer.world.kernel
    (computer.withWorld { kernel := turned.2, daemon := left turned.1, message := message
      }).OpensPidfds := by
  have keeps := Daemon.keepsOpen_environment computer.stale
  constructor
  · exact keeps.sound_run program opens.numbered
  · exact keeps.opensOnly_run owns opens.numbered opens.only
  · intro pid isStale
    exact WatchTable.findPidSlot_isSome_iff.mp (Bool.and_eq_true_iff.mp isStale).2

theorem starts (opens : computer.OpensPidfds) (pid : Int32) :
    (computer.starts pid).OpensPidfds := by
  rw [Computer.starts]
  split
  · exact opens
  · refine ⟨opens.numbered, opens.only, ?_⟩
    intro other isStale
    simp only at isStale
    by_cases same : other = pid
    · subst same
      rw [Function.update_self] at isStale
      exact WatchTable.findPidSlot_isSome_iff.mp isStale
    · rw [Function.update_of_ne same] at isStale
      exact opens.within other isStale

theorem exits (opens : computer.OpensPidfds) (pid : Int32) : (computer.exits pid).OpensPidfds :=
  ⟨opens.numbered, opens.only, opens.within⟩

theorem wakes (opens : computer.OpensPidfds) : computer.wakes.OpensPidfds := by
  rw [Computer.wakes]
  cases present : computer.world.daemon with
  | none => exact opens
  | some table =>
      have isTable : computer.world.table = table := by rw [World.table, present]; rfl
      have owns := Daemon.owns_idleTurn table
      rw [← isTable] at owns ⊢
      exact opens.turn id computer.world.message owns

/-! ## The functions of the library -/

theorem sendCommand (opens : computer.OpensPidfds) (command : Command) (pid : Int32) :
    (Computer.execute (Monitor.sendCommand command pid) computer).2.OpensPidfds := by
  rw [Computer.execute_sendCommand opens.within]
  exact opens.turn Prod.snd none (Daemon.owns_serveClient command pid computer.world.table)

theorem limitProcessBandwidth (opens : computer.OpensPidfds) (pid : Int32)
    (config : RateLimitConfig) :
    (Computer.execute (Monitor.limitProcessBandwidth pid config) computer).2.OpensPidfds := by
  have installed := opens.inClient (closes_installLimit pid config)
  rw [Computer.execute_inClient] at installed
  rw [Computer.execute_limitProcessBandwidth]
  split
  · exact installed.sendCommand .watch pid
  · exact installed

theorem unregisterRateLimiterByPid (opens : computer.OpensPidfds) (pid : Int32) :
    (Computer.execute (Monitor.unregisterRateLimiterByPid pid) computer).2.OpensPidfds := by
  rw [Monitor.unregisterRateLimiterByPid, Computer.execute_bind]
  exact (opens.sendCommand .unwatch pid).inClient (closes_deletePidCgroup pid)

theorem getRateLimitsFromCgroup (opens : computer.OpensPidfds) (pid : Int32) :
    (Computer.execute (Monitor.inClient (Ratelimit.getRateLimitsFromCgroup pid))
      computer).2.OpensPidfds :=
  opens.inClient (closes_getRateLimitsFromCgroup pid)

theorem monitorStop (opens : computer.OpensPidfds) :
    (Computer.execute Monitor.monitorStop computer).2.OpensPidfds := by
  cases present : computer.world.daemon with
  | none =>
      have unchanged : Computer.execute Monitor.monitorStop computer = (.ok, computer) := by
        simp [Monitor.monitorStop, Computer.execute_monitorConnect, present]
      rw [unchanged]
      exact opens
  | some table =>
      have isTable : computer.world.table = table := by rw [World.table, present]; rfl
      rw [Computer.execute_monitorStop present, ← isTable]
      exact opens.turn Prod.snd none (Daemon.owns_serveClient .stop 0 computer.world.table)

theorem ratelimitCleanupAll (opens : computer.OpensPidfds) :
    (Computer.execute Monitor.ratelimitCleanupAll computer).2.OpensPidfds := by
  have cleaned := opens.inClient closes_cleanupCgroups
  rw [Monitor.ratelimitCleanupAll, Computer.execute_bind, Computer.execute_ite]
  split
  · rw [Computer.execute_bind]
    exact cleaned.monitorStop
  · exact cleaned

end Computer.OpensPidfds

end Pidnl.Monitor
