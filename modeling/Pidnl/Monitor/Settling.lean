import Pidnl.Monitor.Withdrawal

/-! # A pid that the daemon answers for

As long as something is left of a pid the daemon watches it. That holds from the handling
of its WATCH on, whatever deaths the daemon handles.
-/

namespace Pidnl.Monitor

open Pidnl.Foundation Pidnl.System Pidnl.Ratelimit

open Host

variable {pid : Int32} {host : Host}

structure Due (pid : Int32) (table : Daemon.Table) (kernel : Kernel) : Prop where
  either : Standing kernel pid ∨ Gone kernel pid
  unwatched : ¬ table.IsWatched pid → Gone kernel pid

namespace Due

variable {table : Daemon.Table} {kernel before after : Kernel}

theorem spared (spares : Ratelimit.Spares pid before after) (due : Due pid table before) :
    Due pid table after where
  either := standing_or_gone_spared spares due.either
  unwatched := fun unwatched => (due.unwatched unwatched).spared spares

theorem of_gone (table : Daemon.Table) (gone : Gone kernel pid) : Due pid table kernel :=
  ⟨.inr gone, fun _ => gone⟩

theorem of_watched (watched : table.IsWatched pid)
    (either : Standing kernel pid ∨ Gone kernel pid) : Due pid table kernel :=
  ⟨either, absurd watched⟩

end Due

/-! ## The daemon's own work -/

namespace Host

theorem amid_aside {owner : Process} {program : KernelProgram α} {holds : Kernel → Prop}
    (stable : ∀ before after, Ratelimit.Spares pid before after → holds before → holds after)
    (makes : program.Makes fun _ call => IsAside pid call) (initially : holds host.kernel) :
    SafeAmid owner pid (fun _ final => holds final.kernel) program host := by
  refine makes.safe (fun _ _ spares => stable _ _ spares) ?_ initially
  intro Reply site call state aside holdsBefore
  exact ⟨trivial, stable _ _ (spares_exec aside owner _) holdsBefore⟩

end Host

namespace Daemon

variable {table : Table} {other : Int32}

theorem amid_removePidFromWatch {holds : Kernel → Prop}
    (stable : ∀ before after, Ratelimit.Spares pid before after → holds before → holds after)
    (initially : holds host.kernel) :
    SafeAmid .monitor pid
      (fun value final => value.2 = table.unwatch other ∧ holds final.kernel)
      (removePidFromWatch other table) host := by
  rw [removePidFromWatch, WatchTable.unwatch, WatchTable.removePidFromWatch]
  cases table.findPidSlot other with
  | none => exact ⟨rfl, initially⟩
  | some found =>
      refine amid_leaving stable trivial initially ?_
      intro _ later holdsLater
      exact ⟨rfl, holdsLater⟩

theorem amid_unregister (either : Standing host.kernel pid ∨ Gone host.kernel pid) :
    SafeAmid .monitor pid (fun _ final => Gone final.kernel pid)
      (unregisterRateLimiterByPid pid table) host := by
  apply Program.Safe.bind
  apply (amid_removePidFromWatch (fun _ _ => standing_or_gone_spared) either).weaken
  intro unwatched middle holds
  apply Program.Safe.bind
  apply (amid_deletePidCgroup holds.2).weaken
  intro code final gone
  exact gone

/-- Of another pid the daemon removes all but what is due to this one. -/
theorem amid_unregister_other (different : other ≠ pid) (due : Due pid table host.kernel) :
    SafeAmid .monitor pid (fun value final => Due pid value.2 final.kernel)
      (unregisterRateLimiterByPid other table) host := by
  apply Program.Safe.bind
  apply (amid_removePidFromWatch (fun _ _ => Due.spared) due).weaken
  intro unwatched middle holds
  apply Program.Safe.bind
  apply (amid_aside (fun _ _ => Due.spared) (aside_deletePidCgroup different) holds.2).weaken
  intro code final dueFinal
  refine ⟨dueFinal.either, ?_⟩
  intro notWatched
  apply dueFinal.unwatched
  intro watched
  apply notWatched
  have kept := WatchTable.isWatched_unwatch_of_ne different.symm watched
  rw [← holds.1] at kept
  exact kept

theorem amid_addPidToWatch (room : table.freeSlot.isSome)
    (either : Standing host.kernel pid ∨ Gone host.kernel pid) :
    SafeAmid .monitor pid (fun value final => Due pid value.2 final.kernel)
      (addPidToWatch pid table) host := by
  rw [addPidToWatch]
  split
  · rename_i found
    exact .of_watched (WatchTable.findPidSlot_isSome_iff.mp found) either
  rcases Option.isSome_iff_exists.mp room with ⟨slot, free⟩
  rw [free]
  refine amid_leaving (fun _ _ => standing_or_gone_spared) trivial either ?_
  intro opened later eitherLater
  cases opened with
  | none =>
      apply Program.Safe.bind
      apply (amid_unregister eitherLater).weaken
      intro unregistered final gone
      exact .of_gone _ gone
  | some pidfd =>
      apply Due.of_watched _ eitherLater
      exact (WatchTable.isWatched_insert slot _ pid).mpr (.inl rfl)

theorem amid_handlePolled (polled : List Fd) (slots : List SlotIndex)
    (due : Due pid table host.kernel) :
    SafeAmid .monitor pid (fun after final => Due pid after final.kernel)
      (handlePolled polled slots table) host := by
  induction slots generalizing table host with
  | nil => exact due
  | cons slot slots induction =>
      rw [handlePolled]
      split
      · exact induction due
      rename_i entry active
      split
      · apply Program.Safe.bind
        by_cases same : entry.pid = pid
        · rw [same]
          apply (amid_unregister due.either).weaken
          intro unregistered middle gone
          exact induction (.of_gone _ gone)
        · apply (amid_unregister_other same due).weaken
          intro unregistered middle dueMiddle
          exact induction dueMiddle
      · exact induction due

def Turned (pid : Int32) (left : Option Table) (kernel : Kernel) : Prop :=
  match left with
  | none => Gone kernel pid
  | some after => Due pid after kernel

theorem Turned.spared {left : Option Table} {before after : Kernel}
    (spares : Ratelimit.Spares pid before after) (turned : Turned pid left before) :
    Turned pid left after := by
  cases left with
  | none => exact Gone.spared spares turned
  | some table => exact Due.spared spares turned

/-- The daemon ends only if nothing is left that it watches. -/
theorem amid_finishTurn (polled : List Fd) (due : Due pid table host.kernel) :
    SafeAmid .monitor pid (fun left final => Turned pid left final.kernel)
      (finishTurn true polled table) host := by
  apply Program.Safe.bind
  apply (amid_handlePolled polled _ due).weaken
  intro after middle dueMiddle
  split
  · rename_i ended
    have none : after.watchedCount = 0 := by simpa using ended
    have gone := dueMiddle.unwatched (WatchTable.watchedCount_eq_zero_iff.mp none pid)
    apply Program.Safe.bind
    apply (amid_aside (fun _ _ => Gone.spared) (aside_closePidfds pid after _) gone).weaken
    intro _ final goneFinal
    exact goneFinal
  · exact dueMiddle

end Daemon

end Pidnl.Monitor
