import Pidnl.Monitor.Scene
import Pidnl.Ratelimit.Spared
import Pidnl.Foundation.Interference

/-! # The daemon beside a client

While a client sets a limit on a pid, the daemon may handle the deaths of others. It
leaves the pid alone.
-/

namespace Pidnl.Monitor

open Pidnl.Foundation Pidnl.System Pidnl.Ratelimit

/-! ## Removing the limit of another pid -/

section

variable {pid other : Int32}

theorem pinPath_ne (different : other ≠ pid) (root otherRoot : Path)
    (attachType otherType : AttachType) :
    pinPath root other attachType ≠ pinPath otherRoot pid otherType := by
  intro same
  rw [pinPath, pinPath, pinDirectory, pinDirectory, List.append_assoc,
    List.append_assoc] at same
  have suffix := (List.append_inj' same (by simp)).2
  have names := (List.cons.inj (List.cons.inj suffix).2).1
  exact different (Int32.toInt_inj.mp (Decimal.signed_injective names))

theorem aside_deletePidCgroup (different : other ≠ pid) :
    (deletePidCgroup other).Makes fun _ call => IsAside pid call := by
  apply (deletingCalls_deletePidCgroup other).weaken
  intro Reply site call deletes
  cases call with
  | cgroupDeleteCgroup name =>
      intro same
      exact different (buildCgroupName_injective (deletes.symm.trans same))
  | unlink path =>
      rcases deletes with ⟨root, attachType, rfl⟩
      exact fun otherRoot otherType => pinPath_ne different root otherRoot attachType otherType
  | bpfLinkPin link path | cgroupCreateCgroup name => exact deletes.elim
  | _ => trivial

end

/-! ## A turn of the event loop -/

namespace Host

abbrev Spares (pid : Int32) (before after : Host) : Prop :=
  Ratelimit.Spares pid before.kernel after.kernel

/-- Whatever else happens, the daemon leaves a pid alone. -/
abbrev SafeAside (pid : Int32) (post : α → Prop) (program : KernelProgram α)
    (host : Host) : Prop :=
  program.Safe (environment .monitor) (fun _ _ => True) (Spares pid) (fun value _ => post value)
    host

theorem safeAside_of_makes {pid : Int32} {program : KernelProgram α}
    (makes : program.Makes fun _ call => IsAside pid call) (host : Host) :
    SafeAside pid (fun _ => True) program host := by
  refine makes.safe (fun _ _ _ _ => trivial) ?_ trivial
  intro Reply site call state aside _
  exact ⟨spares_exec aside .monitor _, trivial⟩

end Host

open Host

namespace Daemon

variable {pid other : Int32} {table : Table}

theorem aside_removePidFromWatch (pid other : Int32) (table : Table) (host : Host) :
    SafeAside pid (fun value => value.2 = table.unwatch other)
      (removePidFromWatch other table) host := by
  rw [removePidFromWatch, WatchTable.unwatch, WatchTable.removePidFromWatch]
  cases table.findPidSlot other with
  | none => rfl
  | some found =>
      intro later _
      refine ⟨?_, rfl⟩
      apply spares_exec
      trivial

theorem aside_unregister (different : other ≠ pid) (table : Table) (host : Host) :
    SafeAside pid (fun value => value.2 = table.unwatch other)
      (unregisterRateLimiterByPid other table) host := by
  apply Program.Safe.bind
  apply (aside_removePidFromWatch pid other table host).weaken
  intro unwatched middle same
  apply Program.Safe.bind
  apply (safeAside_of_makes (aside_deletePidCgroup different) middle).weaken
  intro code final _
  exact same

theorem aside_handlePolled (polled : List Fd) (slots : List SlotIndex)
    (unwatched : ¬ table.IsWatched pid) (host : Host) :
    SafeAside pid (fun after => ¬ after.IsWatched pid) (handlePolled polled slots table)
      host := by
  induction slots generalizing table host with
  | nil => exact unwatched
  | cons slot slots induction =>
      rw [handlePolled]
      split
      · exact induction unwatched host
      rename_i entry active
      have different : entry.pid ≠ pid := fun same => unwatched ⟨slot, entry, active, same⟩
      split
      · apply Program.Safe.bind
        apply (aside_unregister different table host).weaken
        intro unregistered middle same
        apply induction
        rw [same]
        exact fun watched => unwatched (WatchTable.isWatched_of_unwatch watched)
      · exact induction unwatched host

theorem aside_closePidfds (pid : Int32) (table : Table) (slots : List SlotIndex) :
    (closePidfds table slots).Makes fun _ call => IsAside pid call := by
  induction slots with
  | nil => trivial
  | cons slot slots induction =>
      rw [closePidfds]
      split
      · exact induction
      · exact ⟨trivial, fun _ => induction⟩

theorem aside_finishTurn (running : Bool) (polled : List Fd) (unwatched : ¬ table.IsWatched pid)
    (host : Host) :
    SafeAside pid (fun left => ∀ after, left = some after → ¬ after.IsWatched pid)
      (finishTurn running polled table) host := by
  apply Program.Safe.bind
  apply (aside_handlePolled polled _ unwatched host).weaken
  intro after middle unwatchedAfter
  split
  · apply Program.Safe.bind
    apply (safeAside_of_makes (aside_closePidfds pid after _) middle).weaken
    intro _ _ _ other none
    contradiction
  · intro other same
    cases same
    exact unwatchedAfter

end Daemon

end Pidnl.Monitor
