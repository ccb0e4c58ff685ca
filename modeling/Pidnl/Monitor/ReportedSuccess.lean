import Pidnl.Monitor.Store

/-! # What a reported success is worth

For every choice of failing calls, when `limit_process_bandwidth` has returned
`RATELIMIT_OK` whether the limit it was given is the one that is read back.
-/

namespace Pidnl.Monitor

open Pidnl.Foundation Pidnl.System Pidnl.Ratelimit

variable (faults : Faults) (world : World) (pid : Int32) (config : RateLimitConfig)

/-! ## Links that survive -/

/-- `detach_pinned_links` leaves a link as it is: the bpffs is not found, or the
link can be neither unlinked nor detached. -/
def survives (faults : Faults) (attachType : AttachType) : Bool :=
  let detaching := faults.inside .detachPinnedLinks
  let inner := detaching.inside (.direction attachType)
  detaching.here .getBpffsMount ||
    inner.here .unlink && (inner.here .bpfObjGet || inner.here .bpfLinkDetach)

def inDaemon (faults : Faults) : Faults :=
  (faults.inside .sendCommand).inside .monitorRun

def inRemoval (faults : Faults) (pid : Int32) : Faults :=
  (inDaemon faults).inside (.deletePidCgroup pid)

/-- A daemon hears WATCH, has a slot for the pid but gets no pidfd for it, and
its call of `delete_pid_cgroup` gets as far as `delete_cgroup`. -/
def WatchRemoves (faults : Faults) (daemon : Option Daemon.Table) (pid : Int32) :
    Prop :=
  (∃ table, heard faults daemon = some table ∧ ¬ table.IsWatched pid ∧
    table.freeSlot.isSome) ∧
  (inDaemon faults).here .pidfdOpen = true ∧
  removeFails (inDaemon faults) pid = false

def Outlives (faults : Faults) (daemon : Option Daemon.Table) (pid : Int32)
    (attachType : AttachType) : Prop :=
  WatchRemoves faults daemon pid →
    survives ((inRemoval faults pid).inside .deleteCgroup) attachType = true

def CgroupOutlives (faults : Faults) (daemon : Option Daemon.Table) (pid : Int32) :
    Prop :=
  WatchRemoves faults daemon pid → deleteFails (inRemoval faults pid) = true

def Stale (faults : Faults) (world : World) (pid : Int32) (config : RateLimitConfig)
    (attachType : AttachType) : Prop :=
  config.limit attachType = RATELIMIT_UNLIMITED ∧
    survives faults attachType = true ∧
    (slot world.kernel pid attachType).limit.getD RATELIMIT_UNLIMITED ≠
      RATELIMIT_UNLIMITED

/-- No old link is still there, and the limit outlives its registration. -/
structure Undisturbed (faults : Faults) (world : World) (pid : Int32)
    (config : RateLimitConfig) : Prop where
  cgroup : CgroupOutlives faults world.daemon pid
  limited : ∀ attachType, config.limit attachType ≠ RATELIMIT_UNLIMITED →
    Outlives faults world.daemon pid attachType
  stale : ∀ attachType, Stale faults world pid config attachType →
    ¬ Outlives faults world.daemon pid attachType

end Pidnl.Monitor
