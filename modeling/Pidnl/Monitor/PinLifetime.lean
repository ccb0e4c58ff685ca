import Pidnl.Monitor.FailedChange

/-! # Pins and the cgroup they are found by

Unset, clean and the monitor look for the cgroup of a pid before they touch its
pins. A pin that outlives the cgroup is out of their reach. Any call may fail, and
processes may come and go between the operations.
-/

namespace Pidnl.Monitor

open Pidnl.Foundation Pidnl.System Pidnl.Ratelimit

def Pinned (kernel : Kernel) (pid : Int32) : Prop :=
  ∃ attachType,
    (kernel.pins.lookup (pinPath kernel.bpffsMount pid attachType)).isSome = true

theorem pinned_iff {kernel : Kernel} {pid : Int32} :
    Pinned kernel pid ↔ ∃ attachType, slot kernel pid attachType ≠ .empty := by
  apply exists_congr
  intro attachType
  rw [ne_eq, slot_eq_empty_iff, Option.isSome_iff_ne_none]

/-- Whoever has a pin has the cgroup it is found by. -/
structure Anchored (kernel : Kernel) : Prop where
  settled : Settled kernel
  found : ∀ pid, Pinned kernel pid → hasCgroup kernel pid = true

namespace Anchored

variable {before after : Kernel}

theorem affects (anchored : Anchored before) {pids : Set Int32}
    (affects : Affects pids before after)
    (within : ∀ pid ∈ pids, Pinned after pid → hasCgroup after pid = true) :
    Anchored after where
  settled := affects.settled
  found := by
    intro pid pinned
    by_cases member : pid ∈ pids
    · exact within pid member pinned
    · rw [affects.cgroups pid member]
      apply anchored.found
      rw [pinned_iff] at pinned ⊢
      rcases pinned with ⟨attachType, held⟩
      rw [affects.slots pid member] at held
      exact ⟨attachType, held⟩

theorem quiet (anchored : Anchored before) (quiet : Quiet before after) :
    Anchored after :=
  anchored.affects (Affects.of_quiet anchored.settled quiet : Affects ∅ before after)
    fun _ member => absurd member (Set.notMem_empty _)

end Anchored

/-! ## Deletions that reach the pins -/

/-- `detach_pinned_links` does not come to unlink both pins. -/
def sweepFails (faults : Faults) : Bool :=
  let inner := faults.inside .detachPinnedLinks
  inner.here .getBpffsMount || (inner.inside (.direction .egress)).here .unlink ||
    (inner.inside (.direction .ingress)).here .unlink

theorem swept_of_reached {faults : Faults} (reached : sweepFails faults = false)
    (attachType : AttachType) (slot : Slot) : swept faults attachType slot = .empty := by
  simp only [sweepFails, Bool.or_eq_false_iff] at reached
  rw [swept, if_neg (Bool.eq_false_iff.mp reached.1.1), unlinked]
  cases attachType with
  | egress => rw [if_neg (Bool.eq_false_iff.mp reached.1.2)]
  | ingress => rw [if_neg (Bool.eq_false_iff.mp reached.2)]

/-- `delete_cgroup` removes the cgroup and does not reach its pins. -/
def leavesPins (faults : Faults) : Bool :=
  !deleteFails faults && sweepFails (faults.inside .deleteCgroup)

section Deletions

variable {kernel after : Kernel} (owner : Process) {faults : Faults} {pid : Int32}

theorem hasCgroup_deleteCgroup (settled : Settled kernel)
    (clears : leavesPins faults = false) (cgroupFd : Fd)
    (present : hasCgroup kernel pid = true)
    (pinned : Pinned (Kernel.execute owner faults
      (deleteCgroup (buildCgroupName pid) (some cgroupFd) pid) kernel).2 pid) :
    hasCgroup (Kernel.execute owner faults
      (deleteCgroup (buildCgroupName pid) (some cgroupFd) pid) kernel).2 pid = true := by
  rcases execute_deleteCgroup owner faults settled pid cgroupFd with
    ⟨_, cgroup, slots⟩
  rw [cgroup, present, Bool.and_true]
  apply Classical.byContradiction
  intro deletes
  have deletes := Bool.eq_false_iff.mpr deletes
  rcases pinned_iff.mp pinned with ⟨attachType, held⟩
  rw [leavesPins, deletes, Bool.not_false, Bool.true_and] at clears
  rw [slots, deletes, if_neg Bool.false_ne_true, swept_of_reached clears] at held
  exact held rfl

theorem Anchored.removed (anchored : Anchored kernel)
    (clears : leavesPins (faults.inside (.deletePidCgroup pid)) = false)
    (outcome : RemoveOutcome faults pid kernel after) : Anchored after := by
  apply anchored.affects outcome.affects
  rintro other same pinned
  cases same
  rcases pinned_iff.mp pinned with ⟨attachType, held⟩
  rw [outcome.slots] at held
  rw [outcome.cgroup]
  cases present : hasCgroup kernel pid with
  | false =>
      rw [present, if_neg Bool.false_ne_true] at held
      rw [anchored.found pid (pinned_iff.mpr ⟨attachType, held⟩)] at present
      contradiction
  | true =>
      rw [present, if_pos rfl, Ratelimit.removed] at held
      rw [Bool.true_and]
      by_cases remains : removeFails faults pid = true
      · rw [remains, Bool.true_or]
      · by_cases deletes : deleteFails (faults.inside (.deletePidCgroup pid)) = true
        · rw [deletes, Bool.or_true]
        · have reached : sweepFails
              ((faults.inside (.deletePidCgroup pid)).inside .deleteCgroup) = false := by
            simpa [leavesPins, deletes] using clears
          rw [if_neg remains, if_neg deletes, swept_of_reached reached] at held
          exact absurd rfl held

def Joins (faults : Faults) (kernel : Kernel) (pid : Int32) : Prop :=
  faults.here .cgroupAttachTaskPid = false ∧ kernel.running pid = true ∧
    openFails faults = false

theorem Anchored.installLimit (anchored : Anchored kernel)
    (clears : leavesPins faults = false)
    (first : Pinned kernel pid → cgroupsFail faults pid = true ∨
      Joins faults kernel pid ∨ deleteFails faults = true)
    (config : RateLimitConfig) :
    Anchored (Kernel.execute owner faults (installLimit pid config) kernel).2 := by
  by_cases positive : 0 < pid
  swap
  · have invalid : pid ≤ 0 := Int32.not_lt.mp positive
    simp only [Ratelimit.installLimit, invalid, if_true, Kernel.execute_pure]
    exact anchored
  cases installs_installLimit owner faults anchored.settled positive config with
  | unmade fails notOk affects same =>
      exact anchored.affects affects fun _ member => absurd member (Set.notMem_empty _)
  | @unopened made notOk fails middle affects present slots deleted =>
      rw [deleted]
      rcases execute_deleteCgroup_none owner faults affects.settled pid with
        ⟨affectsDelete, cgroup⟩
      apply anchored.affects (affects.trans affectsDelete)
      rintro other same pinned
      cases same
      rw [cgroup, present, Bool.and_true]
      have pinnedBefore : Pinned kernel pid := by
        rw [pinned_iff] at pinned ⊢
        rcases pinned with ⟨attachType, held⟩
        refine ⟨attachType, fun empty => held ?_⟩
        rw [slot_deleteCgroup_none owner faults affects.settled, slots, empty]
        exact ite_self _
      rcases first pinnedBefore with early | joins | remains
      · rw [made] at early
        contradiction
      · rcases fails with (refuses | dead) | fails
        · rw [joins.1] at refuses
          contradiction
        · rw [joins.2.1] at dead
          contradiction
        · rw [joins.2.2] at fails
          contradiction
      · exact remains
  | @opened made joins runs opens middle affects slots cgroupFd replaces =>
      cases replaces with
      | replaced ok noneFails free affectsReplace present slots =>
          apply anchored.affects (affects.trans affectsReplace)
          rintro other same _
          cases same
          exact present
      | undone notOk fails affectsMiddle present deleted =>
          rw [deleted]
          have deletes := execute_deleteCgroup owner faults affectsMiddle.settled pid
            cgroupFd
          apply anchored.affects ((affects.trans affectsMiddle).trans deletes.1)
          rintro other same pinned
          cases same
          exact hasCgroup_deleteCgroup owner affectsMiddle.settled clears _ present pinned

theorem Anchored.removeRoot (anchored : Anchored kernel)
    (childless : kernel.hasChildren [cgroupRoot] = false) :
    Anchored (kernel.removeCgroup [cgroupRoot]) := by
  have bpffsMount := (Kernel.frames_removeCgroup kernel [cgroupRoot]).bpffsMount
  constructor
  · exact settled_removeCgroup anchored.settled childless
  · intro other pinned
    rw [Pinned, pins_removeCgroup, bpffsMount] at pinned
    rw [hasCgroup, lookup_removeCgroup, if_neg (buildCgroupName_ne_root other)]
    exact anchored.found other pinned

theorem Anchored.cleanupCgroups (anchored : Anchored kernel)
    (clears : ∀ other, leavesPins (faults.inside (.deletePidCgroup other)) = false) :
    Anchored (Kernel.execute owner faults cleanupCgroups kernel).2 := by
  apply cleanupCgroups_preserves _ _ anchored
  · intro standing pid _ anchored
    exact anchored.removed (clears pid)
      (execute_deletePidCgroup owner faults anchored.settled pid)
  · intro standing childless anchored
    exact anchored.removeRoot childless

end Deletions

/-! ## The daemon -/

namespace Daemon

variable {kernel : Kernel} {faults : Faults}

theorem anchored_unregister (anchored : Anchored kernel) (pid : Int32) (table : Table)
    (clears : leavesPins (faults.inside (.deletePidCgroup pid)) = false) :
    Anchored (Kernel.execute .monitor faults (unregisterRateLimiterByPid pid table)
      kernel).2 :=
  anchored.removed clears
    (execute_unregisterRateLimiterByPid faults pid table anchored.settled).2

theorem anchored_runCommand (anchored : Anchored kernel)
    (clears : ∀ pid, leavesPins (faults.inside (.deletePidCgroup pid)) = false)
    (command : Command) (pid : Int32) (table : Table) :
    Anchored (Kernel.execute .monitor faults (runCommand command pid table) kernel).2 := by
  cases command with
  | stop => exact anchored
  | unwatch =>
      exact anchored.quiet
        (execute_removePidFromWatch faults pid table anchored.settled).2
  | watch =>
      rcases execute_addPidToWatch faults pid table anchored.settled with
        ⟨strips, keeps⟩
      by_cases isStripped : WatchStrips faults kernel table pid
      · exact anchored.removed (clears pid) (strips isStripped)
      · exact anchored.quiet (keeps isStripped)

theorem anchored_handleDeaths (anchored : Anchored kernel)
    (clears : ∀ pid, leavesPins (faults.inside (.deletePidCgroup pid)) = false)
    (slots : List SlotIndex) (table : Table) :
    Anchored (Kernel.execute .monitor faults (handleDeaths slots table) kernel).2 := by
  induction slots generalizing kernel table with
  | nil => exact anchored
  | cons slot slots induction =>
      rw [handleDeaths]
      split
      · exact induction anchored table
      · rename_i entry _
        have readable : Kernel.exec .monitor (faults.here .total) kernel
          (.pidfdReadable entry.pid) = (!kernel.running entry.pid, kernel) := rfl
        simp only [ask, Kernel.execute_bind, Kernel.execute_request, readable]
        split
        · simp only [Kernel.execute_bind]
          exact induction (anchored_unregister anchored entry.pid table
            (clears entry.pid)) _
        · exact induction anchored table

theorem anchored_serveClient (anchored : Anchored kernel)
    (clears : ∀ pid, leavesPins ((faults.inside .monitorRun).inside
      (.deletePidCgroup pid)) = false) (command : Command) (pid : Int32) (table : Table) :
    Anchored (Kernel.execute .monitor faults (serveClient command pid table)
      kernel).2 := by
  simp only [serveClient, Kernel.execute_inside, Kernel.execute_bind,
    Kernel.execute_ite, Kernel.execute_pure]
  have handled := anchored_runCommand anchored clears command pid table
  have survived := anchored_handleDeaths handled clears
    (List.finRange MAX_WATCHED_PIDS)
    (Kernel.execute .monitor (faults.inside .monitorRun)
      (runCommand command pid table) kernel).1.2
  split
  · exact survived.quiet (quiet_closePidfds _ _ survived.settled _)
  · exact survived

theorem anchored_idleTurn (anchored : Anchored kernel)
    (clears : ∀ pid, leavesPins ((faults.inside .monitorRun).inside
      (.deletePidCgroup pid)) = false) (table : Table) :
    Anchored (Kernel.execute .monitor faults (idleTurn table) kernel).2 := by
  simp only [idleTurn, Kernel.execute_inside, Kernel.execute_bind,
    Kernel.execute_ite, Kernel.execute_pure]
  have survived := anchored_handleDeaths anchored clears
    (List.finRange MAX_WATCHED_PIDS) table
  split
  · exact survived.quiet (quiet_closePidfds _ _ survived.settled _)
  · exact survived

end Daemon

/-! ## Operations -/

/-- Wherever `delete_cgroup` is called and removes a cgroup, it reaches the pins. -/
def ClearsPins (faults : Faults) : Prop :=
  ∀ site, leavesPins (faults.beneath site) = false

def IsMessage : {Reply : Type} → ClientCall Reply → Prop
  | _, .kernel _ => False
  | _, _ => True

/-- What talks to the daemon makes no calls of its own into the kernel. -/
abbrev Talks (program : ClientProgram α) : Prop :=
  program.Makes fun _ call => IsMessage call

theorem talks_monitorConnect : Talks monitorConnect := by
  apply Program.makes_bind
  · exact (Program.makes_request _).mpr trivial
  · intro opened
    cases opened with
    | false => exact Program.makes_pure _
    | true => exact (Program.makes_request _).mpr trivial

theorem talks_guard {call : ClientProgram Bool} {value : α} {rest : ClientProgram α}
    (first : Talks call) (others : Talks rest) :
    Talks (do
      if !(← call) then
        return value
      rest) := by
  apply Program.makes_bind first
  intro reply
  cases reply with
  | false => exact Program.makes_pure _
  | true => exact others

theorem talks_request {call : ClientCall Reply} (isMessage : IsMessage call) :
    Talks (askMonitor call) :=
  (Program.makes_request call).mpr isMessage

theorem talks_monitorEnsureRunning : Talks monitorEnsureRunning := by
  rw [monitorEnsureRunning, Talks, Program.makes_inside]
  apply Program.makes_bind
  · rw [Program.makes_inside]
    exact talks_monitorConnect
  · intro connected
    cases connected with
    | true => exact Program.makes_pure _
    | false =>
        refine talks_guard (talks_request ?_) (talks_guard (talks_request ?_)
          (talks_guard (talks_request ?_) ?_))
        · trivial
        · trivial
        · trivial
        · rw [Talks, Program.makes_inside]
          exact talks_monitorConnect

theorem talks_sendCommand (command : Command) (pid : Int32) :
    Talks (sendCommand command pid) := by
  rw [sendCommand, Talks, Program.makes_inside]
  refine talks_guard talks_monitorEnsureRunning (talks_guard (talks_request ?_)
    (Program.makes_bind (talks_request ?_) ?_))
  · trivial
  · trivial
  · intro reply
    cases reply <;> exact Program.makes_pure _

theorem talks_monitorStop : Talks monitorStop := by
  rw [monitorStop, Talks, Program.makes_inside]
  refine talks_guard ?_ (talks_guard (talks_request ?_)
    (Program.makes_bind (talks_request ?_) ?_))
  · rw [Talks, Program.makes_inside]
    exact talks_monitorConnect
  · trivial
  · trivial
  · intro reply
    cases reply <;> exact Program.makes_pure _

section Operations

variable {world : World} {faults : Faults}

theorem ClearsPins.beneath (clears : ClearsPins faults) (frames : List Frame) :
    ClearsPins (faults.beneath frames) := by
  intro site
  have same : (faults.beneath frames).beneath site =
      faults.beneath (frames ++ site) := by
    funext inner function
    simp only [Faults.beneath, List.append_assoc]
  rw [same]
  exact clears (frames ++ site)

/-- The daemon's turns keep the pins anchored. -/
theorem anchored_message (clears : ClearsPins faults) {Reply : Type}
    {call : ClientCall Reply} (isMessage : IsMessage call)
    (anchored : Anchored world.kernel) :
    Anchored (World.exec faults world call).2.kernel := by
  cases call with
  | kernel call => exact isMessage.elim
  | fork =>
      simp only [World.exec]
      split
      · exact anchored
      · rw [startDaemon_eq]
        exact anchored
  | write command pid =>
      simp only [World.exec]
      split <;> exact anchored
  | read =>
      simp only [World.exec, World.serve]
      split
      · split
        · exact anchored
        · exact Daemon.anchored_serveClient anchored
            (fun pid => clears [.monitorRun, .deletePidCgroup pid]) _ _ _
      · exact anchored
  | socket => exact anchored
  | connect => exact anchored
  | pipe => exact anchored
  | poll => exact anchored

theorem anchored_talks (clears : ClearsPins faults) {program : ClientProgram α}
    (talks : Talks program) (anchored : Anchored world.kernel) :
    Anchored (World.execute faults program world).2.kernel := by
  have preserved : ∀ {Reply : Type} (site : List Frame) (call : ClientCall Reply)
      (state : World), IsMessage call → Anchored state.kernel →
      Anchored (World.environment faults site call state).2.kernel := by
    intro Reply site call state isMessage standing
    exact anchored_message (clears.beneath site) isMessage standing
  exact Program.Makes.run_preserves talks preserved anchored

end Operations

/-! ## Runs -/

inductive Event
  | processes (running : Int32 → Bool)
  | operation (faults : Faults) (operation : Operation)
  | idleTurn (faults : Faults)

def World.react (world : World) : Event → Option World
  | .processes running =>
      some { world with kernel := { world.kernel with running := running } }
  | .operation faults operation => some (World.execute faults operation.program world).2
  | .idleTurn faults => some (world.idleTurn faults)

/-- A limit is set anew only where the process joins its cgroup and the cgroup can be
opened, or no cgroup is made or deleted. -/
def Rejoins (world : World) (faults : Faults) : Operation → Prop
  | .limitProcessBandwidth pid _ => Pinned world.kernel pid →
      cgroupsFail faults pid = true ∨ Joins faults world.kernel pid ∨
        deleteFails faults = true
  | _ => True

/-- No cgroup is deleted before its pins. -/
def PinsFirst (world : World) : Event → Prop
  | .processes _ => True
  | .operation faults operation => ClearsPins faults ∧ Rejoins world faults operation
  | .idleTurn faults => ClearsPins faults

theorem anchored_empty (cgroup2Mount bpffsMount : Path) (running : Int32 → Bool) :
    Anchored (.empty cgroup2Mount bpffsMount running) where
  settled := settled_empty cgroup2Mount bpffsMount running
  found := by
    rintro pid ⟨attachType, held⟩
    cases held

section Runs

variable {world : World}

theorem anchored_operation {faults : Faults} {operation : Operation}
    (anchored : Anchored world.kernel) (clears : ClearsPins faults)
    (rejoins : Rejoins world faults operation) :
    Anchored (World.execute faults operation.program world).2.kernel := by
  cases operation with
  | limitProcessBandwidth pid config =>
      have installed := anchored.installLimit .client (clears []) rejoins config
      rw [Operation.program, execute_limitProcessBandwidth]
      split
      · exact anchored_talks clears (talks_sendCommand .watch pid) installed
      · exact installed
  | unregisterRateLimiterByPid pid =>
      have unwatched := anchored_talks clears (talks_sendCommand .unwatch pid) anchored
      simp only [Operation.program, unregisterRateLimiterByPid, monitorUnwatchPid,
        World.execute_bind, World.execute_inClient]
      exact unwatched.removed (clears [.deletePidCgroup pid])
        (execute_deletePidCgroup .client faults unwatched.settled pid)
  | ratelimitCleanupAll =>
      have cleaned := anchored.cleanupCgroups .client
        fun pid => clears [.deletePidCgroup pid]
      simp only [Operation.program, ratelimitCleanupAll, World.execute_bind,
        World.execute_inClient, World.execute_ite, World.execute_pure]
      split
      · exact anchored_talks clears talks_monitorStop cleaned
      · exact cleaned

theorem anchored_react {event : Event} {next : World} (anchored : Anchored world.kernel)
    (first : PinsFirst world event) (reacts : world.react event = some next) :
    Anchored next.kernel := by
  cases event with
  | processes running =>
      cases reacts
      exact ⟨anchored.settled.withRunning running, anchored.found⟩
  | operation faults operation =>
      cases reacts
      exact anchored_operation anchored first.1 first.2
  | idleTurn faults =>
      cases reacts
      rw [World.idleTurn]
      split
      · exact anchored
      · exact Daemon.anchored_idleTurn anchored
          (fun pid => first [.monitorRun, .deletePidCgroup pid]) _

/-- As long as no cgroup is deleted before its pins, no pin outlives its cgroup. -/
theorem pinned_hasCgroup_of_pinsFirst (cgroup2Mount bpffsMount : Path)
    (running : Int32 → Bool) {events : List Event} {world : World}
    (first : Guarded World.react PinsFirst (.fresh cgroup2Mount bpffsMount running)
      events)
    (run : perform World.react (.fresh cgroup2Mount bpffsMount running) events =
      some world) (pid : Int32) (pinned : Pinned world.kernel pid) :
    hasCgroup world.kernel pid = true := by
  have preserved : ∀ (state : World) event next, Anchored state.kernel →
      PinsFirst state event → state.react event = some next → Anchored next.kernel := by
    intro state event next anchored admitted reacts
    exact anchored_react anchored admitted reacts
  have initially : Anchored (World.fresh cgroup2Mount bpffsMount running).kernel :=
    anchored_empty cgroup2Mount bpffsMount running
  have anchored := perform.invariant_of_guarded preserved initially first run
  exact anchored.found pid pinned

end Runs

theorem clearsPins_none : ClearsPins .none := by
  intro site
  rfl

def setLimit (faults : Faults) (config : RateLimitConfig) : Event :=
  .operation faults (.limitProcessBandwidth 7 config)

theorem perform_setLimit :
    perform World.react (.fresh [] [] fun _ => true)
      [setLimit .none { uploadKbps := 100, downloadKbps := 200 }] = some limited := rfl

theorem anchored_limited : Anchored limited.kernel := by
  have rejoins : Rejoins busy .none (.limitProcessBandwidth 7
      { uploadKbps := 100, downloadKbps := 200 }) := fun _ => .inr (.inl ⟨rfl, rfl, rfl⟩)
  exact anchored_operation (anchored_empty [] [] _) clearsPins_none rejoins

theorem pinned_limited : Pinned limited.kernel 7 := by
  rw [pinned_iff]
  rcases inForce_limited.live with ⟨attachType, live⟩
  refine ⟨attachType, fun empty => ?_⟩
  rw [empty] at live
  contradiction

theorem pinned_hasCgroup_of_pinsFirst_limited :
    hasCgroup limited.kernel 7 = true := by
  have first : Guarded World.react PinsFirst (.fresh [] [] fun _ => true)
      [setLimit .none { uploadKbps := 100, downloadKbps := 200 }] := by
    refine ⟨⟨clearsPins_none, ?_⟩, fun _ _ => trivial⟩
    intro held
    exact .inr (.inl ⟨rfl, rfl, rfl⟩)
  exact pinned_hasCgroup_of_pinsFirst [] [] (fun _ => true) first perform_setLimit 7
    pinned_limited

/-! ## Pins that are left behind -/

theorem pinned_installLimit_of_refused {kernel : Kernel} (settled : Settled kernel)
    {faults : Faults} {pid : Int32} (positive : 0 < pid) (config : RateLimitConfig)
    (made : cgroupsFail faults pid = false)
    (refused : faults.here .cgroupAttachTaskPid = true)
    (deletes : deleteFails faults = false) (pinned : Pinned kernel pid) :
    let outcome := Kernel.execute .client faults (installLimit pid config) kernel
    outcome.1 ≠ .ok ∧ Pinned outcome.2 pid ∧ hasCgroup outcome.2 pid = false := by
  cases installs_installLimit .client faults settled positive config with
  | unmade fails =>
      rw [made] at fails
      contradiction
  | opened _ joins =>
      rw [refused] at joins
      contradiction
  | @unopened _ notOk _ middle affects present slots deleted =>
      refine ⟨notOk, ?_, ?_⟩
      · rw [pinned_iff] at pinned ⊢
        rcases pinned with ⟨attachType, held⟩
        refine ⟨attachType, fun empty => held ?_⟩
        rw [deleted, slot_deleteCgroup_none .client faults affects.settled, deletes,
          if_neg Bool.false_ne_true, Slot.detached_eq_empty_iff, slots] at empty
        exact empty
      · rw [deleted, (execute_deleteCgroup_none .client faults affects.settled pid).2,
          deletes]
        rfl

def setTwice : List Event :=
  [setLimit .none { uploadKbps := 100, downloadKbps := 200 },
    setLimit (.only [] .cgroupAttachTaskPid) { uploadKbps := 300, downloadKbps := 400 }]

theorem pinned_without_cgroup :
    ∃ world, perform World.react (.fresh [] [] fun _ => true) setTwice = some world ∧
      Pinned world.kernel 7 ∧ hasCgroup world.kernel 7 = false := by
  have refused := pinned_installLimit_of_refused inForce_limited.settled
    (by decide : (0 : Int32) < 7) { uploadKbps := 300, downloadKbps := 400 }
    (by decide : cgroupsFail (.only [] .cgroupAttachTaskPid) 7 = false) rfl
    (by decide) pinned_limited
  refine ⟨(World.execute (.only [] .cgroupAttachTaskPid)
    (limitProcessBandwidth 7 { uploadKbps := 300, downloadKbps := 400 }) limited).2,
    rfl, ?_⟩
  rw [execute_limitProcessBandwidth]
  have notOk : (Kernel.execute .client (.only [] .cgroupAttachTaskPid)
      (installLimit 7 { uploadKbps := 300, downloadKbps := 400 }) limited.kernel).1 ≠
      .ok := refused.1
  rw [if_neg notOk]
  exact refused.2

end Pidnl.Monitor
