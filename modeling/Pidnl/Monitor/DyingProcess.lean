import Pidnl.Monitor.Settling
import Pidnl.Monitor.PinLifetime
import Pidnl.Ratelimit.Rooted

/-! # A process that exits while its limit is set

The call goes through stages. Its limit is set while the daemon is busy with others at
most; then it speaks to the daemon; from the handling of its WATCH on the daemon answers
for what is left.
-/

namespace Pidnl.Monitor

open Pidnl.Foundation Pidnl.System Pidnl.Ratelimit

open Host

variable {pid : Int32}

/-! ## What the client still says -/

/-- `limit_process_bandwidth` from its call of `monitor_watch_pid` on. -/
def reportLimit (pid : Int32) (code : RatelimitCode) : ClientProgram RatelimitCode := do
  if code ≠ .ok then
    return code
  let _ ← monitorWatchPid pid
  return .ok

theorem limitProcessBandwidth_eq (pid : Int32) (config : RateLimitConfig) :
    limitProcessBandwidth pid config =
      inClient (installLimit pid config) >>= reportLimit pid := rfl

inductive Position
  | unconnected
  /-- It has started the daemon itself. -/
  | forked
  | connected
  | written
deriving DecidableEq, Repr

inductive Speaks (pid : Int32) : Position → ClientProgram RatelimitCode → Prop
  | socket {position site next} (rest : Speaks pid position (next true)) :
      Speaks pid position (.call site .socket next)
  | connect {site next} (made : Speaks pid .connected (next true))
      (refused : Speaks pid .unconnected (next false)) :
      Speaks pid .unconnected (.call site .connect next)
  | pipe {site next} (rest : Speaks pid .unconnected (next true)) :
      Speaks pid .unconnected (.call site .pipe next)
  | fork {site next} (rest : Speaks pid .forked (next true)) :
      Speaks pid .unconnected (.call site .fork next)
  | poll {site next} (rest : Speaks pid .forked (next true)) :
      Speaks pid .forked (.call site .poll next)
  | reconnect {site next} (made : Speaks pid .connected (next true)) :
      Speaks pid .forked (.call site .connect next)
  | write {site next} (rest : Speaks pid .written (next true)) :
      Speaks pid .connected (.call site (.write .watch pid) next)
  | read {site next} (returns : ∀ result, ∃ code, next (some result) = .done code) :
      Speaks pid .written (.call site .read next)

theorem speaks_reportLimit (pid : Int32) : Speaks pid .unconnected (reportLimit pid .ok) := by
  apply Speaks.socket
  apply Speaks.connect
  · apply Speaks.write
    apply Speaks.read
    exact fun _ => ⟨_, rfl⟩
  · apply Speaks.pipe
    apply Speaks.fork
    apply Speaks.poll
    apply Speaks.socket
    apply Speaks.reconnect
    apply Speaks.write
    apply Speaks.read
    exact fun _ => ⟨_, rfl⟩

def Position.Fits (pid : Int32) : Position → Line → DaemonState → Prop
  | .unconnected, line, _ => line = .closed
  | .forked, line, daemon => line = .closed ∧ daemon = .polling .empty
  | .connected, line, daemon => line = .connected ∧ daemon ≠ .absent
  | .written, line, daemon => line = .sent .watch pid ∧ daemon ≠ .absent

/-! ## The daemon beside the client -/

def LeavesAlone (pid : Int32) (host : Host) : DaemonState → Prop
  | .absent => True
  | .polling table | .accepted table _ => ¬ table.IsWatched pid
  | .serving _ _ _ => False
  | .finishing program =>
      SafeAside pid (fun left => ∀ after, left = some after → ¬ after.IsWatched pid) program
        host

theorem LeavesAlone.moved {host later : Host} {daemon : DaemonState}
    (alone : LeavesAlone pid host daemon) : LeavesAlone pid later daemon := by
  cases daemon with
  | finishing program =>
      exact Program.Safe.later alone trivial (fun _ _ _ _ _ => trivial) fun _ post => post
  | _ => exact alone

theorem daemonStep_of_leavesAlone {scene next : Scene}
    (alone : LeavesAlone pid scene.host scene.daemon) (attended : scene.Attended .daemon)
    (stepped : scene.daemonStep = some next) :
    (∃ host daemon, next = { scene with host := host, daemon := daemon } ∧
      Spares pid scene.host host ∧ LeavesAlone pid host daemon ∧
        (scene.line.isPending → daemon ≠ .absent)) ∨
    ∃ table polled command other, table.freeSlot.isSome ∧
      scene.line = .sent command other ∧
        next = { scene with
          line := .taken
          daemon := .serving command polled (Daemon.runCommand command other table) } := by
  rcases scene with ⟨host, client, line, daemon⟩
  have same : Spares pid host host := (Unmoved.refl _).spares
  cases daemon with
  | absent => contradiction
  | polling table =>
      left
      simp only [Scene.daemonStep] at stepped
      split at stepped
      · cases stepped
        exact ⟨host, _, rfl, same, alone, fun _ => DaemonState.noConfusion⟩
      split at stepped
      · contradiction
      · cases stepped
        exact ⟨host, _, rfl, same, Daemon.aside_finishTurn true _ alone host,
          fun _ => DaemonState.noConfusion⟩
  | accepted table polled =>
      right
      simp only [Scene.daemonStep] at stepped
      split at stepped
      · cases stepped
        exact ⟨table, polled, _, _, attended, rfl, rfl⟩
      · contradiction
  | serving command polled program => exact alone.elim
  | finishing program =>
      left
      cases program with
      | done after =>
          cases after with
          | none =>
              cases stepped
              refine ⟨host, _, rfl, same, trivial, ?_⟩
              intro pending
              have idle : line.isPending = false := attended
              rw [pending] at idle
              contradiction
          | some table =>
              cases stepped
              exact ⟨host, _, rfl, same, alone table rfl, fun _ => DaemonState.noConfusion⟩
      | call site request next =>
          cases stepped
          rcases alone host trivial with ⟨spares, rest⟩
          exact ⟨_, _, rfl, spares, rest, fun _ => DaemonState.noConfusion⟩

theorem not_daemonStep_of_forked {scene next : Scene}
    (fits : Position.forked.Fits pid scene.line scene.daemon)
    (stepped : scene.daemonStep = some next) : False := by
  have none : scene.host.readable .empty = [] := by
    apply List.filterMap_eq_nil_iff.mpr
    exact fun _ _ => rfl
  rw [Scene.daemonStep, fits.2] at stepped
  simp [fits.1, none, Line.isPending] at stepped

/-! ## The daemon that answers for the pid -/

def Answering (pid : Int32) (host : Host) : DaemonState → Prop
  | .absent => Gone host.kernel pid
  | .polling table => Due pid table host.kernel
  | .finishing program =>
      SafeAmid .monitor pid (fun left final => Daemon.Turned pid left final.kernel) program
        host
  | _ => False

theorem Answering.spared {host later : Host} {daemon : DaemonState}
    (spares : Spares pid host later) (answering : Answering pid host daemon) :
    Answering pid later daemon := by
  cases daemon with
  | absent => exact Gone.spared spares answering
  | polling table => exact Due.spared spares answering
  | finishing program =>
      exact SafeAmid.later answering spares fun _ _ _ => Daemon.Turned.spared
  | _ => exact answering

theorem daemonStep_of_answering {scene next : Scene} (idle : scene.line.isPending = false)
    (answering : Answering pid scene.host scene.daemon)
    (stepped : scene.daemonStep = some next) :
    ∃ host daemon, next = { scene with host := host, daemon := daemon } ∧
      Answering pid host daemon := by
  rcases scene with ⟨host, client, line, daemon⟩
  cases daemon with
  | absent => contradiction
  | polling table =>
      simp only [Scene.daemonStep, idle, Bool.false_eq_true, if_false] at stepped
      split at stepped
      · contradiction
      · cases stepped
        exact ⟨host, _, rfl, Daemon.amid_finishTurn _ answering⟩
  | accepted table polled => exact answering.elim
  | serving command polled program => exact answering.elim
  | finishing program =>
      cases program with
      | done after =>
          cases after with
          | none =>
              cases stepped
              exact ⟨host, _, rfl, answering⟩
          | some table =>
              cases stepped
              exact ⟨host, _, rfl, answering⟩
      | call site request next =>
          cases stepped
          exact ⟨_, _, rfl, (answering host (Unmoved.refl _).spares).2⟩

/-! ## Stages -/

def Heard (pid : Int32) (scene : Scene) : Prop :=
  (∃ code, scene.client = .done code) ∧ scene.line = .closed ∨
    Speaks pid .written scene.client ∧ ∃ result, scene.line = .answered result

theorem Heard.idle {scene : Scene} (heard : Heard pid scene) : scene.line.isPending = false := by
  rcases heard with ⟨_, line⟩ | ⟨_, result, line⟩
  · rw [line]
    rfl
  · rw [line]
    rfl

inductive Stage (pid : Int32) (scene : Scene) : Prop
  /-- The client makes its next call in setting the limit. -/
  | installing {Reply} (site : List Frame) (request : KernelCall Reply)
      (next : Reply → KernelProgram RatelimitCode)
      (client : scene.client = inClient (.call site request next) >>= reportLimit pid)
      (line : scene.line = .closed) (daemon : LeavesAlone pid scene.host scene.daemon)
      (safe : SafeAmid .client pid (fun code final => Left pid code final.kernel)
        (.call site request next) scene.host)
  /-- The limit could not be set. -/
  | withdrawn (code : RatelimitCode) (client : scene.client = .done code)
      (line : scene.line = .closed) (daemon : LeavesAlone pid scene.host scene.daemon)
      (gone : Gone scene.host.kernel pid)
  | speaking (position : Position) (client : Speaks pid position scene.client)
      (fits : position.Fits pid scene.line scene.daemon)
      (daemon : LeavesAlone pid scene.host scene.daemon)
      (either : Standing scene.host.kernel pid ∨ Gone scene.host.kernel pid)
  /-- The daemon handles the WATCH. -/
  | served (polled : List Fd) (program : KernelProgram (MonitorCode × Daemon.Table))
      (client : Speaks pid .written scene.client) (line : scene.line = .taken)
      (daemon : scene.daemon = .serving .watch polled program)
      (safe : SafeAmid .monitor pid (fun value final => Due pid value.2 final.kernel) program
        scene.host)
  | answering (heard : Heard pid scene) (daemon : Answering pid scene.host scene.daemon)

theorem Stage.of_program {scene : Scene} {program : KernelProgram RatelimitCode}
    (client : scene.client = inClient program >>= reportLimit pid)
    (line : scene.line = .closed) (daemon : LeavesAlone pid scene.host scene.daemon)
    (safe : SafeAmid .client pid (fun code final => Left pid code final.kernel) program
      scene.host) : Stage pid scene := by
  cases program with
  | call site request next => exact .installing site request next client line daemon safe
  | done code =>
      have left : Left pid code scene.host.kernel := safe
      have client : scene.client = reportLimit pid code := client
      by_cases succeeded : code = .ok
      · subst succeeded
        apply Stage.speaking .unconnected _ line daemon left.either
        rw [client]
        exact speaks_reportLimit pid
      · rw [reportLimit, if_pos succeeded] at client
        exact .withdrawn code client line daemon (left.withdrawn succeeded)

theorem Stage.spared {scene : Scene} {host : Host} (stage : Stage pid scene)
    (spares : Spares pid scene.host host) :
    Stage pid { scene with host := host } := by
  cases stage with
  | installing site request next client line daemon safe =>
      exact .installing site request next client line daemon.moved
        (safe.later spares fun _ _ _ => Left.spared)
  | withdrawn code client line daemon gone =>
      exact .withdrawn code client line daemon.moved (gone.spared spares)
  | speaking position client fits daemon either =>
      exact .speaking position client fits daemon.moved (standing_or_gone_spared spares either)
  | served polled program client line daemon safe =>
      exact .served polled program client line daemon
        (safe.later spares fun _ _ _ => Due.spared)
  | answering heard daemon => exact .answering heard (daemon.spared spares)

theorem Stage.daemonStep {scene next : Scene} (stage : Stage pid scene)
    (attended : scene.Attended .daemon) (stepped : scene.daemonStep = some next) :
    Stage pid next := by
  cases stage with
  | installing site request rest client line daemon safe =>
      rcases daemonStep_of_leavesAlone daemon attended stepped with
        ⟨host, after, rfl, spares, alone, _⟩ | ⟨_, _, _, _, _, sent, _⟩
      · exact .installing site request rest client line alone
          (safe.later spares fun _ _ _ => Left.spared)
      · rw [line] at sent
        contradiction
  | withdrawn code client line daemon gone =>
      rcases daemonStep_of_leavesAlone daemon attended stepped with
        ⟨host, after, rfl, spares, alone, _⟩ | ⟨_, _, _, _, _, sent, _⟩
      · exact .withdrawn code client line alone (gone.spared spares)
      · rw [line] at sent
        contradiction
  | speaking position client fits daemon either =>
      rcases daemonStep_of_leavesAlone daemon attended stepped with
        ⟨host, after, rfl, spares, alone, stays⟩ |
          ⟨table, polled, command, other, room, sent, rfl⟩
      · have eitherAfter := standing_or_gone_spared spares either
        refine .speaking position client ?_ alone eitherAfter
        cases position with
        | unconnected => exact fits
        | forked => exact (not_daemonStep_of_forked fits stepped).elim
        | connected =>
            have pending : scene.line.isPending = true := by rw [fits.1]; rfl
            exact ⟨fits.1, stays pending⟩
        | written =>
            have pending : scene.line.isPending = true := by rw [fits.1]; rfl
            exact ⟨fits.1, stays pending⟩
      · cases position with
        | unconnected => exact absurd (fits.symm.trans sent) Line.noConfusion
        | forked => exact absurd (fits.1.symm.trans sent) Line.noConfusion
        | connected => exact absurd (fits.1.symm.trans sent) Line.noConfusion
        | written =>
            cases fits.1.symm.trans sent
            exact .served polled _ client rfl rfl (Daemon.amid_addPidToWatch room either)
  | served polled program client line daemon safe =>
      rcases scene with ⟨host, _, _, _⟩
      subst daemon
      cases program with
      | done handled =>
          cases stepped
          refine .answering (.inr ⟨client, _, rfl⟩) ?_
          exact Daemon.amid_finishTurn _ safe
      | call site request rest =>
          cases stepped
          exact .served polled _ client line rfl (safe host (Unmoved.refl _).spares).2
  | answering heard daemon =>
      rcases daemonStep_of_answering heard.idle daemon stepped with ⟨host, after, rfl, answers⟩
      exact .answering heard answers

theorem Stage.clientStep {scene next : Scene} (stage : Stage pid scene)
    (stepped : scene.clientStep = some next) : Stage pid next := by
  rcases scene with ⟨host, client, line, daemon⟩
  cases stage with
  | installing site request rest isClient isLine alone safe =>
      dsimp only at isClient isLine
      subst isClient isLine
      cases stepped
      exact .of_program rfl rfl alone.moved (safe host (Unmoved.refl _).spares).2
  | withdrawn code isClient isLine alone gone =>
      dsimp only at isClient
      subst isClient
      contradiction
  | speaking position speaks fits alone either =>
      cases speaks with
      | socket rest =>
          cases stepped
          exact .speaking _ rest fits alone either
      | connect made refused =>
          cases daemon with
          | absent =>
              cases stepped
              exact .speaking _ refused fits alone either
          | _ =>
              cases stepped
              exact .speaking _ made ⟨rfl, DaemonState.noConfusion⟩ alone either
      | pipe rest =>
          cases stepped
          exact .speaking _ rest fits alone either
      | fork rest =>
          cases stepped
          exact .speaking _ rest ⟨fits, rfl⟩ (WatchTable.not_isWatched_empty pid) either
      | poll rest =>
          cases stepped
          exact .speaking _ rest fits alone either
      | reconnect made =>
          have forked : daemon = .polling .empty := fits.2
          subst forked
          cases stepped
          exact .speaking _ made ⟨rfl, DaemonState.noConfusion⟩ alone either
      | write rest =>
          cases stepped
          exact .speaking _ rest ⟨rfl, fits.2⟩ alone either
      | read returns =>
          have sent : line = .sent .watch pid := fits.1
          subst sent
          cases daemon with
          | absent => exact absurd rfl fits.2
          | _ => contradiction
  | served polled program speaks isLine isDaemon safe =>
      dsimp only at isLine isDaemon
      subst isLine isDaemon
      cases speaks with
      | socket rest =>
          cases stepped
          exact .served polled program rest rfl rfl safe
      | read returns => contradiction
  | answering heard answers =>
      rcases heard with ⟨⟨code, isClient⟩, _⟩ | ⟨speaks, result, isLine⟩
      · dsimp only at isClient
        subst isClient
        contradiction
      · dsimp only at isLine
        subst isLine
        cases speaks with
        | socket rest =>
            cases stepped
            exact .answering (.inr ⟨rest, result, rfl⟩) answers
        | read returns =>
            rcases returns result with ⟨code, returned⟩
            cases stepped
            exact .answering (.inl ⟨⟨code, returned⟩, rfl⟩) answers

theorem Stage.step {scene next : Scene} {event : Scene.Event} (stage : Stage pid scene)
    (attended : scene.Attended event) (stepped : scene.step event = some next) :
    Stage pid next := by
  cases event with
  | client => exact stage.clientStep stepped
  | daemon => exact stage.daemonStep attended stepped
  | exits other =>
      simp only [Scene.step] at stepped
      split at stepped
      · cases stepped
        exact stage.spared (Unmoved.refl _).spares
      · contradiction
  | reaped other =>
      simp only [Scene.step] at stepped
      split at stepped
      · cases stepped
        apply stage.spared
        exact Unmoved.spares ⟨rfl, rfl, rfl, rfl⟩
      · contradiction

theorem Stage.start {host : Host} {daemon : Option Daemon.Table}
    (config : RateLimitConfig) (clear : Clear host.kernel pid)
    (unwatched : ∀ table, daemon = some table → ¬ table.IsWatched pid) :
    Stage pid (Scene.start host daemon pid config) := by
  refine .of_program (limitProcessBandwidth_eq pid config) rfl ?_ (amid_installLimit config clear)
  cases daemon with
  | none => trivial
  | some table => exact unwatched table rfl

/-! ## At rest -/

namespace Scene

/-- At most one call is made, or a process is reaped. -/
inductive Touches (before : Kernel) : Kernel → Prop
  | made {Reply} (owner : Process) (fails : Bool) (call : KernelCall Reply) :
      Touches before (Kernel.exec owner fails before call).2
  | reaped (running : Int32 → Bool) : Touches before { before with running := running }

theorem Touches.none (kernel : Kernel) : Touches kernel kernel := .reaped kernel.running

theorem Touches.rooted {before after : Kernel} (touches : Touches before after)
    (rooted : Rooted before) : Rooted after := by
  cases touches with
  | made owner fails call => exact rooted_exec rooted owner fails call
  | reaped running => exact rooted

theorem clientStep_touches {scene next : Scene} (stepped : scene.clientStep = some next) :
    Touches scene.host.kernel next.host.kernel := by
  rcases scene with ⟨host, client, line, daemon⟩
  cases client with
  | done code => contradiction
  | call site request rest =>
      cases request with
      | kernel call =>
          cases stepped
          exact .made _ _ call
      | connect =>
          cases daemon <;> cases stepped <;> exact .none _
      | read =>
          simp only [clientStep, clientCall] at stepped
          split at stepped
          · cases stepped
            exact .none _
          · cases stepped
            exact .none _
          · contradiction
      | _ =>
          cases stepped
          exact .none _

theorem daemonStep_touches {scene next : Scene} (stepped : scene.daemonStep = some next) :
    Touches scene.host.kernel next.host.kernel := by
  rcases scene with ⟨host, client, line, daemon⟩
  cases daemon with
  | absent => contradiction
  | polling table =>
      simp only [daemonStep] at stepped
      split at stepped
      · cases stepped
        exact .none _
      split at stepped
      · contradiction
      · cases stepped
        exact .none _
  | accepted table polled =>
      simp only [daemonStep] at stepped
      split at stepped
      · cases stepped
        exact .none _
      · contradiction
  | serving command polled program =>
      cases program with
      | done handled =>
          cases stepped
          exact .none _
      | call site request rest =>
          cases stepped
          exact .made _ _ request
  | finishing program =>
      cases program with
      | done after =>
          cases after with
          | none =>
              cases stepped
              exact .none _
          | some table =>
              cases stepped
              exact .none _
      | call site request rest =>
          cases stepped
          exact .made _ _ request

theorem rooted_step {scene next : Scene} {event : Event} (rooted : Rooted scene.host.kernel)
    (stepped : scene.step event = some next) : Rooted next.host.kernel := by
  cases event with
  | client => exact (clientStep_touches stepped).rooted rooted
  | daemon => exact (daemonStep_touches stepped).rooted rooted
  | exits pid =>
      simp only [step] at stepped
      split at stepped
      · cases stepped
        exact rooted
      · contradiction
  | reaped pid =>
      simp only [step] at stepped
      split at stepped
      · cases stepped
        exact rooted
      · contradiction

theorem NothingLeft.of_gone {scene : Scene} (gone : Gone scene.host.kernel pid)
    (rooted : Rooted scene.host.kernel)
    (unwatched : ∀ table, scene.daemon = .polling table → ¬ table.IsWatched pid) :
    scene.NothingLeft pid where
  cgroup := by
    rw [hasCgroup, gone.cgroup]
    rfl
  programs := by
    intro link cgroup lives attached
    rcases rooted link cgroup (.inl lives) attached with ⟨name, isCgroup⟩
    refine ⟨name, ?_, isCgroup⟩
    intro own
    rw [own, gone.cgroup] at isCgroup
    contradiction
  pins := gone.pins
  unwatched := unwatched

theorem not_isWatched_of_exited {host : Host} {table : Daemon.Table}
    (exited : host.exited pid = true) (handled : host.readable table = []) :
    ¬ table.IsWatched pid := by
  intro watched
  rcases watched with ⟨slot, entry, active, same⟩
  have readable : entry.pidfd ∈ host.readable table := by
    apply List.mem_filterMap.mpr
    refine ⟨slot, List.mem_finRange slot, ?_⟩
    simp [active, same, exited]
  rw [handled] at readable
  contradiction

end Scene

theorem Stage.nothingLeft {scene : Scene} (stage : Stage pid scene)
    (rooted : Rooted scene.host.kernel) (rest : scene.AtRest)
    (exited : scene.host.exited pid = true) : scene.NothingLeft pid := by
  rcases rest.returned with ⟨code, returned⟩
  have handled := rest.handled
  cases stage with
  | installing site request next client line daemon safe =>
      rw [returned] at client
      contradiction
  | withdrawn code client line daemon gone =>
      apply Scene.NothingLeft.of_gone gone rooted
      intro table polling
      rw [polling] at daemon
      exact daemon
  | speaking position client fits daemon either =>
      rw [returned] at client
      contradiction
  | served polled program client line daemon safe =>
      rw [returned] at client
      contradiction
  | answering heard answers =>
      rcases scene with ⟨host, client, line, daemon⟩
      cases daemon with
      | absent => exact .of_gone answers rooted fun _ => DaemonState.noConfusion
      | polling table =>
          have unwatched := Scene.not_isWatched_of_exited exited handled
          apply Scene.NothingLeft.of_gone (answers.unwatched unwatched) rooted
          intro other same
          cases same
          exact unwatched
      | _ => exact handled.elim

/-! ## Whole runs -/

/-- However the steps of the call and of the daemon fall, a process that has exited leaves
nothing behind. -/
def Scene.LeavesNothingBehind (host : Host) (daemon : Option Daemon.Table) (pid : Int32)
    (config : RateLimitConfig) : Prop :=
  ∀ events final,
    Guarded Scene.step Scene.Attended (Scene.start host daemon pid config) events →
    perform Scene.step (Scene.start host daemon pid config) events = some final →
    final.AtRest → final.host.exited pid = true → final.NothingLeft pid

structure WithoutLimit (kernel : Kernel) (pid : Int32) : Prop where
  settled : Settled kernel
  cgroup : hasCgroup kernel pid = false
  pins : ∀ attachType, kernel.pins.lookup (pinPath kernel.bpffsMount pid attachType) = none

theorem WithoutLimit.clear {kernel : Kernel} (withoutLimit : WithoutLimit kernel pid) :
    Clear kernel pid where
  cgroup := by simpa [hasCgroup] using withoutLimit.cgroup
  pins := withoutLimit.pins
  childless := withoutLimit.settled.childless pid

/-- The monitor must not watch the pid already when its limit is set. -/
theorem leavesNothingBehind_of_unwatched {host : Host} {daemon : Option Daemon.Table}
    (withoutLimit : WithoutLimit host.kernel pid)
    (unwatched : ∀ table, daemon = some table → ¬ table.IsWatched pid)
    (config : RateLimitConfig) : Scene.LeavesNothingBehind host daemon pid config := by
  intro events final attended run rest exited
  have stage := perform.invariant_of_guarded
    (fun _ _ _ stage attended stepped => Stage.step stage attended stepped)
    (Stage.start config withoutLimit.clear unwatched) attended run
  have rooted := perform.invariant (fun _ _ _ => Scene.rooted_step) withoutLimit.settled.rooted run
  exact stage.nothingLeft rooted rest exited

def Host.fresh : Host where
  kernel := .empty [] [] fun _ => true
  exited := fun _ => false
  joinsExited := false

/-- The process exits between the setting of its limit and the WATCH. -/
def exitsBeforeWatch : List Scene.Event :=
  [List.replicate 29 .client, [.exits 7, .reaped 7], List.replicate 8 .client,
    List.replicate 21 .daemon, [.client]].flatten

theorem leavesNothingBehind_of_unwatched_exitsBeforeWatch :
    ∃ final, perform Scene.step (Scene.start .fresh none 7
        { uploadKbps := 100, downloadKbps := 200 }) exitsBeforeWatch = some final ∧
      final.NothingLeft 7 := by
  have withoutLimit : WithoutLimit Host.fresh.kernel 7 :=
    ⟨settled_empty [] [] _, rfl, fun _ => rfl⟩
  have attended : Guarded Scene.step Scene.Attended (Scene.start .fresh none 7
      { uploadKbps := 100, downloadKbps := 200 }) exitsBeforeWatch := by decide +kernel
  have ends : (perform Scene.step (Scene.start .fresh none 7
      { uploadKbps := 100, downloadKbps := 200 }) exitsBeforeWatch).any
        (fun final => final.AtRest ∧ final.host.exited 7 = true) = true := by
    decide +kernel
  rcases (Option.any_eq_true _ _).mp ends with ⟨final, run, reached⟩
  have ended := of_decide_eq_true reached
  have unwatched : ∀ table, (none : Option Daemon.Table) = some table → ¬ table.IsWatched 7 :=
    fun _ same => absurd same.symm (Option.some_ne_none _)
  exact ⟨final, run, leavesNothingBehind_of_unwatched withoutLimit unwatched _ exitsBeforeWatch
    final attended run ended.1 ended.2⟩

/-! ## A pid that is still watched -/

/-- The limit of 7 could not be changed and is gone, and 7 is still watched. -/
def abandoned : World :=
  (World.execute (.only [.attachBpfPrograms] .ratelimitBpfLoad)
    (limitProcessBandwidth 7 { uploadKbps := 300, downloadKbps := 400 }) limited).2

theorem perform_abandoned :
    perform World.react (.fresh [] [] fun _ => true)
      [setLimit .none { uploadKbps := 100, downloadKbps := 200 },
        setLimit (.only [.attachBpfPrograms] .ratelimitBpfLoad)
          { uploadKbps := 300, downloadKbps := 400 }] = some abandoned := rfl

theorem withoutLimit_abandoned : WithoutLimit abandoned.kernel 7 where
  settled := by
    have clears : ClearsPins (.only [.attachBpfPrograms] .ratelimitBpfLoad) := by
      intro site
      simp [leavesPins, sweepFails, Faults.here, Faults.inside, Faults.beneath, Faults.only]
    have rejoins : Rejoins limited (.only [.attachBpfPrograms] .ratelimitBpfLoad)
        (.limitProcessBandwidth 7 { uploadKbps := 300, downloadKbps := 400 }) :=
      fun _ => .inr (.inl ⟨by decide, inForce_limited.running, by decide⟩)
    exact (anchored_operation anchored_limited clears rejoins).settled
  cgroup := by decide +kernel
  pins := by
    have noPins : abandoned.kernel.pins.entries = [] := by decide +kernel
    intro attachType
    rw [AList.lookup, noPins]
    rfl

/-- The process exits while its limit is set again. The daemon unpins the links of the old
limit, the client pins those of the new one, and the daemon deletes the cgroup. -/
def exitsAmid : List Scene.Event :=
  [List.replicate 14 .client, [.exits 7, .reaped 7], List.replicate 12 .daemon,
    List.replicate 15 .client, List.replicate 3 .daemon, List.replicate 8 .client,
    List.replicate 7 .daemon, [.client]].flatten

/-- The pins of the process stay. -/
theorem not_leavesNothingBehind_abandoned :
    ∃ world, perform World.react (.fresh [] [] fun _ => true)
        [setLimit .none { uploadKbps := 100, downloadKbps := 200 },
          setLimit (.only [.attachBpfPrograms] .ratelimitBpfLoad)
            { uploadKbps := 300, downloadKbps := 400 }] = some world ∧
      WithoutLimit world.kernel 7 ∧
      ¬ Scene.LeavesNothingBehind { Host.fresh with kernel := world.kernel } world.daemon 7
        { uploadKbps := 100, downloadKbps := 200 } := by
  refine ⟨abandoned, perform_abandoned, withoutLimit_abandoned, ?_⟩
  intro leaves
  have attended : Guarded Scene.step Scene.Attended (Scene.start
      { Host.fresh with kernel := abandoned.kernel } abandoned.daemon 7
      { uploadKbps := 100, downloadKbps := 200 }) exitsAmid := by decide +kernel
  have ends : (perform Scene.step (Scene.start
      { Host.fresh with kernel := abandoned.kernel } abandoned.daemon 7
      { uploadKbps := 100, downloadKbps := 200 }) exitsAmid).any (fun final =>
        (final.AtRest ∧ final.host.exited 7 = true) ∧
          final.host.kernel.pins.lookup
            (pinPath final.host.kernel.bpffsMount 7 .egress) ≠ none) = true := by
    decide +kernel
  rcases (Option.any_eq_true _ _).mp ends with ⟨final, run, reached⟩
  rcases of_decide_eq_true reached with ⟨ended, pinned⟩
  exact pinned ((leaves exitsAmid final attended run ended.1 ended.2).pins .egress)

end Pidnl.Monitor
