import Pidnl.Foundation.Simulation
import Pidnl.Monitor.Reliable
import Pidnl.Ratelimit.Removal

/-! # Pids that are given out again

A pidfd stands for the process that it was opened for, and the daemon finds an entry by its
pid. A pid can name another process before the daemon has removed the entry of the first.
-/

namespace Pidnl.Monitor

open Pidnl.Foundation Pidnl.System Pidnl.Ratelimit

/-- The daemon's table, which is empty as long as there is no daemon. -/
def World.table (world : World) : Daemon.Table := world.daemon.getD .empty

structure Computer where
  world : World
  /-- The pids that have been given to another process since the process that they are
  watched for has ended. -/
  stale : Int32 → Bool

/-! ## The daemon's calls -/

def Daemon.exec (stale : Int32 → Bool) (kernel : Kernel) : KernelCall Reply → Reply × Kernel
  | .pidfdReadable pid => (stale pid || !kernel.running pid, kernel)
  | call => Kernel.exec .monitor false kernel call

def Daemon.environment (stale : Int32 → Bool) : Environment Frame KernelCall Kernel :=
  fun _ call kernel => Daemon.exec stale kernel call

def Daemon.execute (stale : Int32 → Bool) (program : KernelProgram α) (kernel : Kernel) :
    α × Kernel :=
  program.run (Daemon.environment stale) kernel

namespace Computer

def fresh (cgroup2Mount bpffsMount : Path) (running : Int32 → Bool) : Computer where
  world := .fresh cgroup2Mount bpffsMount running
  stale := fun _ => false

/-- The entries of the table that are left are as stale as they were. -/
def withWorld (computer : Computer) (world : World) : Computer where
  world := world
  stale := fun pid => computer.stale pid && (world.table.findPidSlot pid).isSome

/-! ## Processes that start and end -/

def setRunning (computer : Computer) (pid : Int32) (runs : Bool) : World :=
  { computer.world with kernel := { computer.world.kernel with
      running := Function.update computer.world.kernel.running pid runs } }

/-- A pid that names a process is not given to another one. -/
def starts (computer : Computer) (pid : Int32) : Computer :=
  if computer.world.kernel.running pid then computer
  else
    { world := computer.setRunning pid true
      stale := Function.update computer.stale pid
        (computer.world.table.findPidSlot pid).isSome }

def exits (computer : Computer) (pid : Int32) : Computer :=
  { computer with world := computer.setRunning pid false }

/-! ## The client's calls -/

def serve (computer : Computer) : Option MonitorCode × Computer :=
  match computer.world.daemon, computer.world.message with
  | some table, some (command, pid) =>
      let served := Daemon.execute computer.stale (Daemon.serveClient command pid table)
        computer.world.kernel
      (some served.1.1,
        computer.withWorld { kernel := served.2, daemon := served.1.2, message := none })
  | _, _ => (none, computer)

def wakes (computer : Computer) : Computer :=
  match computer.world.daemon with
  | none => computer
  | some table =>
      let turned := Daemon.execute computer.stale (Daemon.idleTurn table) computer.world.kernel
      computer.withWorld { computer.world with kernel := turned.2, daemon := turned.1 }

def exec (computer : Computer) : ClientCall Reply → Reply × Computer
  | .read => computer.serve
  | .fork => (true, computer.withWorld (computer.world.startDaemon .none))
  | call =>
      let called := World.exec .none computer.world call
      (called.1, { computer with world := called.2 })

def environment : Environment Frame ClientCall Computer := fun _ call computer =>
  computer.exec call

def execute (program : ClientProgram α) (computer : Computer) : α × Computer :=
  program.run environment computer

def running (computer : Computer) : Int32 → Bool := computer.world.kernel.running

def read (computer : Computer) (pid : Int32) : RateLimitsRead :=
  (execute (inClient (getRateLimitsFromCgroup pid)) computer).1

end Computer

/-! ## What the daemon sees -/

def withRunning (kernel : Kernel) (running : Int32 → Bool) : Kernel :=
  { kernel with running := running }

section WithRunning

variable (kernel : Kernel) (running : Int32 → Bool)

theorem closeDescriptor_withRunning (fd : Fd) :
    (withRunning kernel running).closeDescriptor fd =
      withRunning (kernel.closeDescriptor fd) running := by
  have same : (withRunning kernel running).target? fd = kernel.target? fd := rfl
  simp only [Kernel.closeDescriptor, same]
  split <;> rfl

theorem removeCgroup_withRunning (name : Path) :
    (withRunning kernel running).removeCgroup name =
      withRunning (kernel.removeCgroup name) running := by
  have same : (withRunning kernel running).cgroups.lookup name = kernel.cgroups.lookup name := rfl
  simp only [Kernel.removeCgroup, same]
  cases kernel.cgroups.lookup name <;> rfl

theorem unpin_withRunning (path : Path) :
    (withRunning kernel running).unpin path = withRunning (kernel.unpin path) running := by
  have same : (withRunning kernel running).pins.lookup path = kernel.pins.lookup path := rfl
  simp only [Kernel.unpin, same]
  cases kernel.pins.lookup path <;> rfl

/-- To remove a limit takes no call that asks for processes. -/
theorem exec_withRunning {Reply : Type} {call : KernelCall Reply} {pid : Int32}
    (deletes : DeletingCall pid call) (owner : Process) :
    Kernel.exec owner false (withRunning kernel running) call =
      ((Kernel.exec owner false kernel call).1,
        withRunning (Kernel.exec owner false kernel call).2 running) := by
  cases call with
  | cgroupNewCgroup name | cgroupGetCgroup name | getCgroup2Mount | getBpffsMount => rfl
  | openReadOnly path =>
      have mount : (withRunning kernel running).cgroup2Mount = kernel.cgroup2Mount := rfl
      have found : (withRunning kernel running).cgroups.lookup
          (path.drop (withRunning kernel running).cgroup2Mount.length) =
        kernel.cgroups.lookup (path.drop kernel.cgroup2Mount.length) := rfl
      simp only [Kernel.exec, found, mount]
      split
      · rfl
      · cases kernel.cgroups.lookup (path.drop kernel.cgroup2Mount.length) <;> rfl
  | cgroupDeleteCgroup name =>
      have same : (withRunning kernel running).hasChildren name = kernel.hasChildren name := rfl
      simp only [Kernel.exec, same, removeCgroup_withRunning]
      cases kernel.hasChildren name <;> rfl
  | bpfObjGet path =>
      have same : (withRunning kernel running).pins = kernel.pins := rfl
      simp only [Kernel.exec, same]
      cases kernel.pins.lookup path <;> rfl
  | bpfLinkDetach fd =>
      have same : (withRunning kernel running).target? fd = kernel.target? fd := rfl
      simp only [Kernel.exec, same]
      cases kernel.target? fd with
      | none => rfl
      | some target => cases target <;> rfl
  | close fd => simp only [Kernel.exec, closeDescriptor_withRunning]
  | unlink path => simp only [Kernel.exec, unpin_withRunning]; rfl
  | rmdir path =>
      have same : (withRunning kernel running).pins = kernel.pins := rfl
      simp only [Kernel.exec, same]
      split <;> rfl
  | _ => exact deletes.elim

end WithRunning

namespace Daemon

variable {stale : Int32 → Bool}

/-- To the daemon, a pid names the process that it is watched for. -/
def viewed (stale : Int32 → Bool) (kernel : Kernel) : Kernel :=
  withRunning kernel fun pid => kernel.running pid && !stale pid

/-- The calls of the daemon as long as it opens no pidfd under a pid that it has watched
for another process. -/
def MakesOnly (stale : Int32 → Bool) : {Reply : Type} → KernelCall Reply → Prop
  | _, .pidfdOpen pid => stale pid = false
  | _, .pidfdReadable _ => True
  | _, call => ∃ pid, DeletingCall pid call

theorem exec_viewed {Reply : Type} {call : KernelCall Reply} {kernel seen : Kernel}
    {running : Int32 → Bool} (only : MakesOnly stale call)
    (same : seen = viewed stale kernel ∧ kernel.running = running) :
    (exec stale kernel call).1 = (Kernel.exec .monitor false seen call).1 ∧
      (Kernel.exec .monitor false seen call).2 = viewed stale (exec stale kernel call).2 ∧
      (exec stale kernel call).2.running = running := by
  rcases same with ⟨rfl, rfl⟩
  have deletes : ∀ {Reply : Type} {call : KernelCall Reply}, (∃ pid, DeletingCall pid call) →
      exec stale kernel call = Kernel.exec .monitor false kernel call →
        (exec stale kernel call).1 =
            (Kernel.exec .monitor false (viewed stale kernel) call).1 ∧
          (Kernel.exec .monitor false (viewed stale kernel) call).2 =
            viewed stale (exec stale kernel call).2 ∧
          (exec stale kernel call).2.running = kernel.running := by
    intro Reply call deletes asKernel
    rcases deletes with ⟨pid, deletes⟩
    have kept : Kernel.exec .monitor false kernel call = _ :=
      exec_withRunning kernel kernel.running deletes .monitor
    have running : (Kernel.exec .monitor false kernel call).2.running = kernel.running :=
      congrArg (fun outcome => outcome.2.running) kept
    rw [asKernel, viewed, exec_withRunning kernel _ deletes .monitor, viewed, running]
    exact ⟨rfl, rfl, rfl⟩
  cases call with
  | pidfdOpen pid =>
      have fresh : stale pid = false := only
      have asked : (viewed stale kernel).running pid = kernel.running pid := by
        simp [viewed, withRunning, fresh]
      simp only [exec, Kernel.exec, asked]
      split <;> exact ⟨rfl, rfl, rfl⟩
  | pidfdReadable pid =>
      refine ⟨?_, rfl, rfl⟩
      simp [exec, Kernel.exec, viewed, withRunning, Bool.not_and, Bool.or_comm]
  | _ => exact deletes only rfl

/-- The daemon runs as if every process that it watches had its pid for itself. -/
theorem execute_viewed {program : KernelProgram α}
    (makes : program.Makes fun _ call => MakesOnly stale call) (kernel : Kernel) :
    execute stale program kernel =
      let seen := Kernel.execute .monitor .none program (viewed stale kernel)
      (seen.1, withRunning seen.2 kernel.running) := by
  have calls : ∀ {Reply : Type} (site : List Frame) (call : KernelCall Reply) state seen,
      MakesOnly stale call → seen = viewed stale state ∧ state.running = kernel.running →
        (environment stale site call state).1 =
            (Kernel.environment .monitor .none site call seen).1 ∧
          (Kernel.environment .monitor .none site call seen).2 =
            viewed stale (environment stale site call state).2 ∧
          (environment stale site call state).2.running = kernel.running :=
    fun _ _ _ _ only same => exec_viewed only same
  have ran := makes.run_related calls ⟨rfl, rfl⟩
  refine Prod.ext ran.1 ?_
  have left : withRunning (viewed stale (execute stale program kernel).2) kernel.running =
      (execute stale program kernel).2 := by
    rw [← ran.2.2]
    rfl
  exact left.symm.trans (congrArg (withRunning · kernel.running) ran.2.1.symm)

/-! ## The calls that the daemon makes -/

variable {table : Table}

theorem makesOnly_of_deletes {program : KernelProgram α} {pid : Int32}
    (makes : program.Makes fun _ call => DeletingCall pid call) :
    program.Makes fun _ call => MakesOnly stale call := by
  apply makes.weaken
  intro Reply site call deletes
  cases call with
  | pidfdOpen pid | pidfdReadable pid => exact deletes.elim
  | _ => exact ⟨pid, deletes⟩

theorem makesOnly_close (fd : Fd) : (ask (.close fd)).Makes fun _ call => MakesOnly stale call :=
  (Program.makes_request _).mpr ⟨0, trivial⟩

theorem makesOnly_removePidFromWatch (pid : Int32) (table : Table) :
    (removePidFromWatch pid table).Makes fun _ call => MakesOnly stale call := by
  rw [removePidFromWatch]
  cases table.findPidSlot pid with
  | none => exact Program.makes_pure _
  | some found => exact Program.makes_bind (makesOnly_close _) fun _ => Program.makes_pure _

theorem makesOnly_unregisterRateLimiterByPid (pid : Int32) (table : Table) :
    (unregisterRateLimiterByPid pid table).Makes fun _ call => MakesOnly stale call := by
  apply Program.makes_bind (makesOnly_removePidFromWatch pid table)
  intro _
  apply Program.makes_bind (makesOnly_of_deletes (deletingCalls_deletePidCgroup pid))
  exact fun _ => Program.makes_pure _

/-- A pid that is stale is in the table, where it is found before a pidfd is opened. -/
theorem makesOnly_addPidToWatch (within : ∀ pid, stale pid = true → table.IsWatched pid)
    (pid : Int32) : (addPidToWatch pid table).Makes fun _ call => MakesOnly stale call := by
  rw [addPidToWatch]
  by_cases watched : (table.findPidSlot pid).isSome
  · rw [if_pos watched]
    exact Program.makes_pure _
  · have fresh : stale pid = false := Bool.eq_false_iff.mpr fun isStale =>
      watched (WatchTable.findPidSlot_isSome_iff.mpr (within pid isStale))
    rw [if_neg watched]
    cases table.freeSlot with
    | none => exact Program.makes_pure _
    | some slot =>
        apply Program.makes_bind ((Program.makes_request _).mpr fresh)
        intro opened
        cases opened with
        | none =>
            apply Program.makes_bind (makesOnly_unregisterRateLimiterByPid pid table)
            exact fun _ => Program.makes_pure _
        | some pidfd => exact Program.makes_pure _

theorem makesOnly_runCommand (within : ∀ pid, stale pid = true → table.IsWatched pid)
    (command : Command) (pid : Int32) :
    (runCommand command pid table).Makes fun _ call => MakesOnly stale call := by
  cases command with
  | watch => exact makesOnly_addPidToWatch within pid
  | unwatch => exact makesOnly_removePidFromWatch pid table
  | stop => exact Program.makes_pure _

theorem makesOnly_handleDeaths (slots : List SlotIndex) (table : Table) :
    (handleDeaths slots table).Makes fun _ call => MakesOnly stale call := by
  induction slots generalizing table with
  | nil => exact Program.makes_pure _
  | cons slot slots induction =>
      rw [handleDeaths]
      cases table.entries slot with
      | none => exact induction table
      | some entry =>
          apply Program.makes_bind ((Program.makes_request _).mpr trivial)
          intro readable
          cases readable with
          | true =>
              apply Program.makes_bind (makesOnly_unregisterRateLimiterByPid entry.pid table)
              exact fun _ => induction _
          | false => exact induction table

theorem makesOnly_closePidfds (table : Table) (slots : List SlotIndex) :
    (closePidfds table slots).Makes fun _ call => MakesOnly stale call := by
  induction slots with
  | nil => exact Program.makes_pure _
  | cons slot slots induction =>
      rw [closePidfds]
      cases table.entries slot with
      | none => exact induction
      | some entry => exact Program.makes_bind (makesOnly_close _) fun _ => induction

theorem makesOnly_serveClient (within : ∀ pid, stale pid = true → table.IsWatched pid)
    (command : Command) (pid : Int32) :
    (serveClient command pid table).Makes fun _ call => MakesOnly stale call := by
  rw [serveClient, Program.makes_inside]
  apply Program.makes_bind (makesOnly_runCommand within command pid)
  intro handled
  apply Program.makes_bind (makesOnly_handleDeaths _ handled.2)
  intro left
  split
  · apply Program.makes_bind (makesOnly_closePidfds left _)
    exact fun _ => Program.makes_pure _
  · exact Program.makes_pure _

theorem makesOnly_idleTurn (table : Table) :
    (idleTurn table).Makes fun _ call => MakesOnly stale call := by
  rw [idleTurn, Program.makes_inside]
  apply Program.makes_bind (makesOnly_handleDeaths _ table)
  intro left
  split
  · apply Program.makes_bind (makesOnly_closePidfds left _)
    exact fun _ => Program.makes_pure _
  · exact Program.makes_pure _

end Daemon

/-! ## Programs of a client -/

namespace Computer

def kernelComponent : Program.Component Computer Kernel where
  get := fun computer => computer.world.kernel
  set := fun kernel computer => { computer with world := { computer.world with kernel := kernel } }
  set_get := fun _ => rfl
  get_set := fun _ _ => rfl
  set_set := fun _ _ _ => rfl

section Execute

variable (computer : Computer)

@[simp] theorem execute_pure (value : α) :
    execute (pure value) computer = (value, computer) := rfl

@[simp] theorem execute_bind (program : ClientProgram α) (next : α → ClientProgram β) :
    execute (program >>= next) computer =
      execute (next (execute program computer).1) (execute program computer).2 :=
  Program.run_bind _ _ _ _

@[simp] theorem execute_request (call : ClientCall Reply) :
    execute (.request call) computer = computer.exec call := rfl

@[simp] theorem execute_inside (frame : Frame) (program : ClientProgram α) :
    execute (program.inside frame) computer = execute program computer :=
  Program.run_inside _ _ _ _

@[simp] theorem execute_ite (condition : Prop) [Decidable condition]
    (first second : ClientProgram α) :
    execute (if condition then first else second) computer =
      if condition then execute first computer else execute second computer :=
  Program.run_ite _ _ _ _ _

@[simp] theorem execute_inClient (program : KernelProgram α) :
    execute (inClient program) computer =
      let ran := Kernel.execute .client .none program computer.world.kernel
      (ran.1, { computer with world := { computer.world with kernel := ran.2 } }) :=
  Program.run_embed ClientCall.kernel (Kernel.environment .client .none) environment
    kernelComponent (fun _ _ _ => rfl) program computer

theorem execute_monitorConnect :
    execute monitorConnect computer = (computer.world.daemon.isSome, computer) := rfl

variable {computer}

theorem execute_sendCommand
    (within : ∀ pid, computer.stale pid = true → computer.world.table.IsWatched pid)
    (command : Command) (pid : Int32) :
    let served := Daemon.execute computer.stale
      (Daemon.serveClient command pid computer.world.table) computer.world.kernel
    execute (sendCommand command pid) computer =
      (served.1.1,
        computer.withWorld { kernel := served.2, daemon := served.1.2, message := none }) := by
  rcases computer with ⟨⟨kernel, daemon, message⟩, stale⟩
  cases daemon with
  | some table => rfl
  | none =>
      have none : stale = fun _ => false := by
        funext pid
        exact Bool.eq_false_iff.mpr fun isStale =>
          WatchTable.not_isWatched_empty pid (within pid isStale)
      subst none
      rfl

theorem execute_monitorStop {table : Daemon.Table}
    (present : computer.world.daemon = some table) :
    let served := Daemon.execute computer.stale (Daemon.serveClient .stop 0 table)
      computer.world.kernel
    (execute monitorStop computer).2 =
      computer.withWorld { kernel := served.2, daemon := served.1.2, message := none } := by
  rcases computer with ⟨⟨kernel, daemon, message⟩, stale⟩
  cases present
  rfl

theorem execute_limitProcessBandwidth (pid : Int32) (config : RateLimitConfig) :
    let installed := Kernel.execute .client .none (installLimit pid config)
      computer.world.kernel
    let next := { computer with world := { computer.world with kernel := installed.2 } }
    execute (limitProcessBandwidth pid config) computer =
      if installed.1 = .ok then (.ok, (execute (monitorWatchPid pid) next).2)
      else (installed.1, next) := by
  simp only [limitProcessBandwidth, execute_bind, execute_inClient]
  generalize Kernel.execute .client .none (installLimit pid config) computer.world.kernel =
    installed
  by_cases ok : installed.1 = .ok
  · simp only [ok, ne_eq, not_true, if_false, if_true, execute_bind, execute_pure]
  · simp only [ok, ne_eq, not_false_eq_true, if_true, if_false, execute_pure]

end Execute

/-! ## While every pid has named one process only -/

def ofWorld (world : World) : Computer where
  world := world
  stale := fun _ => false

theorem execute_daemon_ofWorld (program : KernelProgram α) (kernel : Kernel) :
    Daemon.execute (fun _ => false) program kernel =
      Kernel.execute .monitor .none program kernel := by
  have simulates : Program.Simulates (Daemon.environment fun _ => false)
      (Kernel.environment .monitor .none) Eq := by
    constructor
    intro Reply site call kernel other same
    subst same
    cases call <;> exact ⟨rfl, rfl⟩
  have ran := simulates.run program (Eq.refl kernel)
  exact Prod.ext ran.1 ran.2

theorem serve_ofWorld (world : World) :
    (ofWorld world).serve = ((world.serve .none).1, ofWorld (world.serve .none).2) := by
  rcases world with ⟨kernel, daemon, message⟩
  cases daemon with
  | none => rfl
  | some table =>
      cases message with
      | none => rfl
      | some message =>
          rw [serve, ofWorld]
          simp only [execute_daemon_ofWorld]
          rfl

theorem wakes_ofWorld (world : World) :
    (ofWorld world).wakes = ofWorld (world.idleTurn .none) := by
  rcases world with ⟨kernel, daemon, message⟩
  cases daemon with
  | none => rfl
  | some table =>
      rw [wakes, ofWorld]
      simp only [execute_daemon_ofWorld]
      rfl

/-- The computer is the world of one client and one daemon. -/
theorem execute_ofWorld (program : ClientProgram α) (world : World) :
    execute program (ofWorld world) =
      ((World.execute .none program world).1,
        ofWorld (World.execute .none program world).2) := by
  have simulates : Program.Simulates environment (World.environment .none)
      fun computer world => computer = ofWorld world := by
    constructor
    intro Reply site call computer world same
    subst same
    cases call with
    | read =>
        have served := serve_ofWorld world
        exact ⟨congrArg Prod.fst served, congrArg Prod.snd served⟩
    | _ => exact ⟨rfl, rfl⟩
  have ran := simulates.run program (Eq.refl (ofWorld world))
  exact Prod.ext ran.1 ran.2

end Computer

end Pidnl.Monitor
