import Pidnl.Monitor.Functions

/-! # A client, the kernel and the daemon

One client acts at a time. The daemon that a connect reaches answers its command
with one turn of the event loop.
-/

namespace Pidnl.Monitor

open Pidnl.Foundation Pidnl.System Pidnl.Ratelimit

structure World where
  kernel : Kernel
  /-- The daemon that listens at `MONITOR_SOCKET_PATH`, by its table. -/
  daemon : Option Daemon.Table
  /-- A command that has been written and not been read. -/
  message : Option (Command × Int32)

namespace World

def fresh (cgroup2Mount bpffsMount : Path) (running : Int32 → Bool) : World where
  kernel := .empty cgroup2Mount bpffsMount running
  daemon := none
  message := none

/-- The forked daemon runs up to its event loop. It unlinks the socket path
first, so that an older daemon is no longer reached. -/
def startDaemon (faults : Faults) (world : World) : World :=
  if faults.here .startDaemon then world
  else if faults.here .bindSocket then { world with daemon := none }
  else { world with daemon := some .empty }

/-- The daemon's turn. Without an accepted connection from root and a whole
command, nothing is handled. -/
def serve (faults : Faults) (world : World) : Option MonitorCode × World :=
  match world.daemon, world.message with
  | some table, some (command, pid) =>
      if faults.here .accept || faults.here .peerCredentials ||
          faults.here .readCommand then
        (none, { world with message := none })
      else
        let served := Kernel.execute .monitor faults
          (Daemon.serveClient command pid table) world.kernel
        (if faults.here .writeResult then none else some served.1.1,
          { kernel := served.2, daemon := served.1.2, message := none })
  | _, _ => (none, world)

def idleTurn (faults : Faults) (world : World) : World :=
  match world.daemon with
  | none => world
  | some table =>
      let turned := Kernel.execute .monitor faults (Daemon.idleTurn table) world.kernel
      { world with kernel := turned.2, daemon := turned.1 }

def exec (faults : Faults) (world : World) : ClientCall Reply → Reply × World
  | .kernel call =>
      let step := Kernel.exec .client (faults.here call.function) world.kernel call
      (step.1, { world with kernel := step.2 })
  | .socket => (!faults.here .socket, world)
  | .connect => (!faults.here .connect && world.daemon.isSome, world)
  | .pipe => (!faults.here .pipe, world)
  | .fork =>
      if faults.here .fork then (false, world) else (true, startDaemon faults world)
  /- `poll` also returns when the daemon has ended and the pipe is closed. -/
  | .poll => (!faults.here .poll, world)
  | .write command pid =>
      if faults.here .write then (false, world)
      else (true, { world with message := some (command, pid) })
  | .read =>
      let served := serve faults world
      (if faults.here .read then none else served.1, served.2)

def environment (faults : Faults) : Environment Frame ClientCall World :=
  fun site call world => exec (faults.beneath site) world call

def execute (faults : Faults) (program : ClientProgram α) (world : World) :
    α × World :=
  program.run (environment faults) world

def kernelComponent : Program.Component World Kernel where
  get := World.kernel
  set := fun kernel world => { world with kernel := kernel }
  set_get := fun _ => rfl
  get_set := fun _ _ => rfl
  set_set := fun _ _ _ => rfl

section Execute

variable (faults : Faults) (world : World)

@[simp] theorem execute_pure (value : α) :
    execute faults (pure value) world = (value, world) := rfl

@[simp] theorem execute_bind (program : ClientProgram α)
    (next : α → ClientProgram β) :
    execute faults (program >>= next) world =
      execute faults (next (execute faults program world).1)
        (execute faults program world).2 :=
  Program.run_bind _ _ _ _

@[simp] theorem execute_request (call : ClientCall Reply) :
    execute faults (.request call) world = exec faults world call := rfl

@[simp] theorem execute_inside (frame : Frame) (program : ClientProgram α) :
    execute faults (program.inside frame) world =
      execute (faults.inside frame) program world :=
  Program.run_inside _ _ _ _

@[simp] theorem execute_ite (condition : Prop) [Decidable condition]
    (first second : ClientProgram α) :
    execute faults (if condition then first else second) world =
      if condition then execute faults first world
      else execute faults second world :=
  Program.run_ite _ _ _ _ _

/-- The functions of `ratelimit.c` act on the kernel alone. -/
@[simp] theorem execute_inClient (program : KernelProgram α) :
    execute faults (inClient program) world =
      ((Kernel.execute .client faults program world.kernel).1,
        { world with
          kernel := (Kernel.execute .client faults program world.kernel).2 }) := by
  refine Program.run_embed ClientCall.kernel (Kernel.environment .client faults)
    (environment faults) kernelComponent ?_ program world
  intro _ site call world
  simp [environment, exec, Kernel.environment, Faults.beneath, Faults.here,
    kernelComponent]

end Execute

end World

end Pidnl.Monitor
