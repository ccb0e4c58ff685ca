import Pidnl.Ratelimit.Functions

/-! # `ratelimit_init` and the texts of the codes

What both front ends of the library call before anything else, and what they print for
its codes.
-/

namespace Pidnl.Ratelimit

open Pidnl.Foundation Pidnl.System

inductive StartupCall : Type → Type
  | cgroupInit : StartupCall Bool
  | getCgroup2Mount : StartupCall (Option Path)

def ratelimitInit : Program Frame StartupCall RatelimitCode := do
  if !(← Program.request .cgroupInit) then
    return .libcgInit
  match ← Program.request .getCgroup2Mount with
  | none => return .noCgroup2
  | some _ => return .ok

def ratelimitCodeString : RatelimitCode → Bytes
  | .ok => ascii "Success"
  | .invalidPid => ascii "Invalid PID"
  | .alloc => ascii "Memory allocation failed"
  | .openCgroup => ascii "Failed to open cgroup"
  | .bpfOpen => ascii "Failed to open BPF object"
  | .bpfLoad => ascii "Failed to load BPF program"
  | .bpfLink => ascii "Failed to create BPF link"
  | .bpfPin => ascii "Failed to pin BPF link"
  | .cgroupNotFound => ascii "No rate limit set for PID"
  | .libcgInit => ascii "Failed to initialize libcgroup"
  | .libcgCreate => ascii "Failed to create cgroup"
  | .libcgAttach => ascii "Failed to attach process to cgroup"
  | .libcgDelete => ascii "Failed to delete cgroup"
  | .noCgroup2 => ascii "cgroup v2 is required but not available"
  | .noBpffs => ascii "bpffs is required but not available"

end Pidnl.Ratelimit
