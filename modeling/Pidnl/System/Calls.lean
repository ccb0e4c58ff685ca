import Pidnl.Foundation.Program
import Pidnl.Foundation.Decimal
import Pidnl.Bpf.ApplyRateLimit

/-! # Calls into the kernel and the libraries over it

The calls `ratelimit.c` makes to libcgroup, libbpf, the bpffs and the allocator,
with what each of them replies.
-/

namespace Pidnl.System

open Pidnl.Foundation
open Pidnl.Bpf (Direction)

/-- A path, split at its slashes. -/
abbrev Path := List Bytes

abbrev CgroupId := Nat
abbrev LinkId := Nat
abbrev ObjectId := Nat
abbrev Fd := Nat

/-- `BPF_CGROUP_INET_EGRESS` and `BPF_CGROUP_INET_INGRESS`. -/
inductive AttachType
  | egress
  | ingress
deriving DecidableEq, Repr

namespace AttachType

def direction : AttachType → Direction
  | .egress => .upload
  | .ingress => .download

/-- `EGRESS_PROG_NAME`, `INGRESS_PROG_NAME`. -/
def progName : AttachType → Bytes
  | .egress => ascii "egress_rl"
  | .ingress => ascii "ingress_rl"

/-- `EGRESS_PIN_NAME`, `INGRESS_PIN_NAME`. -/
def pinName : AttachType → Bytes
  | .egress => ascii "egress"
  | .ingress => ascii "ingress"

theorem pinName_injective : Function.Injective pinName := by
  intro left right equal
  cases left <;> cases right <;> first | rfl | exact absurd equal (by decide)

theorem direction_injective : Function.Injective direction := by
  intro left right equal
  cases left <;> cases right <;> first | rfl | exact absurd equal (by decide)

end AttachType

/-- The two maps of the BPF object. -/
inductive MapKind
  | rateLimits
  | rateState
deriving DecidableEq, Repr

def MapKind.name : MapKind → Bytes
  | .rateLimits => ascii "rate_limits"
  | .rateState => ascii "rate_state"

/-- A loaded skeleton: the object and the descriptors libbpf holds for it. -/
structure Skeleton where
  object : ObjectId
  rateLimitsFd : Fd
  otherFds : List Fd
deriving DecidableEq, Repr

structure ProgInfo where
  name : Bytes
  mapIds : List (ObjectId × MapKind)
deriving DecidableEq, Repr

/-- One entry of `cgroup_walk_tree_begin` and `_next`. -/
structure FileInfo where
  isDir : Bool
  path : Bytes
deriving DecidableEq, Repr

inductive CreateReply
  | created
  | eexist
  | failed
deriving DecidableEq, Repr

/-- The calls, by the type of their reply. `Bool` replies tell success; `none`
stands for a negative descriptor, a null pointer or an error code. -/
inductive KernelCall : Type → Type
  | cgroupNewCgroup (name : Path) : KernelCall Bool
  | cgroupCreateCgroup (name : Path) : KernelCall CreateReply
  | cgroupGetCgroup (name : Path) : KernelCall Bool
  | cgroupAttachTaskPid (name : Path) (pid : Int32) : KernelCall Bool
  | cgroupDeleteCgroup (name : Path) : KernelCall Bool
  | cgroupWalkTree (name : Path) : KernelCall (List FileInfo)
  | getCgroup2Mount : KernelCall (Option Path)
  | getBpffsMount : KernelCall (Option Path)
  | calloc : KernelCall Bool
  | openReadOnly (path : Path) : KernelCall (Option Fd)
  | close (fd : Fd) : KernelCall Unit
  | mkdir (path : Path) : KernelCall CreateReply
  | rmdir (path : Path) : KernelCall Unit
  | unlink (path : Path) : KernelCall Unit
  | bpfObjGet (path : Path) : KernelCall (Option Fd)
  | bpfLinkDetach (fd : Fd) : KernelCall Unit
  | ratelimitBpfOpen : KernelCall Bool
  | ratelimitBpfLoad : KernelCall (Option Skeleton)
  | ratelimitBpfDestroy (skel : Option Skeleton) : KernelCall Unit
  | bpfMapUpdateElem (mapFd : Fd) (key value : UInt32) : KernelCall Bool
  | bpfProgramAttachCgroup (skel : Skeleton) (attachType : AttachType)
      (cgroupFd : Fd) : KernelCall (Option Fd)
  | bpfLinkPin (link : Fd) (path : Path) : KernelCall Bool
  | bpfLinkDestroy (link : Fd) : KernelCall Unit
  /-- An error is `none`; otherwise the one program id that fits, if any. -/
  | bpfProgQueryOpts (cgroupFd : Fd) (attachType : AttachType) :
      KernelCall (Option (Option (ObjectId × AttachType)))
  | bpfProgGetFdById (prog : ObjectId × AttachType) : KernelCall (Option Fd)
  | bpfProgGetInfoByFd (progFd : Fd) : KernelCall (Option ProgInfo)
  | bpfMapGetFdById (map : ObjectId × MapKind) : KernelCall (Option Fd)
  | bpfMapGetInfoByFd (mapFd : Fd) : KernelCall (Option Bytes)
  | bpfMapLookupElem (mapFd : Fd) (key : UInt32) : KernelCall (Option UInt32)
  | pidfdOpen (pid : Int32) : KernelCall (Option Fd)
  /-- Whether `poll` reports the pidfd that was opened for a process. -/
  | pidfdReadable (pid : Int32) : KernelCall Bool

inductive ExternalFunction
  | cgroupNewCgroup
  | cgroupCreateCgroup
  | cgroupGetCgroup
  | cgroupAttachTaskPid
  | cgroupDeleteCgroup
  | cgroupWalkTree
  | getCgroup2Mount
  | getBpffsMount
  | calloc
  | openReadOnly
  | mkdir
  | rmdir
  | unlink
  | bpfObjGet
  | bpfLinkDetach
  | ratelimitBpfOpen
  | ratelimitBpfLoad
  | bpfMapUpdateElem
  | bpfProgramAttachCgroup
  | bpfLinkPin
  | bpfProgQueryOpts
  | bpfProgGetFdById
  | bpfProgGetInfoByFd
  | bpfMapGetFdById
  | bpfMapGetInfoByFd
  | bpfMapLookupElem
  | pidfdOpen
  | socket
  | connect
  | pipe
  | fork
  | poll
  | write
  | read
  /-- A daemon ends before it unlinks the socket path. -/
  | startDaemon
  /-- A daemon ends after it has unlinked the socket path. -/
  | bindSocket
  | accept
  | peerCredentials
  | readCommand
  | writeResult
  /-- Calls that have no way to fail. -/
  | total
deriving DecidableEq, Repr

@[reducible] def KernelCall.function : KernelCall Reply → ExternalFunction
  | .cgroupNewCgroup _ => .cgroupNewCgroup
  | .cgroupCreateCgroup _ => .cgroupCreateCgroup
  | .cgroupGetCgroup _ => .cgroupGetCgroup
  | .cgroupAttachTaskPid _ _ => .cgroupAttachTaskPid
  | .cgroupDeleteCgroup _ => .cgroupDeleteCgroup
  | .cgroupWalkTree _ => .cgroupWalkTree
  | .getCgroup2Mount => .getCgroup2Mount
  | .getBpffsMount => .getBpffsMount
  | .calloc => .calloc
  | .openReadOnly _ => .openReadOnly
  | .mkdir _ => .mkdir
  | .rmdir _ => .rmdir
  | .unlink _ => .unlink
  | .bpfObjGet _ => .bpfObjGet
  | .bpfLinkDetach _ => .bpfLinkDetach
  | .ratelimitBpfOpen => .ratelimitBpfOpen
  | .ratelimitBpfLoad => .ratelimitBpfLoad
  | .bpfMapUpdateElem _ _ _ => .bpfMapUpdateElem
  | .bpfProgramAttachCgroup _ _ _ => .bpfProgramAttachCgroup
  | .bpfLinkPin _ _ => .bpfLinkPin
  | .bpfProgQueryOpts _ _ => .bpfProgQueryOpts
  | .bpfProgGetFdById _ => .bpfProgGetFdById
  | .bpfProgGetInfoByFd _ => .bpfProgGetInfoByFd
  | .bpfMapGetFdById _ => .bpfMapGetFdById
  | .bpfMapGetInfoByFd _ => .bpfMapGetInfoByFd
  | .bpfMapLookupElem _ _ => .bpfMapLookupElem
  | .pidfdOpen _ => .pidfdOpen
  | .close _ | .bpfLinkDestroy _ | .ratelimitBpfDestroy _ | .pidfdReadable _ =>
      .total

/-- The C functions, and the turns of their loops, that calls are made from. -/
inductive Frame
  | createCgroup (name : Path)
  | openCgroupFd
  | createPinDir
  | makeBase
  | makePinDir
  | detachPinnedLinks
  | deleteCgroup
  | attachBpfPrograms
  | direction (attachType : AttachType)
  | deletePidCgroup (pid : Int32)
  | readLimitFromCgroupProgs (attachType : AttachType)
  | map (kind : MapKind)
  | monitorConnect
  | reconnect
  | monitorEnsureRunning
  | sendCommand
  | monitorStop
  | monitorRun
deriving DecidableEq

/-- Which calls of an operation fail: any choice, call site by call site. -/
abbrev Faults := List Frame → ExternalFunction → Bool

namespace Faults

def none : Faults := fun _ _ => false

def only (site : List Frame) (function : ExternalFunction) : Faults :=
  fun otherSite other => otherSite = site ∧ other = function

def inside (faults : Faults) (frame : Frame) : Faults :=
  fun site => faults (frame :: site)

def beneath (faults : Faults) (frames : List Frame) : Faults :=
  fun site => faults (frames ++ site)

/-- Whether calls of a function made directly from here fail. -/
def here (faults : Faults) (function : ExternalFunction) : Bool :=
  faults [] function

@[simp] theorem none_inside (frame : Frame) : none.inside frame = none := rfl

@[simp] theorem none_here (function : ExternalFunction) :
    none.here function = false := rfl

end Faults

abbrev KernelProgram (Value : Type) :=
  Program Frame KernelCall Value

end Pidnl.System
