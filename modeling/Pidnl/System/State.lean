import Pidnl.System.Calls
import Mathlib.Data.List.AList

/-! # The kernel's side

Cgroups, BPF objects, links and their pins, and what every call does to them. A
link lives while a pin or a descriptor holds it; a program is attached while its
link lives and has been neither detached nor orphaned by its cgroup's removal.
-/

namespace Pidnl.System

open Pidnl.Foundation
open Pidnl.Bpf (RateLimits RateState RateLimitState ArrayMap)

structure Link where
  cgroup : Option CgroupId
  attachType : AttachType
  object : ObjectId
  /-- Pins and descriptors that hold the link. -/
  refs : Nat
deriving DecidableEq, Repr

structure Object where
  rateLimits : RateLimits
  rateState : RateState

def Object.fresh : Object where
  rateLimits := ⟨#v[0, 0]⟩
  rateState := ⟨#v[.zero, .zero]⟩

inductive Target
  | cgroup (id : CgroupId)
  | link (id : LinkId)
  | program (object : ObjectId) (attachType : AttachType)
  | map (object : ObjectId) (kind : MapKind)
  | pidfd (pid : Int32)
deriving DecidableEq, Repr

inductive Process
  | client
  | monitor
  /-- The helper of the graphical interface, a client beside the command line. -/
  | helper
deriving DecidableEq, Repr

structure Descriptor where
  owner : Process
  target : Target
deriving DecidableEq, Repr

structure Kernel where
  cgroup2Mount : Path
  bpffsMount : Path
  /-- The cgroups below the cgroup2 mount, by their names. -/
  cgroups : AList fun _ : Path => CgroupId
  links : LinkId → Link
  /-- The links pinned in the bpffs. -/
  pins : AList fun _ : Path => LinkId
  /-- The directories made in the bpffs. -/
  directories : Path → Bool
  objects : ObjectId → Object
  descriptors : Fd → Option Descriptor
  /-- Whether a process runs under a pid. -/
  running : Int32 → Bool
  /-- Every number from here on is unused, as descriptor or as any other id. -/
  nextId : Nat

/-! ## Entries that are erased -/

section Erase

variable {Key Value : Type} [DecidableEq Key] (entries : AList fun _ : Key => Value)

theorem lookup_erase (erased key : Key) :
    (entries.erase erased).lookup key = if key = erased then none else entries.lookup key := by
  by_cases same : key = erased
  · rw [if_pos same, same, AList.lookup_erase]
  · rw [if_neg same, AList.lookup_erase_ne same]

theorem erase_of_lookup_eq_none {key : Key} (absent : entries.lookup key = none) :
    entries.erase key = entries := by
  apply AList.ext
  exact List.kerase_of_notMem_keys (AList.lookup_eq_none.mp absent)

end Erase

namespace Kernel

def empty (cgroup2Mount bpffsMount : Path) (running : Int32 → Bool) : Kernel where
  cgroup2Mount := cgroup2Mount
  bpffsMount := bpffsMount
  cgroups := ∅
  links := fun _ => { cgroup := none, attachType := .egress, object := 0, refs := 0 }
  pins := ∅
  directories := fun _ => false
  objects := fun _ => .fresh
  descriptors := fun _ => none
  running := running
  nextId := 0

/-! ## Descriptors -/

def openDescriptor (kernel : Kernel) (owner : Process) (target : Target) : Kernel :=
  { kernel with
    descriptors := Function.update kernel.descriptors kernel.nextId
      (some { owner := owner, target := target })
    nextId := kernel.nextId + 1 }

def target? (kernel : Kernel) (fd : Fd) : Option Target :=
  (kernel.descriptors fd).map Descriptor.target

def holdLink (kernel : Kernel) (id : LinkId) : Kernel :=
  { kernel with
    links := Function.update kernel.links id
      { kernel.links id with refs := (kernel.links id).refs + 1 } }

def releaseLink (kernel : Kernel) (id : LinkId) : Kernel :=
  { kernel with
    links := Function.update kernel.links id
      { kernel.links id with refs := (kernel.links id).refs - 1 } }

def closeDescriptor (kernel : Kernel) (fd : Fd) : Kernel :=
  let released := match kernel.target? fd with
    | some (.link id) => kernel.releaseLink id
    | _ => kernel
  { released with descriptors := Function.update released.descriptors fd none }

/-! ## Cgroups -/

def ensureCgroup (kernel : Kernel) (name : Path) : Kernel :=
  match kernel.cgroups.lookup name with
  | some _ => kernel
  | none =>
      { kernel with
        cgroups := kernel.cgroups.insert name kernel.nextId
        nextId := kernel.nextId + 1 }

/-- Missing parents are made too. -/
def createCgroup (kernel : Kernel) (name : Path) : Kernel :=
  (name.inits.tail).foldl ensureCgroup kernel

def hasChildren (kernel : Kernel) (name : Path) : Bool :=
  kernel.cgroups.keys.any fun other => name.isPrefixOf other && other ≠ name

/-- Removing a cgroup detaches every program attached to it. -/
def removeCgroup (kernel : Kernel) (name : Path) : Kernel :=
  match kernel.cgroups.lookup name with
  | none => kernel
  | some id =>
      { kernel with
        cgroups := kernel.cgroups.erase name
        links := fun link =>
          if (kernel.links link).cgroup = some id then
            { kernel.links link with cgroup := none }
          else
            kernel.links link }

/-- The directories below a cgroup, itself included under its empty name. -/
def walk (kernel : Kernel) (name : Path) : List FileInfo :=
  (kernel.cgroups.keys.filter fun other => name.isPrefixOf other).map fun other =>
    { isDir := true, path := (other.drop name.length).getLast?.getD [] }

/-! ## Links and programs -/

def detachLink (kernel : Kernel) (id : LinkId) : Kernel :=
  { kernel with
    links := Function.update kernel.links id
      { kernel.links id with cgroup := none } }

def unpin (kernel : Kernel) (path : Path) : Kernel :=
  match kernel.pins.lookup path with
  | none => kernel
  | some id => { kernel.releaseLink id with pins := kernel.pins.erase path }

def IsAttached (kernel : Kernel) (cgroup : CgroupId) (attachType : AttachType)
    (id : LinkId) : Prop :=
  0 < (kernel.links id).refs ∧ (kernel.links id).cgroup = some cgroup ∧
    (kernel.links id).attachType = attachType

instance (kernel : Kernel) (cgroup : CgroupId) (attachType : AttachType)
    (id : LinkId) : Decidable (kernel.IsAttached cgroup attachType id) :=
  inferInstanceAs (Decidable (_ ∧ _ ∧ _))

/-- The links whose programs run at a cgroup's hook, in the order of their ids. -/
def attached (kernel : Kernel) (cgroup : CgroupId) (attachType : AttachType) :
    List LinkId :=
  (List.range kernel.nextId).filter fun id =>
    kernel.IsAttached cgroup attachType id

def attachProgram (kernel : Kernel) (owner : Process) (object : ObjectId)
    (attachType : AttachType) (cgroup : CgroupId) : Kernel :=
  let linked := { kernel with
    links := Function.update kernel.links kernel.nextId
      { cgroup := some cgroup, attachType := attachType, object := object, refs := 1 }
    nextId := kernel.nextId + 1 }
  linked.openDescriptor owner (.link kernel.nextId)

def pinLink (kernel : Kernel) (id : LinkId) (path : Path) : Kernel :=
  { kernel.holdLink id with pins := kernel.pins.insert path id }

def updateLimit (kernel : Kernel) (object : ObjectId) (key value : UInt32) :
    Kernel :=
  { kernel with
    objects := Function.update kernel.objects object
      { kernel.objects object with
        rateLimits := (kernel.objects object).rateLimits.updateElem key value } }

/-- `ratelimit_bpf__load`: new maps, and descriptors for maps and programs. -/
def loadSkeleton (kernel : Kernel) (owner : Process) : Skeleton × Kernel :=
  let object := kernel.nextId
  let loaded := { kernel with
    objects := Function.update kernel.objects object .fresh
    nextId := object + 1 }
  let opened := [Target.map object .rateLimits, .map object .rateState,
    .program object .egress, .program object .ingress].foldl
      (fun state target => state.openDescriptor owner target) loaded
  ({ object := object, rateLimitsFd := object + 1,
     otherFds := [object + 2, object + 3, object + 4] }, opened)

/-! ## The calls -/

/-- What a call replies and does; `fails` makes it fail for reasons of its own. -/
def exec (owner : Process) (fails : Bool) (kernel : Kernel) :
    KernelCall Reply → Reply × Kernel
  | .cgroupNewCgroup _ => (!fails, kernel)
  | .cgroupCreateCgroup name =>
      if fails then (.failed, kernel)
      else if (kernel.cgroups.lookup name).isSome then (.eexist, kernel)
      else (.created, kernel.createCgroup name)
  | .cgroupGetCgroup name =>
      (!fails && (kernel.cgroups.lookup name).isSome, kernel)
  | .cgroupAttachTaskPid name pid =>
      (!fails && (kernel.cgroups.lookup name).isSome && kernel.running pid, kernel)
  | .cgroupDeleteCgroup name =>
      if fails || kernel.hasChildren name then (false, kernel)
      else (true, kernel.removeCgroup name)
  | .cgroupWalkTree name => (if fails then [] else kernel.walk name, kernel)
  | .getCgroup2Mount =>
      (if fails then none else some kernel.cgroup2Mount, kernel)
  | .getBpffsMount => (if fails then none else some kernel.bpffsMount, kernel)
  | .calloc => (!fails, kernel)
  | .openReadOnly path =>
      let name := path.drop kernel.cgroup2Mount.length
      if fails || !kernel.cgroup2Mount.isPrefixOf path then (none, kernel)
      else match kernel.cgroups.lookup name with
        | none => (none, kernel)
        | some id => (some kernel.nextId, kernel.openDescriptor owner (.cgroup id))
  | .close fd => ((), kernel.closeDescriptor fd)
  | .mkdir path =>
      if fails then (.failed, kernel)
      else if kernel.directories path then (.eexist, kernel)
      else if path.dropLast ≠ kernel.bpffsMount ∧
          !kernel.directories path.dropLast then (.failed, kernel)
      else (.created,
        { kernel with directories := Function.update kernel.directories path true })
  | .rmdir path =>
      if fails || kernel.pins.keys.any fun pin => pin.dropLast = path then
        ((), kernel)
      else ((),
        { kernel with directories := Function.update kernel.directories path false })
  | .unlink path => ((), if fails then kernel else kernel.unpin path)
  | .bpfObjGet path =>
      match if fails then none else kernel.pins.lookup path with
      | none => (none, kernel)
      | some id =>
          (some kernel.nextId,
            (kernel.holdLink id).openDescriptor owner (.link id))
  | .bpfLinkDetach fd =>
      match if fails then none else kernel.target? fd with
      | some (.link id) => ((), kernel.detachLink id)
      | _ => ((), kernel)
  | .ratelimitBpfOpen => (!fails, kernel)
  | .ratelimitBpfLoad =>
      if fails then (none, kernel)
      else
        let loaded := kernel.loadSkeleton owner
        (some loaded.1, loaded.2)
  | .ratelimitBpfDestroy none => ((), kernel)
  | .ratelimitBpfDestroy (some skel) =>
      ((), (skel.rateLimitsFd :: skel.otherFds).foldl closeDescriptor kernel)
  | .bpfMapUpdateElem mapFd key value =>
      match if fails then none else kernel.target? mapFd with
      | some (.map object .rateLimits) => (true, kernel.updateLimit object key value)
      | _ => (false, kernel)
  | .bpfProgramAttachCgroup skel attachType cgroupFd =>
      match if fails then none else kernel.target? cgroupFd with
      | some (.cgroup id) =>
          if kernel.cgroups.entries.any fun entry => entry.2 = id then
            (some (kernel.nextId + 1),
              kernel.attachProgram owner skel.object attachType id)
          else (none, kernel)
      | _ => (none, kernel)
  | .bpfLinkPin link path =>
      match if fails then none else kernel.target? link with
      | some (.link id) =>
          if (kernel.pins.lookup path).isNone && kernel.directories path.dropLast
          then (true, kernel.pinLink id path)
          else (false, kernel)
      | _ => (false, kernel)
  | .bpfLinkDestroy link => ((), kernel.closeDescriptor link)
  | .bpfProgQueryOpts cgroupFd attachType =>
      match if fails then none else kernel.target? cgroupFd with
      | some (.cgroup id) =>
          match kernel.attached id attachType with
          | [] => (some none, kernel)
          | [link] => (some (some ((kernel.links link).object, attachType)), kernel)
          /- More programs than the one slot passed in: `ENOSPC`. -/
          | _ => (none, kernel)
      | _ => (none, kernel)
  | .bpfProgGetFdById prog =>
      if fails then (none, kernel)
      else (some kernel.nextId,
        kernel.openDescriptor owner (.program prog.1 prog.2))
  | .bpfProgGetInfoByFd progFd =>
      match if fails then none else kernel.target? progFd with
      | some (.program object attachType) =>
          (some { name := attachType.progName
                  mapIds := [(object, .rateLimits), (object, .rateState)] }, kernel)
      | _ => (none, kernel)
  | .bpfMapGetFdById map =>
      if fails then (none, kernel)
      else (some kernel.nextId, kernel.openDescriptor owner (.map map.1 map.2))
  | .bpfMapGetInfoByFd mapFd =>
      match if fails then none else kernel.target? mapFd with
      | some (.map _ kind) => (some kind.name, kernel)
      | _ => (none, kernel)
  | .bpfMapLookupElem mapFd key =>
      match if fails then none else kernel.target? mapFd with
      | some (.map object .rateLimits) =>
          ((kernel.objects object).rateLimits.lookupElem key, kernel)
      | _ => (none, kernel)
  | .pidfdOpen pid =>
      if fails || !kernel.running pid then (none, kernel)
      else (some kernel.nextId, kernel.openDescriptor owner (.pidfd pid))
  | .pidfdReadable pid => (!kernel.running pid, kernel)

def environment (owner : Process) (faults : Faults) :
    Environment Frame KernelCall Kernel :=
  fun site call kernel =>
    exec owner (faults site call.function) kernel call

def execute (owner : Process) (faults : Faults) (program : KernelProgram α)
    (kernel : Kernel) : α × Kernel :=
  program.run (environment owner faults) kernel

/-! ## What removing leaves -/

/-- A cgroup that is removed takes its name along, and the attachments to it. -/
theorem removeCgroup_eq (kernel : Kernel) (name : Path) :
    kernel.removeCgroup name =
      { kernel with
        cgroups := kernel.cgroups.erase name
        links := fun id =>
          if (kernel.links id).cgroup.isSome ∧
              kernel.cgroups.lookup name = (kernel.links id).cgroup then
            { kernel.links id with cgroup := none }
          else kernel.links id } := by
  rw [removeCgroup]
  cases found : kernel.cgroups.lookup name with
  | none =>
      have links : ∀ id, ¬((kernel.links id).cgroup.isSome ∧
          none = (kernel.links id).cgroup) := by
        intro id attached
        rw [← attached.2] at attached
        exact absurd attached.1 nofun
      simp only [erase_of_lookup_eq_none _ found, links, if_false]
  | some cgroup =>
      dsimp only
      congr 1
      funext id
      cases (kernel.links id).cgroup <;> simp [eq_comm]

/-- A pin that is removed lets go of its link. -/
theorem unpin_eq (kernel : Kernel) (path : Path) :
    kernel.unpin path =
      { kernel with
        pins := kernel.pins.erase path
        links := fun id =>
          if kernel.pins.lookup path = some id then
            { kernel.links id with refs := (kernel.links id).refs - 1 }
          else kernel.links id } := by
  rw [unpin]
  cases found : kernel.pins.lookup path with
  | none => simp only [erase_of_lookup_eq_none _ found, reduceCtorEq, if_false]
  | some released =>
      dsimp only [releaseLink]
      congr 1
      funext id
      by_cases same : id = released
      · rw [same, Function.update_self, if_pos rfl]
      · rw [Function.update_of_ne same, if_neg fun equal => same (Option.some.inj equal).symm]

/-- Nothing changes but cgroups, pins and links. -/
structure Frames (before after : Kernel) : Prop where
  cgroup2Mount : after.cgroup2Mount = before.cgroup2Mount
  bpffsMount : after.bpffsMount = before.bpffsMount
  running : after.running = before.running
  objects : after.objects = before.objects
  descriptors : after.descriptors = before.descriptors
  nextId : after.nextId = before.nextId

theorem frames_removeCgroup (kernel : Kernel) (name : Path) :
    Frames kernel (kernel.removeCgroup name) := by
  rw [removeCgroup_eq]
  exact ⟨rfl, rfl, rfl, rfl, rfl, rfl⟩

theorem frames_unpin (kernel : Kernel) (path : Path) : Frames kernel (kernel.unpin path) := by
  rw [unpin_eq]
  exact ⟨rfl, rfl, rfl, rfl, rfl, rfl⟩

section Execute

variable (owner : Process) (faults : Faults) (kernel : Kernel)

@[simp] theorem execute_pure (value : α) :
    execute owner faults (pure value) kernel = (value, kernel) := rfl

@[simp] theorem execute_bind (program : KernelProgram α)
    (next : α → KernelProgram β) :
    execute owner faults (program >>= next) kernel =
      execute owner faults (next (execute owner faults program kernel).1)
        (execute owner faults program kernel).2 :=
  Program.run_bind _ _ _ _

@[simp] theorem execute_request (call : KernelCall Reply) :
    execute owner faults (.request call) kernel =
      exec owner (faults.here call.function) kernel call := rfl

@[simp] theorem execute_inside (frame : Frame) (program : KernelProgram α) :
    execute owner faults (program.inside frame) kernel =
      execute owner (faults.inside frame) program kernel :=
  Program.run_inside _ _ _ _

@[simp] theorem execute_ite (condition : Prop) [Decidable condition]
    (first second : KernelProgram α) :
    execute owner faults (if condition then first else second) kernel =
      if condition then execute owner faults first kernel
      else execute owner faults second kernel :=
  Program.run_ite _ _ _ _ _

end Execute

end Kernel

end Pidnl.System
