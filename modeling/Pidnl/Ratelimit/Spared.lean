import Pidnl.Ratelimit.Bpffs

/-! # What is spared of a pid

What processes do to the kernel that have nothing to do with a pid: its cgroup and its
pins stay as they are, and no cgroup is made below it.
-/

namespace Pidnl.Ratelimit

open Pidnl.Foundation Pidnl.System

variable {kernel before after first second third : Kernel} {pid : Int32}

/-! ## Calls that leave every name as it is -/

structure Unmoved (before after : Kernel) : Prop where
  cgroup2Mount : after.cgroup2Mount = before.cgroup2Mount
  bpffsMount : after.bpffsMount = before.bpffsMount
  cgroups : after.cgroups = before.cgroups
  pins : after.pins = before.pins

theorem Unmoved.refl (kernel : Kernel) : Unmoved kernel kernel := ⟨rfl, rfl, rfl, rfl⟩

/-- The calls that make or remove a cgroup or a pin are the others. -/
def LeavesNames : KernelCall Reply → Prop
  | .cgroupCreateCgroup _ | .cgroupDeleteCgroup _ | .unlink _ | .bpfLinkPin _ _ => False
  | _ => True

theorem unmoved_closeDescriptor (kernel : Kernel) (fd : Fd) :
    Unmoved kernel (kernel.closeDescriptor fd) := by
  rw [Kernel.closeDescriptor]
  split
  · exact ⟨rfl, rfl, rfl, rfl⟩
  · exact ⟨rfl, rfl, rfl, rfl⟩

theorem unmoved_closeDescriptors (kernel : Kernel) (fds : List Fd) :
    Unmoved kernel (fds.foldl Kernel.closeDescriptor kernel) := by
  induction fds generalizing kernel with
  | nil => exact .refl kernel
  | cons fd fds induction =>
      have head := unmoved_closeDescriptor kernel fd
      have tail := induction (kernel.closeDescriptor fd)
      exact ⟨tail.cgroup2Mount.trans head.cgroup2Mount, tail.bpffsMount.trans head.bpffsMount,
        tail.cgroups.trans head.cgroups, tail.pins.trans head.pins⟩

theorem unmoved_exec {call : KernelCall Reply} (leaves : LeavesNames call) (owner : Process)
    (fails : Bool) : Unmoved kernel (Kernel.exec owner fails kernel call).2 := by
  cases call with
  | cgroupCreateCgroup _ | cgroupDeleteCgroup _ | unlink _ | bpfLinkPin _ _ =>
      exact leaves.elim
  | close fd => exact unmoved_closeDescriptor kernel fd
  | bpfLinkDestroy link => exact unmoved_closeDescriptor kernel link
  | ratelimitBpfDestroy skel =>
      cases skel with
      | none => exact .refl kernel
      | some skel => exact unmoved_closeDescriptors kernel _
  | _ =>
      simp only [Kernel.exec]
      repeat' split
      all_goals exact ⟨rfl, rfl, rfl, rfl⟩

def KeepsCgroups : KernelCall Reply → Prop
  | .cgroupCreateCgroup _ | .cgroupDeleteCgroup _ => False
  | _ => True

theorem ReplacesLinks.keepsCgroups {call : KernelCall Reply} (replaces : ReplacesLinks call) :
    KeepsCgroups call := by
  cases call with
  | cgroupCreateCgroup _ | cgroupDeleteCgroup _ => exact replaces
  | _ => trivial

theorem exec_cgroups {call : KernelCall Reply} (keeps : KeepsCgroups call) (owner : Process)
    (fails : Bool) : (Kernel.exec owner fails kernel call).2.cgroups = kernel.cgroups := by
  cases call with
  | cgroupCreateCgroup _ | cgroupDeleteCgroup _ => exact keeps.elim
  | unlink path =>
      simp only [Kernel.exec]
      split
      · rfl
      · exact cgroups_unpin kernel path
  | bpfLinkPin link path =>
      simp only [Kernel.exec]
      repeat' split
      all_goals rfl
  | _ =>
      apply Unmoved.cgroups
      apply unmoved_exec
      trivial

/-! ## Calls that have nothing to do with a pid -/

structure Spares (pid : Int32) (before after : Kernel) : Prop where
  cgroup2Mount : after.cgroup2Mount = before.cgroup2Mount
  bpffsMount : after.bpffsMount = before.bpffsMount
  cgroup : after.cgroups.lookup (buildCgroupName pid) =
    before.cgroups.lookup (buildCgroupName pid)
  noneMade : ∀ name, (after.cgroups.lookup name).isSome →
    (before.cgroups.lookup name).isSome
  pins : ∀ root attachType,
    after.pins.lookup (pinPath root pid attachType) =
      before.pins.lookup (pinPath root pid attachType)

theorem Unmoved.spares (unmoved : Unmoved before after) : Spares pid before after where
  cgroup2Mount := unmoved.cgroup2Mount
  bpffsMount := unmoved.bpffsMount
  cgroup := by rw [unmoved.cgroups]
  noneMade := by
    intro name present
    rw [unmoved.cgroups] at present
    exact present
  pins := fun _ _ => by rw [unmoved.pins]

theorem Spares.trans (earlier : Spares pid first second) (later : Spares pid second third) :
    Spares pid first third where
  cgroup2Mount := later.cgroup2Mount.trans earlier.cgroup2Mount
  bpffsMount := later.bpffsMount.trans earlier.bpffsMount
  cgroup := later.cgroup.trans earlier.cgroup
  noneMade := fun name present => earlier.noneMade name (later.noneMade name present)
  pins := fun root attachType => (later.pins root attachType).trans (earlier.pins root attachType)

/-- The call may remove the cgroup and the pins of other pids. -/
def IsAside (pid : Int32) : KernelCall Reply → Prop
  | .cgroupDeleteCgroup name => name ≠ buildCgroupName pid
  | .unlink path => ∀ root attachType, path ≠ pinPath root pid attachType
  | call => LeavesNames call

theorem spares_exec {call : KernelCall Reply} (aside : IsAside pid call) (owner : Process)
    (fails : Bool) : Spares pid kernel (Kernel.exec owner fails kernel call).2 := by
  cases call with
  | cgroupDeleteCgroup name =>
      simp only [Kernel.exec]
      split
      · exact (Unmoved.refl kernel).spares
      have frames := Kernel.frames_removeCgroup kernel name
      refine ⟨frames.cgroup2Mount, frames.bpffsMount, ?_, ?_,
        fun _ _ => by rw [pins_removeCgroup]⟩
      · rw [lookup_removeCgroup, if_neg (Ne.symm aside)]
      · intro other present
        rw [lookup_removeCgroup] at present
        split at present
        · contradiction
        · exact present
  | unlink path =>
      simp only [Kernel.exec]
      split
      · exact (Unmoved.refl kernel).spares
      have frames := Kernel.frames_unpin kernel path
      refine ⟨frames.cgroup2Mount, frames.bpffsMount, by rw [cgroups_unpin], ?_, ?_⟩
      · intro name present
        rw [cgroups_unpin] at present
        exact present
      · intro root attachType
        rw [lookup_unpin, if_neg (aside root attachType).symm]
  | _ =>
      apply Unmoved.spares
      apply unmoved_exec
      exact aside

/-! ## Where a pid stands -/

def Childless (kernel : Kernel) (pid : Int32) : Prop :=
  ∀ name, (kernel.cgroups.lookup name).isSome → buildCgroupName pid <+: name →
    name = buildCgroupName pid

structure Standing (kernel : Kernel) (pid : Int32) : Prop where
  cgroup : (kernel.cgroups.lookup (buildCgroupName pid)).isSome
  childless : Childless kernel pid

def NoPins (kernel : Kernel) (pid : Int32) : Prop :=
  ∀ attachType, kernel.pins.lookup (pinPath kernel.bpffsMount pid attachType) = none

structure Swept (kernel : Kernel) (pid : Int32) : Prop extends Standing kernel pid where
  pins : NoPins kernel pid

structure Gone (kernel : Kernel) (pid : Int32) : Prop where
  cgroup : kernel.cgroups.lookup (buildCgroupName pid) = none
  pins : NoPins kernel pid

section

variable (spares : Spares pid before after)

include spares

theorem Childless.spared (childless : Childless before pid) : Childless after pid :=
  fun name present => childless name (spares.noneMade name present)

theorem Standing.spared (standing : Standing before pid) : Standing after pid where
  cgroup := by
    rw [spares.cgroup]
    exact standing.cgroup
  childless := standing.childless.spared spares

theorem NoPins.spared (noPins : NoPins before pid) : NoPins after pid := by
  intro attachType
  rw [spares.bpffsMount, spares.pins]
  exact noPins attachType

theorem Swept.spared (swept : Swept before pid) : Swept after pid :=
  ⟨swept.toStanding.spared spares, swept.pins.spared spares⟩

theorem Gone.spared (gone : Gone before pid) : Gone after pid where
  cgroup := by
    rw [spares.cgroup]
    exact gone.cgroup
  pins := gone.pins.spared spares

theorem standing_or_gone_spared (either : Standing before pid ∨ Gone before pid) :
    Standing after pid ∨ Gone after pid :=
  either.imp (fun standing => standing.spared spares) fun gone => gone.spared spares

end

theorem Childless.hasChildren (childless : Childless kernel pid) :
    kernel.hasChildren (buildCgroupName pid) = false := by
  rw [Kernel.hasChildren, List.any_eq_false]
  intro name member below
  simp only [Bool.and_eq_true, List.isPrefixOf_iff_prefix, ne_eq, decide_not,
    Bool.not_eq_true', decide_eq_false_iff_not] at below
  exact below.2 (childless name (AList.lookup_isSome.mpr member) below.1)

theorem Standing.of_cgroups (standing : Standing before pid)
    (same : after.cgroups = before.cgroups) : Standing after pid where
  cgroup := by
    rw [same]
    exact standing.cgroup
  childless := by
    intro name present
    rw [same] at present
    exact standing.childless name present

theorem Settled.childless (settled : Settled kernel) (pid : Int32) : Childless kernel pid := by
  intro name present below
  have belowRoot : [cgroupRoot] <+: name := (List.prefix_append _ _).trans below
  rcases settled.children name present belowRoot with rfl | ⟨other, _, rfl⟩
  · exact absurd below.length_le (by simp [buildCgroupName])
  · have length : (buildCgroupName pid).length = (buildCgroupName other).length := by
      simp [buildCgroupName]
    exact (below.eq_of_length length).symm

end Pidnl.Ratelimit
