import Pidnl.Ratelimit.Functions

/-! # The calls that remove a limit

To detach the links of a pid and to delete its cgroup takes few calls, and those that
remove something name the pid.
-/

namespace Pidnl.Ratelimit

open Pidnl.Foundation Pidnl.System

/-! ## Opening a cgroup -/

def OpeningCall : {Reply : Type} → KernelCall Reply → Prop
  | _, .getCgroup2Mount => True
  | _, .openReadOnly _ => True
  | _, _ => False

theorem openingCalls_openCgroupFd (name : Path) :
    (openCgroupFd name).Makes fun _ call => OpeningCall call := by
  rw [openCgroupFd, Program.makes_inside]
  apply Program.makes_bind ((Program.makes_request _).mpr trivial)
  intro mount
  cases mount with
  | none => exact Program.makes_pure _
  | some mount => exact (Program.makes_request _).mpr trivial

/-! ## Detaching links -/

def DetachingCall (pid : Int32) : {Reply : Type} → KernelCall Reply → Prop
  | _, .getBpffsMount => True
  | _, .bpfObjGet _ => True
  | _, .bpfLinkDetach _ => True
  | _, .close _ => True
  | _, .unlink path => ∃ root attachType, path = pinPath root pid attachType
  | _, .rmdir _ => True
  | _, _ => False

theorem detachingCalls_detachPinnedLink (root : Path) (pid : Int32) (attachType : AttachType) :
    (detachPinnedLink root pid attachType).Makes fun _ call => DetachingCall pid call := by
  have unlinks : DetachingCall pid (.unlink (pinPath root pid attachType)) :=
    ⟨root, attachType, rfl⟩
  rw [detachPinnedLink, Program.makes_inside]
  apply Program.makes_bind ((Program.makes_request _).mpr trivial)
  intro held
  cases held with
  | none => exact (Program.makes_request _).mpr unlinks
  | some fd =>
      apply Program.makes_bind ((Program.makes_request _).mpr trivial)
      intro _
      apply Program.makes_bind ((Program.makes_request _).mpr trivial)
      intro _
      exact (Program.makes_request _).mpr unlinks

theorem detachingCalls_detachPinnedLinks (pid : Int32) :
    (detachPinnedLinks pid).Makes fun _ call => DetachingCall pid call := by
  rw [detachPinnedLinks, Program.makes_inside]
  apply Program.makes_bind ((Program.makes_request _).mpr trivial)
  intro mount
  cases mount with
  | none => exact Program.makes_pure _
  | some root =>
      apply Program.makes_bind (detachingCalls_detachPinnedLink root pid .egress)
      intro _
      apply Program.makes_bind (detachingCalls_detachPinnedLink root pid .ingress)
      intro _
      exact (Program.makes_request _).mpr trivial

/-! ## Deleting the cgroup of a pid -/

def DeletingCall (pid : Int32) : {Reply : Type} → KernelCall Reply → Prop
  | _, .cgroupNewCgroup _ => True
  | _, .cgroupGetCgroup _ => True
  | _, .getCgroup2Mount => True
  | _, .openReadOnly _ => True
  | _, .cgroupDeleteCgroup name => name = buildCgroupName pid
  | _, call => DetachingCall pid call

theorem OpeningCall.deleting {Reply : Type} {call : KernelCall Reply} (opens : OpeningCall call)
    (pid : Int32) : DeletingCall pid call := by
  cases call with
  | getCgroup2Mount | openReadOnly path => trivial
  | _ => exact opens.elim

theorem DetachingCall.deleting {Reply : Type} {call : KernelCall Reply} {pid : Int32}
    (detaches : DetachingCall pid call) : DeletingCall pid call := by
  cases call with
  | cgroupDeleteCgroup name => exact detaches.elim
  | cgroupNewCgroup name | cgroupGetCgroup name | getCgroup2Mount | openReadOnly path => trivial
  | _ => exact detaches

theorem deletingCalls_deleteCgroup (cgroupFd : Option Fd) (pid : Int32) :
    (deleteCgroup (buildCgroupName pid) cgroupFd pid).Makes
      fun _ call => DeletingCall pid call := by
  have deletes : DeletingCall pid (.cgroupDeleteCgroup (buildCgroupName pid)) := rfl
  cases cgroupFd with
  | none =>
      rw [deleteCgroup, Program.makes_inside]
      apply Program.makes_bind ((Program.makes_request _).mpr deletes)
      exact fun _ => Program.makes_pure _
  | some fd =>
      rw [deleteCgroup, Program.makes_inside]
      apply Program.makes_bind
        ((detachingCalls_detachPinnedLinks pid).weaken fun _ _ detaches => detaches.deleting)
      intro _
      apply Program.makes_bind ((Program.makes_request _).mpr trivial)
      intro _
      apply Program.makes_bind ((Program.makes_request _).mpr deletes)
      exact fun _ => Program.makes_pure _

theorem deletingCalls_deletePidCgroup (pid : Int32) :
    (deletePidCgroup pid).Makes fun _ call => DeletingCall pid call := by
  rw [deletePidCgroup, Program.makes_inside]
  refine ⟨trivial, fun made => ?_⟩
  cases made with
  | false => trivial
  | true =>
      refine ⟨trivial, fun present => ?_⟩
      cases present with
      | false => trivial
      | true =>
          change (openCgroupFd (buildCgroupName pid) >>= _).Makes _
          apply Program.makes_bind
            ((openingCalls_openCgroupFd _).weaken fun _ _ opens => opens.deleting pid)
          intro opened
          cases opened with
          | none => trivial
          | some fd =>
              apply Program.makes_bind (deletingCalls_deleteCgroup (some fd) pid)
              exact fun _ => trivial

end Pidnl.Ratelimit
