import Pidnl.Ratelimit.RemoveOutcome
import Pidnl.Ratelimit.Spared

/-! # The parent of the cgroups

Setting and removing a limit never remove the parent cgroup. `ratelimit_cleanup_all` does,
and tells by its flag that the parent was there. Reading a limit changes nothing.
-/

namespace Pidnl.Ratelimit

open Pidnl.Foundation Pidnl.System

def hasRoot (kernel : Kernel) : Bool := (kernel.cgroups.lookup [cgroupRoot]).isSome

theorem hasRoot_quiet {before after : Kernel} (quiet : Quiet before after) :
    hasRoot after = hasRoot before := by
  rw [hasRoot, hasRoot, quiet.cgroups]

/-! ## Calls that keep the parent -/

def KeepsRoot : KernelCall Reply → Prop
  | .cgroupDeleteCgroup name => name ≠ [cgroupRoot]
  | _ => True

theorem KeepsRoot.of_keepsCgroups {call : KernelCall Reply} (keeps : KeepsCgroups call) :
    KeepsRoot call := by
  cases call with
  | cgroupDeleteCgroup name => exact keeps.elim
  | _ => trivial

theorem lookup_createCgroup_of_some {kernel : Kernel} {other : Path} {id : CgroupId}
    (found : kernel.cgroups.lookup other = some id) (name : Path) :
    (kernel.createCgroup name).cgroups.lookup other = some id := by
  rw [Kernel.createCgroup]
  generalize name.inits.tail = names
  induction names generalizing kernel with
  | nil => exact found
  | cons first names induction => exact induction (lookup_ensureCgroup_of_some found)

theorem hasRoot_exec {kernel : Kernel} {call : KernelCall Reply} (keeps : KeepsRoot call)
    (owner : Process) (fails : Bool) (root : hasRoot kernel = true) :
    hasRoot (Kernel.exec owner fails kernel call).2 = true := by
  cases call with
  | cgroupCreateCgroup name =>
      rcases Option.isSome_iff_exists.mp root with ⟨id, found⟩
      simp only [Kernel.exec]
      split
      · exact root
      · split
        · exact root
        · rw [hasRoot, lookup_createCgroup_of_some found]
          rfl
  | cgroupDeleteCgroup name =>
      simp only [Kernel.exec]
      split
      · exact root
      · rw [hasRoot, lookup_removeCgroup, if_neg keeps.symm]
        exact root
  | _ =>
      rw [hasRoot, exec_cgroups (by trivial)]
      exact root

section Execute

variable {kernel : Kernel} {program : KernelProgram α}

theorem hasRoot_execute (makes : program.Makes fun _ call => KeepsRoot call)
    (owner : Process) (faults : Faults) (root : hasRoot kernel = true) :
    hasRoot (Kernel.execute owner faults program kernel).2 = true := by
  have preserved : ∀ {Reply : Type} (site : List Frame) (call : KernelCall Reply) state,
      KeepsRoot call → hasRoot state = true →
        hasRoot (Kernel.environment owner faults site call state).2 = true := by
    intro Reply site call state keeps root
    exact hasRoot_exec keeps owner _ root
  exact Program.Makes.run_preserves makes preserved root

end Execute

/-! ## Programs that keep the parent -/

theorem keepsRoot_of_replacesLinks {program : KernelProgram α}
    (makes : program.Makes fun _ call => ReplacesLinks call) :
    program.Makes fun _ call => KeepsRoot call :=
  makes.weaken fun _ _ replaces => .of_keepsCgroups replaces.keepsCgroups

theorem DeletingCall.keepsRoot {Reply : Type} {call : KernelCall Reply} {pid : Int32}
    (deletes : DeletingCall pid call) : KeepsRoot call := by
  cases call with
  | cgroupDeleteCgroup name =>
      have same : name = buildCgroupName pid := deletes
      rw [same]
      exact buildCgroupName_ne_root pid
  | _ => trivial

theorem keepsRoot_openCgroupFd (name : Path) :
    (openCgroupFd name).Makes fun _ call => KeepsRoot call :=
  (openingCalls_openCgroupFd name).weaken fun _ _ opens => (opens.deleting 0).keepsRoot

theorem keepsRoot_deleteCgroup (cgroupFd : Option Fd) (pid : Int32) :
    (deleteCgroup (buildCgroupName pid) cgroupFd pid).Makes fun _ call => KeepsRoot call :=
  (deletingCalls_deleteCgroup cgroupFd pid).weaken fun _ _ deletes => deletes.keepsRoot

theorem keepsRoot_deletePidCgroup (pid : Int32) :
    (deletePidCgroup pid).Makes fun _ call => KeepsRoot call :=
  (deletingCalls_deletePidCgroup pid).weaken fun _ _ deletes => deletes.keepsRoot

theorem keepsRoot_createCgroup (name : Path) :
    (createCgroup name).Makes fun _ call => KeepsRoot call := by
  rw [createCgroup, Program.makes_inside]
  refine ⟨trivial, fun made => ?_⟩
  cases made with
  | false => trivial
  | true =>
      refine ⟨trivial, fun reply => ?_⟩
      cases reply <;> trivial

theorem keepsRoot_replaceLinks (pid : Int32) (cgroupFd : Fd) (config : RateLimitConfig) :
    (replaceLinks pid cgroupFd config).Makes fun _ call => KeepsRoot call := by
  have undone : ∀ code : RatelimitCode, Program.Makes (fun _ call => KeepsRoot call)
      (do deleteCgroup (buildCgroupName pid) (some cgroupFd) pid; return code) := by
    intro code
    exact Program.makes_bind (keepsRoot_deleteCgroup _ pid) fun _ => trivial
  rw [replaceLinks]
  apply Program.makes_bind ((Program.makes_request _).mpr trivial)
  intro allocated
  cases allocated with
  | false => exact undone .alloc
  | true =>
      apply Program.makes_bind (keepsRoot_of_replacesLinks (makes_detachPinnedLinks pid))
      intro _
      apply Program.makes_bind (keepsRoot_of_replacesLinks (replacesLinks_createPinDir pid))
      intro made
      cases made with
      | error code => exact undone code
      | ok pinDir =>
          apply Program.makes_bind (keepsRoot_of_replacesLinks
            (makes_attachBpfPrograms cgroupFd pinDir config))
          intro attached
          cases attached with
          | error code => exact undone code
          | ok skel => exact ⟨trivial, fun _ => ⟨trivial, fun _ => trivial⟩⟩

theorem keepsRoot_installLimit (pid : Int32) (config : RateLimitConfig) :
    (installLimit pid config).Makes fun _ call => KeepsRoot call := by
  have undone : ∀ code : RatelimitCode, Program.Makes (fun _ call => KeepsRoot call)
      (do deleteCgroup (buildCgroupName pid) none pid; return code) := by
    intro code
    exact Program.makes_bind (keepsRoot_deleteCgroup none pid) fun _ => trivial
  rw [installLimit]
  split
  · trivial
  apply Program.makes_bind (keepsRoot_createCgroup _)
  intro parent
  split
  · trivial
  apply Program.makes_bind (keepsRoot_createCgroup _)
  intro child
  split
  · trivial
  apply Program.makes_bind ((Program.makes_request _).mpr trivial)
  intro joined
  split
  · exact undone .libcgAttach
  apply Program.makes_bind (keepsRoot_openCgroupFd _)
  intro opened
  cases opened with
  | none => exact undone .openCgroup
  | some cgroupFd => exact keepsRoot_replaceLinks pid cgroupFd config

/-! ## Cleaning up -/

/-- With no failing call the flag tells whether the parent was there. -/
theorem flag_cleanupCgroups (owner : Process) {kernel : Kernel} (settled : Settled kernel) :
    (Kernel.execute owner .none cleanupCgroups kernel).1.2 = hasRoot kernel := by
  have succeeds := (execute_cleanupCgroups owner settled).1
  rw [hasRoot]
  cases root : (kernel.cgroups.lookup [cgroupRoot]).isSome with
  | false => simp [cleanupCgroups, Kernel.exec, root]
  | true =>
      simp only [cleanupCgroups, ask, Kernel.execute_bind, Kernel.execute_request,
        Kernel.exec, Faults.none_here, root, Bool.not_false, Bool.not_true, Bool.true_and,
        Bool.false_or, Bool.false_eq_true, if_false] at succeeds ⊢
      generalize (Kernel.execute owner Faults.none
        (cleanupEntries (kernel.walk [cgroupRoot])) kernel).2 = swept at succeeds ⊢
      cases crowded : swept.hasChildren [cgroupRoot] with
      | true => simp [crowded] at succeeds
      | false => simp

/-! ## Reading -/

def OnlyReads : KernelCall Reply → Prop
  | .getCgroup2Mount | .openReadOnly _ | .close _ | .bpfProgQueryOpts _ _
  | .bpfProgGetFdById _ | .bpfProgGetInfoByFd _ | .bpfMapGetFdById _
  | .bpfMapGetInfoByFd _ | .bpfMapLookupElem _ _ => True
  | _ => False

theorem quiet_exec_of_onlyReads {kernel : Kernel} {call : KernelCall Reply}
    (reads : OnlyReads call) (settled : Settled kernel) (owner : Process) (fails : Bool) :
    Quiet kernel (Kernel.exec owner fails kernel call).2 := by
  cases call with
  | close fd => exact quiet_closeDescriptor settled fd
  | openReadOnly path =>
      simp only [Kernel.exec]
      split
      · exact .refl kernel
      · split
        · exact .refl kernel
        · exact quiet_openDescriptor kernel owner fun _ => Target.noConfusion
  | bpfProgGetFdById prog =>
      simp only [Kernel.exec]
      split
      · exact .refl kernel
      · exact quiet_openDescriptor kernel owner fun _ => Target.noConfusion
  | bpfMapGetFdById map =>
      simp only [Kernel.exec]
      split
      · exact .refl kernel
      · exact quiet_openDescriptor kernel owner fun _ => Target.noConfusion
  | getCgroup2Mount => exact .refl kernel
  | bpfProgQueryOpts cgroupFd attachType =>
      simp only [Kernel.exec]
      repeat' split
      all_goals exact .refl kernel
  | bpfProgGetInfoByFd progFd =>
      simp only [Kernel.exec]
      repeat' split
      all_goals exact .refl kernel
  | bpfMapGetInfoByFd mapFd =>
      simp only [Kernel.exec]
      repeat' split
      all_goals exact .refl kernel
  | bpfMapLookupElem mapFd key =>
      simp only [Kernel.exec]
      repeat' split
      all_goals exact .refl kernel
  | _ => exact reads.elim

theorem onlyReads_openCgroupFd (name : Path) :
    (openCgroupFd name).Makes fun _ call => OnlyReads call := by
  apply (openingCalls_openCgroupFd name).weaken
  intro Reply site call opens
  cases call with
  | getCgroup2Mount | openReadOnly path => trivial
  | _ => exact opens.elim

theorem onlyReads_readLimitFromMaps (attachType : AttachType)
    (maps : List (ObjectId × MapKind)) :
    (readLimitFromMaps attachType maps).Makes fun _ call => OnlyReads call := by
  induction maps with
  | nil => trivial
  | cons map maps induction =>
      rw [readLimitFromMaps]
      apply Program.makes_bind
      · rw [Program.makes_inside]
        refine ⟨trivial, fun opened => ?_⟩
        cases opened with
        | none => trivial
        | some mapFd =>
            apply Program.makes_bind ((Program.makes_request _).mpr trivial)
            intro name
            split
            · exact ⟨trivial, fun _ => ⟨trivial, fun _ => trivial⟩⟩
            · exact ⟨trivial, fun _ => trivial⟩
      · intro found
        cases found with
        | none => exact induction
        | some value => trivial

theorem onlyReads_readLimitFromCgroupProgs (cgroupFd : Fd) (attachType : AttachType) :
    (readLimitFromCgroupProgs cgroupFd attachType).Makes fun _ call => OnlyReads call := by
  rw [readLimitFromCgroupProgs, Program.makes_inside]
  refine ⟨trivial, fun query => ?_⟩
  rcases query with _ | _ | prog
  · trivial
  · trivial
  · refine ⟨trivial, fun opened => ?_⟩
    cases opened with
    | none => trivial
    | some progFd =>
        refine ⟨trivial, fun info => ?_⟩
        cases info with
        | none => exact ⟨trivial, fun _ => trivial⟩
        | some info =>
            change (if _ then _ else _ : KernelProgram _).Makes _
            split
            · exact ⟨trivial, fun _ => trivial⟩
            · exact Program.makes_bind (onlyReads_readLimitFromMaps attachType _) fun _ =>
                ⟨trivial, fun _ => trivial⟩

theorem onlyReads_getRateLimitsFromCgroup (pid : Int32) :
    (getRateLimitsFromCgroup pid).Makes fun _ call => OnlyReads call := by
  rw [getRateLimitsFromCgroup]
  split
  · trivial
  apply Program.makes_bind (onlyReads_openCgroupFd _)
  intro opened
  cases opened with
  | none => trivial
  | some cgroupFd =>
      apply Program.makes_bind (onlyReads_readLimitFromCgroupProgs cgroupFd .egress)
      intro upload
      apply Program.makes_bind (onlyReads_readLimitFromCgroupProgs cgroupFd .ingress)
      intro download
      exact ⟨trivial, fun _ => trivial⟩

theorem quiet_getRateLimitsFromCgroup {kernel : Kernel} (settled : Settled kernel)
    (owner : Process) (faults : Faults) (pid : Int32) :
    Quiet kernel (Kernel.execute owner faults (getRateLimitsFromCgroup pid) kernel).2 := by
  have preserved : ∀ {Reply : Type} (site : List Frame) (call : KernelCall Reply) state,
      OnlyReads call → Quiet kernel state →
        Quiet kernel (Kernel.environment owner faults site call state).2 := by
    intro Reply site call state reads quiet
    exact quiet.trans (quiet_exec_of_onlyReads reads (settled.quiet quiet) owner _)
  exact Program.Makes.run_preserves (onlyReads_getRateLimitsFromCgroup pid) preserved
    (.refl kernel)

end Pidnl.Ratelimit
