import Pidnl.Ratelimit.Apart

/-! # Replacing the links beside another client

The calls from `detach_pinned_links` to the end of `attach_bpf_programs`, made
while another client opens and closes descriptors of its own: they succeed, and
leave the configured links and no others.
-/

namespace Pidnl.Ratelimit

open Pidnl.Foundation Pidnl.System

/-- `limit_process_bandwidth` from `detach_pinned_links` to
`attach_bpf_programs`. -/
def placeLinks (pid : Int32) (cgroupFd : Fd) (config : RateLimitConfig) :
    KernelProgram (Except RatelimitCode Skeleton) := do
  detachPinnedLinks pid
  match ← createPinDir pid with
  | .error code => return .error code
  | .ok pinDir => attachBpfPrograms cgroupFd pinDir config

structure Working (kernel : Kernel) (owner : Process) (cgroupFd : Fd)
    (cgroup : CgroupId) (pid : Int32) : Prop where
  settled : Settled kernel
  isCgroup : kernel.cgroups.lookup (buildCgroupName pid) = some cgroup
  owns : Owns kernel owner cgroupFd (.cgroup cgroup)

variable {kernel after : Kernel} {owner other : Process} {cgroupFd : Fd}
  {cgroup : CgroupId} {pid : Int32} {config : RateLimitConfig}

theorem Working.later (working : Working kernel owner cgroupFd cgroup pid)
    (apart : Apart owner kernel after) : Working after owner cgroupFd cgroup pid where
  settled := working.settled.quiet apart.quiet
  isCgroup := by
    rw [apart.quiet.cgroups]
    exact working.isCgroup
  owns := working.owns.kept apart.toKeepsDescriptors

theorem environment_none (site : List Frame) (call : KernelCall Reply) :
    Kernel.environment owner Faults.none site call kernel =
      Kernel.exec owner false kernel call := rfl

/-- The program runs beside another client that only opens and closes descriptors
of its own, and takes nothing away that the other relies on. -/
abbrev SafeBeside (owner other : Process) (post : α → Kernel → Prop)
    (program : KernelProgram α) (kernel : Kernel) : Prop :=
  program.Safe (Kernel.environment owner Faults.none) (Apart owner) (Keeps other)
    post kernel

theorem safeBeside_inside {frame : Frame} {program : KernelProgram α}
    {post : α → Kernel → Prop} :
    SafeBeside owner other post (program.inside frame) kernel ↔
      SafeBeside owner other post program kernel :=
  Program.safe_inside frame

/-- A part of the program that acts at once leaves what its contract says, if what
it says is not for the other to change. -/
theorem safeBeside_of_actsAtOnce {program : KernelProgram α} {post : α → Kernel → Prop}
    (actsAtOnce : ∀ later, Apart owner kernel later →
      program.ActsAtOnce (Kernel.environment owner Faults.none) (Apart owner)
        (Keeps other) later)
    (contract : ∀ later, Apart owner kernel later → ∀ final,
      Apart owner (Kernel.execute owner Faults.none program later).2 final →
        post (Kernel.execute owner Faults.none program later).1 final) :
    SafeBeside owner other post program kernel :=
  Program.safe_of_actsAtOnce .refl (fun _ _ _ => .trans) actsAtOnce contract

/-! ## Detaching -/

theorem actsAtOnce_detachPinnedLink (different : owner ≠ other) (kernel : Kernel)
    (root : Path) (attachType : AttachType) :
    (detachPinnedLink root pid attachType).ActsAtOnce
      (Kernel.environment owner Faults.none) (Apart owner) (Keeps other) kernel := by
  rw [detachPinnedLink, Program.actsAtOnce_inside]
  simp only [ask, Program.request_bind, Program.ActsAtOnce, environment_none]
  cases found : kernel.pins.lookup (pinPath root pid attachType) with
  | none =>
      have made : Kernel.exec owner false kernel
          (.bpfObjGet (pinPath root pid attachType)) = (none, kernel) := by
        simp only [Kernel.exec, Bool.false_eq_true, if_false, found]
      rw [made]
      exact ⟨.refl kernel, steady_unlink _, trivial⟩
  | some id =>
      have made : Kernel.exec owner false kernel
          (.bpfObjGet (pinPath root pid attachType)) =
          (some kernel.nextId,
            (kernel.holdLink id).openDescriptor owner (.link id)) := by
        simp only [Kernel.exec, Bool.false_eq_true, if_false, found]
      rw [made]
      have owns : Owns ((kernel.holdLink id).openDescriptor owner (.link id)) owner
        kernel.nextId (.link id) := .openDescriptor (kernel.holdLink id) owner _
      have detached : Kernel.exec owner false
          ((kernel.holdLink id).openDescriptor owner (.link id))
          (.bpfLinkDetach kernel.nextId) =
          ((), ((kernel.holdLink id).openDescriptor owner
            (.link id)).detachLink id) := by
        simp only [Kernel.exec, Bool.false_eq_true, if_false, owns.target?]
      have opened : Keeps other (kernel.holdLink id)
          ((kernel.holdLink id).openDescriptor owner (.link id)) :=
        keeps_openDescriptor _ _ _
      refine ⟨((Internal.holdLink id).keeps kernel).trans opened,
        steady_bpfLinkDetach owns, ?_⟩
      simp only [environment_none, detached]
      exact ⟨steady_close (owns.kept ⟨Nat.le_refl _, fun _ _ _ found _ => found⟩)
        different, steady_unlink _, trivial⟩

theorem safe_detachPinnedLink (working : Working kernel owner cgroupFd cgroup pid)
    (different : owner ≠ other) (attachType : AttachType) :
    SafeBeside owner other
      (fun _ final => Working final owner cgroupFd cgroup pid ∧
        final.bpffsMount = kernel.bpffsMount ∧
        ∀ otherType, slot final pid otherType =
          if otherType = attachType then .empty else slot kernel pid otherType)
      (detachPinnedLink kernel.bpffsMount pid attachType) kernel := by
  apply safeBeside_of_actsAtOnce
  · intro later apart
    exact actsAtOnce_detachPinnedLink different later _ _
  · intro later apart final passedOn
    have turn := execute_detachPinnedLink owner Faults.none
      (working.later apart).settled pid attachType
    rw [apart.quiet.bpffsMount] at turn
    rcases turn with ⟨detaches, slots⟩
    have worked : Working (Kernel.execute owner Faults.none
        (detachPinnedLink kernel.bpffsMount pid attachType) later).2 owner cgroupFd
        cgroup pid := by
      refine ⟨detaches.settled, ?_, ?_⟩
      · rw [detaches.sameCgroups]
        exact (working.later apart).isCgroup
      · have found := (working.later apart).owns.found
        rw [← detaches.sameDescriptors] at found
        exact .of_settled detaches.settled found
    refine ⟨worked.later passedOn, ?_, ?_⟩
    · rw [passedOn.quiet.bpffsMount, detaches.bpffsMount, apart.quiet.bpffsMount]
    · intro otherType
      rw [worked.settled.slot_quiet passedOn.quiet, slots]
      simp only [Faults.none_inside, unlinked, Faults.none_here, Bool.false_eq_true,
        if_false, working.settled.slot_quiet apart.quiet]

theorem safeBeside_request {call : KernelCall Reply} {post : Reply → Kernel → Prop}
    (steady : Steady owner other kernel call)
    (contract : ∀ final,
      Apart owner (Kernel.exec owner false kernel call).2 final →
        post (Kernel.exec owner false kernel call).1 final) :
    SafeBeside owner other post (.request call) kernel := by
  intro later apart
  rcases steady later apart with ⟨sameReply, passedOn, kept⟩
  simp only [environment_none, sameReply]
  exact ⟨kept, contract _ passedOn⟩

theorem safe_detachPinnedLinks (working : Working kernel owner cgroupFd cgroup pid)
    (different : owner ≠ other) :
    SafeBeside owner other
      (fun _ final => Working final owner cgroupFd cgroup pid ∧
        ∀ attachType, slot final pid attachType = .empty)
      (detachPinnedLinks pid) kernel := by
  rw [detachPinnedLinks, safeBeside_inside]
  apply Program.Safe.bind
  apply safeBeside_request steady_getBpffsMount
  intro opened apart
  have mount : opened.bpffsMount = kernel.bpffsMount := apart.quiet.bpffsMount
  have mounted : Kernel.exec owner false kernel .getBpffsMount =
    (some kernel.bpffsMount, kernel) := rfl
  simp only [mounted, ← mount]
  -- The two turns of the loop.
  apply Program.Safe.bind
  apply (safe_detachPinnedLink (working.later apart) different .egress).weaken
  intro _ first swept
  rcases swept with ⟨workingFirst, mountFirst, slotsFirst⟩
  apply Program.Safe.bind
  rw [← mountFirst]
  apply (safe_detachPinnedLink workingFirst different .ingress).weaken
  intro _ second swept
  rcases swept with ⟨workingSecond, _, slotsSecond⟩
  -- The directory goes as well, unless a pin is left in it.
  apply safeBeside_request (steady_rmdir _)
  intro final passedOn
  have removed := exec_rmdir owner workingSecond.settled pid false
    (pinDirectory first.bpffsMount pid)
  rcases removed with ⟨detaches, slots⟩
  have found := workingSecond.owns.found
  rw [← detaches.sameDescriptors] at found
  have isCgroup := workingSecond.isCgroup
  rw [← detaches.sameCgroups] at isCgroup
  have worked : Working _ owner cgroupFd cgroup pid :=
    ⟨detaches.settled, isCgroup, .of_settled detaches.settled found⟩
  refine ⟨worked.later passedOn, ?_⟩
  intro attachType
  rw [detaches.settled.slot_quiet passedOn.quiet, slots, slotsSecond, slotsFirst]
  cases attachType <;> rfl

/-! ## Making the directory of the pins -/

theorem makes_createPinDir :
    (createPinDir pid).Makes fun _ call =>
      ∀ kernel, Steady owner other kernel call := by
  rw [createPinDir, Program.makes_inside]
  refine ⟨fun _ => steady_getBpffsMount, ?_⟩
  intro mount
  cases mount with
  | none => trivial
  | some root =>
      refine ⟨fun _ => steady_mkdir _, ?_⟩
      intro base
      cases base with
      | failed => trivial
      | created | eexist =>
          refine ⟨fun _ => steady_mkdir _, ?_⟩
          intro made
          cases made <;> trivial

theorem safe_createPinDir (working : Working kernel owner cgroupFd cgroup pid)
    (empty : ∀ attachType, slot kernel pid attachType = .empty) :
    SafeBeside owner other
      (fun made final => made = .ok (pinDirectory final.bpffsMount pid) ∧
        Working final owner cgroupFd cgroup pid ∧
        final.directories (pinDirectory final.bpffsMount pid) = true ∧
        ∀ attachType, slot final pid attachType = .empty)
      (createPinDir pid) kernel := by
  apply safeBeside_of_actsAtOnce
  · intro later _
    apply Program.Undisturbed.actsAtOnce .refl
    apply makes_createPinDir.undisturbed
    intro _ _ call state steady
    exact steady state
  · intro later apart final passedOn
    rcases execute_createPinDir owner Faults.none later pid with
      ⟨directories, made, _, ok⟩
    rcases ok rfl with ⟨isOk, isMade⟩
    rw [made] at passedOn
    have quiet := (apart.quiet.trans (quiet_directories later directories)).trans
      passedOn.quiet
    have mount : final.bpffsMount = later.bpffsMount := passedOn.quiet.bpffsMount
    have workingLater := working.later apart
    refine ⟨?_, ⟨working.settled.quiet quiet, ?_, ?_⟩, ?_, ?_⟩
    · rw [isOk, mount]
    · rw [quiet.cgroups]
      exact working.isCgroup
    · have owns : Owns { later with directories := directories } owner cgroupFd
        (.cgroup cgroup) := ⟨workingLater.owns.used, workingLater.owns.found⟩
      exact owns.kept passedOn.toKeepsDescriptors
    · rw [passedOn.directories, mount]
      exact isMade
    · intro attachType
      rw [working.settled.slot_quiet quiet]
      exact empty attachType

/-! ## Attaching -/

/-- A process that holds a loaded object and has still to attach its programs for
some directions, whose pins are free. -/
structure Equipped (kernel : Kernel) (owner : Process) (skel : Skeleton)
    (cgroupFd : Fd) (cgroup : CgroupId) (pid : Int32)
    (todo : List AttachType) : Prop extends
    Working kernel owner cgroupFd cgroup pid where
  loaded : skel.object < kernel.nextId
  limits : Owns kernel owner skel.rateLimitsFd (.map skel.object .rateLimits)
  others : ∀ fd ∈ skel.otherFds, ∃ target, Owns kernel owner fd target ∧
    (∀ id, target ≠ .link id) ∧ ∀ id, target ≠ .cgroup id
  pinDir : kernel.directories (pinDirectory kernel.bpffsMount pid) = true
  unread : ∀ path id, kernel.pins.lookup path = some id →
    (kernel.links id).object = skel.object → (kernel.links id).attachType ∉ todo

namespace Equipped

variable {skel : Skeleton} {todo : List AttachType} {attachType : AttachType}

theorem later (equipped : Equipped kernel owner skel cgroupFd cgroup pid todo)
    (apart : Apart owner kernel after) :
    Equipped after owner skel cgroupFd cgroup pid todo where
  toWorking := equipped.toWorking.later apart
  loaded := equipped.loaded.trans_le apart.nextId
  limits := equipped.limits.kept apart.toKeepsDescriptors
  others := by
    intro fd member
    rcases equipped.others fd member with ⟨target, owns, notLink⟩
    exact ⟨target, owns.kept apart.toKeepsDescriptors, notLink⟩
  pinDir := by
    rw [apart.directories, apart.quiet.bpffsMount]
    exact equipped.pinDir
  unread := by
    intro path id found
    rw [apart.quiet.pins] at found
    rw [equipped.settled.linkOf_quiet apart.quiet found]
    exact equipped.unread path id found

theorem tail (equipped : Equipped kernel owner skel cgroupFd cgroup pid
    (attachType :: todo)) : Equipped kernel owner skel cgroupFd cgroup pid todo where
  toWorking := equipped.toWorking
  loaded := equipped.loaded
  limits := equipped.limits
  others := equipped.others
  pinDir := equipped.pinDir
  unread := fun path id found same member =>
    equipped.unread path id found same (List.mem_cons_of_mem _ member)

theorem attaching (equipped : Equipped kernel owner skel cgroupFd cgroup pid
    (attachType :: todo)) :
    Attaching kernel skel cgroupFd cgroup pid attachType where
  settled := equipped.settled
  isCgroup := equipped.isCgroup
  loaded := equipped.loaded
  unread := fun path id found same isType =>
    equipped.unread path id found same (isType ▸ List.mem_cons_self)
  cgroupTarget := equipped.owns.target?
  limitsTarget := equipped.limits.target?
  pinDir := equipped.pinDir

theorem installLink {limit : UInt32}
    (equipped : Equipped kernel owner skel cgroupFd cgroup pid (attachType :: todo))
    (once : attachType ∉ todo) (empty : slot kernel pid attachType = .empty) :
    Equipped (installLink kernel skel.object attachType cgroup
      (pinPath kernel.bpffsMount pid attachType) limit) owner skel cgroupFd cgroup
        pid todo where
  settled := settled_installLink equipped.attaching.toInstallable empty
  isCgroup := equipped.isCgroup
  owns := ⟨Nat.lt_add_right 2 equipped.owns.used, equipped.owns.found⟩
  loaded := Nat.lt_add_right 2 equipped.loaded
  limits := ⟨Nat.lt_add_right 2 equipped.limits.used, equipped.limits.found⟩
  others := by
    intro fd member
    rcases equipped.others fd member with ⟨target, owns, notLink⟩
    exact ⟨target, ⟨Nat.lt_add_right 2 owns.used, owns.found⟩, notLink⟩
  pinDir := equipped.pinDir
  unread := by
    intro path id found
    rw [lookup_installLink] at found
    split at found
    · cases found
      rw [installLink_links_self]
      exact fun _ => once
    · rw [installLink_links (equipped.settled.pinIds path id found).1]
      exact equipped.tail.unread path id found

end Equipped

theorem attachProgram_frame (kernel : Kernel) (owner : Process) (object : ObjectId)
    (attachType : AttachType) (cgroup : CgroupId) :
    Owns (kernel.attachProgram owner object attachType cgroup) owner
        (kernel.nextId + 1) (.link kernel.nextId) ∧
      Keeps other kernel (kernel.attachProgram owner object attachType cgroup) := by
  let linked := { kernel with
    links := Function.update kernel.links kernel.nextId
      { cgroup := some cgroup, attachType := attachType, object := object, refs := 1 }
    nextId := kernel.nextId + 1 }
  have numbered : Keeps other kernel linked :=
    ⟨⟨Nat.le_succ _, fun _ _ _ found _ => found⟩, rfl, rfl, rfl,
      fun _ _ found => found⟩
  exact ⟨.openDescriptor linked owner _,
    numbered.trans (keeps_openDescriptor linked owner _)⟩

/-- What the other does after a limit is set it might as well have done before. -/
theorem Apart.before_updateLimit {object : ObjectId} {key value : UInt32}
    (apart : Apart owner (kernel.updateLimit object key value) after) :
    ∃ base, Apart owner kernel base ∧ after = base.updateLimit object key value :=
  ⟨{ kernel with descriptors := after.descriptors, nextId := after.nextId },
    ⟨⟨apart.nextId, apart.mine⟩, rfl, apart.others⟩, apart.same⟩

section Direction

variable {skel : Skeleton} {attachType : AttachType} {todo : List AttachType}

theorem exec_attachLink
    (equipped : Equipped kernel owner skel cgroupFd cgroup pid (attachType :: todo))
    (empty : slot kernel pid attachType = .empty) (limit : UInt32) :
    let updated := kernel.updateLimit skel.object attachType.direction.key limit
    let attached := updated.attachProgram owner skel.object attachType cgroup
    let path := pinPath kernel.bpffsMount pid attachType
    Kernel.exec owner false updated
        (.bpfProgramAttachCgroup skel attachType cgroupFd) =
        (some (kernel.nextId + 1), attached) ∧
      (attached.pins.lookup path = none ∧
        attached.directories path.dropLast = true) ∧
      Kernel.exec owner false attached (.bpfLinkPin (kernel.nextId + 1) path) =
        (true, attached.pinLink kernel.nextId path) ∧
      Kernel.exec owner false (attached.pinLink kernel.nextId path)
          (.bpfLinkDestroy (kernel.nextId + 1)) =
        ((), installLink kernel skel.object attachType cgroup path limit) := by
  intro updated attached path
  have unused := equipped.settled.descriptors (kernel.nextId + 1) (Nat.le_succ _)
  have isFree : kernel.pins.lookup path = none := slot_eq_empty_iff.mp empty
  have isDirectory : kernel.directories path.dropLast = true := by
    rw [pinPath_dropLast]
    exact equipped.pinDir
  refine ⟨?_, ⟨isFree, isDirectory⟩, ?_, ?_⟩
  · exact exec_bpfProgramAttachCgroup owner equipped.isCgroup
      equipped.owns.target?
  · have pin := exec_bpfLinkPin owner updated false skel.object attachType cgroup path
    rw [if_pos ⟨rfl, isFree, isDirectory⟩] at pin
    exact pin
  · exact Prod.ext rfl (closeDescriptor_of_pinned unused)

theorem safe_attachDirection
    (equipped : Equipped kernel owner skel cgroupFd cgroup pid (attachType :: todo))
    (once : attachType ∉ todo) (empty : slot kernel pid attachType = .empty)
    (different : owner ≠ other) (config : RateLimitConfig) :
    SafeBeside owner other
      (fun code final => code = .ok ∧
        Equipped final owner skel cgroupFd cgroup pid todo ∧
        final.bpffsMount = kernel.bpffsMount ∧
        ∀ otherType, slot final pid otherType =
          if otherType = attachType then installed config attachType .empty
          else slot kernel pid otherType)
      (attachDirection skel cgroupFd (pinDirectory kernel.bpffsMount pid) config
        attachType) kernel := by
  rw [attachDirection, safeBeside_inside]
  by_cases unlimited : config.limit attachType = RATELIMIT_UNLIMITED
  · simp only [unlimited, if_true]
    refine ⟨rfl, equipped.tail, rfl, ?_⟩
    intro otherType
    rw [installed, if_pos unlimited]
    split
    · rename_i same
      rw [same, empty]
    · rfl
  simp only [if_neg unlimited]
  apply Program.Safe.bind
  apply safeBeside_request (steady_bpfMapUpdateElem _ _ equipped.limits)
  have made : Kernel.exec owner false kernel (.bpfMapUpdateElem skel.rateLimitsFd
      attachType.direction.key (config.limit attachType)) =
      (true, kernel.updateLimit skel.object attachType.direction.key
        (config.limit attachType)) := by
    simp only [Kernel.exec, Bool.false_eq_true, if_false, equipped.limits.target?]
  rw [made]
  intro updated apart
  simp only [Bool.not_true, Bool.false_eq_true, if_false]
  apply safeBeside_of_actsAtOnce
  · intro later apartLater
    rcases (apart.trans apartLater).before_updateLimit with ⟨base, apartBase, rfl⟩
    have links := exec_attachLink (equipped.later apartBase)
      ((equipped.settled.slot_quiet apartBase.quiet _ _).trans empty)
      (config.limit attachType)
    rw [apartBase.quiet.bpffsMount] at links
    rcases links with ⟨attach, ⟨isFree, isDirectory⟩, pin, _⟩
    have frame : Owns _ owner (base.nextId + 1) (.link base.nextId) ∧ Keeps other _ _ :=
      attachProgram_frame (base.updateLimit skel.object attachType.direction.key
        (config.limit attachType)) owner skel.object attachType cgroup
    simp only [ask, Program.request_bind, Program.ActsAtOnce, environment_none, attach]
    refine ⟨frame.2, steady_bpfLinkPin frame.1 isFree isDirectory, ?_⟩
    have path : pinDirectory kernel.bpffsMount pid ++ [attachType.pinName] =
      pinPath kernel.bpffsMount pid attachType := rfl
    simp only [environment_none, path, pin]
    have owns := frame.1.kept ((Internal.pinLink base.nextId
      (pinPath kernel.bpffsMount pid attachType)).keeps _).toKeepsDescriptors
    exact ⟨steady_bpfLinkDestroy owns different, trivial⟩
  · intro later apartLater final passedOn
    rcases (apart.trans apartLater).before_updateLimit with ⟨base, apartBase, rfl⟩
    have equippedBase := equipped.later apartBase
    have emptyBase := (equipped.settled.slot_quiet apartBase.quiet _ _).trans empty
    have links := exec_attachLink equippedBase emptyBase (config.limit attachType)
    rw [apartBase.quiet.bpffsMount] at links
    rcases links with ⟨attach, _, pin, destroy⟩
    have path : pinDirectory kernel.bpffsMount pid ++ [attachType.pinName] =
      pinPath kernel.bpffsMount pid attachType := rfl
    simp only [ask, Kernel.execute_bind, Kernel.execute_request, Faults.none_here,
      attach, path, pin, destroy, Bool.not_true, Bool.false_eq_true, if_false,
      Kernel.execute_pure] at passedOn ⊢
    rw [← apartBase.quiet.bpffsMount] at passedOn
    have equippedNext : Equipped (installLink base skel.object attachType cgroup
        (pinPath base.bpffsMount pid attachType) (config.limit attachType)) owner skel
        cgroupFd cgroup pid todo := equippedBase.installLink once emptyBase
    refine ⟨trivial, equippedNext.later passedOn, ?_, ?_⟩
    · rw [passedOn.quiet.bpffsMount, ← apartBase.quiet.bpffsMount]
      rfl
    · intro otherType
      rw [equippedNext.settled.slot_quiet passedOn.quiet,
        slot_installLink equippedBase.attaching.toInstallable]
      simp only [true_and, installed, if_neg unlimited,
        equipped.settled.slot_quiet apartBase.quiet]

end Direction

theorem safe_ratelimitBpfLoad (working : Working kernel owner cgroupFd cgroup pid)
    (pinDir : kernel.directories (pinDirectory kernel.bpffsMount pid) = true)
    (todo : List AttachType) :
    SafeBeside owner other
      (fun loaded final => ∃ skel, loaded = some skel ∧
        Equipped final owner skel cgroupFd cgroup pid todo ∧
        final.bpffsMount = kernel.bpffsMount ∧
        ∀ attachType, slot final pid attachType = slot kernel pid attachType)
      (.request .ratelimitBpfLoad) kernel := by
  intro later apart
  have workingLater := working.later apart
  have quiet := quiet_loadSkeleton later owner
  have load : Kernel.exec owner false later .ratelimitBpfLoad =
    (some (later.loadSkeleton owner).1, (later.loadSkeleton owner).2) := rfl
  have frame : Keeps other later _ ∧ _ := loadSkeleton_frame later owner
  have frameOwn : Keeps owner later _ ∧ _ := loadSkeleton_frame later owner
  simp only [environment_none, load]
  refine ⟨frame.1, _, rfl, ?_, apart.quiet.bpffsMount, ?_⟩
  · refine ⟨⟨workingLater.settled.quiet quiet, workingLater.isCgroup,
      workingLater.owns.kept frameOwn.1.toKeepsDescriptors⟩,
      Nat.lt_add_of_pos_right (by decide : 0 < 5), frame.2.1, frame.2.2, ?_, ?_⟩
    · have mount : (later.loadSkeleton owner).2.bpffsMount = later.bpffsMount := rfl
      have sameDirectories : (later.loadSkeleton owner).2.directories =
        later.directories := rfl
      rw [mount, sameDirectories, apart.directories, apart.quiet.bpffsMount]
      exact pinDir
    · intro path id found same
      have older := (workingLater.settled.pinIds path id found).2
      exact absurd same (Nat.ne_of_lt older)
  · intro attachType
    rw [workingLater.settled.slot_quiet quiet,
      working.settled.slot_quiet apart.quiet]

/-- What replacing the links leaves: the configured links, and descriptors that are
still to be closed. -/
structure Placed (kernel : Kernel) (owner : Process) (skel : Skeleton) (cgroupFd : Fd)
    (cgroup : CgroupId) (pid : Int32) (config : RateLimitConfig) : Prop extends
    Equipped kernel owner skel cgroupFd cgroup pid [] where
  slots : ∀ attachType,
    slot kernel pid attachType = installed config attachType .empty

theorem safe_attachBpfPrograms (working : Working kernel owner cgroupFd cgroup pid)
    (pinDir : kernel.directories (pinDirectory kernel.bpffsMount pid) = true)
    (empty : ∀ attachType, slot kernel pid attachType = .empty)
    (different : owner ≠ other) (config : RateLimitConfig) :
    SafeBeside owner other
      (fun result final => ∃ skel, result = .ok skel ∧
        Placed final owner skel cgroupFd cgroup pid config)
      (attachBpfPrograms cgroupFd (pinDirectory kernel.bpffsMount pid) config)
      kernel := by
  rw [attachBpfPrograms, safeBeside_inside]
  apply Program.Safe.bind
  apply safeBeside_request steady_ratelimitBpfOpen
  have opens : Kernel.exec owner false kernel .ratelimitBpfOpen = (true, kernel) := rfl
  rw [opens]
  intro opened apart
  simp only [Bool.not_true, Bool.false_eq_true, if_false]
  have workingOpened := working.later apart
  have pinDirOpened : opened.directories (pinDirectory opened.bpffsMount pid) =
      true := by
    rw [apart.directories, apart.quiet.bpffsMount]
    exact pinDir
  apply Program.Safe.bind
  apply (safe_ratelimitBpfLoad workingOpened pinDirOpened
    [.egress, .ingress]).weaken
  intro _ loaded holds
  rcases holds with ⟨skel, rfl, equipped, mount, slotsLoaded⟩
  rw [apart.quiet.bpffsMount] at mount
  have emptyLoaded : ∀ attachType, slot loaded pid attachType = .empty := by
    intro attachType
    rw [slotsLoaded, working.settled.slot_quiet apart.quiet]
    exact empty attachType
  -- The egress turn, then the ingress turn.
  apply Program.Safe.bind
  rw [← mount]
  apply (safe_attachDirection equipped (by decide) (emptyLoaded .egress) different
    config).weaken
  intro _ first holds
  rcases holds with ⟨rfl, equippedFirst, mountFirst, slotsFirst⟩
  simp only [ne_eq, not_true, if_false]
  apply Program.Safe.bind
  rw [← mountFirst]
  have emptyFirst : slot first pid .ingress = .empty := by
    rw [slotsFirst, if_neg AttachType.noConfusion]
    exact emptyLoaded .ingress
  apply (safe_attachDirection equippedFirst (by decide) emptyFirst different
    config).weaken
  intro _ final holds
  rcases holds with ⟨rfl, equippedFinal, _, slotsFinal⟩
  simp only [not_true, if_false]
  refine ⟨skel, rfl, equippedFinal, ?_⟩
  intro attachType
  rw [slotsFinal, slotsFirst, emptyLoaded]
  cases attachType <;> rfl

/-- Beside another client the links are replaced as they are without one. -/
theorem safe_placeLinks (working : Working kernel owner cgroupFd cgroup pid)
    (different : owner ≠ other) (config : RateLimitConfig) :
    SafeBeside owner other
      (fun result final => ∃ skel, result = .ok skel ∧
        Placed final owner skel cgroupFd cgroup pid config)
      (placeLinks pid cgroupFd config) kernel := by
  apply Program.Safe.bind
  apply (safe_detachPinnedLinks working different).weaken
  intro _ swept holds
  rcases holds with ⟨workingSwept, emptySwept⟩
  apply Program.Safe.bind
  apply (safe_createPinDir workingSwept emptySwept).weaken
  intro _ made holds
  rcases holds with ⟨rfl, workingMade, pinDir, emptyMade⟩
  exact safe_attachBpfPrograms workingMade pinDir emptyMade different config

end Pidnl.Ratelimit
