import Pidnl.Monitor.Aside

/-! # Setting and withdrawing a limit while others act

Others leave the pid alone, and nothing fails but for what has become of the process. A
limit that is not set is withdrawn as a whole; a removal that finds the cgroup leaves
nothing behind.
-/

namespace Pidnl.Monitor

open Pidnl.Foundation Pidnl.System Pidnl.Ratelimit

namespace Host

abbrev SafeAmid (owner : Process) (pid : Int32) (post : α → Host → Prop)
    (program : KernelProgram α) (host : Host) : Prop :=
  program.Safe (environment owner) (Spares pid) (fun _ _ => True) post host

section

variable {owner : Process} {pid : Int32} {host : Host}

theorem amid_inside {frame : Frame} {program : KernelProgram α} {post : α → Host → Prop} :
    SafeAmid owner pid post (program.inside frame) host ↔
      SafeAmid owner pid post program host :=
  Program.safe_inside frame

theorem amid_ask {call : KernelCall Reply} {post : Reply → Host → Prop}
    (plain : ∀ later : Host, later.refuses call = false)
    (made : ∀ later, Spares pid host later →
      post (Kernel.exec owner false later.kernel call).1
        { later with kernel := (Kernel.exec owner false later.kernel call).2 }) :
    SafeAmid owner pid post (ask call) host := by
  intro later spares
  have answered : environment owner [] call later =
      ((Kernel.exec owner false later.kernel call).1,
        { later with kernel := (Kernel.exec owner false later.kernel call).2 }) := by
    rw [environment, plain]
  simp only [answered]
  exact ⟨trivial, made later spares⟩

theorem amid_leaving {call : KernelCall Reply} {next : Reply → KernelProgram α}
    {post : α → Host → Prop} {holds : Kernel → Prop}
    (stable : ∀ before after, Ratelimit.Spares pid before after → holds before → holds after)
    (leaves : LeavesNames call) (initially : holds host.kernel)
    (rest : ∀ reply later, holds later.kernel → SafeAmid owner pid post (next reply) later) :
    SafeAmid owner pid post (ask call >>= next) host := by
  intro later spares
  refine ⟨trivial, rest _ _ ?_⟩
  apply stable _ _ (unmoved_exec leaves owner _).spares
  exact stable _ _ spares initially

theorem SafeAmid.later {program : KernelProgram α} {post : α → Kernel → Prop} {later : Host}
    (safe : SafeAmid owner pid (fun value final => post value final.kernel) program host)
    (spares : Spares pid host later)
    (stable : ∀ value before after, Ratelimit.Spares pid before after → post value before →
      post value after) :
    SafeAmid owner pid (fun value final => post value final.kernel) program later :=
  Program.Safe.later safe spares (fun _ _ _ => Ratelimit.Spares.trans) fun value =>
    stable value _ _ spares

end

end Host

open Host

variable {owner : Process} {pid : Int32} {host : Host}

/-! ## Withdrawing -/

structure Clearing (kernel : Kernel) (pid : Int32) (root : Path)
    (cleared : AttachType → Prop) : Prop extends Standing kernel pid where
  mount : kernel.bpffsMount = root
  pins : ∀ attachType, cleared attachType →
    kernel.pins.lookup (pinPath root pid attachType) = none

theorem Clearing.spared {before after : Kernel} {root : Path} {cleared : AttachType → Prop}
    (spares : Ratelimit.Spares pid before after) (clearing : Clearing before pid root cleared) :
    Clearing after pid root cleared where
  toStanding := clearing.toStanding.spared spares
  mount := spares.bpffsMount.trans clearing.mount
  pins := by
    intro attachType isCleared
    rw [spares.pins]
    exact clearing.pins attachType isCleared

theorem amid_unlink {root : Path} {cleared : AttachType → Prop} {attachType : AttachType}
    (clearing : Clearing host.kernel pid root cleared) :
    SafeAmid owner pid (fun _ final => Clearing final.kernel pid root fun other =>
        other = attachType ∨ cleared other)
      (ask (.unlink (pinPath root pid attachType))) host := by
  apply amid_ask fun _ => rfl
  intro later spares
  have clearingLater := clearing.spared spares
  have unlinked : (Kernel.exec owner false later.kernel
      (.unlink (pinPath root pid attachType))).2 =
    later.kernel.unpin (pinPath root pid attachType) := rfl
  have cgroups := cgroups_unpin later.kernel (pinPath root pid attachType)
  have bpffsMount :=
    (Kernel.frames_unpin later.kernel (pinPath root pid attachType)).bpffsMount
  rw [unlinked]
  refine ⟨clearingLater.toStanding.of_cgroups cgroups, bpffsMount.trans clearingLater.mount, ?_⟩
  intro other isCleared
  rw [lookup_unpin]
  split
  · rfl
  · rename_i different
    rcases isCleared with rfl | earlier
    · exact absurd rfl different
    · exact clearingLater.pins other earlier

theorem amid_detachPinnedLink {root : Path} {cleared : AttachType → Prop}
    {attachType : AttachType} (clearing : Clearing host.kernel pid root cleared) :
    SafeAmid owner pid (fun _ final => Clearing final.kernel pid root fun other =>
        other = attachType ∨ cleared other)
      (detachPinnedLink root pid attachType) host := by
  rw [detachPinnedLink, amid_inside]
  refine amid_leaving (fun _ _ => Clearing.spared) trivial clearing ?_
  intro opened second clearingSecond
  cases opened with
  | none => exact amid_unlink clearingSecond
  | some fd =>
      refine amid_leaving (fun _ _ => Clearing.spared) trivial clearingSecond ?_
      intro _ third clearingThird
      refine amid_leaving (fun _ _ => Clearing.spared) trivial clearingThird ?_
      intro _ fourth clearingFourth
      exact amid_unlink clearingFourth

theorem amid_detachPinnedLinks (standing : Standing host.kernel pid) :
    SafeAmid owner pid (fun _ final => Swept final.kernel pid) (detachPinnedLinks pid)
      host := by
  rw [detachPinnedLinks, amid_inside]
  apply Program.Safe.bind
  apply amid_ask fun _ => rfl
  intro first spares
  have clearing : Clearing first.kernel pid first.kernel.bpffsMount fun _ => False :=
    ⟨standing.spared spares, rfl, fun _ => False.elim⟩
  apply Program.Safe.bind
  apply (amid_detachPinnedLink clearing).weaken
  intro _ second clearingSecond
  apply Program.Safe.bind
  apply (amid_detachPinnedLink clearingSecond).weaken
  intro _ third clearingThird
  apply amid_ask fun _ => rfl
  intro fourth sparesFourth
  have leaves : LeavesNames (.rmdir (pinDirectory first.kernel.bpffsMount pid)) := trivial
  have unmoved : Unmoved fourth.kernel (Kernel.exec owner false fourth.kernel _).2 :=
    unmoved_exec leaves owner false
  have cleared := (clearingThird.spared sparesFourth).spared unmoved.spares
  refine ⟨cleared.toStanding, ?_⟩
  intro attachType
  rw [cleared.mount]
  cases attachType with
  | egress => exact cleared.pins .egress (.inr (.inl rfl))
  | ingress => exact cleared.pins .ingress (.inl rfl)

theorem amid_cgroupDeleteCgroup (swept : Swept host.kernel pid) :
    SafeAmid owner pid (fun _ final => Gone final.kernel pid)
      (ask (.cgroupDeleteCgroup (buildCgroupName pid))) host := by
  apply amid_ask fun _ => rfl
  intro later spares
  have sweptLater := swept.spared spares
  have removed : (Kernel.exec owner false later.kernel
      (.cgroupDeleteCgroup (buildCgroupName pid))).2 =
      later.kernel.removeCgroup (buildCgroupName pid) := by
    simp [Kernel.exec, sweptLater.childless.hasChildren]
  have bpffsMount :=
    (Kernel.frames_removeCgroup later.kernel (buildCgroupName pid)).bpffsMount
  rw [removed]
  constructor
  · rw [lookup_removeCgroup, if_pos rfl]
  · intro attachType
    rw [bpffsMount, pins_removeCgroup]
    exact sweptLater.pins attachType

/-- `delete_cgroup` without a descriptor leaves the pins alone. -/
theorem amid_deleteCgroup_none (swept : Swept host.kernel pid) :
    SafeAmid owner pid (fun _ final => Gone final.kernel pid)
      (deleteCgroup (buildCgroupName pid) none pid) host := by
  rw [deleteCgroup, amid_inside]
  apply Program.Safe.bind
  apply (amid_cgroupDeleteCgroup swept).weaken
  intro _ final gone
  exact gone

theorem amid_deleteCgroup (cgroupFd : Fd) (standing : Standing host.kernel pid) :
    SafeAmid owner pid (fun _ final => Gone final.kernel pid)
      (deleteCgroup (buildCgroupName pid) (some cgroupFd) pid) host := by
  rw [deleteCgroup, amid_inside]
  apply Program.Safe.bind
  apply (amid_detachPinnedLinks standing).weaken
  intro _ second swept
  refine amid_leaving (fun _ _ => Swept.spared) trivial swept ?_
  intro _ third sweptThird
  apply Program.Safe.bind
  apply (amid_cgroupDeleteCgroup sweptThird).weaken
  intro _ final gone
  exact gone

theorem amid_openCgroupFd (standing : Standing host.kernel pid) :
    SafeAmid owner pid
      (fun opened final => opened.isSome ∧ Standing final.kernel pid)
      (openCgroupFd (buildCgroupName pid)) host := by
  rw [openCgroupFd, amid_inside]
  apply Program.Safe.bind
  apply amid_ask fun _ => rfl
  intro first sparesFirst
  apply amid_ask fun _ => rfl
  intro second sparesSecond
  have mount : second.kernel.cgroup2Mount = first.kernel.cgroup2Mount :=
    sparesSecond.cgroup2Mount
  have standingSecond := (standing.spared sparesFirst).spared sparesSecond
  rcases Option.isSome_iff_exists.mp standingSecond.cgroup with ⟨cgroup, found⟩
  have opening : Kernel.exec owner false second.kernel
      (.openReadOnly (first.kernel.cgroup2Mount ++ buildCgroupName pid)) =
      (some second.kernel.nextId,
        second.kernel.openDescriptor owner (.cgroup cgroup)) := by
    have below : second.kernel.cgroup2Mount.isPrefixOf
        (second.kernel.cgroup2Mount ++ buildCgroupName pid) = true := by simp
    have cut : (second.kernel.cgroup2Mount ++ buildCgroupName pid).drop
      second.kernel.cgroup2Mount.length = buildCgroupName pid := List.drop_left
    rw [← mount]
    simp only [Kernel.exec, below, Bool.not_true, Bool.or_self, Bool.false_eq_true,
      if_false]
    rw [cut, found]
  rw [opening]
  exact ⟨rfl, standingSecond.of_cgroups rfl⟩

theorem amid_deletePidCgroup
    (either : Standing host.kernel pid ∨ Gone host.kernel pid) :
    SafeAmid owner pid (fun _ final => Gone final.kernel pid) (deletePidCgroup pid)
      host := by
  rw [deletePidCgroup, amid_inside]
  apply Program.Safe.bind
  apply amid_ask fun _ => rfl
  intro first sparesFirst
  apply Program.Safe.bind
  apply amid_ask fun _ => rfl
  intro second sparesSecond
  rcases standing_or_gone_spared (sparesFirst.trans sparesSecond) either with standing | gone
  · have present : Kernel.exec owner false second.kernel
        (.cgroupGetCgroup (buildCgroupName pid)) = (true, second.kernel) := by
      simp [Kernel.exec, standing.cgroup]
    rw [present]
    apply Program.Safe.bind
    apply (amid_openCgroupFd standing).weaken
    intro opened third holds
    rcases Option.isSome_iff_exists.mp holds.1 with ⟨cgroupFd, rfl⟩
    apply Program.Safe.bind
    apply (amid_deleteCgroup cgroupFd holds.2).weaken
    intro _ final gone
    exact gone
  · have absent : Kernel.exec owner false second.kernel
        (.cgroupGetCgroup (buildCgroupName pid)) = (false, second.kernel) := by
      simp [Kernel.exec, gone.cgroup]
    rw [absent]
    exact gone

/-! ## Setting -/

/-- Nothing is left of the pid, and no cgroup is below where its own would be. -/
structure Clear (kernel : Kernel) (pid : Int32) : Prop extends Gone kernel pid where
  childless : Childless kernel pid

theorem Clear.spared {before after : Kernel} (spares : Ratelimit.Spares pid before after)
    (clear : Clear before pid) : Clear after pid :=
  ⟨clear.toGone.spared spares, clear.childless.spared spares⟩

theorem childless_ensureCgroup {kernel : Kernel} {name : Path} (childless : Childless kernel pid)
    (notBelow : buildCgroupName pid <+: name → name = buildCgroupName pid) :
    Childless (kernel.ensureCgroup name) pid := by
  intro other present below
  rw [lookup_ensureCgroup] at present
  split at present
  · rename_i new
    rw [new.1] at below ⊢
    exact notBelow below
  · exact childless other present below

theorem Clear.ensureRoot {kernel : Kernel} (clear : Clear kernel pid) :
    Clear (kernel.ensureCgroup [cgroupRoot]) pid := by
  rcases ensureCgroup_frame kernel [cgroupRoot] with ⟨_, bpffsMount, _, pins, _⟩
  refine ⟨⟨?_, ?_⟩, childless_ensureCgroup clear.childless ?_⟩
  · rw [lookup_ensureCgroup, if_neg]
    · exact clear.cgroup
    · exact fun same => buildCgroupName_ne_root pid same.1
  · intro attachType
    rw [bpffsMount, pins]
    exact clear.pins attachType
  · intro below
    exact absurd below.length_le (by simp [buildCgroupName])

theorem Clear.ensureOwn {kernel : Kernel} (clear : Clear kernel pid) :
    Swept (kernel.ensureCgroup (buildCgroupName pid)) pid := by
  rcases ensureCgroup_frame kernel (buildCgroupName pid) with ⟨_, bpffsMount, _, pins, _⟩
  refine ⟨⟨?_, childless_ensureCgroup clear.childless fun _ => rfl⟩, ?_⟩
  · rw [lookup_ensureCgroup, if_pos ⟨rfl, clear.cgroup⟩]
    rfl
  · intro attachType
    rw [bpffsMount, pins]
    exact clear.pins attachType

theorem amid_createCgroup {name : Path} {post : Host → Prop}
    (made : ∀ later, Spares pid host later →
      post { later with kernel :=
        (Kernel.exec owner false later.kernel (.cgroupCreateCgroup name)).2 }) :
    SafeAmid owner pid (fun code final => code = .ok ∧ post final) (createCgroup name)
      host := by
  rw [createCgroup, amid_inside]
  apply Program.Safe.bind
  apply amid_ask fun _ => rfl
  intro first sparesFirst
  apply Program.Safe.bind
  apply amid_ask fun _ => rfl
  intro second sparesSecond
  have succeeds : (Kernel.exec owner false second.kernel (.cgroupCreateCgroup name)).1 ≠
      .failed := by
    simp only [Kernel.exec]
    split
    · contradiction
    · split
      · exact CreateReply.noConfusion
      · exact CreateReply.noConfusion
  rw [if_neg succeeds]
  exact ⟨rfl, made second (sparesFirst.trans sparesSecond)⟩

theorem amid_createRoot (clear : Clear host.kernel pid) :
    SafeAmid owner pid (fun code final => code = .ok ∧ Clear final.kernel pid)
      (createCgroup [cgroupRoot]) host := by
  apply amid_createCgroup
  intro later spares
  have clearLater := clear.spared spares
  simp only [Kernel.exec, Bool.false_eq_true, if_false]
  split
  · exact clearLater
  · exact clearLater.ensureRoot

theorem amid_createOwn (clear : Clear host.kernel pid) :
    SafeAmid owner pid (fun code final => code = .ok ∧ Swept final.kernel pid)
      (createCgroup (buildCgroupName pid)) host := by
  apply amid_createCgroup
  intro later spares
  have clearLater := clear.spared spares
  simp only [Kernel.exec, Bool.false_eq_true, if_false, clearLater.cgroup, Option.isSome_none]
  exact clearLater.ensureRoot.ensureOwn

theorem amid_replacing {program : KernelProgram α}
    (makes : program.Makes fun _ call => ReplacesLinks call)
    (standing : Standing host.kernel pid) :
    SafeAmid owner pid (fun _ final => Standing final.kernel pid) program host := by
  refine makes.safe (fun _ _ spares standing => standing.spared spares) ?_ standing
  intro Reply site call state replaces standing
  exact ⟨trivial, standing.of_cgroups (exec_cgroups replaces.keepsCgroups owner _)⟩

structure Left (pid : Int32) (code : RatelimitCode) (kernel : Kernel) : Prop where
  either : Standing kernel pid ∨ Gone kernel pid
  withdrawn : code ≠ .ok → Gone kernel pid

theorem Left.of_gone {kernel : Kernel} (code : RatelimitCode) (gone : Gone kernel pid) :
    Left pid code kernel := ⟨.inr gone, fun _ => gone⟩

theorem Left.of_standing {kernel : Kernel} (standing : Standing kernel pid) :
    Left pid .ok kernel := ⟨.inl standing, absurd rfl⟩

theorem Left.spared {code : RatelimitCode} {before after : Kernel}
    (spares : Ratelimit.Spares pid before after) (left : Left pid code before) :
    Left pid code after where
  either := standing_or_gone_spared spares left.either
  withdrawn := fun failed => (left.withdrawn failed).spared spares

theorem amid_undone (code : RatelimitCode) (cgroupFd : Fd)
    (standing : Standing host.kernel pid) :
    SafeAmid owner pid (fun code final => Left pid code final.kernel)
      (do
        deleteCgroup (buildCgroupName pid) (some cgroupFd) pid
        return code) host := by
  apply Program.Safe.bind
  apply (amid_deleteCgroup cgroupFd standing).weaken
  intro _ final gone
  exact .of_gone code gone

theorem amid_replaceLinks (cgroupFd : Fd) (config : RateLimitConfig)
    (standing : Standing host.kernel pid) :
    SafeAmid owner pid (fun code final => Left pid code final.kernel)
      (replaceLinks pid cgroupFd config) host := by
  rw [replaceLinks]
  refine amid_leaving (fun _ _ => Standing.spared) trivial standing ?_
  intro allocated second standingSecond
  split
  · exact amid_undone _ cgroupFd standingSecond
  apply Program.Safe.bind
  apply (amid_replacing (makes_detachPinnedLinks pid) standingSecond).weaken
  intro _ third standingThird
  apply Program.Safe.bind
  apply (amid_replacing (replacesLinks_createPinDir pid) standingThird).weaken
  intro directory fourth standingFourth
  cases directory with
  | error code => exact amid_undone code cgroupFd standingFourth
  | ok pinDir =>
      apply Program.Safe.bind
      apply (amid_replacing (makes_attachBpfPrograms cgroupFd pinDir config)
        standingFourth).weaken
      intro attached fifth standingFifth
      cases attached with
      | error code => exact amid_undone code cgroupFd standingFifth
      | ok skel =>
          refine amid_leaving (fun _ _ => Standing.spared) trivial standingFifth ?_
          intro _ sixth standingSixth
          refine amid_leaving (fun _ _ => Standing.spared) trivial standingSixth ?_
          intro _ final standingFinal
          exact .of_standing standingFinal

theorem amid_installLimit (config : RateLimitConfig) (clear : Clear host.kernel pid) :
    SafeAmid owner pid (fun code final => Left pid code final.kernel)
      (installLimit pid config) host := by
  have withdrawn : ∀ (code : RatelimitCode) (later : Host),
      Swept later.kernel pid →
      SafeAmid owner pid (fun code final => Left pid code final.kernel)
        (do
          deleteCgroup (buildCgroupName pid) none pid
          return code) later := by
    intro code later swept
    apply Program.Safe.bind
    apply (amid_deleteCgroup_none swept).weaken
    intro _ final gone
    exact .of_gone code gone
  rw [installLimit]
  split
  · exact .of_gone .invalidPid clear.toGone
  apply Program.Safe.bind
  apply (amid_createRoot clear).weaken
  intro parent second holds
  rcases holds with ⟨rfl, clearSecond⟩
  apply Program.Safe.bind
  apply (amid_createOwn clearSecond).weaken
  intro child third holds
  rcases holds with ⟨rfl, sweptThird⟩
  refine amid_leaving (fun _ _ => Swept.spared) trivial sweptThird ?_
  intro joined fourth sweptFourth
  split
  · exact withdrawn _ fourth sweptFourth
  apply Program.Safe.bind
  apply (amid_openCgroupFd sweptFourth.toStanding).weaken
  intro opened fifth holds
  rcases Option.isSome_iff_exists.mp holds.1 with ⟨cgroupFd, rfl⟩
  exact amid_replaceLinks cgroupFd config holds.2

end Pidnl.Monitor
