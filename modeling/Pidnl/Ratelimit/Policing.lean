import Pidnl.Ratelimit.Traffic
import Pidnl.Ratelimit.Apart

/-! # Packets while limits are being set up

`attach_bpf_programs` writes a direction's limit before it attaches the direction's
program, and writes none for a direction without a limit. So whatever packets come
while it is at work, and after it, each meets its own direction's limit or none.
-/

namespace Pidnl.Ratelimit

open Pidnl.Foundation Pidnl.System
open Pidnl.Bpf (Packet Verdict RateLimitState)

def refuses : KernelCall Reply → Reply → Bool
  | .bpfLinkPin _ _, pinned => !pinned
  | _, _ => false

structure Attempt where
  kernel : Kernel
  refused : Bool

namespace Attempt

def exec (owner : Process) (fails : Bool) (attempt : Attempt)
    (call : KernelCall Reply) : Reply × Attempt :=
  let outcome := Kernel.exec owner fails attempt.kernel call
  (outcome.1,
    { kernel := outcome.2, refused := attempt.refused || refuses call outcome.1 })

def environment (owner : Process) (faults : Faults) :
    Environment Frame KernelCall Attempt :=
  fun site call attempt => exec owner (faults site call.function) attempt call

structure Rely (cgroup : CgroupId) (before after : Attempt) : Prop where
  traffic : Traffic cgroup before.kernel after.kernel
  refused : after.refused = before.refused

/-- What a call may do to the policers: those of a limited direction come to be as
configured, with an empty bucket, and go only where a pin has been refused. -/
structure Changes (config : RateLimitConfig) (cgroup : CgroupId)
    (before after : Attempt) : Prop where
  refused : before.refused = true → after.refused = true
  policers : ∀ attachType,
    policers after.kernel cgroup attachType = policers before.kernel cgroup attachType ∨
      (before.refused = false ∧ config.limit attachType ≠ RATELIMIT_UNLIMITED ∧
        policers before.kernel cgroup attachType = [] ∧
        policers after.kernel cgroup attachType =
          [(some (config.limit attachType), some .zero)]) ∨
      (policers after.kernel cgroup attachType = [] ∧ after.refused = true)

variable {attempt : Attempt} {kernel : Kernel} {cgroup : CgroupId}
  {config : RateLimitConfig} {owner : Process}

theorem changes_of_same {call : KernelCall Reply} {fails : Bool}
    (same : ∀ attachType,
      Ratelimit.policers (Kernel.exec owner fails attempt.kernel call).2 cgroup
        attachType = Ratelimit.policers attempt.kernel cgroup attachType) :
    Changes config cgroup attempt (attempt.exec owner fails call).2 := by
  constructor
  · intro refused
    simp [exec, refused]
  · intro attachType
    exact .inl (same attachType)

theorem Rely.refl (attempt : Attempt) : Rely cgroup attempt attempt :=
  ⟨.refl _, rfl⟩

theorem Rely.trans {first second third : Attempt} (earlier : Rely cgroup first second)
    (later : Rely cgroup second third) : Rely cgroup first third :=
  ⟨earlier.traffic.trans later.traffic, later.refused.trans earlier.refused⟩

end Attempt

/-! ## What stands while the programs are attached -/

structure Prepared (kernel : Kernel) (cgroupFd : Fd) (cgroup : CgroupId) : Prop where
  unused : Unused kernel
  isOpen : kernel.target? cgroupFd = some (.cgroup cgroup)
  used : cgroupFd < kernel.nextId

/-- The object is loaded. Directions still to be done have no program attached, and
an empty bucket in the object's map. -/
structure Loaded (kernel : Kernel) (skel : Skeleton) (cgroupFd : Fd)
    (cgroup : CgroupId) (todo : List AttachType) : Prop extends
    Prepared kernel cgroupFd cgroup where
  limitsFd : kernel.target? skel.rateLimitsFd = some (.map skel.object .rateLimits)
  fds : ∀ fd ∈ skel.rateLimitsFd :: skel.otherFds,
    fd < kernel.nextId ∧ ∀ id, kernel.target? fd ≠ some (.link id)
  waiting : ∀ attachType ∈ todo, kernel.attached cgroup attachType = [] ∧
    stateFor kernel attachType skel.object = some .zero

variable {kernel after : Kernel} {skel : Skeleton} {cgroupFd : Fd}
  {cgroup : CgroupId} {todo : List AttachType} {attachType : AttachType}

theorem Prepared.traffic (prepared : Prepared kernel cgroupFd cgroup)
    (traffic : Traffic cgroup kernel after) : Prepared after cgroupFd cgroup := by
  rw [traffic.same]
  exact ⟨prepared.unused, prepared.isOpen, prepared.used⟩

theorem Loaded.traffic (loaded : Loaded kernel skel cgroupFd cgroup todo)
    (traffic : Traffic cgroup kernel after) :
    Loaded after skel cgroupFd cgroup todo := by
  have same := traffic.same
  refine ⟨loaded.toPrepared.traffic traffic, ?_, ?_, ?_⟩
  · rw [same]
    exact loaded.limitsFd
  · rw [same]
    exact loaded.fds
  · intro other member
    rcases loaded.waiting other member with ⟨none, zero⟩
    exact ⟨(traffic.attached other).trans none,
      (traffic.states other none _).trans zero⟩

theorem policers_of_same (unused : Unused kernel) (nextId : kernel.nextId ≤ after.nextId)
    (links : after.links = kernel.links) (objects : after.objects = kernel.objects) :
    policers after cgroup attachType = policers kernel cgroup attachType := by
  apply policers_congr unused nextId
  · intro id
    rw [Kernel.IsAttached, Kernel.IsAttached, links]
  · intro id _
    rw [links]
    simp only [limitFor, stateFor, objects, and_self]

theorem closeDescriptors_frame {fds : List Fd}
    (notLinks : ∀ fd ∈ fds, ∀ id, kernel.target? fd ≠ some (.link id)) :
    (fds.foldl Kernel.closeDescriptor kernel).links = kernel.links ∧
      (fds.foldl Kernel.closeDescriptor kernel).objects = kernel.objects ∧
      (fds.foldl Kernel.closeDescriptor kernel).nextId = kernel.nextId := by
  induction fds generalizing kernel with
  | nil => exact ⟨rfl, rfl, rfl⟩
  | cons fd fds induction =>
      have closed := closeDescriptor_of_notLink (notLinks fd List.mem_cons_self)
      have rest : ∀ other ∈ fds, ∀ id,
          (kernel.closeDescriptor fd).target? other ≠ some (.link id) := by
        intro other member id held
        rw [Kernel.target?, closeDescriptor_descriptors, Function.update_apply] at held
        split at held
        · contradiction
        · exact notLinks other (List.mem_cons_of_mem _ member) id held
      rcases induction rest with ⟨links, objects, nextId⟩
      rw [List.foldl_cons, links, objects, nextId, closed]
      exact ⟨rfl, rfl, rfl⟩

/-! ## The calls of `attach_bpf_programs` -/

structure Executes (owner : Process)
    (environment : Environment Frame KernelCall Attempt) : Prop where
  call : ∀ {Reply : Type} (site : List Frame) (request : KernelCall Reply)
    (attempt : Attempt),
    ∃ fails, environment site request attempt = attempt.exec owner fails request

theorem executes_environment (owner : Process) (faults : Faults) :
    Executes owner (Attempt.environment owner faults) :=
  ⟨fun _ _ _ => ⟨_, rfl⟩⟩

/-- Whatever packets come between its calls, the program changes the policers only
as it may. -/
abbrev SafePolicing (config : RateLimitConfig) (cgroup : CgroupId)
    (environment : Environment Frame KernelCall Attempt) (post : α → Attempt → Prop)
    (program : KernelProgram α) (attempt : Attempt) : Prop :=
  program.Safe environment (Attempt.Rely cgroup) (Attempt.Changes config cgroup) post
    attempt

variable {owner : Process} {config : RateLimitConfig} {attempt : Attempt}
  {environment : Environment Frame KernelCall Attempt}

theorem Executes.inside (executes : Executes owner environment) (frame : Frame) :
    Executes owner fun site => environment (frame :: site) :=
  ⟨fun site request attempt => executes.call (frame :: site) request attempt⟩

theorem safePolicing_inside {frame : Frame} {program : KernelProgram α}
    {post : α → Attempt → Prop} :
    SafePolicing config cgroup environment post (program.inside frame) attempt ↔
      SafePolicing config cgroup (fun site => environment (frame :: site)) post program
        attempt :=
  Program.safe_inside frame

theorem safe_ask (executes : Executes owner environment) {call : KernelCall Reply}
    {post : Reply → Attempt → Prop}
    (made : ∀ later, Attempt.Rely cgroup attempt later → ∀ fails,
      Attempt.Changes config cgroup later (later.exec owner fails call).2 ∧
        post (later.exec owner fails call).1 (later.exec owner fails call).2) :
    SafePolicing config cgroup environment post (.request call) attempt := by
  intro later relied
  rcases executes.call [] call later with ⟨fails, same⟩
  simp only [same]
  exact made later relied fails

theorem safe_askQuietly (executes : Executes owner environment)
    {call : KernelCall Reply} {post : Reply → Attempt → Prop}
    (made : ∀ later, Attempt.Rely cgroup attempt later → ∀ fails, ∃ reply kernel,
      Kernel.exec owner fails later.kernel call = (reply, kernel) ∧
        refuses call reply = false ∧
        (∀ attachType, policers kernel cgroup attachType =
          policers later.kernel cgroup attachType) ∧
        post reply { kernel := kernel, refused := later.refused }) :
    SafePolicing config cgroup environment post (.request call) attempt := by
  apply safe_ask executes
  intro later relied fails
  rcases made later relied fails with ⟨reply, kernel, outcome, accepted, same, holds⟩
  have result : later.exec owner fails call =
      (reply, { kernel := kernel, refused := later.refused }) := by
    simp only [Attempt.exec, outcome, accepted, Bool.or_false]
  constructor
  · apply Attempt.changes_of_same
    intro attachType
    rw [outcome]
    exact same attachType
  · rw [result]
    exact holds

/-- On an error the object is given up; what is attached keeps its maps. -/
theorem safe_giveUp (executes : Executes owner environment)
    (loaded : Loaded attempt.kernel skel cgroupFd cgroup todo) (value : α) :
    SafePolicing config cgroup environment (fun result _ => result = value)
      (do ask (.ratelimitBpfDestroy (some skel)); return value) attempt := by
  apply Program.Safe.bind
  apply safe_askQuietly executes
  intro later relied fails
  have loadedLater := loaded.traffic relied.traffic
  have notLinks : ∀ fd ∈ skel.rateLimitsFd :: skel.otherFds, ∀ id,
      later.kernel.target? fd ≠ some (.link id) := fun fd member =>
    (loadedLater.fds fd member).2
  rcases closeDescriptors_frame notLinks with ⟨links, objects, nextId⟩
  refine ⟨(), _, rfl, rfl, ?_, rfl⟩
  intro attachType
  exact policers_of_same loadedLater.unused nextId.ge links objects

section Turn

structure Written (kernel : Kernel) (skel : Skeleton) (cgroupFd : Fd)
    (cgroup : CgroupId) (config : RateLimitConfig) (attachType : AttachType)
    (todo : List AttachType) : Prop extends
    Loaded kernel skel cgroupFd cgroup (attachType :: todo) where
  limit : limitFor kernel attachType skel.object = some (config.limit attachType)

structure Hanging (kernel : Kernel) (skel : Skeleton) (cgroupFd : Fd)
    (cgroup : CgroupId) (attachType : AttachType) (todo : List AttachType)
    (fd : Fd) (id : LinkId) (refs : Nat) : Prop extends
    Loaded kernel skel cgroupFd cgroup todo where
  held : kernel.target? fd = some (.link id)
  link : (kernel.links id).attachType = attachType
  refs : (kernel.links id).refs = refs
  only : ∀ other, kernel.IsAttached cgroup attachType other ↔ other = id

theorem Written.traffic
    (written : Written kernel skel cgroupFd cgroup config attachType todo)
    (traffic : Traffic cgroup kernel after) :
    Written after skel cgroupFd cgroup config attachType todo :=
  ⟨written.toLoaded.traffic traffic, (traffic.limits _ _).trans written.limit⟩

theorem Loaded.updateLimit
    (loaded : Loaded kernel skel cgroupFd cgroup (attachType :: todo)) :
    let updated := kernel.updateLimit skel.object attachType.direction.key
      (config.limit attachType)
    Written updated skel cgroupFd cgroup config attachType todo ∧
      ∀ other, policers updated cgroup other = policers kernel cgroup other := by
  intro updated
  have states : ∀ other object, stateFor updated other object =
      stateFor kernel other object := by
    intro other object
    simp only [stateFor, updated, Kernel.updateLimit, Function.update_apply]
    split
    · rename_i same
      rw [same]
    · rfl
  refine ⟨⟨⟨⟨loaded.unused, loaded.isOpen, loaded.used⟩, loaded.limitsFd, loaded.fds,
    ?_⟩, ?_⟩, ?_⟩
  · intro other member
    rcases loaded.waiting other member with ⟨none, zero⟩
    exact ⟨none, (states other _).trans zero⟩
  · simp only [limitFor, updated, Kernel.updateLimit, Function.update_self,
      Pidnl.Bpf.ArrayMap.lookupElem_updateElem]
  · intro other
    have nextId : kernel.nextId ≤ updated.nextId := Nat.le_refl _
    apply policers_congr loaded.unused nextId
    · intro id
      rfl
    · intro id isAttached
      refine ⟨?_, states other _⟩
      have different : other.direction ≠ attachType.direction := by
        intro same
        have none := (loaded.waiting attachType List.mem_cons_self).1
        rw [attached_eq_nil_iff loaded.unused] at none
        exact none id (AttachType.direction_injective same ▸ isAttached)
      have links : updated.links id = kernel.links id := rfl
      rw [links]
      simp only [limitFor, updated, Kernel.updateLimit, Function.update_apply]
      split
      · rename_i same
        simp only [same]
        exact Pidnl.Bpf.ArrayMap.lookupElem_updateElem_of_ne _ different _
      · rfl

theorem isAttached_attachProgram (unused : Unused kernel) (owner : Process)
    (object : ObjectId) (other : AttachType) (id : LinkId) :
    (kernel.attachProgram owner object attachType cgroup).IsAttached cgroup other id ↔
      id = kernel.nextId ∧ other = attachType ∨ kernel.IsAttached cgroup other id := by
  by_cases same : id = kernel.nextId
  · subst same
    have dead : ¬ kernel.IsAttached cgroup other kernel.nextId := by
      intro isAttached
      have lives := isAttached.1
      rw [unused _ (Nat.le_refl _)] at lives
      exact absurd lives (Nat.lt_irrefl 0)
    simp only [Kernel.IsAttached, Kernel.attachProgram, Kernel.openDescriptor,
      Function.update_self, Nat.one_pos, true_and]
    constructor
    · exact fun equal => .inl equal.symm
    · intro either
      rcases either with equal | isAttached
      · exact equal.symm
      · exact absurd isAttached dead
  · simp only [Kernel.IsAttached, Kernel.attachProgram, Kernel.openDescriptor,
      Function.update_of_ne same, same, false_and, false_or]

theorem Written.attachProgram
    (written : Written kernel skel cgroupFd cgroup config attachType todo)
    (once : attachType ∉ todo) (owner : Process) :
    let attached := kernel.attachProgram owner skel.object attachType cgroup
    Hanging attached skel cgroupFd cgroup attachType todo (kernel.nextId + 1)
        kernel.nextId 1 ∧
      policers kernel cgroup attachType = [] ∧
      policers attached cgroup attachType =
        [(some (config.limit attachType), some .zero)] ∧
      ∀ other, other ≠ attachType →
        policers attached cgroup other = policers kernel cgroup other := by
  intro attached
  have isAttached : ∀ other id, attached.IsAttached cgroup other id ↔
      id = kernel.nextId ∧ other = attachType ∨ kernel.IsAttached cgroup other id :=
    isAttached_attachProgram written.unused owner skel.object
  have own := written.waiting attachType List.mem_cons_self
  have none := (attached_eq_nil_iff written.unused).mp own.1
  have nextId : kernel.nextId ≤ attached.nextId := Nat.le_add_right _ 2
  have older : ∀ {fd}, fd < kernel.nextId → fd ≠ kernel.nextId + 1 := fun used =>
    Nat.ne_of_lt (Nat.lt_succ_of_lt used)
  have target : ∀ {fd}, fd < kernel.nextId → attached.target? fd = kernel.target? fd := by
    intro fd used
    simp only [attached, Kernel.target?, Kernel.attachProgram, Kernel.openDescriptor,
      Function.update_of_ne (older used)]
  have link : attached.links kernel.nextId =
      { cgroup := some cgroup, attachType := attachType, object := skel.object
        refs := 1 } := by
    simp only [attached, Kernel.attachProgram, Kernel.openDescriptor,
      Function.update_self]
  have unused : Unused attached := by
    intro id fresh
    have fresh' : kernel.nextId + 2 ≤ id := fresh
    have different : id ≠ kernel.nextId := by omega
    simp only [attached, Kernel.attachProgram, Kernel.openDescriptor,
      Function.update_of_ne different]
    exact written.unused id (by omega)
  have only : ∀ id, attached.IsAttached cgroup attachType id ↔ id = kernel.nextId := by
    intro id
    rw [isAttached]
    constructor
    · intro either
      rcases either with equal | older
      · exact equal.1
      · exact absurd older (none id)
    · exact fun equal => .inl ⟨equal, rfl⟩
  refine ⟨⟨⟨⟨unused, ?_, ?_⟩, ?_, ?_, ?_⟩, ?_, ?_, ?_, only⟩, ?_, ?_, ?_⟩
  · rw [target written.used]
    exact written.isOpen
  · exact written.used.trans_le nextId
  · rw [target (written.fds _ List.mem_cons_self).1]
    exact written.limitsFd
  · intro fd member
    rcases written.fds fd member with ⟨used, notLink⟩
    rw [target used]
    exact ⟨used.trans_le nextId, notLink⟩
  · intro other member
    rcases written.waiting other (List.mem_cons_of_mem _ member) with ⟨nothing, zero⟩
    refine ⟨?_, zero⟩
    rw [attached_congr written.unused nextId, nothing]
    intro id
    rw [isAttached]
    constructor
    · intro either
      rcases either with ⟨_, same⟩ | older
      · exact absurd (same ▸ member) once
      · exact older
    · exact .inr
  · simp only [attached, Kernel.target?, Kernel.attachProgram, Kernel.openDescriptor,
      Function.update_self, Option.map_some]
  · rw [link]
  · rw [link]
  · exact policers_eq_nil.mpr own.1
  · rw [policers, attached_eq_singleton unused only, List.map_singleton, link]
    have limit := written.limit
    have state := own.2
    exact congrArg₂ (fun first second => [(first, second)]) limit state
  · intro other different
    apply policers_congr written.unused nextId
    · intro id
      rw [isAttached]
      constructor
      · intro either
        rcases either with ⟨_, same⟩ | older
        · exact absurd same different
        · exact older
      · exact .inr
    · intro id lives
      have differentId : id ≠ kernel.nextId := by
        intro same
        have dead := written.unused id same.ge
        have positive := lives.1
        omega
      have links : attached.links id = kernel.links id := by
        simp only [attached, Kernel.attachProgram, Kernel.openDescriptor,
          Function.update_of_ne differentId]
      rw [links]
      exact ⟨rfl, rfl⟩

theorem Hanging.traffic {fd : Fd} {id : LinkId} {refs : Nat}
    (hanging : Hanging kernel skel cgroupFd cgroup attachType todo fd id refs)
    (traffic : Traffic cgroup kernel after) :
    Hanging after skel cgroupFd cgroup attachType todo fd id refs := by
  have same := traffic.same
  refine ⟨hanging.toLoaded.traffic traffic, ?_, ?_, ?_, ?_⟩
  · rw [same]
    exact hanging.held
  · rw [same]
    exact hanging.link
  · rw [same]
    exact hanging.refs
  · rw [same]
    exact hanging.only

theorem isAttached_pinLink {id : LinkId} (lives : 0 < (kernel.links id).refs)
    (path : Path) (other : AttachType) (link : LinkId) :
    (kernel.pinLink id path).IsAttached cgroup other link ↔
      kernel.IsAttached cgroup other link := by
  by_cases same : link = id
  · subst same
    simp only [Kernel.IsAttached, Kernel.pinLink, Kernel.holdLink, Function.update_self,
      Nat.succ_pos, lives]
  · simp only [Kernel.IsAttached, Kernel.pinLink, Kernel.holdLink,
      Function.update_of_ne same]

theorem pinLink_object (kernel : Kernel) (id link : LinkId) (path : Path) :
    ((kernel.pinLink id path).links link).object = (kernel.links link).object := by
  by_cases same : link = id
  · subst same
    simp only [Kernel.pinLink, Kernel.holdLink, Function.update_self]
  · simp only [Kernel.pinLink, Kernel.holdLink, Function.update_of_ne same]

theorem Hanging.pinLink {fd : Fd} {id : LinkId}
    (hanging : Hanging kernel skel cgroupFd cgroup attachType todo fd id 1)
    (path : Path) :
    Hanging (kernel.pinLink id path) skel cgroupFd cgroup attachType todo fd id 2 ∧
      ∀ other, policers (kernel.pinLink id path) cgroup other =
        policers kernel cgroup other := by
  have lives : 0 < (kernel.links id).refs := by
    rw [hanging.refs]
    exact Nat.one_pos
  have nextId : kernel.nextId ≤ (kernel.pinLink id path).nextId := Nat.le_refl _
  have isAttached : ∀ other link, (kernel.pinLink id path).IsAttached cgroup other link ↔
    kernel.IsAttached cgroup other link := isAttached_pinLink lives path
  refine ⟨⟨⟨⟨?_, hanging.isOpen, hanging.used⟩, hanging.limitsFd, hanging.fds, ?_⟩,
    hanging.held, ?_, ?_, ?_⟩, ?_⟩
  · intro link fresh
    have different : link ≠ id := by
      intro same
      have dead := hanging.unused link fresh
      rw [same] at dead
      omega
    simp only [Kernel.pinLink, Kernel.holdLink, Function.update_of_ne different]
    exact hanging.unused link fresh
  · intro other member
    rcases hanging.waiting other member with ⟨none, zero⟩
    exact ⟨(attached_congr hanging.unused nextId (isAttached other)).trans none, zero⟩
  · simp only [Kernel.pinLink, Kernel.holdLink, Function.update_self, hanging.link]
  · simp only [Kernel.pinLink, Kernel.holdLink, Function.update_self, hanging.refs]
  · intro other
    rw [isAttached]
    exact hanging.only other
  · intro other
    apply policers_congr hanging.unused nextId (isAttached other)
    intro link _
    rw [pinLink_object]
    exact ⟨rfl, rfl⟩

theorem Hanging.isAttached_closeDescriptor {fd : Fd} {id : LinkId} {refs : Nat}
    (hanging : Hanging kernel skel cgroupFd cgroup attachType todo fd id (refs + 1))
    {other : AttachType} (kept : other = attachType → 0 < refs) (link : LinkId) :
    (kernel.closeDescriptor fd).IsAttached cgroup other link ↔
      kernel.IsAttached cgroup other link := by
  rw [closeDescriptor_of_link hanging.held]
  by_cases same : link = id
  · subst same
    simp only [Kernel.IsAttached, Kernel.releaseLink, Function.update_self, hanging.refs,
      hanging.link, Nat.add_sub_cancel]
    constructor
    · intro isAttached
      exact ⟨Nat.succ_pos refs, isAttached.2⟩
    · intro isAttached
      exact ⟨kept isAttached.2.2.symm, isAttached.2⟩
  · simp only [Kernel.IsAttached, Kernel.releaseLink, Function.update_of_ne same]

theorem Hanging.closeDescriptor {fd : Fd} {id : LinkId} {refs : Nat}
    (hanging : Hanging kernel skel cgroupFd cgroup attachType todo fd id (refs + 1))
    (once : attachType ∉ todo) :
    Loaded (kernel.closeDescriptor fd) skel cgroupFd cgroup todo ∧
      (∀ other, (other = attachType → 0 < refs) →
        policers (kernel.closeDescriptor fd) cgroup other =
          policers kernel cgroup other) ∧
      (refs = 0 → policers (kernel.closeDescriptor fd) cgroup attachType = []) := by
  have closed := closeDescriptor_of_link hanging.held
  have nextId : kernel.nextId ≤ (kernel.closeDescriptor fd).nextId :=
    (closeDescriptor_frame kernel fd).2.2.2.2.ge
  have unused : Unused (kernel.closeDescriptor fd) := by
    intro link fresh
    rw [closed] at fresh ⊢
    have dead : (kernel.links link).refs = 0 := hanging.unused link fresh
    by_cases same : link = id
    · subst same
      simp only [Kernel.releaseLink, Function.update_self, dead]
    · simp only [Kernel.releaseLink, Function.update_of_ne same, dead]
  have target : ∀ other, kernel.target? other ≠ some (.link id) →
      (kernel.closeDescriptor fd).target? other = kernel.target? other := by
    intro other notLink
    have different : other ≠ fd := by
      intro same
      rw [same, hanging.held] at notLink
      exact notLink rfl
    rw [Kernel.target?, closeDescriptor_descriptors, Function.update_of_ne different]
    rfl
  have object : ∀ link, ((kernel.closeDescriptor fd).links link).object =
      (kernel.links link).object := by
    intro link
    rw [closed]
    by_cases same : link = id
    · subst same
      simp only [Kernel.releaseLink, Function.update_self]
    · simp only [Kernel.releaseLink, Function.update_of_ne same]
  have objects : (kernel.closeDescriptor fd).objects = kernel.objects := by
    rw [closed]
    rfl
  refine ⟨⟨⟨unused, ?_, hanging.used.trans_le nextId⟩, ?_, ?_, ?_⟩, ?_, ?_⟩
  · rw [target]
    · exact hanging.isOpen
    · rw [hanging.isOpen]
      exact fun equal => Target.noConfusion (Option.some.inj equal)
  · rw [target]
    · exact hanging.limitsFd
    · rw [hanging.limitsFd]
      exact fun equal => Target.noConfusion (Option.some.inj equal)
  · intro other member
    rcases hanging.fds other member with ⟨used, notLink⟩
    refine ⟨used.trans_le nextId, ?_⟩
    rw [target other (notLink id)]
    exact notLink
  · intro other member
    rcases hanging.waiting other member with ⟨none, zero⟩
    have kept : other = attachType → 0 < refs := fun same => absurd (same ▸ member) once
    refine ⟨?_, ?_⟩
    · rw [attached_congr hanging.unused nextId (hanging.isAttached_closeDescriptor kept),
        none]
    · rw [stateFor, objects]
      exact zero
  · intro other kept
    apply policers_congr hanging.unused nextId (hanging.isAttached_closeDescriptor kept)
    intro link _
    simp only [object, limitFor, stateFor, objects, and_self]
  · intro last
    rw [policers_eq_nil, attached_eq_nil_iff unused]
    intro link isAttached
    rw [closed] at isAttached
    by_cases same : link = id
    · subst same
      simp only [Kernel.IsAttached, Kernel.releaseLink, Function.update_self,
        hanging.refs, last] at isAttached
      exact absurd isAttached.1 (by decide)
    · simp only [Kernel.IsAttached, Kernel.releaseLink,
        Function.update_of_ne same] at isAttached
      exact same ((hanging.only link).mp isAttached)

/-- Pinning the link and closing its descriptor: the program stays attached, or the pin
is refused and it goes. -/
theorem policing_pinLink (executes : Executes owner environment) {link : Fd}
    {id : LinkId}
    (hanging : Hanging attempt.kernel skel cgroupFd cgroup attachType todo link id 1)
    (unrefused : attempt.refused = false) (once : attachType ∉ todo) (path : Path) :
    SafePolicing config cgroup environment
      (fun code final => code = .ok →
        Loaded final.kernel skel cgroupFd cgroup todo ∧ final.refused = false)
      (do
        let pinned ← ask (.bpfLinkPin link path)
        ask (.bpfLinkDestroy link)
        if !pinned then
          ask (.ratelimitBpfDestroy (some skel))
          return .bpfPin
        return RatelimitCode.ok) attempt := by
  apply Program.Safe.bind
  apply safe_ask executes
  intro later relied fails
  have hangingLater := hanging.traffic relied.traffic
  have sameRefused : later.refused = false := relied.refused.trans unrefused
  have pin : Kernel.exec owner fails later.kernel (.bpfLinkPin link path) =
      (true, later.kernel.pinLink id path) ∨
      Kernel.exec owner fails later.kernel (.bpfLinkPin link path) =
        (false, later.kernel) := by
    cases fails with
    | true =>
        right
        simp only [Kernel.exec, if_true]
    | false =>
        simp only [Kernel.exec, Bool.false_eq_true, if_false, hangingLater.held]
        split
        · exact .inl rfl
        · exact .inr rfl
  rcases pin with pinned | refused
  · have result : later.exec owner fails (.bpfLinkPin link path) =
        (true, { kernel := later.kernel.pinLink id path, refused := false }) := by
      simp only [Attempt.exec, pinned, sameRefused, refuses, Bool.not_true, Bool.or_self]
    have hangingPinned := hangingLater.pinLink path
    constructor
    · apply Attempt.changes_of_same
      intro other
      rw [pinned]
      exact hangingPinned.2 other
    rw [result]
    apply Program.Safe.bind
    apply safe_askQuietly executes
    intro last reliedLast _
    have hangingLast := hangingPinned.1.traffic reliedLast.traffic
    rcases hangingLast.closeDescriptor once with ⟨loaded, same, _⟩
    refine ⟨(), _, rfl, rfl, fun other => same other fun _ => Nat.one_pos, ?_⟩
    simp only [Bool.not_true, Bool.false_eq_true, if_false]
    exact fun _ => ⟨loaded, reliedLast.refused⟩
  · have result : later.exec owner fails (.bpfLinkPin link path) =
        (false, { kernel := later.kernel, refused := true }) := by
      simp only [Attempt.exec, refused, refuses, Bool.not_false, Bool.or_true]
    constructor
    · apply Attempt.changes_of_same
      intro other
      rw [refused]
    rw [result]
    apply Program.Safe.bind
    apply safe_ask executes
    intro last reliedLast failsLast
    have isRefused : last.refused = true := reliedLast.refused
    have hangingLast := hangingLater.traffic reliedLast.traffic
    rcases hangingLast.closeDescriptor once with ⟨loaded, same, gone⟩
    have closed : last.exec owner failsLast (.bpfLinkDestroy link) =
        ((), { kernel := last.kernel.closeDescriptor link, refused := true }) := by
      simp only [Attempt.exec, Kernel.exec, isRefused, Bool.true_or]
    rw [closed]
    refine ⟨⟨fun _ => rfl, ?_⟩, ?_⟩
    · intro other
      by_cases isOwn : other = attachType
      · subst isOwn
        exact .inr (.inr ⟨gone rfl, rfl⟩)
      · exact .inl (same other fun equal => absurd equal isOwn)
    · simp only [Bool.not_false, if_true]
      apply (safe_giveUp executes loaded RatelimitCode.bpfPin).weaken
      intro code final isCode isOk
      rw [isCode] at isOk
      cases isOk

theorem policing_attachLink (executes : Executes owner environment)
    (written : Written attempt.kernel skel cgroupFd cgroup config attachType todo)
    (limited : config.limit attachType ≠ RATELIMIT_UNLIMITED)
    (unrefused : attempt.refused = false) (once : attachType ∉ todo) (pinDir : Path) :
    SafePolicing config cgroup environment
      (fun code final => code = .ok →
        Loaded final.kernel skel cgroupFd cgroup todo ∧ final.refused = false)
      (do
        match ← ask (.bpfProgramAttachCgroup skel attachType cgroupFd) with
        | none =>
          ask (.ratelimitBpfDestroy (some skel))
          return .bpfLink
        | some link =>
          let pinned ← ask (.bpfLinkPin link (pinDir ++ [attachType.pinName]))
          ask (.bpfLinkDestroy link)
          if !pinned then
            ask (.ratelimitBpfDestroy (some skel))
            return .bpfPin
          return RatelimitCode.ok) attempt := by
  apply Program.Safe.bind
  apply safe_ask executes
  intro later relied fails
  have writtenLater := written.traffic relied.traffic
  have sameRefused : later.refused = false := relied.refused.trans unrefused
  have attach : Kernel.exec owner fails later.kernel
      (.bpfProgramAttachCgroup skel attachType cgroupFd) = (none, later.kernel) ∨
      Kernel.exec owner fails later.kernel
          (.bpfProgramAttachCgroup skel attachType cgroupFd) =
        (some (later.kernel.nextId + 1),
          later.kernel.attachProgram owner skel.object attachType cgroup) := by
    cases fails with
    | true =>
        left
        simp only [Kernel.exec, if_true]
    | false =>
        simp only [Kernel.exec, Bool.false_eq_true, if_false, writtenLater.isOpen]
        split
        · exact .inr rfl
        · exact .inl rfl
  rcases attach with failed | attached
  · have result : later.exec owner fails
        (.bpfProgramAttachCgroup skel attachType cgroupFd) = (none, later) := by
      simp only [Attempt.exec, failed, refuses, Bool.or_false]
    constructor
    · apply Attempt.changes_of_same
      intro other
      rw [failed]
    rw [result]
    apply (safe_giveUp executes writtenLater.toLoaded RatelimitCode.bpfLink).weaken
    intro code final isCode isOk
    rw [isCode] at isOk
    cases isOk
  · rcases writtenLater.attachProgram once owner with ⟨hanging, none, own, others⟩
    have result : later.exec owner fails
        (.bpfProgramAttachCgroup skel attachType cgroupFd) =
        (some (later.kernel.nextId + 1),
          { kernel := later.kernel.attachProgram owner skel.object attachType cgroup
            refused := false }) := by
      simp only [Attempt.exec, attached, refuses, sameRefused, Bool.or_false]
    rw [result]
    refine ⟨⟨?_, ?_⟩, ?_⟩
    · intro refused
      rw [sameRefused] at refused
      contradiction
    · intro other
      by_cases isOwn : other = attachType
      · subst isOwn
        exact .inr (.inl ⟨sameRefused, limited, none, own⟩)
      · exact .inl (others other isOwn)
    · exact policing_pinLink executes hanging rfl once _

/-- One turn of the loop of `attach_bpf_programs`. -/
theorem policing_attachDirection (executes : Executes owner environment)
    (loaded : Loaded attempt.kernel skel cgroupFd cgroup (attachType :: todo))
    (unrefused : attempt.refused = false) (once : attachType ∉ todo) (pinDir : Path) :
    SafePolicing config cgroup environment
      (fun code final => code = .ok →
        Loaded final.kernel skel cgroupFd cgroup todo ∧ final.refused = false)
      (attachDirection skel cgroupFd pinDir config attachType) attempt := by
  rw [attachDirection, safePolicing_inside]
  have inner := executes.inside (.direction attachType)
  by_cases unlimited : config.limit attachType = RATELIMIT_UNLIMITED
  · simp only [unlimited, if_true]
    refine fun _ => ⟨⟨loaded.toPrepared, loaded.limitsFd, loaded.fds, ?_⟩, unrefused⟩
    exact fun other member => loaded.waiting other (List.mem_cons_of_mem _ member)
  simp only [if_neg unlimited]
  apply Program.Safe.bind
  apply safe_askQuietly inner
  intro later relied fails
  have loadedLater := loaded.traffic relied.traffic
  cases fails with
  | true =>
      refine ⟨false, later.kernel, ?_, rfl, fun _ => rfl, ?_⟩
      · simp only [Kernel.exec, if_true]
      · simp only [Bool.not_false, if_true]
        apply (safe_giveUp inner loadedLater RatelimitCode.bpfLoad).weaken
        intro code final isCode isOk
        rw [isCode] at isOk
        cases isOk
  | false =>
      have updating : Written (later.kernel.updateLimit skel.object
          attachType.direction.key (config.limit attachType)) skel cgroupFd cgroup config
          attachType todo ∧ _ := loadedLater.updateLimit
      refine ⟨true, _, ?_, rfl, updating.2, ?_⟩
      · simp only [Kernel.exec, Bool.false_eq_true, if_false, loadedLater.limitsFd]
      simp only [Bool.not_true, Bool.false_eq_true, if_false]
      refine policing_attachLink inner ?_ unlimited ?_ once pinDir
      · exact updating.1
      · exact relied.refused.trans unrefused

theorem Prepared.loadSkeleton (prepared : Prepared kernel cgroupFd cgroup)
    (none : ∀ attachType, kernel.attached cgroup attachType = []) (owner : Process) :
    Loaded (kernel.loadSkeleton owner).2 (kernel.loadSkeleton owner).1 cgroupFd cgroup
        [.egress, .ingress] ∧
      ∀ attachType, policers (kernel.loadSkeleton owner).2 cgroup attachType =
        policers kernel cgroup attachType := by
  have nextId : kernel.nextId ≤ (kernel.loadSkeleton owner).2.nextId :=
    Nat.le_add_right _ 5
  have attached : ∀ attachType,
      (kernel.loadSkeleton owner).2.attached cgroup attachType = [] := by
    intro attachType
    rw [attached_congr prepared.unused nextId fun _ => Iff.rfl, none]
  have frame : Keeps owner kernel _ ∧ _ := loadSkeleton_frame kernel owner
  rcases frame with ⟨_, limitsFd, otherFds⟩
  have notLink : ∀ id, Target.map (kernel.loadSkeleton owner).1.object .rateLimits ≠
    .link id := fun _ => Target.noConfusion
  refine ⟨⟨⟨?_, ?_, prepared.used.trans_le nextId⟩, limitsFd.target?, ?_, ?_⟩, ?_⟩
  · intro id fresh
    exact prepared.unused id (nextId.trans fresh)
  · have older : ∀ offset, cgroupFd ≠ kernel.nextId + offset := fun offset =>
      Nat.ne_of_lt (Nat.lt_add_right offset prepared.used)
    have isOpen := prepared.isOpen
    simp only [Kernel.target?] at isOpen
    simp only [Kernel.target?, Kernel.loadSkeleton, Kernel.openDescriptor,
      List.foldl_cons, List.foldl_nil]
    rw [Function.update_of_ne (older 4), Function.update_of_ne (older 3),
      Function.update_of_ne (older 2), Function.update_of_ne (older 1), isOpen]
  · intro fd member
    have opened : ∃ target, Owns (kernel.loadSkeleton owner).2 owner fd target ∧
        ∀ id, target ≠ .link id := by
      rcases List.mem_cons.mp member with rfl | member
      · exact ⟨_, limitsFd, notLink⟩
      · rcases otherFds fd member with ⟨target, owns, notLink, _⟩
        exact ⟨target, owns, notLink⟩
    rcases opened with ⟨target, owns, notLink⟩
    refine ⟨owns.used, ?_⟩
    intro id held
    rw [owns.target?] at held
    exact notLink id (Option.some.inj held)
  · intro attachType _
    refine ⟨attached attachType, ?_⟩
    simp only [stateFor, Kernel.loadSkeleton, Kernel.openDescriptor, List.foldl_cons,
      List.foldl_nil, Function.update_self]
    cases attachType <;> rfl
  · intro attachType
    rw [policers_eq_nil.mpr (attached attachType), policers_eq_nil.mpr (none attachType)]

theorem policing_attachBpfPrograms (executes : Executes owner environment)
    (prepared : Prepared attempt.kernel cgroupFd cgroup)
    (none : ∀ attachType, attempt.kernel.attached cgroup attachType = [])
    (unrefused : attempt.refused = false) (pinDir : Path) :
    SafePolicing config cgroup environment (fun _ _ => True)
      (attachBpfPrograms cgroupFd pinDir config) attempt := by
  rw [attachBpfPrograms, safePolicing_inside]
  have inner := executes.inside .attachBpfPrograms
  apply Program.Safe.bind
  apply safe_askQuietly inner
  intro opened reliedOpen fails
  refine ⟨!fails, opened.kernel, rfl, rfl, fun _ => rfl, ?_⟩
  cases fails with
  | true => exact trivial
  | false =>
      simp only [Bool.not_false, Bool.not_true, Bool.false_eq_true, if_false]
      apply Program.Safe.bind
      apply safe_askQuietly inner
      intro later relied fails
      have sameRefused : later.refused = false :=
        relied.refused.trans (reliedOpen.refused.trans unrefused)
      have traffic := reliedOpen.traffic.trans relied.traffic
      have preparedLater := prepared.traffic traffic
      have noneLater : ∀ attachType, later.kernel.attached cgroup attachType = [] :=
        fun attachType => (traffic.attached attachType).trans (none attachType)
      cases fails with
      | true =>
          refine ⟨.none, later.kernel, rfl, rfl, fun _ => rfl, ?_⟩
          apply Program.Safe.bind
          apply safe_askQuietly inner
          intro last _ _
          exact ⟨(), last.kernel, rfl, rfl, fun _ => rfl, trivial⟩
      | false =>
          have loaded := preparedLater.loadSkeleton noneLater owner
          refine ⟨some (later.kernel.loadSkeleton owner).1, _, rfl, rfl, loaded.2, ?_⟩
          apply Program.Safe.bind
          have once : AttachType.egress ∉ [AttachType.ingress] := by decide
          refine (policing_attachDirection inner ?_ ?_ once pinDir).weaken ?_
          · exact loaded.1
          · exact sameRefused
          intro egress first holds
          by_cases isOk : egress = .ok
          · rcases holds isOk with ⟨loadedFirst, unrefusedFirst⟩
            simp only [isOk, ne_eq, not_true, if_false]
            apply Program.Safe.bind
            have once : AttachType.ingress ∉ [] := List.not_mem_nil
            apply (policing_attachDirection inner loadedFirst unrefusedFirst once
              pinDir).weaken
            intro ingress final _
            split <;> trivial
          · simp only [ne_eq, isOk, not_false_eq_true, if_true]
            trivial

end Turn

end Pidnl.Ratelimit
