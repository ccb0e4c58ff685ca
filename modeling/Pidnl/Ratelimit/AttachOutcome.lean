import Pidnl.Ratelimit.Outcome

/-! # What `attach_bpf_programs` leaves behind -/

namespace Pidnl.Ratelimit

open Pidnl.Foundation Pidnl.System

variable {kernel : Kernel} (owner : Process) (faults : Faults)

structure Attaching (kernel : Kernel) (skel : Skeleton) (cgroupFd : Fd)
    (cgroup : CgroupId) (pid : Int32) (attachType : AttachType) : Prop
    extends Installable kernel skel.object attachType cgroup pid where
  cgroupTarget : kernel.target? cgroupFd = some (.cgroup cgroup)
  limitsTarget : kernel.target? skel.rateLimitsFd = some (.map skel.object .rateLimits)
  pinDir : kernel.directories (pinDirectory kernel.bpffsMount pid) = true

def attachFails (faults : Faults) (attachType : AttachType) : Bool :=
  let inner := faults.inside (.direction attachType)
  inner.here .bpfMapUpdateElem || inner.here .bpfProgramAttachCgroup ||
    inner.here .bpfLinkPin

section UpdateLimit

variable {object : ObjectId} {attachType : AttachType} {cgroup : CgroupId}
  {pid : Int32} (limit : UInt32)

theorem settled_updateLimit (settled : Settled kernel) (key : UInt32) :
    Settled (kernel.updateLimit object key limit) where
  unheld := settled.unheld
  pinned := settled.pinned
  refs := settled.refs
  pinOnce := settled.pinOnce
  home := settled.home
  cgroupOnce := settled.cgroupOnce
  children := settled.children
  root := settled.root
  pinIds := settled.pinIds
  cgroupIds := settled.cgroupIds
  descriptors := settled.descriptors

theorem affects_updateLimit
    (installable : Installable kernel object attachType cgroup pid)
    (pids : Set Int32) :
    Affects pids kernel
      (kernel.updateLimit object attachType.direction.key limit) := by
  refine ⟨settled_updateLimit limit installable.settled _, rfl, rfl, rfl, ?_,
    fun _ _ => rfl⟩
  intro other _ otherType
  let updated := kernel.updateLimit object attachType.direction.key limit
  have samePins : updated.pins.lookup (pinPath updated.bpffsMount other otherType) =
      kernel.pins.lookup (pinPath kernel.bpffsMount other otherType) := rfl
  cases found : kernel.pins.lookup (pinPath kernel.bpffsMount other otherType) with
  | none => rw [slot_of_unpinned (samePins.trans found), slot_of_unpinned found]
  | some id =>
      rw [slot_of_pinned (samePins.trans found), slot_of_pinned found]
      simp only [linkSlot, limitOf]
      by_cases shared : (kernel.links id).object = object
      · have different : (kernel.links id).attachType.direction ≠
            attachType.direction := fun equal =>
          installable.unread _ id found shared (AttachType.direction_injective equal)
        simp [updated, Kernel.updateLimit, shared,
          Pidnl.Bpf.ArrayMap.lookupElem_updateElem_of_ne _ different]
      · simp [updated, Kernel.updateLimit, Function.update_of_ne shared]

end UpdateLimit

theorem affects_ratelimitBpfDestroy (settled : Settled kernel)
    (pids : Set Int32) (fails : Bool) (skel : Skeleton) :
    Affects pids kernel
      (Kernel.exec owner fails kernel (.ratelimitBpfDestroy (some skel))).2 :=
  .of_quiet settled (quiet_closeDescriptors settled _)

section Direction

variable {skel : Skeleton} {cgroupFd : Fd} {cgroup : CgroupId} {pid : Int32}
  {attachType : AttachType} (config : RateLimitConfig)

theorem exec_bpfProgramAttachCgroup
    (isCgroup : kernel.cgroups.lookup (buildCgroupName pid) = some cgroup)
    (target : kernel.target? cgroupFd = some (.cgroup cgroup)) :
    Kernel.exec owner false kernel
        (.bpfProgramAttachCgroup skel attachType cgroupFd) =
      (some (kernel.nextId + 1),
        kernel.attachProgram owner skel.object attachType cgroup) := by
  have present : (kernel.cgroups.entries.any fun entry => entry.2 = cgroup) =
      true := by
    rw [List.any_eq_true]
    exact ⟨⟨buildCgroupName pid, cgroup⟩, AList.mem_lookup_iff.mp isCgroup, by simp⟩
  simp only [Kernel.exec, Bool.false_eq_true, if_false, target, present, if_true]

theorem exec_bpfLinkPin (kernel : Kernel) (fails : Bool) (object : ObjectId)
    (attachType : AttachType) (cgroup : CgroupId) (path : Path) :
    Kernel.exec owner fails (kernel.attachProgram owner object attachType cgroup)
        (.bpfLinkPin (kernel.nextId + 1) path) =
      if fails = false ∧ kernel.pins.lookup path = none ∧
          kernel.directories path.dropLast = true then
        (true, (kernel.attachProgram owner object attachType cgroup).pinLink
          kernel.nextId path)
      else (false, kernel.attachProgram owner object attachType cgroup) := by
  have target : (kernel.attachProgram owner object attachType cgroup).target?
      (kernel.nextId + 1) = some (.link kernel.nextId) := by
    simp [Kernel.target?, Kernel.attachProgram, Kernel.openDescriptor]
  cases fails with
  | true => simp [Kernel.exec]
  | false =>
      simp only [Kernel.exec, Bool.false_eq_true, if_false, target, true_and,
        Bool.and_eq_true, Option.isNone_iff_eq_none]
      rfl

/-- The outcome of one turn: nothing to do, a link installed, or a failure that
leaves everything standing. -/
theorem attachDirection_cases
    (attaching : Attaching kernel skel cgroupFd cgroup pid attachType) :
    let outcome := Kernel.execute owner faults (attachDirection skel cgroupFd
      (pinDirectory kernel.bpffsMount pid) config attachType) kernel
    config.limit attachType = RATELIMIT_UNLIMITED ∧ outcome = (.ok, kernel) ∨
      config.limit attachType ≠ RATELIMIT_UNLIMITED ∧
          (attachFails faults attachType = false ∧
            slot kernel pid attachType = .empty) ∧
          outcome = (.ok, installLink kernel skel.object attachType cgroup
            (pinPath kernel.bpffsMount pid attachType) (config.limit attachType)) ∨
      config.limit attachType ≠ RATELIMIT_UNLIMITED ∧
          ¬(attachFails faults attachType = false ∧
            slot kernel pid attachType = .empty) ∧
          outcome.1 ≠ .ok ∧ Affects ∅ kernel outcome.2 := by
  by_cases unlimited : config.limit attachType = RATELIMIT_UNLIMITED
  · exact .inl ⟨unlimited, by simp [attachDirection, unlimited]⟩
  right
  simp only [attachFails]
  generalize inside : faults.inside (.direction attachType) = inner
  have settled := attaching.settled
  have target := attaching.limitsTarget
  have unused := settled.descriptors (kernel.nextId + 1) (Nat.le_succ _)
  cases updating : inner.here .bpfMapUpdateElem with
  | true =>
      have failed : Kernel.exec owner true kernel (.bpfMapUpdateElem
          skel.rateLimitsFd attachType.direction.key (config.limit attachType)) =
          (false, kernel) := by simp [Kernel.exec]
      refine .inr ⟨unlimited, by simp, ?_⟩
      simp only [attachDirection, ask, Kernel.execute_inside, Kernel.execute_bind,
        Kernel.execute_request, Kernel.execute_pure, inside, updating, failed,
        if_neg unlimited, Bool.not_false, if_true]
      exact ⟨RatelimitCode.noConfusion,
        affects_ratelimitBpfDestroy owner settled ∅ _ skel⟩
  | false =>
      let updated := kernel.updateLimit skel.object attachType.direction.key
        (config.limit attachType)
      have affects : Affects ∅ kernel updated :=
        affects_updateLimit _ attaching.toInstallable ∅
      have update : Kernel.exec owner false kernel (.bpfMapUpdateElem
          skel.rateLimitsFd attachType.direction.key (config.limit attachType)) =
          (true, updated) := by
        simp only [Kernel.exec, Bool.false_eq_true, if_false, target]
        rfl
      simp only [attachDirection, ask, Kernel.execute_inside, Kernel.execute_bind,
        Kernel.execute_request, inside, updating, update, if_neg unlimited,
        Bool.not_true, Bool.false_eq_true, if_false]
      cases attachingFails : inner.here .bpfProgramAttachCgroup with
      | true =>
          have failed : Kernel.exec owner true updated (.bpfProgramAttachCgroup skel
              attachType cgroupFd) = (none, updated) := by simp [Kernel.exec]
          refine .inr ⟨unlimited, by simp, ?_⟩
          simp only [failed, Kernel.execute_bind, Kernel.execute_request,
            Kernel.execute_pure]
          exact ⟨RatelimitCode.noConfusion, affects.trans
            (affects_ratelimitBpfDestroy owner affects.settled ∅ _ skel)⟩
      | false =>
          have attach : Kernel.exec owner false updated (.bpfProgramAttachCgroup
              skel attachType cgroupFd) = _ :=
            exec_bpfProgramAttachCgroup owner attaching.isCgroup
              attaching.cgroupTarget
          have path : pinDirectory kernel.bpffsMount pid ++ [attachType.pinName] =
            pinPath kernel.bpffsMount pid attachType := rfl
          have pin := exec_bpfLinkPin owner updated (inner.here .bpfLinkPin)
            skel.object attachType cgroup (pinPath kernel.bpffsMount pid attachType)
          simp only [attach, Kernel.execute_bind, Kernel.execute_request, path]
          by_cases pins : inner.here .bpfLinkPin = false ∧
              slot kernel pid attachType = .empty
          · refine .inl ⟨unlimited, by simpa using pins, ?_⟩
            rw [if_pos] at pin
            · simp only [pin, Bool.not_true, Bool.false_eq_true, if_false,
                Kernel.execute_pure, Prod.mk.injEq, true_and]
              exact closeDescriptor_of_pinned unused
            · refine ⟨pins.1, slot_eq_empty_iff.mp pins.2, ?_⟩
              rw [pinPath_dropLast]
              exact attaching.pinDir
          · refine .inr ⟨unlimited, by simpa using pins, ?_⟩
            rw [if_neg] at pin
            · have lost : Affects ∅ updated _ := .of_quiet affects.settled
                (quiet_attachProgram_closeDescriptor (.refl updated) owner skel.object
                  attachType cgroup)
              simp only [pin, Bool.not_false, if_true, Kernel.execute_bind,
                Kernel.execute_request, Kernel.execute_pure]
              exact ⟨RatelimitCode.noConfusion, (affects.trans lost).trans
                (affects_ratelimitBpfDestroy owner lost.settled ∅ _ skel)⟩
            · intro both
              exact pins ⟨both.1, slot_eq_empty_iff.mpr both.2.1⟩

end Direction

structure Ready (kernel : Kernel) (cgroupFd : Fd) (cgroup : CgroupId)
    (pid : Int32) : Prop where
  settled : Settled kernel
  isCgroup : kernel.cgroups.lookup (buildCgroupName pid) = some cgroup
  cgroupTarget : kernel.target? cgroupFd = some (.cgroup cgroup)
  pinDir : kernel.directories (pinDirectory kernel.bpffsMount pid) = true

section Programs

variable {skel : Skeleton} {cgroupFd : Fd} {cgroup : CgroupId} {pid : Int32}
  {attachType : AttachType} (config : RateLimitConfig)

theorem used_of_target (settled : Settled kernel) {fd : Fd} {target : Target}
    (found : kernel.target? fd = some target) : fd < kernel.nextId := by
  apply Nat.lt_of_not_le
  intro unused
  rw [Kernel.target?, settled.descriptors fd unused] at found
  contradiction

theorem attaching_loadSkeleton (ready : Ready kernel cgroupFd cgroup pid)
    (attachType : AttachType) :
    Attaching (kernel.loadSkeleton owner).2 (kernel.loadSkeleton owner).1 cgroupFd
      cgroup pid attachType := by
  have quiet := quiet_loadSkeleton kernel owner
  have used := used_of_target ready.settled ready.cgroupTarget
  have older : ∀ offset, cgroupFd ≠ kernel.nextId + offset := fun offset =>
    Nat.ne_of_lt (Nat.lt_add_right offset used)
  refine ⟨⟨ready.settled.quiet quiet, ready.isCgroup, ?_, ?_⟩, ?_, ?_, ready.pinDir⟩
  · exact Nat.lt_add_of_pos_right (by decide : 0 < 5)
  · intro path id found same
    have older := (ready.settled.pinIds path id found).2
    exact absurd same (Nat.ne_of_lt older)
  · have found := ready.cgroupTarget
    simp only [Kernel.target?] at found
    simp only [Kernel.target?, Kernel.loadSkeleton, Kernel.openDescriptor,
      List.foldl_cons, List.foldl_nil]
    rw [Function.update_of_ne (older 4), Function.update_of_ne (older 3),
      Function.update_of_ne (older 2), Function.update_of_ne (older 1), found]
  · simp [Kernel.target?, Kernel.loadSkeleton, Kernel.openDescriptor]

/-- After the egress link, the ingress link can be installed from the same
object. -/
theorem attaching_installLink {limit : UInt32}
    (attaching : Attaching kernel skel cgroupFd cgroup pid .egress)
    (unread : ∀ path id, kernel.pins.lookup path = some id →
      (kernel.links id).object ≠ skel.object)
    (empty : slot kernel pid .egress = .empty) :
    Attaching (installLink kernel skel.object .egress cgroup
      (pinPath kernel.bpffsMount pid .egress) limit) skel cgroupFd cgroup pid
        .ingress := by
  refine ⟨⟨settled_installLink attaching.toInstallable empty, attaching.isCgroup,
    Nat.lt_add_right 2 attaching.loaded, ?_⟩, attaching.cgroupTarget,
    attaching.limitsTarget, attaching.pinDir⟩
  intro path id found
  rw [lookup_installLink] at found
  split at found
  · cases found
    simp
  · have older := (attaching.settled.pinIds path id found).1
    rw [installLink_links older]
    exact fun same => absurd same (unread path id found)

def directionFails (faults : Faults) (config : RateLimitConfig)
    (attachType : AttachType) : Bool :=
  config.limit attachType ≠ RATELIMIT_UNLIMITED ∧ attachFails faults attachType

def attachBpfFails (faults : Faults) (config : RateLimitConfig) : Bool :=
  let inner := faults.inside .attachBpfPrograms
  inner.here .ratelimitBpfOpen || inner.here .ratelimitBpfLoad ||
    directionFails inner config .egress || directionFails inner config .ingress

def PinsFree (kernel : Kernel) (pid : Int32) (config : RateLimitConfig) : Prop :=
  ∀ attachType, config.limit attachType ≠ RATELIMIT_UNLIMITED →
    slot kernel pid attachType = .empty

def installed (config : RateLimitConfig) (attachType : AttachType) (old : Slot) :
    Slot :=
  if config.limit attachType = RATELIMIT_UNLIMITED then old
  else .live (some (config.limit attachType))

theorem forall_attachType {property : AttachType → Prop} :
    (∀ attachType, property attachType) ↔ property .egress ∧ property .ingress := by
  constructor
  · exact fun all => ⟨all .egress, all .ingress⟩
  · rintro ⟨egress, ingress⟩ (_ | _)
    · exact egress
    · exact ingress

/-- One turn of the loop, seen from what stands: it succeeds if and only if
nothing is to be done, or no call fails and the pin is free. -/
theorem execute_attachDirection
    (attaching : Attaching kernel skel cgroupFd cgroup pid attachType) :
    let outcome := Kernel.execute owner faults (attachDirection skel cgroupFd
      (pinDirectory kernel.bpffsMount pid) config attachType) kernel
    Affects {pid} kernel outcome.2 ∧
      hasCgroup outcome.2 pid = hasCgroup kernel pid ∧
      (outcome.1 = .ok ↔ directionFails faults config attachType = false ∧
        (config.limit attachType ≠ RATELIMIT_UNLIMITED →
          slot kernel pid attachType = .empty)) ∧
      (outcome.1 = .ok → ∀ other, slot outcome.2 pid other =
        if other = attachType then
          installed config attachType (slot kernel pid attachType)
        else slot kernel pid other) := by
  simp only [directionFails, installed, decide_eq_false_iff_not]
  rcases attachDirection_cases owner faults config attaching with
    ⟨unlimited, outcome⟩ | ⟨limited, succeeds, outcome⟩ |
      ⟨limited, fails, notOk, affects⟩
  · rw [outcome]
    refine ⟨.refl attaching.settled, rfl, by simp [unlimited], ?_⟩
    intro _ other
    simp only [unlimited, if_true]
    split
    · rename_i same
      rw [same]
    · rfl
  · rw [outcome]
    have standing : ∀ other otherType, slot (installLink kernel skel.object
        attachType cgroup (pinPath kernel.bpffsMount pid attachType)
        (config.limit attachType)) other otherType = _ :=
      slot_installLink attaching.toInstallable
    refine ⟨⟨settled_installLink attaching.toInstallable succeeds.2, rfl, rfl, rfl,
      ?_, fun _ _ => rfl⟩, rfl, by simp [succeeds], ?_⟩
    · intro other outside otherType
      rw [standing, if_neg]
      exact fun same => outside same.1
    · intro _ other
      rw [standing]
      simp [limited]
  · refine ⟨affects.mono (Set.empty_subset _), affects.cgroups pid (by simp), ?_, ?_⟩
    · constructor
      · exact fun ok => absurd ok notOk
      · rintro ⟨noFault, free⟩
        refine absurd ⟨?_, free limited⟩ fails
        simpa [limited] using noFault
    · exact fun ok => absurd ok notOk

theorem attaching_ingress
    (attaching : ∀ attachType,
      Attaching kernel skel cgroupFd cgroup pid attachType)
    (unread : ∀ path id, kernel.pins.lookup path = some id →
      (kernel.links id).object ≠ skel.object) :
    let outcome := Kernel.execute owner faults (attachDirection skel cgroupFd
      (pinDirectory kernel.bpffsMount pid) config .egress) kernel
    outcome.1 = .ok → Attaching outcome.2 skel cgroupFd cgroup pid .ingress := by
  rcases attachDirection_cases owner faults config (attaching .egress) with
    ⟨_, outcome⟩ | ⟨_, succeeds, outcome⟩ | ⟨_, _, notOk, _⟩
  · rw [outcome]
    exact fun _ => attaching .ingress
  · rw [outcome]
    exact fun _ => attaching_installLink (attaching .egress) unread succeeds.2
  · exact fun ok => absurd ok notOk

structure AttachOutcome (faults : Faults) (config : RateLimitConfig) (pid : Int32)
    (kernel : Kernel) (outcome : Except RatelimitCode Skeleton × Kernel) : Prop where
  affects : Affects {pid} kernel outcome.2
  cgroup : hasCgroup outcome.2 pid = hasCgroup kernel pid
  succeeds : outcome.1.toBool = true ↔
    attachBpfFails faults config = false ∧ PinsFree kernel pid config
  error : ∀ code, outcome.1 = .error code → code ≠ .ok
  slots : outcome.1.toBool = true → ∀ attachType,
    slot outcome.2 pid attachType = installed config attachType
      (slot kernel pid attachType)

theorem execute_attachBpfPrograms (ready : Ready kernel cgroupFd cgroup pid) :
    AttachOutcome faults config pid kernel
      (Kernel.execute owner faults (attachBpfPrograms cgroupFd
        (pinDirectory kernel.bpffsMount pid) config) kernel) := by
  have settled := ready.settled
  have quiet := quiet_loadSkeleton kernel owner
  have loaded : Affects {pid} kernel _ := .of_quiet settled quiet
  simp only [attachBpfPrograms, ask, Kernel.execute_inside, Kernel.execute_bind,
    Kernel.execute_request]
  generalize inside : faults.inside .attachBpfPrograms = inner
  rcases Bool.eq_false_or_eq_true (inner.here .ratelimitBpfOpen) with
    opening | opening
  · have failed : attachBpfFails faults config = true := by
      simp [attachBpfFails, inside, opening]
    have opened : Kernel.exec owner true kernel .ratelimitBpfOpen =
      (false, kernel) := rfl
    simp only [opening, opened, Bool.not_false, if_true, Kernel.execute_pure]
    exact ⟨.refl settled, rfl, by simp [failed, Except.toBool], by simp,
      by simp [Except.toBool]⟩
  have opened : Kernel.exec owner false kernel .ratelimitBpfOpen =
    (true, kernel) := rfl
  simp only [opening, opened, Bool.not_true, Bool.false_eq_true, if_false,
    Kernel.execute_bind, Kernel.execute_request]
  rcases Bool.eq_false_or_eq_true (inner.here .ratelimitBpfLoad) with
    loading | loading
  · have failed : attachBpfFails faults config = true := by
      simp [attachBpfFails, inside, loading]
    have load : Kernel.exec owner true kernel .ratelimitBpfLoad =
      (none, kernel) := rfl
    have destroy : Kernel.exec owner (inner.here .total) kernel
      (.ratelimitBpfDestroy none) = ((), kernel) := rfl
    simp only [loading, load, destroy, Kernel.execute_bind, Kernel.execute_request,
      Kernel.execute_pure]
    exact ⟨.refl settled, rfl, by simp [failed, Except.toBool], by simp,
      by simp [Except.toBool]⟩
  have load : Kernel.exec owner false kernel .ratelimitBpfLoad =
    (some (kernel.loadSkeleton owner).1, (kernel.loadSkeleton owner).2) := rfl
  have attaching := attaching_loadSkeleton owner ready
  have unread : ∀ path id,
      (kernel.loadSkeleton owner).2.pins.lookup path = some id →
      ((kernel.loadSkeleton owner).2.links id).object ≠
        (kernel.loadSkeleton owner).1.object := fun path id found =>
    Nat.ne_of_lt (settled.pinIds path id found).2
  have slots := settled.slot_quiet quiet
  have cgroup := Settled.hasCgroup_quiet quiet pid
  have mount := quiet.bpffsMount
  have fails : attachBpfFails faults config =
      (directionFails inner config .egress ||
        directionFails inner config .ingress) := by
    simp [attachBpfFails, inside, opening, loading]
  simp only [loading, load, Kernel.execute_bind]
  clear load
  generalize (kernel.loadSkeleton owner).1 = skel at *
  generalize (kernel.loadSkeleton owner).2 = middle at *
  have egress := execute_attachDirection owner inner config (attaching .egress)
  have next := attaching_ingress owner inner config attaching unread
  rw [mount] at egress next
  generalize Kernel.execute owner inner (attachDirection skel cgroupFd
    (pinDirectory kernel.bpffsMount pid) config .egress) middle = first
    at egress next ⊢
  rcases egress with ⟨affects, sameCgroup, ok, slotsFirst⟩
  by_cases isOk : first.1 = .ok
  · have ingress := execute_attachDirection owner inner config (next isOk)
    rw [affects.bpffsMount, mount] at ingress
    simp only [isOk, ne_eq, not_true, if_false, Kernel.execute_bind]
    generalize Kernel.execute owner inner (attachDirection skel cgroupFd
      (pinDirectory kernel.bpffsMount pid) config .ingress) first.2 = second
      at ingress ⊢
    rcases ingress with ⟨affectsSecond, sameSecond, okSecond, slotsSecond⟩
    have slotIngress : slot first.2 pid .ingress = slot kernel pid .ingress := by
      rw [slotsFirst isOk, if_neg AttachType.noConfusion, slots]
    have affectsAll := (loaded.trans affects).trans affectsSecond
    have sameAll := (sameSecond.trans sameCgroup).trans cgroup
    have free : (config.limit .egress ≠ RATELIMIT_UNLIMITED →
        slot kernel pid .egress = .empty) := by
      rw [← slots]
      exact (ok.mp isOk).2
    rw [slotIngress] at okSecond
    by_cases isOkSecond : second.1 = .ok
    · simp only [isOkSecond, not_true, if_false, Kernel.execute_pure]
      refine ⟨affectsAll, sameAll, ?_, by simp, ?_⟩
      · have noFault := Bool.or_eq_false_iff.mpr
          ⟨(ok.mp isOk).1, (okSecond.mp isOkSecond).1⟩
        simp only [Except.toBool, fails, noFault, true_and, true_iff]
        exact forall_attachType.mpr ⟨free, (okSecond.mp isOkSecond).2⟩
      · intro _ attachType
        simp only [slotsSecond isOkSecond, slotsFirst isOk, slots]
        cases attachType <;> simp
    · simp only [isOkSecond, not_false_eq_true, if_true, Kernel.execute_pure]
      refine ⟨affectsAll, sameAll, ?_, by simpa using isOkSecond,
        by simp [Except.toBool]⟩
      simp only [Except.toBool, Bool.false_eq_true, false_iff, fails, PinsFree,
        forall_attachType]
      intro both
      refine isOkSecond (okSecond.mpr ⟨?_, both.2.2⟩)
      exact (Bool.or_eq_false_iff.mp both.1).2
  · simp only [isOk, ne_eq, not_false_eq_true, if_true, Kernel.execute_pure]
    refine ⟨loaded.trans affects, sameCgroup.trans cgroup, ?_, by simpa using isOk,
      by simp [Except.toBool]⟩
    simp only [Except.toBool, Bool.false_eq_true, false_iff, fails, PinsFree,
      forall_attachType]
    intro both
    refine isOk (ok.mpr ⟨(Bool.or_eq_false_iff.mp both.1).1, ?_⟩)
    rw [slots]
    exact both.2.1

end Programs

end Pidnl.Ratelimit
