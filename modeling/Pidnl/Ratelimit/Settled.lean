import Pidnl.Ratelimit.Functions

/-! # What stands between two calls

Between two calls into `ratelimit.c` no process holds a link, so a link lives
through its one pin. What is left of a pid is its cgroup and its two pin paths,
and these decide what is enforced on it.
-/

namespace Pidnl.Ratelimit

open Pidnl.Foundation Pidnl.System

theorem buildCgroupName_injective : Function.Injective buildCgroupName := by
  intro left right equal
  have same := (List.cons.inj (List.cons.inj equal).2).1
  exact Int32.toInt_inj.mp (Decimal.signed_injective same)

theorem buildCgroupName_ne_root (pid : Int32) : buildCgroupName pid ≠ [cgroupRoot] := by
  simp [buildCgroupName]

theorem pinPath_inj {root : Path} {left right : Int32}
    {leftType rightType : AttachType} :
    pinPath root left leftType = pinPath root right rightType ↔
      left = right ∧ leftType = rightType := by
  constructor
  · intro equal
    simp only [pinPath, pinDirectory, List.append_assoc, List.cons_append,
      List.nil_append, List.append_cancel_left_eq, List.cons.injEq, true_and,
      and_true] at equal
    exact ⟨Int32.toInt_inj.mp (Decimal.signed_injective equal.1),
      AttachType.pinName_injective equal.2⟩
  · rintro ⟨rfl, rfl⟩
    rfl

@[simp] theorem pinPath_dropLast (root : Path) (pid : Int32)
    (attachType : AttachType) :
    (pinPath root pid attachType).dropLast = pinDirectory root pid := by
  simp [pinPath]

inductive Slot
  | empty
  /-- A link that is pinned but no longer attached. -/
  | dead
  /-- An attached link, with the limit its program reads. -/
  | live (limit : Option UInt32)
deriving DecidableEq, Repr

namespace Slot

def detached : Slot → Slot
  | .live _ => .dead
  | slot => slot

def limit : Slot → Option UInt32
  | .live limit => limit
  | _ => none

def isLive : Slot → Bool
  | .live _ => true
  | _ => false

@[simp] theorem detached_empty : empty.detached = empty := rfl

@[simp] theorem detached_dead : dead.detached = dead := rfl

@[simp] theorem detached_live (limit : Option UInt32) :
    (live limit).detached = dead := rfl

theorem detached_eq_empty_iff {slot : Slot} : slot.detached = empty ↔ slot = empty := by
  cases slot <;> simp

@[simp] theorem isLive_detached (slot : Slot) : slot.detached.isLive = false := by
  cases slot <;> rfl

end Slot

def limitOf (kernel : Kernel) (link : Link) : Option UInt32 :=
  (kernel.objects link.object).rateLimits.lookupElem link.attachType.direction.key

def linkSlot (kernel : Kernel) (id : LinkId) : Slot :=
  match (kernel.links id).cgroup with
  | none => .dead
  | some _ => .live (limitOf kernel (kernel.links id))

def slot (kernel : Kernel) (pid : Int32) (attachType : AttachType) : Slot :=
  match kernel.pins.lookup (pinPath kernel.bpffsMount pid attachType) with
  | none => .empty
  | some id => linkSlot kernel id

theorem slot_of_unpinned {kernel : Kernel} {pid : Int32} {attachType : AttachType}
    (absent : kernel.pins.lookup (pinPath kernel.bpffsMount pid attachType) = none) :
    slot kernel pid attachType = .empty := by
  rw [slot, absent]

theorem slot_of_pinned {kernel : Kernel} {pid : Int32} {attachType : AttachType}
    {id : LinkId}
    (found : kernel.pins.lookup (pinPath kernel.bpffsMount pid attachType) = some id) :
    slot kernel pid attachType = linkSlot kernel id := by
  rw [slot, found]

def hasCgroup (kernel : Kernel) (pid : Int32) : Bool :=
  (kernel.cgroups.lookup (buildCgroupName pid)).isSome

/-- The state of a machine on which nothing but pidnl has made cgroup links, and
no call is in progress. -/
structure Settled (kernel : Kernel) : Prop where
  unheld : ∀ fd id, kernel.target? fd ≠ some (.link id)
  pinned : ∀ id, 0 < (kernel.links id).refs →
    ∃ path, kernel.pins.lookup path = some id
  refs : ∀ path id, kernel.pins.lookup path = some id → (kernel.links id).refs = 1
  pinOnce : ∀ first second id, kernel.pins.lookup first = some id →
    kernel.pins.lookup second = some id → first = second
  /-- A pinned link that is attached is where its cgroup's pid has its pins. -/
  home : ∀ path id cgroup, kernel.pins.lookup path = some id →
    (kernel.links id).cgroup = some cgroup →
    ∃ pid, path = pinPath kernel.bpffsMount pid (kernel.links id).attachType ∧
      kernel.cgroups.lookup (buildCgroupName pid) = some cgroup
  cgroupOnce : ∀ first second cgroup, kernel.cgroups.lookup first = some cgroup →
    kernel.cgroups.lookup second = some cgroup → first = second
  /-- Every cgroup below `pidnl` is that of a pid. -/
  children : ∀ name, (kernel.cgroups.lookup name).isSome → [cgroupRoot] <+: name →
    name = [cgroupRoot] ∨ ∃ pid > 0, name = buildCgroupName pid
  root : ∀ pid, hasCgroup kernel pid → (kernel.cgroups.lookup [cgroupRoot]).isSome
  pinIds : ∀ path id, kernel.pins.lookup path = some id →
    id < kernel.nextId ∧ (kernel.links id).object < kernel.nextId
  cgroupIds : ∀ name cgroup, kernel.cgroups.lookup name = some cgroup →
    cgroup < kernel.nextId
  descriptors : ∀ fd, kernel.nextId ≤ fd → kernel.descriptors fd = none

theorem settled_empty (cgroup2Mount bpffsMount : Path) (running : Int32 → Bool) :
    Settled (Kernel.empty cgroup2Mount bpffsMount running) where
  unheld := nofun
  pinned := nofun
  refs := nofun
  pinOnce := nofun
  home := nofun
  cgroupOnce := nofun
  children := nofun
  root := nofun
  pinIds := nofun
  cgroupIds := nofun
  descriptors := fun _ _ => rfl

/-- Descriptors, unpinned links, objects and bpffs directories may have come and
gone; nothing else has changed. -/
structure Quiet (before after : Kernel) : Prop where
  cgroup2Mount : after.cgroup2Mount = before.cgroup2Mount
  bpffsMount : after.bpffsMount = before.bpffsMount
  running : after.running = before.running
  cgroups : after.cgroups = before.cgroups
  pins : after.pins = before.pins
  nextId : before.nextId ≤ after.nextId
  links : ∀ id, after.links id = before.links id ∨
    before.nextId ≤ id ∧ (after.links id).refs = 0
  objects : ∀ object, object < before.nextId →
    after.objects object = before.objects object
  descriptors : ∀ fd descriptor, after.descriptors fd = some descriptor →
    before.descriptors fd = some descriptor ∨
      fd < after.nextId ∧ ∀ id, descriptor.target ≠ .link id

namespace Quiet

theorem refl (kernel : Kernel) : Quiet kernel kernel where
  cgroup2Mount := rfl
  bpffsMount := rfl
  running := rfl
  cgroups := rfl
  pins := rfl
  nextId := Nat.le_refl _
  links := fun _ => .inl rfl
  objects := fun _ _ => rfl
  descriptors := fun _ _ found => .inl found

theorem trans {first second third : Kernel} (earlier : Quiet first second)
    (later : Quiet second third) : Quiet first third where
  cgroup2Mount := later.cgroup2Mount.trans earlier.cgroup2Mount
  bpffsMount := later.bpffsMount.trans earlier.bpffsMount
  running := later.running.trans earlier.running
  cgroups := later.cgroups.trans earlier.cgroups
  pins := later.pins.trans earlier.pins
  nextId := earlier.nextId.trans later.nextId
  links := by
    intro id
    rcases later.links id with same | ⟨fresh, dead⟩
    · rw [same]
      exact earlier.links id
    · exact .inr ⟨earlier.nextId.trans fresh, dead⟩
  objects := by
    intro object older
    rw [later.objects object (older.trans_le earlier.nextId),
      earlier.objects object older]
  descriptors := by
    intro fd descriptor found
    rcases later.descriptors fd descriptor found with kept | opened
    · rcases earlier.descriptors fd descriptor kept with kept | opened
      · exact .inl kept
      · exact .inr ⟨opened.1.trans_le later.nextId, opened.2⟩
    · exact .inr opened

end Quiet

namespace Settled

variable {before after : Kernel}

theorem linkOf_quiet (settled : Settled before) (quiet : Quiet before after)
    {path : Path} {id : LinkId} (found : before.pins.lookup path = some id) :
    after.links id = before.links id := by
  rcases quiet.links id with same | ⟨fresh, _⟩
  · exact same
  · exact absurd (settled.pinIds path id found).1 (Nat.not_lt.mpr fresh)

theorem quiet (settled : Settled before) (quiet : Quiet before after) :
    Settled after where
  unheld := by
    intro fd id held
    simp only [Kernel.target?, Option.map_eq_some_iff] at held
    rcases held with ⟨descriptor, found, target⟩
    rcases quiet.descriptors fd descriptor found with kept | ⟨_, other⟩
    · exact settled.unheld fd id (by simp [Kernel.target?, kept, target])
    · exact other id target
  pinned := by
    intro id lives
    rw [quiet.pins]
    apply settled.pinned id
    rcases quiet.links id with same | ⟨_, dead⟩
    · exact same ▸ lives
    · omega
  refs := by
    intro path id found
    rw [quiet.pins] at found
    rw [settled.linkOf_quiet quiet found]
    exact settled.refs path id found
  pinOnce := by
    rw [quiet.pins]
    exact settled.pinOnce
  home := by
    intro path id cgroup found attached
    rw [quiet.pins] at found
    rw [settled.linkOf_quiet quiet found] at attached ⊢
    rw [quiet.bpffsMount, quiet.cgroups]
    exact settled.home path id cgroup found attached
  cgroupOnce := by
    rw [quiet.cgroups]
    exact settled.cgroupOnce
  children := by
    rw [quiet.cgroups]
    exact settled.children
  root := by
    intro pid
    rw [hasCgroup, quiet.cgroups]
    exact settled.root pid
  pinIds := by
    intro path id found
    rw [quiet.pins] at found
    have older := settled.pinIds path id found
    rw [settled.linkOf_quiet quiet found]
    exact ⟨older.1.trans_le quiet.nextId, older.2.trans_le quiet.nextId⟩
  cgroupIds := by
    intro name cgroup found
    rw [quiet.cgroups] at found
    exact (settled.cgroupIds name cgroup found).trans_le quiet.nextId
  descriptors := by
    intro fd unused
    cases found : after.descriptors fd with
    | none => rfl
    | some descriptor =>
        rcases quiet.descriptors fd descriptor found with kept | ⟨used, _⟩
        · rw [settled.descriptors fd (quiet.nextId.trans unused)] at kept
          contradiction
        · exact absurd used (Nat.not_lt.mpr unused)

theorem withRunning (settled : Settled before) (running : Int32 → Bool) :
    Settled { before with running := running } where
  unheld := settled.unheld
  pinned := settled.pinned
  refs := settled.refs
  pinOnce := settled.pinOnce
  home := settled.home
  cgroupOnce := settled.cgroupOnce
  children := settled.children
  root := settled.root
  pinIds := settled.pinIds
  cgroupIds := settled.cgroupIds
  descriptors := settled.descriptors

theorem slot_quiet (settled : Settled before) (quiet : Quiet before after)
    (pid : Int32) (attachType : AttachType) :
    slot after pid attachType = slot before pid attachType := by
  rw [slot, slot, quiet.bpffsMount, quiet.pins]
  cases found : before.pins.lookup (pinPath before.bpffsMount pid attachType) with
  | none => rfl
  | some id =>
      simp only [linkSlot, limitOf, settled.linkOf_quiet quiet found,
        quiet.objects _ (settled.pinIds _ id found).2]

theorem hasCgroup_quiet (quiet : Quiet before after) (pid : Int32) :
    hasCgroup after pid = hasCgroup before pid := by
  rw [hasCgroup, hasCgroup, quiet.cgroups]

end Settled

/-! ## Quiet calls -/

section Quiet

variable {kernel : Kernel} {owner : Process}

theorem quiet_openDescriptor (kernel : Kernel) (owner : Process) {target : Target}
    (notLink : ∀ id, target ≠ .link id) :
    Quiet kernel (kernel.openDescriptor owner target) where
  cgroup2Mount := rfl
  bpffsMount := rfl
  running := rfl
  cgroups := rfl
  pins := rfl
  nextId := Nat.le_succ _
  links := fun _ => .inl rfl
  objects := fun _ _ => rfl
  descriptors := by
    intro fd descriptor found
    simp only [Kernel.openDescriptor, Function.update_apply] at found
    split at found
    · rename_i same
      cases found
      exact .inr ⟨same ▸ Nat.lt_succ_self _, notLink⟩
    · exact .inl found

theorem closeDescriptor_of_notLink {fd : Fd}
    (notLink : ∀ id, kernel.target? fd ≠ some (.link id)) :
    kernel.closeDescriptor fd =
      { kernel with descriptors := Function.update kernel.descriptors fd none } := by
  rw [Kernel.closeDescriptor]
  split
  · rename_i id found
    exact absurd found (notLink id)
  · rfl

theorem quiet_closeDescriptor (settled : Settled kernel) (fd : Fd) :
    Quiet kernel (kernel.closeDescriptor fd) := by
  rw [closeDescriptor_of_notLink (settled.unheld fd)]
  refine ⟨rfl, rfl, rfl, rfl, rfl, Nat.le_refl _, fun _ => .inl rfl,
    fun _ _ => rfl, ?_⟩
  intro other descriptor found
  simp only [Function.update_apply] at found
  split at found
  · contradiction
  · exact .inl found

theorem quiet_closeDescriptors (settled : Settled kernel) (fds : List Fd) :
    Quiet kernel (fds.foldl Kernel.closeDescriptor kernel) := by
  induction fds generalizing kernel with
  | nil => exact Quiet.refl kernel
  | cons fd fds induction =>
      have first := quiet_closeDescriptor settled fd
      exact first.trans (induction (settled.quiet first))

theorem quiet_directories (kernel : Kernel) (directories : Path → Bool) :
    Quiet kernel { kernel with directories := directories } :=
  ⟨rfl, rfl, rfl, rfl, rfl, Nat.le_refl _, fun _ => .inl rfl, fun _ _ => rfl,
    fun _ _ found => .inl found⟩

theorem quiet_nextId (kernel : Kernel) {nextId : Nat}
    (later : kernel.nextId ≤ nextId) :
    Quiet kernel { kernel with nextId := nextId } :=
  ⟨rfl, rfl, rfl, rfl, rfl, later, fun _ => .inl rfl, fun _ _ => rfl,
    fun _ _ found => .inl found⟩

theorem quiet_loadSkeleton (kernel : Kernel) (owner : Process) :
    Quiet kernel (kernel.loadSkeleton owner).2 := by
  have loaded : Quiet kernel { kernel with
      objects := Function.update kernel.objects kernel.nextId .fresh
      nextId := kernel.nextId + 1 } := by
    refine ⟨rfl, rfl, rfl, rfl, rfl, Nat.le_succ _, fun _ => .inl rfl, ?_,
      fun _ _ found => .inl found⟩
    intro object older
    exact Function.update_of_ne (Nat.ne_of_lt older) _ _
  refine loaded.trans ?_
  refine (quiet_openDescriptor _ _ ?_).trans ((quiet_openDescriptor _ _ ?_).trans
    ((quiet_openDescriptor _ _ ?_).trans (quiet_openDescriptor _ _ ?_))) <;>
    exact fun _ equal => Target.noConfusion equal

end Quiet

end Pidnl.Ratelimit
