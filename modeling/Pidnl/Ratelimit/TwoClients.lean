import Pidnl.Ratelimit.Opening
import Pidnl.Ratelimit.ReadOutcome
import Pidnl.Foundation.Execution

/-! # Two clients that set limits on one process

The command line and the helper of the graphical interface may set limits on the
same pid at the same time. Nothing orders their calls. They get along as long as
neither starts to replace the links while the other is replacing them.
-/

namespace Pidnl.Ratelimit

open Pidnl.Foundation Pidnl.System

variable {kernel after : Kernel} {pid : Int32} {config : RateLimitConfig}

/-! ## Which calls replace the links -/

/-- Calls of `detach_pinned_links`, `create_pin_dir` and `attach_bpf_programs` that
`limit_process_bandwidth` makes, other than to undo what it has done. -/
def isReplacing : List Frame → Bool
  | .detachPinnedLinks :: _ | .createPinDir :: _ | .attachBpfPrograms :: _ => true
  | _ => false

def isFirst (site : List Frame) (call : KernelCall Reply) : Bool :=
  site = [.detachPinnedLinks] ∧ call.function = .getBpffsMount

def Starts : KernelProgram α → Prop
  | .done _ => False
  | .call site request _ => isFirst site request = true

/-- The first call that replaces links has been made, and the last has not. -/
def Midway : KernelProgram α → Prop
  | .done _ => False
  | .call site request _ => isReplacing site = true ∧ isFirst site request = false

instance (program : KernelProgram α) : Decidable (Starts program) :=
  match program with
  | .done _ => inferInstanceAs (Decidable False)
  | .call site request _ => inferInstanceAs (Decidable (isFirst site request = true))

instance (program : KernelProgram α) : Decidable (Midway program) :=
  match program with
  | .done _ => inferInstanceAs (Decidable False)
  | .call site request _ =>
      inferInstanceAs (Decidable (isReplacing site = true ∧
        isFirst site request = false))

abbrev Outside (program : KernelProgram α) : Prop :=
  program.Makes fun site _ => isReplacing site = false

abbrev Within (program : KernelProgram α) : Prop :=
  program.Makes fun site request =>
    isReplacing site = true ∧ isFirst site request = false

theorem outside_inside {frame : Frame} {program : KernelProgram α}
    (other : ∀ site, isReplacing (frame :: site) = false) :
    Outside (program.inside frame) := by
  rw [Outside, Program.makes_inside]
  exact program.makes_all fun site _ => other site

theorem within_inside {frame : Frame} {program : KernelProgram α}
    (all : ∀ {Reply : Type} site (request : KernelCall Reply),
      isReplacing (frame :: site) = true ∧ isFirst (frame :: site) request = false) :
    Within (program.inside frame) := by
  rw [Within, Program.makes_inside]
  exact program.makes_all all

theorem outside_createCgroup (name : Path) : Outside (createCgroup name) :=
  outside_inside fun _ => rfl

theorem outside_deleteCgroup (name : Path) (cgroupFd : Option Fd) (pid : Int32) :
    Outside (deleteCgroup name cgroupFd pid) :=
  outside_inside fun _ => rfl

theorem outside_openLimit (pid : Int32) : Outside (openLimit pid) := by
  rw [openLimit]
  split
  · trivial
  apply Program.makes_bind (outside_createCgroup _)
  intro parent
  split
  · trivial
  apply Program.makes_bind (outside_createCgroup _)
  intro child
  split
  · trivial
  apply Program.makes_bind
  · exact ⟨rfl, fun _ => trivial⟩
  intro joined
  split
  · exact Program.makes_bind (outside_deleteCgroup _ _ _) fun _ => trivial
  apply Program.makes_bind (outside_inside fun _ => rfl)
  intro opened
  cases opened with
  | none => exact Program.makes_bind (outside_deleteCgroup _ _ _) fun _ => trivial
  | some cgroupFd =>
      apply Program.makes_bind
      · exact ⟨rfl, fun _ => trivial⟩
      intro allocated
      split
      · exact Program.makes_bind (outside_deleteCgroup _ _ _) fun _ => trivial
      · trivial

theorem outside_finishLimit (pid : Int32) (cgroupFd : Fd) (skel : Skeleton) :
    Outside (finishLimit pid cgroupFd (.ok skel)) :=
  ⟨rfl, fun _ => ⟨rfl, fun _ => trivial⟩⟩

theorem within_detachPinnedLink (root : Path) (pid : Int32) (attachType : AttachType) :
    Within ((detachPinnedLink root pid attachType).inside .detachPinnedLinks) := by
  rw [Within, Program.makes_inside, detachPinnedLink, Program.makes_inside]
  refine ⟨⟨rfl, rfl⟩, ?_⟩
  intro held
  cases held with
  | none => exact ⟨⟨rfl, rfl⟩, fun _ => trivial⟩
  | some fd =>
      exact ⟨⟨rfl, rfl⟩, fun _ => ⟨⟨rfl, rfl⟩, fun _ => ⟨⟨rfl, rfl⟩,
        fun _ => trivial⟩⟩⟩

def placeAfterMount (pid : Int32) (cgroupFd : Fd) (config : RateLimitConfig)
    (mount : Option Path) : KernelProgram (Except RatelimitCode Skeleton) := do
  Program.inside .detachPinnedLinks do
    match mount with
    | none => return ()
    | some root =>
      detachPinnedLink root pid .egress
      detachPinnedLink root pid .ingress
      ask (.rmdir (pinDirectory root pid))
  match ← createPinDir pid with
  | .error code => return .error code
  | .ok pinDir => attachBpfPrograms cgroupFd pinDir config

theorem placeLinks_eq (pid : Int32) (cgroupFd : Fd) (config : RateLimitConfig) :
    placeLinks pid cgroupFd config =
      .call [.detachPinnedLinks] .getBpffsMount
        (placeAfterMount pid cgroupFd config) := rfl

theorem within_placeAfterMount (pid : Int32) (cgroupFd : Fd)
    (config : RateLimitConfig) (mount : Option Path) :
    Within (placeAfterMount pid cgroupFd config mount) := by
  apply Program.makes_bind
  · cases mount with
    | none => trivial
    | some root =>
        rw [Program.makes_inside]
        apply Program.makes_bind
        · exact (Program.makes_inside _ _).mp (within_detachPinnedLink root pid .egress)
        intro _
        apply Program.makes_bind
        · exact (Program.makes_inside _ _).mp (within_detachPinnedLink root pid .ingress)
        intro _
        exact ⟨⟨rfl, rfl⟩, fun _ => trivial⟩
  intro _
  apply Program.makes_bind
  · exact within_inside fun _ _ => ⟨rfl, rfl⟩
  intro made
  cases made with
  | error code => trivial
  | ok pinDir => exact within_inside fun _ _ => ⟨rfl, rfl⟩

/-! ## The two clients -/

inductive Client
  | commandLine
  | helper
deriving DecidableEq, Repr

namespace Client

def process : Client → Process
  | .commandLine => .client
  | .helper => .helper

def other : Client → Client
  | .commandLine => .helper
  | .helper => .commandLine

theorem process_ne_other (client : Client) :
    client.process ≠ client.other.process := by
  cases client <;> exact Process.noConfusion

theorem other_ne (client : Client) : client.other ≠ client := by
  cases client <;> exact Client.noConfusion

@[simp] theorem other_other (client : Client) : client.other.other = client := by
  cases client <;> rfl

theorem eq_or_eq_other (client chosen : Client) :
    client = chosen ∨ client = chosen.other := by
  cases client <;> cases chosen <;> simp [other]

end Client

abbrev Setting := Turns Client Frame KernelCall Kernel RatelimitCode

namespace Setting

def start (kernel : Kernel) (pid : Int32) (configs : Client → RateLimitConfig) :
    Setting where
  state := kernel
  program := fun client => installLimit pid (configs client)

/-- No call fails but for what the other client has done. -/
def step (setting : Setting) (client : Client) : Option Setting :=
  Turns.step (fun client => Kernel.environment client.process Faults.none) setting
    client

/-- A client does not start to replace the links while the other is replacing
them. -/
def Exclusive (setting : Setting) (client : Client) : Prop :=
  Starts (setting.program client) → ¬ Midway (setting.program client.other)

instance (setting : Setting) (client : Client) : Decidable (setting.Exclusive client) :=
  inferInstanceAs (Decidable (_ → _))

end Setting

/-- The limits in force on a pid are exactly the configured ones, with one program
attached for each limited direction and none for the others. -/
def Enforces (kernel : Kernel) (pid : Int32) (config : RateLimitConfig) : Prop :=
  ∃ cgroup, kernel.cgroups.lookup (buildCgroupName pid) = some cgroup ∧
    ∀ attachType,
      if config.limit attachType = RATELIMIT_UNLIMITED then
        kernel.attached cgroup attachType = []
      else ∃ link, kernel.attached cgroup attachType = [link] ∧
        limitOf kernel (kernel.links link) = some (config.limit attachType)

/-- Once both have returned, one of them with success, the limits in force are
those of one that has returned with success. -/
def EndsAcknowledged (pid : Int32) (configs : Client → RateLimitConfig)
    (setting : Setting) : Prop :=
  (∀ client, (setting.returned? client).isSome) →
    (∃ client, setting.returned? client = some .ok) →
      ∃ client, setting.returned? client = some .ok ∧
        Enforces setting.state pid (configs client)

theorem enforces_of_slots {cgroup : CgroupId} (settled : Settled kernel)
    (isCgroup : kernel.cgroups.lookup (buildCgroupName pid) = some cgroup)
    (slots : ∀ attachType,
      slot kernel pid attachType = installed config attachType .empty) :
    Enforces kernel pid config := by
  refine ⟨cgroup, isCgroup, ?_⟩
  intro attachType
  have holds := slots attachType
  rw [installed] at holds
  split
  · rename_i unlimited
    rw [if_pos unlimited, slot_eq_empty_iff] at holds
    apply attached_of_not_live settled isCgroup
    intro id found
    rw [holds] at found
    contradiction
  · rename_i limited
    rw [if_neg limited] at holds
    cases found : kernel.pins.lookup (pinPath kernel.bpffsMount pid attachType) with
    | none =>
        rw [slot_of_unpinned found] at holds
        contradiction
    | some id =>
        rw [slot_of_pinned found, linkSlot] at holds
        cases inCgroup : (kernel.links id).cgroup with
        | none =>
            rw [inCgroup] at holds
            contradiction
        | some other =>
            rw [inCgroup] at holds
            exact ⟨id, attached_of_live settled isCgroup found inCgroup,
              Slot.live.inj holds⟩

/-! ## How far a client has come -/

inductive Phase
  | opening
  | placing
  | closing
deriving DecidableEq

/-- The rest of a client's program, with what holds of it. -/
inductive Stage (pid : Int32) (config : RateLimitConfig) (client : Client) :
    Phase → KernelProgram RatelimitCode → Kernel → Prop
  | opening {program : KernelProgram (Except RatelimitCode Fd)} {kernel : Kernel}
      (outside : Outside program)
      (safe : SafeOutside client.process client.other.process pid
        (fun result final => ∃ cgroupFd cgroup, result = .ok cgroupFd ∧
          Opened final client.process cgroupFd cgroup pid) program kernel) :
      Stage pid config client .opening (program >>= placeLimit pid config) kernel
  | placing {Reply : Type} {site : List Frame} {request : KernelCall Reply}
      {next : Reply → KernelProgram (Except RatelimitCode Skeleton)}
      {kernel : Kernel} {cgroupFd : Fd} {cgroup : CgroupId}
      (within : Within (.call site request next))
      (made : Made kernel pid cgroup)
      (safe : SafeBeside client.process client.other.process
        (fun result final => ∃ skel, result = .ok skel ∧
          Placed final client.process skel cgroupFd cgroup pid config)
        (.call site request next) kernel) :
      Stage pid config client .placing
        (.call site request next >>= finishLimit pid cgroupFd) kernel
  | closing {program : KernelProgram RatelimitCode} {kernel : Kernel}
      {cgroup : CgroupId} (outside : Outside program)
      (made : Made kernel pid cgroup)
      (safe : SafeOutside client.process client.other.process pid
        (fun code _ => code = .ok) program kernel) :
      Stage pid config client .closing program kernel

namespace Stage

variable {client : Client} {phase : Phase} {program : KernelProgram RatelimitCode}

theorem kept (stage : Stage pid config client phase program kernel)
    (keeps : Keeps client.process kernel after)
    (apart : phase = .placing → Apart client.process kernel after) :
    Stage pid config client phase program after := by
  cases stage with
  | opening outside safe =>
      apply Stage.opening outside
      apply safe.later keeps fun _ _ _ => .trans
      intro result holds
      rcases holds with ⟨cgroupFd, cgroup, isOk, opened⟩
      exact ⟨cgroupFd, cgroup, isOk, opened.kept keeps⟩
  | placing within made safe =>
      apply Stage.placing within (made.kept keeps)
      intro later relied
      exact safe later ((apart rfl).trans relied)
  | closing outside made safe =>
      apply Stage.closing outside (made.kept keeps)
      exact safe.later keeps (fun _ _ _ => .trans) fun _ isOk => isOk

theorem made (stage : Stage pid config client phase program kernel)
    (opened : phase ≠ .opening) : ∃ cgroup, Made kernel pid cgroup := by
  cases stage with
  | opening outside safe => exact absurd rfl opened
  | placing within made safe => exact ⟨_, made⟩
  | closing outside made safe => exact ⟨_, made⟩

theorem midway (stage : Stage pid config client .placing program kernel) :
    Midway program := by
  cases stage with
  | placing within made safe => exact within.1

theorem of_placing {rest : KernelProgram (Except RatelimitCode Skeleton)}
    {cgroupFd : Fd} {cgroup : CgroupId} (within : Within rest)
    (made : Made kernel pid cgroup)
    (safe : SafeBeside client.process client.other.process
      (fun result final => ∃ skel, result = .ok skel ∧
        Placed final client.process skel cgroupFd cgroup pid config) rest kernel) :
    Stage pid config client .placing (rest >>= finishLimit pid cgroupFd) kernel ∨
      Stage pid config client .closing (rest >>= finishLimit pid cgroupFd) kernel ∧
        Settled kernel ∧ ∀ attachType,
          slot kernel pid attachType = installed config attachType .empty := by
  cases rest with
  | call site request next => exact .inl (.placing within made safe)
  | done result =>
      rcases safe with ⟨skel, rfl, placed⟩
      refine .inr ⟨.closing (outside_finishLimit pid cgroupFd skel) made ?_,
        placed.settled, placed.slots⟩
      exact safe_finishLimit placed client.process_ne_other

theorem exec {Reply : Type} {site : List Frame} {request : KernelCall Reply}
    {next : Reply → KernelProgram RatelimitCode}
    (stage : Stage pid config client phase (.call site request next) kernel)
    (idle : isFirst site request = true → Settled kernel) :
    let outcome := Kernel.exec client.process false kernel request
    (phase ≠ .placing ∧ Stage pid config client phase (next outcome.1) outcome.2 ∧
        Light client.other.process pid kernel outcome.2) ∨
      (phase = .placing ∨ isFirst site request = true) ∧
        Keeps client.other.process kernel outcome.2 ∧
        (Stage pid config client .placing (next outcome.1) outcome.2 ∨
          Stage pid config client .closing (next outcome.1) outcome.2 ∧
            Settled outcome.2 ∧ ∀ attachType, slot outcome.2 pid attachType =
              installed config attachType .empty) := by
  intro outcome
  generalize whole : Program.call site request next = program at stage
  cases stage with
  | closing outside made safe =>
      subst whole
      have stepped := safe kernel (.refl kernel)
      have madeAfter := made.kept stepped.1.toKeeps
      exact .inl ⟨nofun, .closing (outside.2 _) madeAfter stepped.2, stepped.1⟩
  | @placing Reply' site' request' next' _ cgroupFd cgroup within made safe =>
      cases whole
      have stepped := safe kernel (.refl kernel)
      refine .inr ⟨.inl rfl, stepped.1, ?_⟩
      exact of_placing (within.2 _) (made.kept stepped.1) stepped.2
  | @opening first _ outside safe =>
      cases first with
      | call site' request' next' =>
          cases whole
          have stepped := safe kernel (.refl kernel)
          exact .inl ⟨nofun, .opening (outside.2 _) stepped.2, stepped.1⟩
      | done result =>
          rcases safe with ⟨cgroupFd, cgroup, rfl, opened⟩
          have begins : Program.done (.ok cgroupFd) >>= placeLimit pid config =
            .call [.detachPinnedLinks] .getBpffsMount fun mount =>
              placeAfterMount pid cgroupFd config mount >>=
                finishLimit pid cgroupFd := rfl
          rw [begins] at whole
          cases whole
          have working : Working kernel client.process cgroupFd cgroup pid :=
            ⟨idle rfl, opened.isCgroup, opened.owns⟩
          have safe := safe_placeLinks working client.process_ne_other config
          rw [placeLinks_eq] at safe
          have stepped := safe kernel (.refl kernel)
          refine .inr ⟨.inr rfl, stepped.1, ?_⟩
          exact of_placing (within_placeAfterMount pid cgroupFd config _) opened.toMade
            stepped.2

theorem of_done {code : RatelimitCode}
    (stage : Stage pid config client phase (.done code) kernel) :
    phase = .closing ∧ code = .ok ∧ ∃ cgroup, Made kernel pid cgroup := by
  generalize whole : Program.done code = program at stage
  cases stage with
  | closing outside made safe =>
      subst whole
      exact ⟨rfl, safe, _, made⟩
  | placing within made safe => cases whole
  | @opening first _ outside safe =>
      cases first with
      | call site request next => cases whole
      | done result =>
          rcases safe with ⟨cgroupFd, cgroup, rfl, _⟩
          have begins : Program.done (.ok cgroupFd) >>= placeLimit pid config =
            .call [.detachPinnedLinks] .getBpffsMount fun mount =>
              placeAfterMount pid cgroupFd config mount >>=
                finishLimit pid cgroupFd := rfl
          rw [begins] at whole
          cases whole

end Stage

namespace Setting

/-- At most one client is replacing the links. While none is, what stands is what
the last one to do so has placed. -/
structure InOrder (pid : Int32) (configs : Client → RateLimitConfig)
    (setting : Setting) (phase : Client → Phase) : Prop where
  stages : ∀ client, Stage pid (configs client) client (phase client)
    (setting.program client) setting.state
  alone : ∀ client, phase client = .placing → phase client.other ≠ .placing
  settled : (∀ client, phase client ≠ .placing) → Settled setting.state ∧
    ((∃ client, phase client = .closing) → ∃ client, phase client = .closing ∧
      ∀ attachType, slot setting.state pid attachType =
        installed (configs client) attachType .empty)

variable {configs : Client → RateLimitConfig}

theorem inOrder_start (settled : Settled kernel) (positive : 0 < pid)
    (runs : kernel.running pid = true) (configs : Client → RateLimitConfig) :
    InOrder pid configs (start kernel pid configs) fun _ => .opening where
  stages := by
    intro client
    simp only [start, installLimit_eq]
    exact .opening (outside_openLimit pid) (safe_openLimit positive runs)
  alone := nofun
  settled := fun _ => ⟨settled, nofun⟩

/-- The stages after a step of one client, the other being left where it is. -/
theorem stages_step {setting next : Setting} {phase : Client → Phase}
    {client : Client} {program : KernelProgram RatelimitCode} {nextPhase : Phase}
    (inOrder : InOrder pid configs setting phase)
    (programs : next.program = Function.update setting.program client program)
    (stage : Stage pid (configs client) client nextPhase program next.state)
    (keeps : Keeps client.other.process setting.state next.state)
    (apart : phase client.other = .placing →
      Apart client.other.process setting.state next.state) (chosen : Client) :
    Stage pid (configs chosen) chosen (Function.update phase client nextPhase chosen)
      (next.program chosen) next.state := by
  rw [programs]
  rcases chosen.eq_or_eq_other client with rfl | rfl
  · rw [Function.update_self, Function.update_self]
    exact stage
  · rw [Function.update_of_ne client.other_ne, Function.update_of_ne client.other_ne]
    exact (inOrder.stages client.other).kept keeps apart

theorem inOrder_step {setting next : Setting} {client : Client}
    (ordered : ∃ phase, InOrder pid configs setting phase)
    (exclusive : Exclusive setting client)
    (stepped : setting.step client = some next) :
    ∃ phase, InOrder pid configs next phase := by
  rcases ordered with ⟨phase, inOrder⟩
  rcases Turns.step_eq_some stepped with
    ⟨Reply, site, request, rest, same, state, programs⟩
  rw [environment_none] at state programs
  have stage := inOrder.stages client
  rw [same] at stage
  -- A client that starts finds the other not replacing links.
  have others : phase client = .placing ∨ isFirst site request = true →
      phase client.other ≠ .placing := by
    intro replaces placing
    rcases replaces with own | first
    · exact inOrder.alone client own placing
    · have starts : Starts (setting.program client) := by
        rw [same]
        exact first
      have otherStage := inOrder.stages client.other
      rw [placing] at otherStage
      exact exclusive starts otherStage.midway
  have idle : isFirst site request = true → Settled setting.state := by
    intro first
    apply (inOrder.settled _).1
    intro chosen
    rcases chosen.eq_or_eq_other client with rfl | rfl
    · intro placing
      rw [placing] at stage
      have midway := stage.midway.2
      rw [first] at midway
      contradiction
    · exact others (.inr first)
  rcases stage.exec idle with ⟨notPlacing, stageNext, light⟩ | ⟨replaces, keeps, after⟩
  · rw [← state] at stageNext light
    have apart : phase client.other = .placing →
        Apart client.other.process setting.state next.state := by
      intro placing
      have otherStage := inOrder.stages client.other
      rw [placing] at otherStage
      rcases otherStage.made nofun with ⟨cgroup, made⟩
      exact light.apart cgroup made
    have stages := stages_step inOrder programs stageNext light.toKeeps apart
    rw [Function.update_eq_self] at stages
    refine ⟨phase, stages, inOrder.alone, ?_⟩
    intro nonePlacing
    rcases inOrder.settled nonePlacing with ⟨settled, placed⟩
    refine ⟨(light.settled settled).1, ?_⟩
    intro closing
    rcases placed closing with ⟨last, isClosing, slots⟩
    refine ⟨last, isClosing, ?_⟩
    intro attachType
    rw [(light.settled settled).2, slots]
  have otherPhase := others replaces
  rw [← state] at keeps after
  rcases after with stageNext | ⟨stageNext, settled, slots⟩
  · refine ⟨Function.update phase client .placing,
      stages_step inOrder programs stageNext keeps fun placing => absurd placing otherPhase,
      ?_, ?_⟩
    · intro chosen placing
      rcases chosen.eq_or_eq_other client with rfl | rfl
      · rw [Function.update_of_ne chosen.other_ne]
        exact otherPhase
      · rw [Function.update_of_ne client.other_ne] at placing
        exact absurd placing otherPhase
    · intro nonePlacing
      have notPlacing := nonePlacing client
      rw [Function.update_self] at notPlacing
      exact absurd rfl notPlacing
  · refine ⟨Function.update phase client .closing,
      stages_step inOrder programs stageNext keeps fun placing => absurd placing otherPhase,
      ?_, fun _ => ⟨settled, fun _ => ⟨client, Function.update_self _ _ _, slots⟩⟩⟩
    intro chosen placing
    rcases chosen.eq_or_eq_other client with rfl | rfl
    · rw [Function.update_self] at placing
      contradiction
    · rw [Function.update_of_ne client.other_ne] at placing
      exact absurd placing otherPhase

/-- Two clients that do not replace the links at the same time leave the limits of
one of them. -/
theorem endsAcknowledged_of_exclusive (settled : Settled kernel) (positive : 0 < pid)
    (runs : kernel.running pid = true) (configs : Client → RateLimitConfig)
    {calls : List Client} {final : Setting}
    (exclusive : Guarded step Exclusive (start kernel pid configs) calls)
    (run : perform step (start kernel pid configs) calls = some final) :
    EndsAcknowledged pid configs final := by
  have preserved : ∀ setting client next,
      (∃ phase, InOrder pid configs setting phase) → Exclusive setting client →
      step setting client = some next → ∃ phase, InOrder pid configs next phase :=
    fun _ _ _ => inOrder_step
  have started : ∃ phase, InOrder pid configs (start kernel pid configs) phase :=
    ⟨_, inOrder_start settled positive runs configs⟩
  rcases perform.invariant_of_guarded preserved started exclusive run with
    ⟨phase, inOrder⟩
  intro returned _
  have done : ∀ client, phase client = .closing ∧
      final.returned? client = some .ok ∧ ∃ cgroup, Made final.state pid cgroup := by
    intro client
    rcases Option.isSome_iff_exists.mp (returned client) with ⟨code, isCode⟩
    have stage := inOrder.stages client
    rw [Turns.program_of_returned isCode] at stage
    rcases stage.of_done with ⟨isClosing, rfl, made⟩
    exact ⟨isClosing, isCode, made⟩
  have nonePlacing : ∀ client, phase client ≠ .placing := by
    intro client placing
    rw [(done client).1] at placing
    contradiction
  rcases inOrder.settled nonePlacing with ⟨settledFinal, placed⟩
  rcases placed ⟨.commandLine, (done .commandLine).1⟩ with ⟨last, _, slots⟩
  rcases (done last).2.2 with ⟨cgroup, made⟩
  exact ⟨last, (done last).2.1, enforces_of_slots settledFinal made.isCgroup slots⟩

/-! ## Two runs -/

def freshMachine : Kernel := .empty [] [] fun pid => pid = 7

def bothLimited : Client → RateLimitConfig
  | .commandLine => { uploadKbps := 100, downloadKbps := 200 }
  | .helper => { uploadKbps := 300, downloadKbps := 400 }

/-- The helper opens the cgroup while the command line replaces the links, and
replaces them when the command line has returned. -/
def orderly : List Client :=
  .replicate 16 .commandLine ++ .replicate 8 .helper ++ .replicate 13 .commandLine ++
    .replicate 25 .helper

/-- The helper has detached the old links when the command line runs from beginning
to end, and goes on to pin its own. -/
def overlapping : List Client :=
  .replicate 14 .helper ++ .replicate 29 .commandLine ++ .replicate 22 .helper

theorem endsAcknowledged_of_exclusive_orderly :
    ∃ final, perform step (start freshMachine 7 bothLimited) orderly = some final ∧
      ∃ client, Enforces final.state 7 (bothLimited client) := by
  have ends : (perform step (start freshMachine 7 bothLimited) orderly).map
      (fun final => (final.returned? .commandLine, final.returned? .helper)) =
      some (some .ok, some .ok) := by decide +kernel
  have exclusive : Guarded step Exclusive (start freshMachine 7 bothLimited) orderly := by
    decide +kernel
  rcases Option.map_eq_some_iff.mp ends with ⟨final, run, returned⟩
  have settled : Settled freshMachine := settled_empty [] [] _
  have acknowledged := endsAcknowledged_of_exclusive settled (by decide) (by decide)
    bothLimited exclusive run
  have commandLine := congrArg Prod.fst returned
  have helper := congrArg Prod.snd returned
  have all : ∀ client, (final.returned? client).isSome := by
    intro client
    cases client with
    | commandLine => exact Option.isSome_of_eq_some commandLine
    | helper => exact Option.isSome_of_eq_some helper
  rcases acknowledged all ⟨.commandLine, commandLine⟩ with ⟨client, _, enforces⟩
  exact ⟨final, run, client, enforces⟩

/-- The helper's pin collides with the command line's, and what it undoes is what the
command line has been told is done. -/
theorem not_endsAcknowledged :
    ∃ final, perform step (start freshMachine 7 bothLimited) overlapping = some final ∧
      ¬ EndsAcknowledged 7 bothLimited final := by
  have ends : (perform step (start freshMachine 7 bothLimited) overlapping).map
      (fun final => (final.returned? .commandLine, final.returned? .helper,
        hasCgroup final.state 7)) =
      some (some .ok, some .bpfPin, false) := by decide +kernel
  rcases Option.map_eq_some_iff.mp ends with ⟨final, run, returned⟩
  have commandLine := congrArg Prod.fst returned
  have helper := congrArg (fun triple => triple.2.1) returned
  have absent : hasCgroup final.state 7 = false :=
    congrArg (fun triple => triple.2.2) returned
  refine ⟨final, run, ?_⟩
  intro acknowledged
  have all : ∀ client, (final.returned? client).isSome := by
    intro client
    cases client with
    | commandLine => exact Option.isSome_of_eq_some commandLine
    | helper => exact Option.isSome_of_eq_some helper
  rcases acknowledged all ⟨.commandLine, commandLine⟩ with
    ⟨client, _, cgroup, isCgroup, _⟩
  rw [hasCgroup, isCgroup] at absent
  cases absent

end Setting

end Pidnl.Ratelimit
