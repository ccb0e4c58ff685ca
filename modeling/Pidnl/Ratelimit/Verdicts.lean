import Pidnl.Ratelimit.Policing
import Pidnl.Foundation.Execution

/-! # The verdicts on packets while limits are being set up

Packets of both directions come in any order between the calls of
`attach_bpf_programs`. Each direction's packets are judged by the limit configured
for it, from the moment its program is attached.
-/

namespace Pidnl.Ratelimit

open Pidnl.Foundation Pidnl.System
open Pidnl.Bpf (Packet Verdict RateLimitState)

/-! ## Packets and calls in any order -/

structure Setup where
  attempt : Attempt
  program : KernelProgram (Except RatelimitCode Skeleton)

inductive Event
  /-- The next call of `attach_bpf_programs`. -/
  | call
  | packet (attachType : AttachType) (packet : Packet)

namespace Setup

def start (kernel : Kernel) (cgroupFd : Fd) (pinDir : Path)
    (config : RateLimitConfig) : Setup where
  attempt := { kernel := kernel, refused := false }
  program := attachBpfPrograms cgroupFd pinDir config

def step (owner : Process) (faults : Faults) (cgroup : CgroupId) (setup : Setup) :
    Event → Option Setup
  | .call =>
      match setup.program with
      | .done _ => none
      | .call site request next =>
          let outcome := Attempt.environment owner faults site request setup.attempt
          some { attempt := outcome.2, program := next outcome.1 }
  | .packet attachType packet =>
      let outcome := receive setup.attempt.kernel cgroup attachType packet
      some { setup with attempt := { setup.attempt with kernel := outcome.2 } }

def IsAttached (setup : Setup) (cgroup : CgroupId) (attachType : AttachType) : Prop :=
  setup.attempt.kernel.attached cgroup attachType ≠ []

instance (setup : Setup) (cgroup : CgroupId) (attachType : AttachType) :
    Decidable (setup.IsAttached cgroup attachType) :=
  inferInstanceAs (Decidable (_ ≠ _))

def heard (cgroup : CgroupId) (attachType : AttachType) (setup : Setup) :
    Event → List Packet
  | .call => []
  | .packet other packet =>
      if other = attachType ∧ setup.IsAttached cgroup attachType then [packet] else []

/-- The packets of a direction that have come while its program was attached. -/
def met (owner : Process) (faults : Faults) (cgroup : CgroupId)
    (attachType : AttachType) (setup : Setup) : List Event → List Packet
  | [] => []
  | event :: events =>
      setup.heard cgroup attachType event ++
        match setup.step owner faults cgroup event with
        | none => []
        | some next => next.met owner faults cgroup attachType events

def verdict (setup : Setup) (cgroup : CgroupId) (attachType : AttachType)
    (packet : Packet) : Verdict :=
  (receive setup.attempt.kernel cgroup attachType packet).1

variable {owner : Process} {faults : Faults} {cgroup : CgroupId}
  {config : RateLimitConfig} {setup next : Setup}

/-- A direction is not policed, or it is policed by a bucket with the configured
limit that has met its packets and no others. -/
def PolicedBy (config : RateLimitConfig) (cgroup : CgroupId) (attempt : Attempt)
    (attachType : AttachType) (packets : List Packet) : Prop :=
  policers attempt.kernel cgroup attachType = [] ∧
      (packets = [] ∨ attempt.refused = true) ∨
    config.limit attachType ≠ RATELIMIT_UNLIMITED ∧ ∃ state,
      policers attempt.kernel cgroup attachType =
          [(some (config.limit attachType), some state)] ∧
        Pidnl.Bpf.IsBucket (config.limit attachType) state
          (Pidnl.Bpf.emptyBucket.after (Pidnl.Bpf.bucketMeter (config.limit attachType))
            (packets.map Packet.offered))

structure Policed (owner : Process) (faults : Faults) (config : RateLimitConfig)
    (cgroup : CgroupId) (setup : Setup) (packets : AttachType → List Packet) :
    Prop where
  safe : SafePolicing config cgroup (Attempt.environment owner faults)
    (fun _ _ => True) setup.program setup.attempt
  policed : ∀ attachType,
    PolicedBy config cgroup setup.attempt attachType (packets attachType)

theorem isAttached_iff {attachType : AttachType} :
    setup.IsAttached cgroup attachType ↔
      policers setup.attempt.kernel cgroup attachType ≠ [] :=
  not_congr policers_eq_nil.symm

theorem receive_of_policers {kernel : Kernel} {attachType : AttachType} {limit : UInt32}
    {state : RateLimitState}
    (one : policers kernel cgroup attachType = [(some limit, some state)])
    (packet : Packet) :
    let result := Pidnl.Bpf.lockedSection (Pidnl.Bpf.limitBps limit) packet.now
      packet.size state
    let outcome := receive kernel cgroup attachType packet
    outcome.1 = result.1 ∧ Traffic cgroup kernel outcome.2 ∧
      policers outcome.2 cgroup attachType = [(some limit, some result.2)] ∧
      ∀ other, other ≠ attachType →
        policers outcome.2 cgroup other = policers kernel cgroup other := by
  intro result outcome
  rw [policers, List.map_eq_singleton_iff] at one
  rcases one with ⟨id, attached, entry⟩
  rcases Prod.mk.inj entry with ⟨isLimit, isState⟩
  have received : outcome = runProgram kernel attachType packet id :=
    receive_of_one attached packet
  rcases runProgram_of_entry isLimit isState packet with ⟨sameVerdict, stateAfter⟩
  rw [received]
  refine ⟨sameVerdict, traffic_runProgram attached packet, ?_, ?_⟩
  · have sameAttached : (runProgram kernel attachType packet id).2.attached cgroup
      attachType = [id] := attached
    have links : (runProgram kernel attachType packet id).2.links id =
      kernel.links id := rfl
    rw [policers, sameAttached, List.map_singleton, links, limitFor_runProgram, isLimit,
      stateAfter]
  · intro other different
    exact policers_runProgram_of_ne different packet id

theorem policed_packet {packets : AttachType → List Packet}
    (policed : Policed owner faults config cgroup setup packets)
    (attachType : AttachType) (packet : Packet)
    (stepped : setup.step owner faults cgroup (.packet attachType packet) = some next) :
    Policed owner faults config cgroup next fun other =>
      packets other ++ setup.heard cgroup other (.packet attachType packet) := by
  cases stepped
  have unheard : ∀ other, other ≠ attachType →
      setup.heard cgroup other (.packet attachType packet) = [] := by
    intro other different
    exact if_neg fun both => different both.1.symm
  rcases policed.policed attachType with ⟨none, _⟩ | ⟨limited, state, one, isBucket⟩
  · have received := receive_of_none (policers_eq_nil.mp none) packet
    have silent : setup.heard cgroup attachType (.packet attachType packet) = [] :=
      if_neg fun both => isAttached_iff.mp both.2 none
    rw [received]
    refine ⟨policed.safe, ?_⟩
    intro other
    by_cases same : other = attachType
    · subst same
      rw [silent, List.append_nil]
      exact policed.policed other
    · rw [unheard other same, List.append_nil]
      exact policed.policed other
  · rcases receive_of_policers one packet with ⟨_, traffic, own, others⟩
    have heard : setup.heard cgroup attachType (.packet attachType packet) = [packet] :=
      if_pos ⟨rfl, isAttached_iff.mpr (by rw [one]; exact List.cons_ne_nil _ _)⟩
    constructor
    · have relied : Attempt.Rely cgroup setup.attempt { setup.attempt with
          kernel := (receive setup.attempt.kernel cgroup attachType packet).2 } :=
        ⟨traffic, rfl⟩
      exact policed.safe.later relied (fun _ _ _ => .trans) fun _ _ => trivial
    · intro other
      by_cases same : other = attachType
      · subst same
        rw [heard]
        have next := Pidnl.Bpf.bucketVerdict_of_isBucket isBucket packet
        exact .inr ⟨limited, _, own, next.2⟩
      · rw [unheard other same, List.append_nil]
        have kept := policed.policed other
        rw [PolicedBy] at kept ⊢
        rw [others other same]
        exact kept

theorem policed_call {packets : AttachType → List Packet}
    (policed : Policed owner faults config cgroup setup packets)
    (stepped : setup.step owner faults cgroup .call = some next) :
    Policed owner faults config cgroup next packets ∧
      Attempt.Changes config cgroup setup.attempt next.attempt := by
  have safe := policed.safe
  simp only [step] at stepped
  split at stepped
  · contradiction
  rename_i Reply site request rest same
  cases stepped
  rw [same] at safe
  rcases safe setup.attempt (.refl _) with ⟨changes, safeNext⟩
  refine ⟨⟨safeNext, ?_⟩, changes⟩
  intro attachType
  have before := policed.policed attachType
  rw [PolicedBy] at before ⊢
  rcases changes.policers attachType with
    unchanged | ⟨unrefused, limited, none, one⟩ | ⟨none, refused⟩
  · rw [unchanged]
    refine before.imp_left fun empty => ⟨empty.1, empty.2.imp_right changes.refused⟩
  · rw [unrefused, none] at before
    rcases before with ⟨_, nothing | refused⟩ | ⟨_, state, one', _⟩
    · rw [nothing]
      exact .inr ⟨limited, .zero, one, Pidnl.Bpf.isBucket_zero _⟩
    · contradiction
    · contradiction
  · exact .inl ⟨none, .inr refused⟩

theorem policed_step {packets : AttachType → List Packet} {event : Event}
    (policed : Policed owner faults config cgroup setup packets)
    (stepped : setup.step owner faults cgroup event = some next) :
    Policed owner faults config cgroup next fun attachType =>
      packets attachType ++ setup.heard cgroup attachType event := by
  cases event with
  | packet attachType packet => exact policed_packet policed attachType packet stepped
  | call =>
      simp only [heard, List.append_nil]
      exact (policed_call policed stepped).1

/-- Along a run every direction's bucket meets the direction's packets, and only
these. -/
theorem policed_run {packets : AttachType → List Packet} {events : List Event}
    {final : Setup} (policed : Policed owner faults config cgroup setup packets)
    (run : perform (step owner faults cgroup) setup events = some final) :
    Policed owner faults config cgroup final fun attachType =>
      packets attachType ++ setup.met owner faults cgroup attachType events := by
  induction events generalizing setup packets with
  | nil =>
      cases run
      simp only [met, List.append_nil]
      exact policed
  | cons event events induction =>
      rcases perform.cons_eq_some.mp run with ⟨next, stepped, rest⟩
      have later := induction (policed_step policed stepped) rest
      simp only [met, stepped, ← List.append_assoc]
      exact later

/-- A program that is attached stays so, unless a pin is refused. -/
theorem attached_step {packets : AttachType → List Packet} {event : Event}
    (policed : Policed owner faults config cgroup setup packets)
    (stepped : setup.step owner faults cgroup event = some next)
    (attachType : AttachType) :
    (setup.attempt.refused = true → next.attempt.refused = true) ∧
      (setup.IsAttached cgroup attachType →
        next.IsAttached cgroup attachType ∨ next.attempt.refused = true) := by
  cases event with
  | call =>
      have changes := (policed_call policed stepped).2
      refine ⟨changes.refused, ?_⟩
      intro attached
      rw [isAttached_iff] at attached ⊢
      rcases changes.policers attachType with same | ⟨_, _, none, _⟩ | ⟨_, refused⟩
      · exact .inl (same ▸ attached)
      · exact absurd none attached
      · exact .inr refused
  | packet other packet =>
      cases stepped
      refine ⟨fun refused => refused, fun attached => .inl ?_⟩
      rcases policed.policed other with ⟨none, _⟩ | ⟨_, state, one, _⟩
      · have received := receive_of_none (policers_eq_nil.mp none) packet
        simp only [IsAttached, received]
        exact attached
      · rcases receive_of_policers one packet with ⟨_, traffic, _⟩
        simp only [IsAttached, traffic.attached]
        exact attached

theorem attached_run {packets : AttachType → List Packet} {events : List Event}
    {final : Setup} (policed : Policed owner faults config cgroup setup packets)
    (run : perform (step owner faults cgroup) setup events = some final)
    {attachType : AttachType}
    (attached : setup.IsAttached cgroup attachType ∨ setup.attempt.refused = true) :
    final.IsAttached cgroup attachType ∨ final.attempt.refused = true := by
  induction events generalizing setup packets with
  | nil =>
      cases run
      exact attached
  | cons event events induction =>
      rcases perform.cons_eq_some.mp run with ⟨next, stepped, rest⟩
      apply induction (policed_step policed stepped) rest
      have step := attached_step policed stepped attachType
      rcases attached with attached | refused
      · exact step.2 attached
      · exact .inr (step.1 refused)

theorem Policed.verdict {packets : AttachType → List Packet}
    (policed : Policed owner faults config cgroup setup packets)
    (attachType : AttachType) (packet : Packet) :
    setup.verdict cgroup attachType packet =
      if config.limit attachType ≠ RATELIMIT_UNLIMITED ∧
          setup.IsAttached cgroup attachType then
        Pidnl.Bpf.bucketVerdict (config.limit attachType) (packets attachType) packet
      else .allow := by
  rcases policed.policed attachType with ⟨none, _⟩ | ⟨limited, state, one, isBucket⟩
  · have notAttached : ¬ setup.IsAttached cgroup attachType := fun attached =>
      isAttached_iff.mp attached none
    rw [if_neg fun both => notAttached both.2, Setup.verdict,
      receive_of_none (policers_eq_nil.mp none)]
  · have attached : setup.IsAttached cgroup attachType := by
      rw [isAttached_iff, one]
      exact List.cons_ne_nil _ _
    rw [if_pos ⟨limited, attached⟩, Setup.verdict]
    rw [(receive_of_policers one packet).1]
    exact (Pidnl.Bpf.bucketVerdict_of_isBucket isBucket packet).1

/-- At every moment of `attach_bpf_programs`, and after it, packets are dropped only
in a limited direction whose program is attached, and there as a bucket with the
configured limit drops them that has met this direction's packets alone. No program
is attached for an unlimited direction. One that is attached stays so, unless
`bpf_link__pin` fails. -/
theorem policed_as_configured {kernel : Kernel} {cgroupFd : Fd} (settled : Settled kernel)
    (isOpen : kernel.target? cgroupFd = some (.cgroup cgroup))
    (none : ∀ attachType, kernel.attached cgroup attachType = [])
    (owner : Process) (faults : Faults) (config : RateLimitConfig) (pinDir : Path)
    {events : List Event} {final : Setup}
    (run : perform (step owner faults cgroup) (start kernel cgroupFd pinDir config)
      events = some final) :
    (∀ attachType packet, final.verdict cgroup attachType packet =
      if config.limit attachType ≠ RATELIMIT_UNLIMITED ∧
          final.IsAttached cgroup attachType then
        Pidnl.Bpf.bucketVerdict (config.limit attachType)
          ((start kernel cgroupFd pinDir config).met owner faults cgroup attachType
            events) packet
      else .allow) ∧
    (∀ attachType, config.limit attachType = RATELIMIT_UNLIMITED →
      ¬ final.IsAttached cgroup attachType) ∧
    ∀ attachType later last,
      perform (step owner faults cgroup) final later = some last →
        final.IsAttached cgroup attachType → last.attempt.refused = false →
          last.IsAttached cgroup attachType := by
  have prepared : Prepared kernel cgroupFd cgroup :=
    ⟨settled.unused, isOpen, used_of_target settled isOpen⟩
  have initially : Policed owner faults config cgroup
      (start kernel cgroupFd pinDir config) fun _ => [] := by
    constructor
    · exact policing_attachBpfPrograms (executes_environment owner faults) prepared none
        rfl pinDir
    · intro attachType
      exact .inl ⟨policers_eq_nil.mpr (none attachType), .inl rfl⟩
  have policed := policed_run initially run
  simp only [List.nil_append] at policed
  refine ⟨policed.verdict, ?_, ?_⟩
  · intro attachType unlimited attached
    rcases policed.policed attachType with ⟨nothing, _⟩ | ⟨limited, _⟩
    · exact isAttached_iff.mp attached nothing
    · exact limited unlimited
  · intro attachType later last runLater attached unrefused
    rcases attached_run policed runLater (.inl attached) with stays | refused
    · exact stays
    · rw [unrefused] at refused
      contradiction

/-! ## Two runs -/

/-- The machine before `attach_bpf_programs`: the cgroup of process 7 is made and open,
and so is its directory for pins. -/
def readyMachine : Kernel :=
  let made := ((Kernel.empty [] [] fun pid => pid = 7).ensureCgroup
    [cgroupRoot]).ensureCgroup (buildCgroupName 7)
  { made.openDescriptor .client (.cgroup 1) with directories := fun _ => true }

theorem settled_readyMachine : Settled readyMachine := by
  have root := settled_ensureCgroup
    (settled_empty [] [] fun pid => decide (pid = 7)) (.inl rfl)
  have child := settled_ensureCgroup root (.inr ⟨by decide +kernel, 7, by decide, rfl⟩)
  have notLink : ∀ id, Target.cgroup 1 ≠ .link id := nofun
  have opened := child.quiet (quiet_openDescriptor _ .client notLink)
  exact opened.quiet (quiet_directories _ _)

/-- 8 kbit/s, a thousand bytes a second, for uploads alone. -/
def uploadLimited : RateLimitConfig where
  uploadKbps := 8
  downloadKbps := RATELIMIT_UNLIMITED

def early : Packet where
  now := 0
  size := 1500

/-- Both directions are heard once the upload program is attached. -/
def attaching : List Event :=
  [.call, .call, .packet .egress early, .call, .call, .packet .ingress early]

theorem policed_as_configured_attaching :
    ∃ final, perform (step .client .none 1) (start readyMachine 2 [] uploadLimited)
        attaching = some final ∧
      final.verdict 1 .egress early = .drop ∧
      final.verdict 1 .ingress early = .allow := by
  have ends : (perform (step .client .none 1) (start readyMachine 2 [] uploadLimited)
      attaching).map (fun final => (decide (final.IsAttached 1 .egress),
        (start readyMachine 2 [] uploadLimited).met .client .none 1 .egress attaching)) =
      some (true, []) := by decide +kernel
  rcases Option.map_eq_some_iff.mp ends with ⟨final, run, reached⟩
  rcases Prod.mk.inj reached with ⟨attached, met⟩
  have none : ∀ attachType, readyMachine.attached 1 attachType = [] := by
    intro attachType
    cases attachType <;> decide +kernel
  have isOpen : readyMachine.target? 2 = some (.cgroup 1) := by decide +kernel
  rcases policed_as_configured settled_readyMachine isOpen none .client .none uploadLimited []
    run with ⟨verdicts, _⟩
  refine ⟨final, run, ?_, ?_⟩
  · have limited : uploadLimited.limit .egress ≠ RATELIMIT_UNLIMITED := by decide
    rw [verdicts .egress early, if_pos ⟨limited, of_decide_eq_true attached⟩, met]
    decide +kernel
  · rw [verdicts .ingress early]
    exact if_neg fun both => both.1 rfl

def pinFails : Faults :=
  .only [.attachBpfPrograms, .direction .egress] .bpfLinkPin

/-- The link that cannot be pinned is destroyed, and packets which the bucket of the
limit would drop pass from then on. -/
theorem not_policed_after_failed_pin :
    ∃ middle final,
      perform (step .client pinFails 1) (start readyMachine 2 [] uploadLimited)
        (.replicate 4 .call) = some middle ∧
      middle.IsAttached 1 .egress ∧
      perform (step .client pinFails 1) middle (.replicate 2 .call) = some final ∧
      middle.met .client pinFails 1 .egress (.replicate 2 .call) = [] ∧
      Pidnl.Bpf.bucketVerdict (uploadLimited.limit .egress) [] early = .drop ∧
      final.verdict 1 .egress early = .allow := by
  have reaches : (perform (step .client pinFails 1)
      (start readyMachine 2 [] uploadLimited) (.replicate 4 .call)).map (fun middle =>
        (decide (middle.IsAttached 1 .egress),
          middle.met .client pinFails 1 .egress (.replicate 2 .call),
          (perform (step .client pinFails 1) middle (.replicate 2 .call)).map
            fun final => final.verdict 1 .egress early)) =
      some (true, [], some .allow) := by decide +kernel
  rcases Option.map_eq_some_iff.mp reaches with ⟨middle, run, reached⟩
  rcases Prod.mk.inj reached with ⟨attached, rest⟩
  rcases Prod.mk.inj rest with ⟨met, ends⟩
  rcases Option.map_eq_some_iff.mp ends with ⟨final, runLater, passes⟩
  exact ⟨middle, final, run, of_decide_eq_true attached, runLater, met, by decide +kernel,
    passes⟩

end Setup

end Pidnl.Ratelimit
