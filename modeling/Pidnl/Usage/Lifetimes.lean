import Pidnl.Usage.Events

/-! # Limits and the processes that they are for

A limit stays with its process through all that happens beside it, unless the daemon still
takes the pid for an earlier process, and does not outlive it where the daemon had room to
watch it.
-/

namespace Pidnl.Usage

open Pidnl.Foundation Pidnl.System Pidnl.Ratelimit Pidnl.Monitor

/-! ## Limits last -/

/-- A process goes on, and no change is asked for that concerns its limit. -/
structure Event.Aside (pid : Int32) (event : Event) : Prop where
  goesOn : event ≠ .exits pid
  spares : ∀ operation, event.AsksFor operation → operation.Spares pid

theorem aside_wakes (pid : Int32) : Event.wakes.Aside pid := ⟨nofun, fun _ => False.elim⟩

theorem Leaves.aside {ledger next : Ledger} {event : Event} {pid : Int32}
    (leaves : Leaves ledger event next) (aside : event.Aside pid)
    (seen : ledger.seen pid = true) :
    next.seen pid = true ∧ next.limits pid = ledger.limits pid := by
  cases leaves with
  | @starts other =>
      rw [Ledger.starts]
      split
      · exact ⟨seen, rfl⟩
      · rename_i notRunning
        have different : pid ≠ other := by
          intro same
          subst same
          exact notRunning (Ledger.seen_iff.mp seen).1
        refine ⟨?_, rfl⟩
        rw [Ledger.seen_iff] at seen ⊢
        exact ⟨(Function.update_of_ne different _ _).trans seen.1,
          (Function.update_of_ne different _ _).trans seen.2⟩
  | @exits other =>
      have different : pid ≠ other := fun same => aside.goesOn (same ▸ rfl)
      refine ⟨?_, rfl⟩
      rw [Ledger.seen_iff] at seen ⊢
      exact ⟨(Function.update_of_ne different _ _).trans seen.1, seen.2⟩
  | wakes => exact ⟨Ledger.seen_reap seen, Ledger.limits_reap_of_seen seen⟩
  | asked asks =>
      exact ⟨Ledger.seen_apply seen _, Ledger.limits_apply_of_spares seen (aside.spares _ asks)⟩
  | nothing => exact ⟨seen, rfl⟩

theorem kept_of_aside {pid : Int32} {ledger : Ledger} {events : List Event}
    (seen : ledger.seen pid = true) (aside : ∀ event ∈ events, event.Aside pid) :
    (recorded ledger events).seen pid = true ∧
      (recorded ledger events).limits pid = ledger.limits pid := by
  induction events generalizing ledger with
  | nil => exact ⟨seen, rfl⟩
  | cons event events induction =>
      rcases (leaves_step ledger event).aside (aside event (.head _)) seen with ⟨still, same⟩
      rcases induction still fun other member => aside other (.tail _ member) with
        ⟨last, limits⟩
      exact ⟨last, limits.trans same⟩

theorem Leaves.aside_unlimited {ledger next : Ledger} {event : Event} {pid : Int32}
    (leaves : Leaves ledger event next) (aside : event.Aside pid)
    (unlimited : ledger.limits pid = none) : next.limits pid = none := by
  cases leaves with
  | @starts other =>
      rw [Ledger.limits_starts]
      exact unlimited
  | exits => exact unlimited
  | wakes =>
      rw [Option.eq_none_iff_forall_ne_some] at unlimited ⊢
      exact fun config limited => unlimited config (Ledger.limits_of_reap limited)
  | asked asks =>
      rw [Option.eq_none_iff_forall_ne_some] at unlimited ⊢
      intro config limited
      cases Ledger.limits_apply_cases limited with
      | inl before => exact unlimited config before
      | inr set =>
          rcases set with ⟨rfl, _⟩
          exact aside.spares _ asks rfl
  | nothing => exact unlimited

theorem unlimited_of_aside {pid : Int32} {ledger : Ledger} {events : List Event}
    (unlimited : ledger.limits pid = none) (aside : ∀ event ∈ events, event.Aside pid) :
    (recorded ledger events).limits pid = none := by
  induction events generalizing ledger with
  | nil => exact unlimited
  | cons event events induction =>
      apply induction
      · exact (leaves_step ledger event).aside_unlimited (aside event (.head _)) unlimited
      · exact fun other member => aside other (.tail _ member)

/-- What is read for a process that goes on stays as it is, whatever happens to other
processes and their limits, exactly where the daemon does not take its pid for an earlier
process, or there is nothing to lose. -/
theorem limit_lasts_iff {pid : Int32} {cgroup2Mount bpffsMount : Path}
    {running : Int32 → Bool} {events : List Event} {computer : Computer}
    (reached : happen (.fresh cgroup2Mount bpffsMount running) events = computer)
    (alive : computer.running pid = true) :
    (∀ later : List Event, (∀ event ∈ later, event.Aside pid) →
        (happen computer later).read pid = computer.read pid) ↔
      computer.stale pid = false ∨ computer.read pid = .absent := by
  have follows := follows_from_fresh cgroup2Mount bpffsMount running events
  rw [reached] at follows
  generalize recorded (.fresh running) events = ledger at follows
  constructor
  · intro lasts
    rw [or_iff_not_imp_left]
    intro isStale
    rw [Bool.not_eq_false, follows.stale] at isStale
    rw [← lasts [.wakes] fun event member => List.mem_singleton.mp member ▸ aside_wakes pid]
    apply absent_of_limits (follows_happen follows [.wakes])
    exact (Ledger.lost_of_stale (follows.within pid isStale) isStale).limits_reap
  · intro safe later aside
    have followed := follows_happen follows later
    rcases safe with fresh | absent
    · have kept := (kept_of_aside (seen_of_follows follows alive fresh) aside).2
      rw [read_of_follows followed, read_of_follows follows, LimitStore.read,
        LimitStore.read, kept]
    · have unlimited := (read_eq_absent_iff follows).mp absent
      rw [absent]
      exact absent_of_limits followed (unlimited_of_aside unlimited aside)

section Twelve

abbrev limitsTwelve : List Event := [.request Cli.withNc (.setLimit 12 5 5)]

abbrev ledgerTwelve : Ledger :=
  (Ledger.fresh fun _ => true).apply (.limitProcessBandwidth 12 ⟨5, 5⟩)

theorem asks_limitsTwelve :
    operationOf (.setLimit 12 5 5) = some (.limitProcessBandwidth 12 ⟨5, 5⟩) := by
  decide

theorem follows_limitsTwelve :
    (happen (.fresh [] [] fun _ => true) limitsTwelve).Follows ledgerTwelve :=
  happen_request (follows_fresh [] [] fun _ => true) Cli.withNc asks_limitsTwelve

theorem limits_ledgerTwelve : ledgerTwelve.limits 12 = some ⟨5, 5⟩ :=
  Ledger.limits_apply_self (by decide) rfl

theorem read_limitsTwelve :
    (happen (.fresh [] [] fun _ => true) limitsTwelve).read 12 ≠ .absent := by
  rw [read_of_limits follows_limitsTwelve limits_ledgerTwelve]
  exact shown_ne_absent _

theorem notFull_fresh : ¬ (Ledger.fresh fun _ => true).watched.IsFull := by
  intro full
  have none : (0 : Nat) = MAX_WATCHED_PIDS := full
  rw [MAX_WATCHED_PIDS] at none
  contradiction

/-- Twelve keeps its limit. The process that has its pid next does not. -/
theorem limit_lasts_iff_twelve :
    (∀ later : List Event, (∀ event ∈ later, event.Aside 12) →
        (happen (happen (.fresh [] [] fun _ => true) limitsTwelve) later).read 12 =
          (happen (.fresh [] [] fun _ => true) limitsTwelve).read 12) ∧
      ¬ ∀ later : List Event, (∀ event ∈ later, event.Aside 12) →
        (happen (happen (.fresh [] [] fun _ => true)
            (limitsTwelve ++ [.exits 12, .starts 12])) later).read 12 =
          (happen (.fresh [] [] fun _ => true)
            (limitsTwelve ++ [.exits 12, .starts 12])).read 12 := by
  have follows := follows_limitsTwelve
  constructor
  · apply (limit_lasts_iff rfl _).mpr
    · left
      rw [follows.stale]
      rfl
    · rw [Computer.running, follows.agrees.running]
      rfl
  · have reached : happen (.fresh [] [] fun _ => true) (limitsTwelve ++ [.exits 12, .starts 12]) =
        happen (happen (.fresh [] [] fun _ => true) limitsTwelve) [.exits 12, .starts 12] :=
      stateAfter_append ..
    have later := follows_happen follows [.exits 12, .starts 12]
    have ended : (ledgerTwelve.exits 12).running 12 = false := by
      simp [Ledger.exits, Ledger.setRunning]
    have watched : (12 : Int32) ∈ ledgerTwelve.watched :=
      Ledger.watched_apply_self (by decide) rfl (.inr notFull_fresh)
    have limited : ((ledgerTwelve.exits 12).starts 12).limits 12 = some ⟨5, 5⟩ := by
      rw [Ledger.limits_starts]
      exact limits_ledgerTwelve
    have running : ((ledgerTwelve.exits 12).starts 12).running 12 = true :=
      Ledger.running_starts_self _ _
    rw [reached, limit_lasts_iff reached, read_of_limits later limited, later.stale, not_or]
    · refine ⟨?_, shown_ne_absent _⟩
      rw [Bool.not_eq_false]
      exact Ledger.stale_starts_self ended watched
    · rw [Computer.running, later.agrees.running]
      exact running

end Twelve

/-! ## Limits do not outlive processes -/

/-- There is a slot for every limit that the event asks for. -/
def Room (computer : Computer) (event : Event) : Prop :=
  ∀ pid config, event.AsksFor (.limitProcessBandwidth pid config) →
    (computer.world.table.findPidSlot pid).isSome ∨ computer.world.table.freeSlot.isSome

def RoomThroughout (computer : Computer) (events : List Event) : Prop :=
  ∀ earlier event later, events = earlier ++ event :: later →
    Room (happen computer earlier) event

section Lifetimes

variable {computer : Computer} {ledger : Ledger} {events : List Event}

theorem room_of_follows {event : Event} {operation : Operation}
    (follows : computer.Follows ledger) (room : Room computer event)
    (asks : event.AsksFor operation) : ledger.Room operation := by
  cases operation with
  | limitProcessBandwidth pid config =>
      cases room pid config asks with
      | inl watched =>
          left
          exact (follows.agrees.watched pid).mp (WatchTable.findPidSlot_isSome_iff.mp watched)
      | inr free =>
          right
          exact (follows.agrees.distinct.freeSlot_isSome_iff follows.agrees.watched).mp free
  | unregisterRateLimiterByPid pid => trivial
  | ratelimitCleanupAll => trivial

theorem Leaves.allWatched {next : Ledger} {event : Event} (leaves : Leaves ledger event next)
    (allWatched : ledger.AllWatched)
    (room : ∀ operation, event.AsksFor operation → ledger.Room operation) :
    next.AllWatched := by
  cases leaves with
  | @starts other =>
      intro pid limited
      rw [Ledger.limits_starts] at limited
      rw [Ledger.watched_starts]
      exact allWatched pid limited
  | exits => exact allWatched
  | wakes => exact allWatched.reap
  | asked asks => exact allWatched.apply (room _ asks)
  | nothing => exact allWatched

theorem allWatched_of_room (follows : computer.Follows ledger)
    (allWatched : ledger.AllWatched) (room : RoomThroughout computer events) :
    (recorded ledger events).AllWatched := by
  have preserved : ∀ (ledger : Ledger) (event : Event), ledger.AllWatched →
      (∀ operation, event.AsksFor operation → ledger.Room operation) →
        (step onLedger ledger event).2.AllWatched :=
    fun ledger event allWatched room => (leaves_step ledger event).allWatched allWatched room
  apply invariant_stateAfter preserved allWatched
  intro earlier event later split operation asks
  exact room_of_follows (follows_happen follows earlier) (room earlier event later split) asks

end Lifetimes

/-- Where there has been a slot for every limit, a limit is left when the daemon has woken
up only if the process runs that its pid is watched for. -/
theorem limit_ends {pid : Int32} {cgroup2Mount bpffsMount : Path} {running : Int32 → Bool}
    {events : List Event} {computer : Computer}
    (room : RoomThroughout (.fresh cgroup2Mount bpffsMount running) events)
    (reached : happen (.fresh cgroup2Mount bpffsMount running) events = computer)
    (limited : (happen computer [.wakes]).read pid ≠ .absent) :
    computer.running pid = true ∧ computer.stale pid = false := by
  have start := follows_fresh cgroup2Mount bpffsMount running
  have follows := follows_happen start events
  have allWatched := allWatched_of_room start (fun pid limited => by cases limited) room
  rw [reached] at follows
  generalize recorded (.fresh running) events = ledger at follows allWatched
  rcases limits_of_read (follows_happen follows [.wakes]) limited with ⟨config, left, _⟩
  have watched := allWatched pid (by rw [Ledger.limits_of_reap left]; rfl)
  have seen : ledger.seen pid = true := by
    by_contra ended
    have lost : ledger.Lost pid := ⟨watched, Bool.eq_false_iff.mpr ended⟩
    have gone : ledger.reap.limits pid = none := lost.limits_reap
    rw [show ledger.reap.limits pid = some config from left] at gone
    contradiction
  rw [Computer.running, follows.agrees.running, follows.stale]
  exact Ledger.seen_iff.mp seen

theorem roomThroughout_limitsTwelve :
    RoomThroughout (.fresh [] [] fun _ => true) limitsTwelve := by
  have fresh := follows_fresh [] [] fun _ => true
  intro earlier event later split pid config asks
  cases earlier with
  | nil =>
      right
      exact (fresh.agrees.distinct.freeSlot_isSome_iff fresh.agrees.watched).mpr notFull_fresh
  | cons first earlier =>
      have none := (List.cons.inj split).2
      simp at none

theorem limit_ends_twelve :
    (happen (.fresh [] [] fun _ => true) limitsTwelve).running 12 = true ∧
      (happen (.fresh [] [] fun _ => true) limitsTwelve).stale 12 = false := by
  apply limit_ends roomThroughout_limitsTwelve rfl
  have kept : ledgerTwelve.reap.limits 12 = some ⟨5, 5⟩ :=
    (Ledger.limits_reap_of_seen rfl).trans limits_ledgerTwelve
  rw [read_of_limits (follows_happen follows_limitsTwelve [.wakes]) kept]
  exact shown_ne_absent _

/-! ## Limits have been asked for -/

section AskedFor

variable {ledger next : Ledger} {event : Event} {pid : Int32} {config : RateLimitConfig}

theorem Leaves.limited (leaves : Leaves ledger event next)
    (limited : next.limits pid = some config) :
    ledger.limits pid = some config ∨
      event.AsksFor (.limitProcessBandwidth pid config) ∧ ledger.running pid = true := by
  cases leaves with
  | @starts other =>
      rw [Ledger.limits_starts] at limited
      exact .inl limited
  | exits => exact .inl limited
  | wakes => exact .inl (Ledger.limits_of_reap limited)
  | asked asks =>
      cases Ledger.limits_apply_cases limited with
      | inl before => exact .inl before
      | inr set =>
          rcases set with ⟨rfl, running⟩
          exact .inr ⟨asks, running⟩
  | nothing => exact .inl limited

def HasThroughout (ledger : Ledger) (events : List Event) (pid : Int32)
    (config : RateLimitConfig) : Prop :=
  ∀ since, since <+: events → (recorded ledger since).limits pid = some config

/-- A limit has been there all along, or has been since it was asked for. -/
theorem limited_since {events : List Event}
    (limited : (recorded ledger events).limits pid = some config) :
    HasThroughout ledger events pid config ∨
      ∃ earlier event later, events = earlier ++ event :: later ∧
        event.AsksFor (.limitProcessBandwidth pid config) ∧
        (recorded ledger earlier).running pid = true ∧
        HasThroughout (recorded ledger (earlier ++ [event])) later pid config := by
  induction events using List.reverseRecOn with
  | nil =>
      left
      intro since isPrefix
      rw [List.prefix_nil.mp isPrefix]
      exact limited
  | append_singleton events event induction =>
      have last := limited
      rw [recorded, stateAfter_append] at last
      rcases (leaves_step (recorded ledger events) event).limited last with
        before | ⟨asks, running⟩
      · rcases induction before with throughout | ⟨earlier, asking, later, split, asks, running,
          throughout⟩
        · left
          intro since isPrefix
          rcases List.prefix_concat_iff.mp isPrefix with rfl | within
          · exact limited
          · exact throughout since within
        · right
          refine ⟨earlier, asking, later ++ [event], ?_, asks, running, ?_⟩
          · rw [split, List.append_assoc, List.cons_append]
          · intro since isPrefix
            rcases List.prefix_concat_iff.mp isPrefix with rfl | within
            · rw [recorded, ← stateAfter_append]
              rw [split] at limited
              simpa using limited
            · exact throughout since within
      · right
        refine ⟨events, event, [], rfl, asks, running, ?_⟩
        intro since isPrefix
        rw [List.prefix_nil.mp isPrefix]
        exact limited

end AskedFor

/-- A limit in force is the one that an event has asked for while a process ran under its
pid, and nothing that happened since then has touched it. -/
theorem limit_asked_for {pid : Int32} {cgroup2Mount bpffsMount : Path}
    {running : Int32 → Bool} {events : List Event} {computer : Computer}
    (reached : happen (.fresh cgroup2Mount bpffsMount running) events = computer)
    (limited : computer.read pid ≠ .absent) :
    ∃ earlier event later config, events = earlier ++ event :: later ∧
      event.AsksFor (.limitProcessBandwidth pid config) ∧ computer.read pid = shown config ∧
      (happen (.fresh cgroup2Mount bpffsMount running) earlier).running pid = true ∧
      ∀ since, since <+: later →
        (happen (.fresh cgroup2Mount bpffsMount running)
          (earlier ++ event :: since)).read pid = computer.read pid := by
  have follows := follows_from_fresh cgroup2Mount bpffsMount running
  have last := follows events
  rw [reached] at last
  rcases limits_of_read last limited with ⟨config, held, reads⟩
  rcases limited_since held with always | ⟨earlier, event, later, split, asks, runs, throughout⟩
  · have never := always [] List.nil_prefix
    cases never
  · refine ⟨earlier, event, later, config, split, asks, reads, ?_, fun since isPrefix => ?_⟩
    · rw [Computer.running, (follows earlier).agrees.running]
      exact runs
    · rw [reads]
      apply read_of_limits (follows _)
      have held := throughout since isPrefix
      rwa [recorded, ← stateAfter_append, List.append_assoc] at held

theorem limit_asked_for_twelve :
    ∃ earlier event later config, limitsTwelve = earlier ++ event :: later ∧
      event.AsksFor (.limitProcessBandwidth 12 config) ∧
      (happen (.fresh [] [] fun _ => true) limitsTwelve).read 12 = shown config ∧
      (happen (.fresh [] [] fun _ => true) earlier).running 12 = true ∧
      ∀ since, since <+: later →
        (happen (.fresh [] [] fun _ => true) (earlier ++ event :: since)).read 12 =
          (happen (.fresh [] [] fun _ => true) limitsTwelve).read 12 :=
  limit_asked_for rfl read_limitsTwelve

/-! ## Limits belong to processes -/

section Own

variable {ledger next : Ledger} {event : Event} {pid : Int32} {config : RateLimitConfig}

theorem Leaves.lost (leaves : Leaves ledger event next) (lost : ledger.Lost pid)
    (limited : next.limits pid = some config) : next.Lost pid := by
  cases leaves with
  | starts => exact lost.starts _
  | exits => exact lost.exits _
  | wakes =>
      rw [lost.limits_reap] at limited
      contradiction
  | asked asks => exact lost.apply limited
  | nothing => exact lost

/-- What is to be removed is removed before anything else becomes of it. -/
theorem lost_of_hasThroughout {events : List Event} (lost : ledger.Lost pid)
    (throughout : HasThroughout ledger events pid config) :
    (recorded ledger events).Lost pid := by
  induction events generalizing ledger with
  | nil => exact lost
  | cons event events induction =>
      have first := throughout [event] (List.prefix_append [event] events)
      apply induction ((leaves_step ledger event).lost lost first)
      exact fun since isPrefix => throughout (event :: since)
        (List.cons_prefix_cons.mpr ⟨rfl, isPrefix⟩)

theorem not_exits_of_seen {events : List Event}
    (allWatched : ∀ since, since <+: events → (recorded ledger since).AllWatched)
    (throughout : HasThroughout ledger events pid config)
    (seen : (recorded ledger events).seen pid = true) : Event.exits pid ∉ events := by
  intro member
  rcases List.append_of_mem member with ⟨before, after, rfl⟩
  have onward : ∀ since, since <+: after →
      before ++ .exits pid :: since <+: before ++ .exits pid :: after := fun since isPrefix =>
    (List.prefix_append_right_inj before).mpr (List.cons_prefix_cons.mpr ⟨rfl, isPrefix⟩)
  have held := throughout before (List.prefix_append before _)
  have watched := allWatched before (List.prefix_append before _) pid (by rw [held]; rfl)
  have lost : ((recorded ledger before).exits pid).Lost pid := Ledger.lost_of_exits watched
  have since : HasThroughout ((recorded ledger before).exits pid) after pid config := by
    intro since isPrefix
    have held := throughout _ (onward since isPrefix)
    rwa [recorded, stateAfter_append] at held
  have last := (lost_of_hasThroughout lost since).2
  rw [recorded, stateAfter_append] at seen
  have still : (recorded ((recorded ledger before).exits pid) after).seen pid = true := seen
  rw [still] at last
  contradiction

end Own

theorem RoomThroughout.of_prefix {computer : Computer} {first events : List Event}
    (room : RoomThroughout computer events) (isPrefix : first <+: events) :
    RoomThroughout computer first := by
  rcases isPrefix with ⟨second, rfl⟩
  intro earlier event later split
  apply room earlier event (later ++ second)
  rw [split, List.append_assoc, List.cons_append]

/-- Where there has been a slot for every limit, a limit that is read for a process is one
that was asked for this very process, unless the daemon takes its pid for an earlier one. -/
theorem limit_is_own {pid : Int32} {cgroup2Mount bpffsMount : Path} {running : Int32 → Bool}
    {events : List Event} {computer : Computer}
    (room : RoomThroughout (.fresh cgroup2Mount bpffsMount running) events)
    (reached : happen (.fresh cgroup2Mount bpffsMount running) events = computer)
    (alive : computer.running pid = true) (fresh : computer.stale pid = false)
    (limited : computer.read pid ≠ .absent) :
    ∃ earlier event later config, events = earlier ++ event :: later ∧
      event.AsksFor (.limitProcessBandwidth pid config) ∧ computer.read pid = shown config ∧
      (happen (.fresh cgroup2Mount bpffsMount running) earlier).running pid = true ∧
      Event.exits pid ∉ later := by
  have start := follows_fresh cgroup2Mount bpffsMount running
  have last := follows_happen start events
  rw [reached] at last
  rcases limits_of_read last limited with ⟨config, held, reads⟩
  rcases limited_since held with always | ⟨earlier, event, later, split, asks, runs, throughout⟩
  · have never := always [] List.nil_prefix
    cases never
  refine ⟨earlier, event, later, config, split, asks, reads, ?_, ?_⟩
  · rw [Computer.running, (follows_happen start earlier).agrees.running]
    exact runs
  · apply not_exits_of_seen _ throughout
    · rw [recorded, ← stateAfter_append, List.append_assoc, List.singleton_append, ← split]
      exact seen_of_follows last alive fresh
    · intro since isPrefix
      rw [recorded, ← stateAfter_append, List.append_assoc, List.singleton_append]
      apply allWatched_of_room start (fun pid limited => by cases limited)
      apply room.of_prefix
      rw [split]
      exact (List.prefix_append_right_inj earlier).mpr (List.cons_prefix_cons.mpr ⟨rfl, isPrefix⟩)

theorem limit_is_own_twelve :
    ∃ earlier event later config, limitsTwelve = earlier ++ event :: later ∧
      event.AsksFor (.limitProcessBandwidth 12 config) ∧
      (happen (.fresh [] [] fun _ => true) limitsTwelve).read 12 = shown config ∧
      (happen (.fresh [] [] fun _ => true) earlier).running 12 = true ∧
      Event.exits 12 ∉ later := by
  have follows := follows_limitsTwelve
  have alive : (happen (.fresh [] [] fun _ => true) limitsTwelve).running 12 = true := by
    rw [Computer.running, follows.agrees.running]
    rfl
  have fresh : (happen (.fresh [] [] fun _ => true) limitsTwelve).stale 12 = false := by
    rw [follows.stale]
    rfl
  exact limit_is_own roomThroughout_limitsTwelve rfl alive fresh read_limitsTwelve

end Pidnl.Usage
