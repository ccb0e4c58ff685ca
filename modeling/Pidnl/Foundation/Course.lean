import Pidnl.Foundation.Ownership

/-! # What the courses of a program have in common

A course is one way a program can go, exchange by exchange, whatever made the replies.
Courses of programs put together are put together the same way, and where every exchange
tells what it does to the state, the course of a run tells what the run does.
-/

namespace Pidnl.Foundation.Program

variable {Frame : Type} {Call : Type → Type u} {exchanges : List (Exchange Call)}

@[simp] theorem course_pure_iff {value final : α} :
    (pure value : Program Frame Call α).Course exchanges final ↔
      exchanges = [] ∧ final = value := by
  constructor
  · exact course_pure
  · intro ended
    rcases ended with ⟨rfl, rfl⟩
    exact .done final

@[simp] theorem course_request_iff {call : Call Reply} {final : Reply} :
    (request call : Program Frame Call Reply).Course exchanges final ↔
      exchanges = [⟨call, final⟩] := by
  constructor
  · exact course_request
  · intro single
    subst single
    exact .call final (.done final)

theorem Course.bind {program : Program Frame Call α} {next : α → Program Frame Call β}
    {first second : List (Exchange Call)} {middle : α} {final : β}
    (before : program.Course first middle) (after : (next middle).Course second final) :
    (program >>= next).Course (first ++ second) final := by
  induction before with
  | done value => exact after
  | call reply rest induction => exact .call reply (induction after)

@[simp] theorem course_bind_iff {program : Program Frame Call α}
    {next : α → Program Frame Call β} {final : β} :
    (program >>= next).Course exchanges final ↔
      ∃ first second middle, exchanges = first ++ second ∧ program.Course first middle ∧
        (next middle).Course second final := by
  constructor
  · exact course_bind
  · intro parts
    rcases parts with ⟨first, second, middle, rfl, before, after⟩
    exact before.bind after

section Exchanges

variable (environment : Environment Frame Call State) (state : State)

@[simp] theorem exchanges_pure (value : α) :
    (pure value : Program Frame Call α).exchanges environment state = [] := rfl

@[simp] theorem exchanges_request (call : Call Reply) :
    (request call : Program Frame Call Reply).exchanges environment state =
      [⟨call, (environment [] call state).1⟩] := rfl

@[simp] theorem exchanges_bind (program : Program Frame Call α)
    (next : α → Program Frame Call β) :
    (program >>= next).exchanges environment state =
      program.exchanges environment state ++
        (next (program.run environment state).1).exchanges environment
          (program.run environment state).2 := by
  induction program generalizing state with
  | done value => rfl
  | call site request rest induction =>
      exact congrArg (List.cons _) (induction (environment site request state).1
        (environment site request state).2)

end Exchanges

theorem Makes.of_course {allowed : {Reply : Type} → Call Reply → Prop}
    {program : Program Frame Call α} {final : α}
    (makes : program.Makes fun _ call => allowed call)
    (course : program.Course exchanges final) :
    ∀ exchange ∈ exchanges, allowed exchange.request := by
  induction course with
  | done value => nofun
  | call reply rest induction =>
      intro exchange member
      cases member with
      | head => exact makes.1
      | tail _ later => exact induction (makes.2 reply) exchange later

section Effects

variable {environment : Environment Frame Call State} {effect : State → Exchange Call → State}

/-- Where every exchange tells what it does, the exchanges of a run tell what the run
does. -/
theorem run_eq_foldl
    (agrees : ∀ {Reply : Type} (site : List Frame) (call : Call Reply) state,
      (environment site call state).2 =
        effect state ⟨call, (environment site call state).1⟩)
    (program : Program Frame Call α) (state : State) :
    (program.run environment state).2 =
      (program.exchanges environment state).foldl effect state := by
  induction program generalizing state with
  | done value => rfl
  | call site request next induction =>
      rw [run, Program.exchanges, List.foldl_cons, induction, agrees]

/-- A call in a run gets the reply that it gets after the exchanges before it. -/
theorem reply_of_exchanges
    (agrees : ∀ {Reply : Type} (site : List Frame) (call : Call Reply) state,
      (environment site call state).2 =
        effect state ⟨call, (environment site call state).1⟩)
    {program : Program Frame Call α} {state : State} {earlier later : List (Exchange Call)}
    {exchange : Exchange Call}
    (split : program.exchanges environment state = earlier ++ exchange :: later) :
    ∃ site, exchange.reply =
      (environment site exchange.request (earlier.foldl effect state)).1 := by
  induction program generalizing state earlier with
  | done value => simp [Program.exchanges] at split
  | call site request next induction =>
      rw [Program.exchanges] at split
      cases earlier with
      | nil =>
          rcases List.cons.inj split with ⟨rfl, _⟩
          exact ⟨site, rfl⟩
      | cons first earlier =>
          rcases List.cons.inj split with ⟨rfl, rest⟩
          rw [List.foldl_cons, ← agrees site request state]
          exact induction _ rest

end Effects

end Pidnl.Foundation.Program
