import Mathlib.Tactic.Common

/-! # Programs over an environment

A program returns a value or makes a call and goes on with the reply. It says
nothing about what a call does; an environment does, as a step of some state.
Every call carries the frames it was made from, outermost first, so that an
environment can tell two occurrences of one call apart.
-/

namespace Pidnl.Foundation

inductive Program (Frame : Type) (Call : Type → Type u) (Value : Type) :
    Type (max 1 u)
  | done (value : Value)
  | call {Reply : Type} (site : List Frame) (request : Call Reply)
      (next : Reply → Program Frame Call Value)

abbrev Environment (Frame : Type) (Call : Type → Type u) (State : Type) :=
  {Reply : Type} → List Frame → Call Reply → State → Reply × State

namespace Program

variable {Frame : Type} {Call : Type → Type u}

def bind (program : Program Frame Call α)
    (next : α → Program Frame Call β) : Program Frame Call β :=
  match program with
  | .done value => next value
  | .call site request rest => .call site request fun reply => (rest reply).bind next

instance : Monad (Program Frame Call) where
  pure := .done
  bind := bind

theorem bind_bind (program : Program Frame Call α) (next : α → Program Frame Call β)
    (last : β → Program Frame Call γ) :
    program >>= next >>= last = program >>= fun value => next value >>= last := by
  induction program with
  | done value => rfl
  | call site request rest induction =>
      exact congrArg (Program.call site request) (funext induction)

def request (call : Call Reply) : Program Frame Call Reply :=
  .call [] call .done

theorem request_bind (call : Call Reply) (next : Reply → Program Frame Call β) :
    (request call >>= next : Program Frame Call β) = .call [] call next := rfl

def inside (frame : Frame) (program : Program Frame Call α) :
    Program Frame Call α :=
  match program with
  | .done value => .done value
  | .call site request next =>
      .call (frame :: site) request fun reply => (next reply).inside frame

def beneath (frames : List Frame) (program : Program Frame Call α) :
    Program Frame Call α :=
  match program with
  | .done value => .done value
  | .call site request next =>
      .call (frames ++ site) request fun reply => (next reply).beneath frames

def run (environment : Environment Frame Call State)
    (program : Program Frame Call α) (state : State) : α × State :=
  match program with
  | .done value => (value, state)
  | .call site request next =>
      let step := environment site request state
      (next step.1).run environment step.2

section Run

variable (environment : Environment Frame Call State) (state : State)

@[simp] theorem run_pure (value : α) :
    (pure value : Program Frame Call α).run environment state =
      (value, state) := rfl

@[simp] theorem run_request (call : Call Reply) :
    (request call : Program Frame Call Reply).run environment state =
      environment [] call state := rfl

@[simp] theorem run_bind (program : Program Frame Call α)
    (next : α → Program Frame Call β) :
    (program >>= next).run environment state =
      (next (program.run environment state).1).run environment
        (program.run environment state).2 := by
  induction program generalizing state with
  | done value => rfl
  | call site request rest induction =>
      exact induction (environment site request state).1
        (environment site request state).2

@[simp] theorem run_inside (frame : Frame) (program : Program Frame Call α) :
    (program.inside frame).run environment state =
      program.run (fun site => environment (frame :: site)) state := by
  induction program generalizing state with
  | done value => rfl
  | call site request rest induction =>
      exact induction (environment (frame :: site) request state).1
        (environment (frame :: site) request state).2

@[simp] theorem run_beneath (frames : List Frame) (program : Program Frame Call α) :
    (program.beneath frames).run environment state =
      program.run (fun site => environment (frames ++ site)) state := by
  induction program generalizing state with
  | done value => rfl
  | call site request next induction =>
      exact induction (environment (frames ++ site) request state).1
        (environment (frames ++ site) request state).2

@[simp] theorem run_ite (condition : Prop) [Decidable condition]
    (first second : Program Frame Call α) :
    (if condition then first else second).run environment state =
      if condition then first.run environment state
      else second.run environment state := by
  split <;> rfl

end Run

def calls (environment : Environment Frame Call State) :
    Program Frame Call α → State → List (Σ Reply, Call Reply)
  | .done _, _ => []
  | .call site request next, state =>
      ⟨_, request⟩ :: (next (environment site request state).1).calls environment
        (environment site request state).2

section Calls

variable (environment : Environment Frame Call State) (state : State)

@[simp] theorem calls_pure (value : α) :
    (pure value : Program Frame Call α).calls environment state = [] := rfl

@[simp] theorem calls_request (call : Call Reply) :
    (request call : Program Frame Call Reply).calls environment state =
      [⟨Reply, call⟩] := rfl

@[simp] theorem calls_bind (program : Program Frame Call α)
    (next : α → Program Frame Call β) :
    (program >>= next).calls environment state =
      program.calls environment state ++
        (next (program.run environment state).1).calls environment
          (program.run environment state).2 := by
  induction program generalizing state with
  | done value => rfl
  | call site request rest induction =>
      exact congrArg (List.cons _) (induction (environment site request state).1
        (environment site request state).2)

end Calls

/-! ## What a program may call -/

/-- Every call the program can come to make is allowed, whatever is replied. -/
def Makes (allowed : {Reply : Type} → List Frame → Call Reply → Prop) :
    Program Frame Call α → Prop
  | .done _ => True
  | .call site request next =>
      allowed site request ∧ ∀ reply, (next reply).Makes allowed

section Makes

variable {allowed : {Reply : Type} → List Frame → Call Reply → Prop}

@[simp] theorem makes_pure (value : α) :
    (pure value : Program Frame Call α).Makes allowed := trivial

@[simp] theorem makes_request (call : Call Reply) :
    (request call : Program Frame Call Reply).Makes allowed ↔ allowed [] call := by
  constructor
  · exact And.left
  · exact fun isAllowed => ⟨isAllowed, fun _ => trivial⟩

theorem makes_all (program : Program Frame Call α)
    (all : ∀ {Reply : Type} (site : List Frame) (call : Call Reply), allowed site call) :
    program.Makes allowed := by
  induction program with
  | done value => trivial
  | call site request next induction => exact ⟨all site request, induction⟩

theorem Makes.weaken {wider : {Reply : Type} → List Frame → Call Reply → Prop}
    {program : Program Frame Call α} (makes : program.Makes allowed)
    (within : ∀ {Reply : Type} (site : List Frame) (call : Call Reply),
      allowed site call → wider site call) : program.Makes wider := by
  induction program with
  | done value => trivial
  | call site request next induction =>
      exact ⟨within site request makes.1, fun reply => induction reply (makes.2 reply)⟩

theorem makes_bind {program : Program Frame Call α} {next : α → Program Frame Call β}
    (first : program.Makes allowed) (rest : ∀ value, (next value).Makes allowed) :
    (program >>= next).Makes allowed := by
  induction program with
  | done value => exact rest value
  | call site request after induction =>
      exact ⟨first.1, fun reply => induction reply (first.2 reply)⟩

@[simp] theorem makes_inside (frame : Frame) (program : Program Frame Call α) :
    (program.inside frame).Makes allowed ↔
      program.Makes fun site call => allowed (frame :: site) call := by
  induction program with
  | done value => exact Iff.rfl
  | call site request next induction =>
      simp only [inside, Makes, induction]

/-- What no allowed call breaks, the program does not break. -/
theorem Makes.run_preserves {environment : Environment Frame Call State}
    {invariant : State → Prop} {program : Program Frame Call α}
    (makes : program.Makes allowed)
    (preserved : ∀ {Reply : Type} (site : List Frame) (call : Call Reply) state,
      allowed site call → invariant state → invariant (environment site call state).2)
    {state : State} (initially : invariant state) :
    invariant (program.run environment state).2 := by
  induction program generalizing state with
  | done value => exact initially
  | call site request next induction =>
      apply induction _ (makes.2 _)
      exact preserved site request state makes.1 initially

/-- A change of the state that every allowed call passes over is passed over by the
program. -/
theorem Makes.run_commutes {environment : Environment Frame Call State}
    {program : Program Frame Call α} (makes : program.Makes allowed)
    (change : State → State)
    (commutes : ∀ {Reply : Type} (site : List Frame) (call : Call Reply) state,
      allowed site call → environment site call (change state) =
        ((environment site call state).1, change (environment site call state).2))
    (state : State) :
    program.run environment (change state) =
      ((program.run environment state).1, change (program.run environment state).2) := by
  induction program generalizing state with
  | done value => rfl
  | call site request next induction =>
      simp only [run, commutes site request state makes.1]
      exact induction _ (makes.2 _) _

end Makes

/-! ## Programs over part of a larger interface -/

section Embed

variable {Wider : Type → Type v}

def embed (inject : {Reply : Type} → Call Reply → Wider Reply)
    (program : Program Frame Call α) : Program Frame Wider α :=
  match program with
  | .done value => .done value
  | .call site request next =>
      .call site (inject request) fun reply => (next reply).embed inject

def expand (carryOut : {Reply : Type} → Call Reply → Program Frame Wider Reply)
    (program : Program Frame Call α) : Program Frame Wider α :=
  match program with
  | .done value => .done value
  | .call site request next =>
      ((carryOut request).beneath site).bind fun reply => (next reply).expand carryOut

theorem expand_bind (carryOut : {Reply : Type} → Call Reply → Program Frame Wider Reply)
    (program : Program Frame Call α) (next : α → Program Frame Call β) :
    (program >>= next).expand carryOut =
      program.expand carryOut >>= fun value => (next value).expand carryOut := by
  induction program with
  | done value => rfl
  | call site request rest induction =>
      have carried : ((carryOut request).beneath site >>= fun reply =>
            (rest reply).expand carryOut) >>= (fun value => (next value).expand carryOut) =
          (carryOut request).beneath site >>= fun reply =>
            (rest reply >>= next).expand carryOut := by
        rw [bind_bind]
        simp only [induction]
      exact carried.symm

structure Component (State Portion : Type) where
  get : State → Portion
  set : Portion → State → State
  set_get : ∀ state, set (get state) state = state
  get_set : ∀ part state, get (set part state) = part
  set_set : ∀ first second state, set second (set first state) = set second state

/-- If the wider environment answers the narrow calls by acting on a part of its
state, an embedded program acts on that part only. -/
theorem run_embed (inject : {Reply : Type} → Call Reply → Wider Reply)
    (environment : Environment Frame Call Portion)
    (wider : Environment Frame Wider State) (component : Component State Portion)
    (agrees : ∀ {Reply : Type} (site : List Frame) (call : Call Reply) state,
      wider site (inject call) state =
        ((environment site call (component.get state)).1,
          component.set (environment site call (component.get state)).2 state))
    (program : Program Frame Call α) (state : State) :
    (program.embed inject).run wider state =
      ((program.run environment (component.get state)).1,
        component.set (program.run environment (component.get state)).2 state) := by
  induction program generalizing state with
  | done value => simp [embed, run, component.set_get]
  | call site request next induction =>
      simp only [embed, run]
      rw [induction, agrees, component.get_set, component.set_set]

end Embed

end Program

end Pidnl.Foundation
