import Pidnl.Foundation.Ownership

/-! # Two states of the same programs

Where every call gets the same reply in related states and leaves related states, whole
programs do. Where every step of two systems gives the same output, whole runs do.
-/

namespace Pidnl.Foundation

namespace Program

variable {Frame : Type} {Call : Type → Type u} {State Spec : Type}

/-- Calls get the same replies in related states, and keep them related. -/
structure Simulates (concrete : Environment Frame Call State)
    (abstract : Environment Frame Call Spec) (related : State → Spec → Prop) : Prop where
  call : ∀ {Reply : Type} (site : List Frame) (call : Call Reply) state spec,
    related state spec →
      (concrete site call state).1 = (abstract site call spec).1 ∧
        related (concrete site call state).2 (abstract site call spec).2

variable {concrete : Environment Frame Call State} {abstract : Environment Frame Call Spec}
  {related : State → Spec → Prop} {state : State} {spec : Spec}

/-- Where the calls of a program get the same replies, it returns the same. -/
theorem Makes.run_related {allowed : {Reply : Type} → List Frame → Call Reply → Prop}
    {program : Program Frame Call α} (makes : program.Makes allowed)
    (calls : ∀ {Reply : Type} (site : List Frame) (call : Call Reply) state spec,
      allowed site call → related state spec →
        (concrete site call state).1 = (abstract site call spec).1 ∧
          related (concrete site call state).2 (abstract site call spec).2)
    (start : related state spec) :
    (program.run concrete state).1 = (program.run abstract spec).1 ∧
      related (program.run concrete state).2 (program.run abstract spec).2 := by
  induction program generalizing state spec with
  | done value => exact ⟨rfl, start⟩
  | call site request next induction =>
      rcases calls site request state spec makes.1 start with ⟨same, kept⟩
      simp only [Program.run]
      rw [same]
      exact induction _ (makes.2 _) kept

theorem Simulates.run (simulates : Simulates concrete abstract related)
    (program : Program Frame Call α) (start : related state spec) :
    (program.run concrete state).1 = (program.run abstract spec).1 ∧
      related (program.run concrete state).2 (program.run abstract spec).2 := by
  have all : program.Makes fun _ _ => True := makes_all program fun _ _ => trivial
  exact all.run_related (fun site call state spec _ => simulates.call site call state spec) start

theorem Simulates.exchanges (simulates : Simulates concrete abstract related)
    (program : Program Frame Call α) (start : related state spec) :
    program.exchanges concrete state = program.exchanges abstract spec := by
  induction program generalizing state spec with
  | done value => rfl
  | call site request next induction =>
      rcases simulates.call site request state spec start with ⟨same, kept⟩
      simp only [Program.exchanges]
      rw [same, induction _ kept]

end Program

/-! ## Steps with outputs -/

variable {State : Type u} {Spec : Type v} {Action : Type w} {Output : Type x}

def observe (step : State → Action → Output × State) (state : State) :
    List Action → List Output × State
  | [] => ([], state)
  | action :: actions =>
      let next := step state action
      let rest := observe step next.2 actions
      (next.1 :: rest.1, rest.2)

def stateAfter (step : State → Action → Output × State) (state : State)
    (actions : List Action) : State :=
  actions.foldl (fun state action => (step state action).2) state

section StateAfter

variable (step : State → Action → Output × State) (state : State)

@[simp] theorem stateAfter_nil : stateAfter step state [] = state := rfl

theorem stateAfter_cons (action : Action) (actions : List Action) :
    stateAfter step state (action :: actions) =
      stateAfter step (step state action).2 actions := rfl

theorem stateAfter_append (first second : List Action) :
    stateAfter step state (first ++ second) =
      stateAfter step (stateAfter step state first) second :=
  List.foldl_append

theorem observe_snd (actions : List Action) :
    (observe step state actions).2 = stateAfter step state actions := by
  induction actions generalizing state with
  | nil => rfl
  | cons action actions induction => exact induction (step state action).2

variable {step state}

/-- An invariant every admitted step preserves holds after a run of admitted steps. -/
theorem invariant_stateAfter {invariant : State → Prop} {admits : State → Action → Prop}
    (preserved : ∀ state action, invariant state → admits state action →
      invariant (step state action).2)
    {actions : List Action} (initially : invariant state)
    (admitted : ∀ earlier action later, actions = earlier ++ action :: later →
      admits (stateAfter step state earlier) action) :
    invariant (stateAfter step state actions) := by
  induction actions generalizing state with
  | nil => exact initially
  | cons action actions induction =>
      rw [stateAfter_cons]
      apply induction
      · exact preserved state action initially (admitted [] action actions rfl)
      · intro earlier other later split
        rw [← stateAfter_cons]
        apply admitted (action :: earlier) other later
        rw [split, List.cons_append]

end StateAfter

def SameOutcome (related : State → Spec → Prop) (outcome : Output × State)
    (other : Output × Spec) : Prop :=
  outcome.1 = other.1 ∧ related outcome.2 other.2

section Runs

variable {concrete : State → Action → Output × State}
  {abstract : Spec → Action → Output × Spec} {related : State → Spec → Prop}

theorem sameOutcome_observe
    (steps : ∀ state spec action, related state spec →
      SameOutcome related (concrete state action) (abstract spec action))
    {state : State} {spec : Spec} (start : related state spec) (actions : List Action) :
    SameOutcome related (observe concrete state actions) (observe abstract spec actions) := by
  induction actions generalizing state spec with
  | nil => exact ⟨rfl, start⟩
  | cons action actions induction =>
      have first := steps state spec action start
      have rest := induction first.2
      exact ⟨congrArg₂ List.cons first.1 rest.1, rest.2⟩

theorem related_stateAfter
    (steps : ∀ state spec action, related state spec →
      SameOutcome related (concrete state action) (abstract spec action))
    {state : State} {spec : Spec} (start : related state spec) (actions : List Action) :
    related (stateAfter concrete state actions) (stateAfter abstract spec actions) := by
  rw [← observe_snd, ← observe_snd]
  exact (sameOutcome_observe steps start actions).2

end Runs

end Pidnl.Foundation
