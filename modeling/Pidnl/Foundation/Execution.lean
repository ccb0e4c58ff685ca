import Mathlib.Tactic.Common

/-! # Runs of partial step functions

A system is a step function that may refuse an action. A run is a list of
actions none of which is refused. Invariants are carried over runs once and for
all, either unconditionally or along runs whose every step passes a guard.
-/

namespace Pidnl.Foundation

variable {State : Type u} {Action : Type v}

/-- Perform the actions in order; `none` as soon as one is refused. -/
def perform (step : State → Action → Option State) (state : State) :
    List Action → Option State
  | [] => some state
  | action :: actions =>
      (step state action).bind fun next => perform step next actions

def Guarded (step : State → Action → Option State)
    (guard : State → Action → Prop) (state : State) : List Action → Prop
  | [] => True
  | action :: actions =>
      guard state action ∧
        ∀ next, step state action = some next → Guarded step guard next actions

theorem Guarded.cons {step : State → Action → Option State}
    {guard : State → Action → Prop} {state next : State} {action : Action}
    {actions : List Action} (admitted : guard state action)
    (stepped : step state action = some next)
    (rest : Guarded step guard next actions) :
    Guarded step guard state (action :: actions) := by
  constructor
  · exact admitted
  · intro other same
    rw [stepped] at same
    cases same
    exact rest

instance decidableGuarded {step : State → Action → Option State}
    {guard : State → Action → Prop}
    [∀ state action, Decidable (guard state action)] :
    (state : State) → (actions : List Action) →
      Decidable (Guarded step guard state actions)
  | _, [] => isTrue trivial
  | state, action :: actions =>
      match stepped : step state action with
      | none =>
          decidable_of_iff (guard state action)
            ⟨fun admitted => ⟨admitted, fun _ same => by rw [stepped] at same; cases same⟩,
              And.left⟩
      | some next =>
          have : Decidable (Guarded step guard next actions) :=
            decidableGuarded next actions
          decidable_of_iff (guard state action ∧ Guarded step guard next actions)
            ⟨fun both => .cons both.1 stepped both.2,
              fun guarded => ⟨guarded.1, guarded.2 next stepped⟩⟩

namespace perform

variable {step : State → Action → Option State}

theorem cons_eq_some {state final : State} {action : Action}
    {actions : List Action} :
    perform step state (action :: actions) = some final ↔
      ∃ next, step state action = some next ∧
        perform step next actions = some final := by
  simp [perform, Option.bind_eq_some_iff]

theorem append_eq_some {state final : State} {first second : List Action} :
    perform step state (first ++ second) = some final ↔
      ∃ middle, perform step state first = some middle ∧
        perform step middle second = some final := by
  induction first generalizing state with
  | nil => simp [perform]
  | cons action actions induction =>
      simp only [List.cons_append, cons_eq_some, induction]
      constructor
      · rintro ⟨next, stepped, middle, before, after⟩
        exact ⟨middle, ⟨next, stepped, before⟩, after⟩
      · rintro ⟨middle, ⟨next, stepped, before⟩, after⟩
        exact ⟨next, stepped, middle, before, after⟩

/-- An invariant every guarded step preserves holds after every guarded run. -/
theorem invariant_of_guarded {guard : State → Action → Prop}
    {invariant : State → Prop}
    (preserved : ∀ state action next, invariant state → guard state action →
      step state action = some next → invariant next)
    {state final : State} {actions : List Action} (initially : invariant state)
    (guarded : Guarded step guard state actions)
    (run : perform step state actions = some final) : invariant final := by
  induction actions generalizing state with
  | nil =>
      cases run
      exact initially
  | cons action actions induction =>
      rcases cons_eq_some.mp run with ⟨next, stepped, rest⟩
      apply induction
      · exact preserved state action next initially guarded.1 stepped
      · exact guarded.2 next stepped
      · exact rest

theorem invariant {invariant : State → Prop}
    (preserved : ∀ state action next, invariant state →
      step state action = some next → invariant next)
    {state final : State} {actions : List Action} (initially : invariant state)
    (run : perform step state actions = some final) : invariant final := by
  induction actions generalizing state with
  | nil =>
      cases run
      exact initially
  | cons action actions induction =>
      rcases cons_eq_some.mp run with ⟨next, stepped, rest⟩
      exact induction (preserved state action next initially stepped) rest

end perform

end Pidnl.Foundation
