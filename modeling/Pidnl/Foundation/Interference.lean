import Pidnl.Foundation.Program
import Mathlib.Logic.Function.Basic

/-! # Programs among other programs

Between two calls of a program the state may be changed by others. What they may
do to it is the relation the program relies on; what the program's own calls do to
it is the relation it guarantees them. Several programs over one state take turns,
one call at a time.
-/

namespace Pidnl.Foundation

namespace Program

variable {Frame : Type} {Call : Type → Type u} {State : Type}

section Safe

variable (environment : Environment Frame Call State)
  (rely guarantee : State → State → Prop)

/-- Whatever the others do before each of its calls, the program keeps its
guarantee and ends as the postcondition says. -/
def Safe (post : α → State → Prop) : Program Frame Call α → State → Prop
  | .done value, state => post value state
  | .call site request next, state => ∀ later, rely state later →
      guarantee later (environment site request later).2 ∧
        Safe post (next (environment site request later).1)
          (environment site request later).2

/-- From here on nothing the others do changes a reply, and every call passes what
they have done on. -/
def Undisturbed : Program Frame Call α → State → Prop
  | .done _, _ => True
  | .call site request next, state =>
      (∀ other, rely state other →
        (environment site request other).1 = (environment site request state).1 ∧
          rely (environment site request state).2 (environment site request other).2 ∧
          guarantee other (environment site request other).2) ∧
        Undisturbed (next (environment site request state).1)
          (environment site request state).2

/-- Only at the first call does it matter what the others have done. -/
def ActsAtOnce : Program Frame Call α → State → Prop
  | .done _, _ => True
  | .call site request next, state =>
      guarantee state (environment site request state).2 ∧
        Undisturbed environment rely guarantee
          (next (environment site request state).1)
          (environment site request state).2

variable {environment rely guarantee} {program : Program Frame Call α}
  {post : α → State → Prop} {state : State}

theorem Safe.weaken {other : α → State → Prop}
    (safe : program.Safe environment rely guarantee post state)
    (implied : ∀ value final, post value final → other value final) :
    program.Safe environment rely guarantee other state := by
  induction program generalizing state with
  | done value => exact implied value state safe
  | call site request next induction =>
      intro later relied
      exact ⟨(safe later relied).1, induction _ (safe later relied).2⟩

theorem Safe.bind {next : α → Program Frame Call β} {after : β → State → Prop}
    (safe : program.Safe environment rely guarantee
      (fun value final => (next value).Safe environment rely guarantee after final)
      state) :
    (program >>= next).Safe environment rely guarantee after state := by
  induction program generalizing state with
  | done value => exact safe
  | call site request rest induction =>
      intro later relied
      exact ⟨(safe later relied).1, induction _ (safe later relied).2⟩

@[simp] theorem safe_inside (frame : Frame) :
    (program.inside frame).Safe environment rely guarantee post state ↔
      program.Safe (fun site => environment (frame :: site)) rely guarantee post
        state := by
  induction program generalizing state with
  | done value => exact Iff.rfl
  | call site request next induction =>
      simp only [inside, Safe, induction]

theorem Safe.later {other : State}
    (safe : program.Safe environment rely guarantee post state)
    (relied : rely state other)
    (transitive : ∀ first second third, rely first second → rely second third →
      rely first third)
    (stable : ∀ value, post value state → post value other) :
    program.Safe environment rely guarantee post other := by
  cases program with
  | done value => exact stable value safe
  | call site request next =>
      intro later reliedLater
      exact safe later (transitive state other later relied reliedLater)

theorem Undisturbed.safe {other : State}
    (undisturbed : program.Undisturbed environment rely guarantee state)
    (transitive : ∀ first second third, rely first second → rely second third →
      rely first third)
    (relied : rely state other) :
    program.Safe environment rely guarantee
      (fun value final => value = (program.run environment state).1 ∧
        rely (program.run environment state).2 final) other := by
  induction program generalizing state other with
  | done value => exact ⟨rfl, relied⟩
  | call site request next induction =>
      intro later reliedLater
      rcases undisturbed.1 later (transitive _ _ _ relied reliedLater) with
        ⟨sameReply, passedOn, kept⟩
      rw [sameReply]
      exact ⟨kept, induction _ undisturbed.2 passedOn⟩

/-- A program that acts at once leaves what it leaves when run alone from some
state that the others have made. -/
theorem safe_of_actsAtOnce
    (reflexive : ∀ state, rely state state)
    (transitive : ∀ first second third, rely first second → rely second third →
      rely first third)
    (actsAtOnce : ∀ later, rely state later →
      program.ActsAtOnce environment rely guarantee later)
    (contract : ∀ later, rely state later → ∀ final,
      rely (program.run environment later).2 final →
        post (program.run environment later).1 final) :
    program.Safe environment rely guarantee post state := by
  cases program with
  | done value => exact contract state (reflexive state) state (reflexive state)
  | call site request next =>
      intro later relied
      refine ⟨(actsAtOnce later relied).1, ?_⟩
      apply Safe.weaken ((actsAtOnce later relied).2.safe transitive (reflexive _))
      intro value final ended
      rcases ended with ⟨rfl, passedOn⟩
      exact contract later relied final passedOn

theorem Undisturbed.actsAtOnce (reflexive : ∀ state, rely state state)
    (undisturbed : program.Undisturbed environment rely guarantee state) :
    program.ActsAtOnce environment rely guarantee state := by
  cases program with
  | done value => trivial
  | call site request next =>
      exact ⟨(undisturbed.1 state (reflexive state)).2.2, undisturbed.2⟩

theorem Undisturbed.bind {next : α → Program Frame Call β}
    (first : program.Undisturbed environment rely guarantee state)
    (rest : (next (program.run environment state).1).Undisturbed environment rely
      guarantee (program.run environment state).2) :
    (program >>= next).Undisturbed environment rely guarantee state := by
  induction program generalizing state with
  | done value => exact rest
  | call site request after induction => exact ⟨first.1, induction _ first.2 rest⟩

/-- What neither the others nor any allowed call breaks holds in the end, whatever is
replied. -/
theorem Makes.safe {allowed : {Reply : Type} → List Frame → Call Reply → Prop}
    {holds : State → Prop} (makes : program.Makes allowed)
    (stable : ∀ first second, rely first second → holds first → holds second)
    (kept : ∀ {Reply : Type} (site : List Frame) (call : Call Reply) state,
      allowed site call → holds state →
        guarantee state (environment site call state).2 ∧
          holds (environment site call state).2)
    (initially : holds state) :
    program.Safe environment rely guarantee (fun _ final => holds final) state := by
  induction program generalizing state with
  | done value => exact initially
  | call site request next induction =>
      intro later relied
      have stepped := kept site request later makes.1 (stable state later relied initially)
      exact ⟨stepped.1, induction _ (makes.2 _) stepped.2⟩

theorem Makes.undisturbed
    {allowed : {Reply : Type} → List Frame → Call Reply → Prop}
    (makes : program.Makes allowed)
    (steady : ∀ {Reply : Type} (site : List Frame) (call : Call Reply) state,
      allowed site call → ∀ other, rely state other →
        (environment site call other).1 = (environment site call state).1 ∧
          rely (environment site call state).2 (environment site call other).2 ∧
          guarantee other (environment site call other).2)
    (state : State) : program.Undisturbed environment rely guarantee state := by
  induction program generalizing state with
  | done value => trivial
  | call site request next induction =>
      exact ⟨steady site request state makes.1, induction _ (makes.2 _) _⟩

@[simp] theorem undisturbed_inside (frame : Frame) :
    (program.inside frame).Undisturbed environment rely guarantee state ↔
      program.Undisturbed (fun site => environment (frame :: site)) rely guarantee
        state := by
  induction program generalizing state with
  | done value => exact Iff.rfl
  | call site request next induction =>
      simp only [inside, Undisturbed, induction]

@[simp] theorem actsAtOnce_inside (frame : Frame) :
    (program.inside frame).ActsAtOnce environment rely guarantee state ↔
      program.ActsAtOnce (fun site => environment (frame :: site)) rely guarantee
        state := by
  cases program with
  | done value => exact Iff.rfl
  | call site request next =>
      simp only [inside, ActsAtOnce, undisturbed_inside]

end Safe

end Program

/-! ## Taking turns -/

/-- A shared state and what each client has still to do. -/
structure Turns (Client Frame : Type) (Call : Type → Type u) (State : Type)
    (Value : Type) where
  state : State
  program : Client → Program Frame Call Value

namespace Turns

variable {Client Frame : Type} {Call : Type → Type u} {State : Type}
  {Value : Type}

def step [DecidableEq Client] (environment : Client → Environment Frame Call State)
    (turns : Turns Client Frame Call State Value) (client : Client) :
    Option (Turns Client Frame Call State Value) :=
  match turns.program client with
  | .done _ => none
  | .call site request next =>
      let reply := environment client site request turns.state
      some { state := reply.2
             program := Function.update turns.program client (next reply.1) }

def returned? (turns : Turns Client Frame Call State Value) (client : Client) :
    Option Value :=
  match turns.program client with
  | .done value => some value
  | .call _ _ _ => none

theorem program_of_returned {turns : Turns Client Frame Call State Value}
    {client : Client} {value : Value} (returned : turns.returned? client = some value) :
    turns.program client = .done value := by
  unfold returned? at returned
  split at returned
  · rename_i other same
    cases returned
    exact same
  · contradiction

theorem step_eq_some [DecidableEq Client]
    {environment : Client → Environment Frame Call State}
    {turns next : Turns Client Frame Call State Value} {client : Client}
    (stepped : turns.step environment client = some next) :
    ∃ (Reply : Type) (site : List Frame) (request : Call Reply)
        (rest : Reply → Program Frame Call Value),
      turns.program client = .call site request rest ∧
        next.state = (environment client site request turns.state).2 ∧
        next.program = Function.update turns.program client
          (rest (environment client site request turns.state).1) := by
  unfold step at stepped
  split at stepped
  · contradiction
  · rename_i Reply site request rest same
    cases stepped
    exact ⟨Reply, site, request, rest, same, rfl, rfl⟩

end Turns

end Pidnl.Foundation
