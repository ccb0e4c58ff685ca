import Pidnl.Foundation.Program
import Mathlib.Algebra.Order.Group.Multiset
import Mathlib.Algebra.Order.Sub.Basic
import Mathlib.Data.Multiset.OrderedMonoid
import Mathlib.Data.Set.Basic

/-! # Programs that own what they open

Some calls of a program open handles, others close them. A program owns the handles
that it is given and those that it opens, and closes no others. Whatever its calls
reply, it ends with the handles that its specification names: it neither leaks a handle
nor closes one twice.
-/

namespace Pidnl.Foundation

structure Handling (Call : Type → Type u) (Handle : Type v) where
  opens : {Reply : Type} → Call Reply → Reply → Multiset Handle
  closes : {Reply : Type} → Call Reply → Multiset Handle

structure Exchange (Call : Type → Type u) where
  {Reply : Type}
  request : Call Reply
  reply : Reply

def holding (handle : Option Handle) : Multiset Handle := handle.toList

@[simp] theorem holding_none : holding (none : Option Handle) = 0 := rfl

@[simp] theorem holding_some (handle : Handle) : holding (some handle) = {handle} := rfl

namespace Program

variable {Frame : Type} {Call : Type → Type u} {Handle : Type v}

/-! ## Courses -/

/-- The program can come to a value by these exchanges, whatever made the replies. -/
inductive Course : Program Frame Call α → List (Exchange Call) → α → Prop
  | done (value : α) : Course (.done value) [] value
  | call {Reply : Type} {site : List Frame} {request : Call Reply}
      {next : Reply → Program Frame Call α} {exchanges : List (Exchange Call)}
      {value : α} (reply : Reply) (rest : Course (next reply) exchanges value) :
      Course (.call site request next) (⟨request, reply⟩ :: exchanges) value

def exchanges (environment : Environment Frame Call State) :
    Program Frame Call α → State → List (Exchange Call)
  | .done _, _ => []
  | .call site request next, state =>
      let step := environment site request state
      ⟨request, step.1⟩ :: (next step.1).exchanges environment step.2

section Course

variable {program : Program Frame Call α} {next : α → Program Frame Call β}
  {trace : List (Exchange Call)}

theorem course_of_run (environment : Environment Frame Call State)
    (program : Program Frame Call α) (state : State) :
    program.Course (program.exchanges environment state)
      (program.run environment state).1 := by
  induction program generalizing state with
  | done value => exact .done value
  | call site request next induction => exact .call _ (induction _ _)

theorem course_pure {value other : α}
    (course : (pure value : Program Frame Call α).Course trace other) :
    trace = [] ∧ other = value := by
  cases course
  exact ⟨rfl, rfl⟩

theorem course_request {call : Call Reply} {reply : Reply}
    (course : (request call : Program Frame Call Reply).Course trace reply) :
    trace = [⟨call, reply⟩] := by
  cases course with
  | call reply rest =>
      cases rest
      rfl

/-- A course of two programs in a row is a course of each. -/
theorem course_bind {value : β} (course : (program >>= next).Course trace value) :
    ∃ first second middle, trace = first ++ second ∧ program.Course first middle ∧
      (next middle).Course second value := by
  induction program generalizing trace with
  | done middle => exact ⟨[], trace, middle, rfl, .done middle, course⟩
  | call site request rest induction =>
      cases course with
      | call reply later =>
          rcases induction reply later with ⟨first, second, middle, rfl, before, after⟩
          exact ⟨_ :: first, second, middle, rfl, .call reply before, after⟩

end Course

/-! ## Ownership -/

section Owns

variable [DecidableEq Handle] (handling : Handling Call Handle)

/-- Holding these handles, the program closes only handles it holds, and ends holding
those of the postcondition. -/
def Owns : Program Frame Call α → Multiset Handle → (α → Multiset Handle) → Prop
  | .done value, held, post => held = post value
  | .call _ request next, held, post =>
      handling.closes request ≤ held ∧
        ∀ reply, (next reply).Owns (held - handling.closes request +
          handling.opens request reply) post

abbrev Balances (program : Program Frame Call α) : Prop :=
  program.Owns handling 0 fun _ => 0

variable {handling} {program : Program Frame Call α} {held : Multiset Handle}
  {post : α → Multiset Handle}

theorem owns_pure (value : α) (post : α → Multiset Handle) :
    (pure value : Program Frame Call α).Owns handling (post value) post := rfl

theorem balances_pure (value : α) :
    (pure value : Program Frame Call α).Balances handling := rfl

/-- Handles that a program does not use pass through it. -/
theorem Owns.frame (owns : program.Owns handling held post) (extra : Multiset Handle) :
    program.Owns handling (held + extra) fun value => post value + extra := by
  induction program generalizing held with
  | done value => exact congrArg (· + extra) owns
  | call site request next induction =>
      rcases owns with ⟨within, rest⟩
      refine ⟨within.trans (Multiset.le_add_right _ _), ?_⟩
      intro reply
      have after := induction reply (rest reply)
      rw [add_right_comm, tsub_add_eq_add_tsub within] at after
      exact after

theorem Owns.bind {next : α → Program Frame Call β} {after : β → Multiset Handle}
    (first : program.Owns handling held post)
    (rest : ∀ value, (next value).Owns handling (post value) after) :
    (program >>= next).Owns handling held after := by
  induction program generalizing held with
  | done value =>
      cases first
      exact rest value
  | call site request between induction =>
      exact ⟨first.1, fun reply => induction reply (first.2 reply)⟩

theorem Owns.then {next : α → Program Frame Call β} {after : β → Multiset Handle}
    (balanced : program.Balances handling)
    (rest : ∀ value, (next value).Owns handling held after) :
    (program >>= next).Owns handling held after := by
  have framed := balanced.frame held
  simp only [zero_add] at framed
  exact framed.bind rest

theorem owns_request_bind {call : Call Reply} {next : Reply → Program Frame Call β}
    {after : β → Multiset Handle} (kept : Multiset Handle)
    (total : held = handling.closes call + kept)
    (rest : ∀ reply, (next reply).Owns handling (handling.opens call reply + kept)
      after) :
    (request call >>= next).Owns handling held after := by
  subst total
  refine ⟨Multiset.le_add_right _ _, ?_⟩
  intro reply
  rw [add_tsub_cancel_left, add_comm]
  exact rest reply

theorem owns_open_bind {call : Call Reply} {next : Reply → Program Frame Call β}
    {after : β → Multiset Handle} (closesNone : handling.closes call = 0)
    (rest : ∀ reply, (next reply).Owns handling (handling.opens call reply + held)
      after) :
    (request call >>= next).Owns handling held after := by
  apply owns_request_bind held
  · rw [closesNone, zero_add]
  · exact rest

theorem owns_close_bind {call : Call Reply} {next : Reply → Program Frame Call β}
    {after : β → Multiset Handle} (kept : Multiset Handle)
    (total : held = handling.closes call + kept)
    (opensNone : ∀ reply, handling.opens call reply = 0)
    (rest : ∀ reply, (next reply).Owns handling kept after) :
    (request call >>= next).Owns handling held after := by
  apply owns_request_bind kept total
  intro reply
  rw [opensNone, zero_add]
  exact rest reply

theorem owns_quiet_bind {call : Call Reply} {next : Reply → Program Frame Call β}
    {after : β → Multiset Handle} (closesNone : handling.closes call = 0)
    (opensNone : ∀ reply, handling.opens call reply = 0)
    (rest : ∀ reply, (next reply).Owns handling held after) :
    (request call >>= next).Owns handling held after := by
  apply owns_close_bind held _ opensNone rest
  rw [closesNone, zero_add]

theorem owns_request {call : Call Reply} :
    (request call : Program Frame Call Reply).Owns handling (handling.closes call)
      (handling.opens call) := by
  refine ⟨le_refl _, ?_⟩
  intro reply
  rw [tsub_self, zero_add]
  rfl

theorem balances_request {call : Call Reply} (closesNone : handling.closes call = 0)
    (opensNone : ∀ reply, handling.opens call reply = 0) :
    (request call : Program Frame Call Reply).Balances handling := by
  have owns : (request call : Program Frame Call Reply).Owns handling _ _ := owns_request
  rw [closesNone, funext opensNone] at owns
  exact owns

@[simp] theorem owns_inside (frame : Frame) :
    (program.inside frame).Owns handling held post ↔
      program.Owns handling held post := by
  induction program generalizing held with
  | done value => exact Iff.rfl
  | call site request next induction => simp only [inside, Owns, induction]

@[simp] theorem owns_beneath (frames : List Frame) :
    (program.beneath frames).Owns handling held post ↔
      program.Owns handling held post := by
  induction program generalizing held with
  | done value => exact Iff.rfl
  | call site request next induction => simp only [beneath, Owns, induction]

/-- If every call is carried out by a program that opens and closes what the call
does, a program owns what it did before. -/
theorem Owns.expand {Wider : Type → Type w} {wider : Handling Wider Handle}
    {carryOut : {Reply : Type} → Call Reply → Program Frame Wider Reply}
    (carries : ∀ {Reply : Type} (call : Call Reply),
      (carryOut call).Owns wider (handling.closes call) (handling.opens call))
    (owns : program.Owns handling held post) :
    (program.expand carryOut).Owns wider held post := by
  induction program generalizing held with
  | done value => exact owns
  | call site request next induction =>
      rcases owns with ⟨within, rest⟩
      have carried : ((carryOut request).beneath site).Owns wider
          (handling.closes request) (handling.opens request) :=
        (owns_beneath site).mpr (carries request)
      have framed := carried.frame (held - handling.closes request)
      rw [add_tsub_cancel_of_le within] at framed
      apply framed.bind
      intro reply
      rw [add_comm]
      exact induction reply (rest reply)

end Owns

/-! ## What is open -/

section Open

variable [DecidableEq Handle] (handling : Handling Call Handle)

/-- The handles held after some exchanges, if only held handles are closed. -/
def ledger (held : Multiset Handle) : List (Exchange Call) → Option (Multiset Handle)
  | [] => some held
  | exchange :: trace =>
      if handling.closes exchange.request ≤ held then
        ledger (held - handling.closes exchange.request +
          handling.opens exchange.request exchange.reply) trace
      else none

def openNext (isOpen : Set Handle) (exchange : Exchange Call) : Set Handle :=
  {handle | handle ∈ isOpen ∧ handle ∉ handling.closes exchange.request ∨
    handle ∈ handling.opens exchange.request exchange.reply}

def openAfter (isOpen : Set Handle) (trace : List (Exchange Call)) : Set Handle :=
  trace.foldl (openNext handling) isOpen

def Fresh (isOpen : Set Handle) : List (Exchange Call) → Prop
  | [] => True
  | exchange :: trace =>
      (handling.opens exchange.request exchange.reply).Nodup ∧
        (∀ handle ∈ handling.opens exchange.request exchange.reply, handle ∉ isOpen) ∧
        Fresh (openNext handling isOpen exchange) trace

variable {handling} {program : Program Frame Call α} {held final : Multiset Handle}
  {post : α → Multiset Handle} {isOpen : Set Handle} {trace : List (Exchange Call)}

theorem Owns.ledger {value : α} (owns : program.Owns handling held post)
    (course : program.Course trace value) :
    Program.ledger handling held trace = some (post value) := by
  induction course generalizing held with
  | done value => exact congrArg some owns
  | call reply rest induction =>
      rcases owns with ⟨within, later⟩
      rw [Program.ledger, if_pos within]
      exact induction (later reply)

theorem ledger_singleton (call : Call Reply) (reply : Reply) :
    ledger handling (handling.closes call) [⟨call, reply⟩] =
      some (handling.opens call reply) := by
  rw [ledger, if_pos (le_refl _), tsub_self, zero_add]
  rfl

theorem ledger_frame (kept : ledger handling held trace = some final)
    (extra : Multiset Handle) :
    ledger handling (held + extra) trace = some (final + extra) := by
  induction trace generalizing held with
  | nil => exact congrArg (Option.map (· + extra)) kept
  | cons exchange trace induction =>
      rw [ledger] at kept ⊢
      split at kept
      · rename_i within
        rw [if_pos (within.trans (Multiset.le_add_right _ _)), ← induction kept,
          ← tsub_add_eq_add_tsub within, add_right_comm]
      · contradiction

theorem ledger_append {first second : List (Exchange Call)} {middle : Multiset Handle}
    (before : ledger handling held first = some middle) :
    ledger handling held (first ++ second) = ledger handling middle second := by
  induction first generalizing held with
  | nil =>
      cases before
      rfl
  | cons exchange first induction =>
      rw [List.cons_append, ledger]
      rw [ledger] at before
      split at before
      · rename_i within
        rw [if_pos within, induction before]
      · contradiction

omit [DecidableEq Handle] in
theorem openAfter_append (isOpen : Set Handle) (first second : List (Exchange Call)) :
    openAfter handling isOpen (first ++ second) =
      openAfter handling (openAfter handling isOpen first) second :=
  List.foldl_append

omit [DecidableEq Handle] in
theorem fresh_append {first second : List (Exchange Call)} :
    Fresh handling isOpen (first ++ second) ↔ Fresh handling isOpen first ∧
      Fresh handling (openAfter handling isOpen first) second := by
  induction first generalizing isOpen with
  | nil => exact ⟨fun fresh => ⟨trivial, fresh⟩, And.right⟩
  | cons exchange first induction =>
      rw [List.cons_append, Fresh, Fresh, induction, and_assoc, and_assoc]
      rfl

/-- Beside the handles outside, exactly these are open, each once. -/
structure OpensOnly (isOpen outside : Set Handle) (held : Multiset Handle) : Prop where
  isOpen : isOpen = {handle | handle ∈ outside ∨ handle ∈ held}
  once : held.Nodup
  apart : ∀ handle ∈ held, handle ∉ outside

omit [DecidableEq Handle] in
theorem opensOnly_none (isOpen : Set Handle) : OpensOnly isOpen isOpen 0 where
  isOpen := by
    ext handle
    simp
  once := Multiset.nodup_zero
  apart := fun handle none => absurd none (Multiset.notMem_zero handle)

theorem OpensOnly.next {outside : Set Handle} {exchange : Exchange Call}
    (only : OpensOnly isOpen outside held) (within : handling.closes exchange.request ≤ held)
    (openedOnce : (handling.opens exchange.request exchange.reply).Nodup)
    (opened : ∀ handle ∈ handling.opens exchange.request exchange.reply, handle ∉ isOpen) :
    OpensOnly (openNext handling isOpen exchange) outside
      (held - handling.closes exchange.request +
        handling.opens exchange.request exchange.reply) := by
  rw [only.isOpen] at opened
  constructor
  · ext handle
    have ofClosed : handle ∈ handling.closes exchange.request → handle ∉ outside :=
      fun closed => only.apart handle (Multiset.mem_of_le within closed)
    have left : handle ∈ held - handling.closes exchange.request ↔
        handle ∈ held ∧ handle ∉ handling.closes exchange.request :=
      Multiset.mem_sub_of_nodup only.once
    simp only [openNext, only.isOpen, Set.mem_ofPred_eq, Multiset.mem_add, left]
    grind
  · rw [Multiset.nodup_add]
    refine ⟨Multiset.nodup_of_le tsub_le_self only.once, openedOnce, ?_⟩
    rw [Multiset.disjoint_left]
    intro handle left new
    exact opened handle new (.inr (Multiset.mem_of_le tsub_le_self left))
  · intro handle member
    rcases Multiset.mem_add.mp member with left | new
    · exact only.apart handle (Multiset.mem_of_le tsub_le_self left)
    · exact fun among => opened handle new (.inl among)

theorem OpensOnly.after {outside : Set Handle} (only : OpensOnly isOpen outside held)
    (kept : Program.ledger handling held trace = some final)
    (fresh : Fresh handling isOpen trace) :
    OpensOnly (openAfter handling isOpen trace) outside final := by
  induction trace generalizing isOpen held with
  | nil =>
      cases kept
      exact only
  | cons exchange trace induction =>
      rw [Program.ledger] at kept
      split at kept
      case isFalse => contradiction
      rename_i within
      rcases fresh with ⟨openedOnce, opened, later⟩
      exact induction (only.next within openedOnce opened) kept later

theorem openAfter_of_balances {value : α} (balanced : program.Balances handling)
    (course : program.Course trace value) (fresh : Fresh handling isOpen trace) :
    openAfter handling isOpen trace = isOpen := by
  have none := (opensOnly_none isOpen).after (balanced.ledger course) fresh
  rw [none.isOpen]
  exact (opensOnly_none isOpen).isOpen.symm

/-- An environment keeps account of what is open: in a sound state a call opens what was
not open, and afterwards that is open which its reply says. -/
structure KeepsOpen (handling : Handling Call Handle)
    (environment : Environment Frame Call State) (isOpen : State → Set Handle)
    (Sound : State → Prop) : Prop where
  sound : ∀ {Reply : Type} site (call : Call Reply) state, Sound state →
    Sound (environment site call state).2
  openNext : ∀ {Reply : Type} site (call : Call Reply) state,
    isOpen (environment site call state).2 =
      openNext handling (isOpen state) ⟨call, (environment site call state).1⟩
  once : ∀ {Reply : Type} site (call : Call Reply) state,
    (handling.opens call (environment site call state).1).Nodup
  new : ∀ {Reply : Type} site (call : Call Reply) state, Sound state →
    ∀ handle ∈ handling.opens call (environment site call state).1, handle ∉ isOpen state

namespace KeepsOpen

variable {environment : Environment Frame Call State} {opened : State → Set Handle}
  {Sound : State → Prop}

omit [DecidableEq Handle] in
theorem isOpen_run (keeps : KeepsOpen handling environment opened Sound)
    (program : Program Frame Call α) (state : State) :
    opened (program.run environment state).2 =
      openAfter handling (opened state) (program.exchanges environment state) := by
  induction program generalizing state with
  | done value => rfl
  | call site request next induction =>
      rw [run, exchanges, openAfter, List.foldl_cons, ← keeps.openNext]
      exact induction _ _

omit [DecidableEq Handle] in
theorem fresh_exchanges (keeps : KeepsOpen handling environment opened Sound)
    (program : Program Frame Call α) {state : State} (isSound : Sound state) :
    Fresh handling (opened state) (program.exchanges environment state) := by
  induction program generalizing state with
  | done value => trivial
  | call site request next induction =>
      refine ⟨keeps.once site request state, keeps.new site request state isSound, ?_⟩
      rw [← keeps.openNext]
      exact induction _ (keeps.sound site request state isSound)

/-- After a run of a program that owns what it opens, that is open which it ends with. -/
theorem opensOnly_run (keeps : KeepsOpen handling environment opened Sound) {outside : Set Handle}
    (owns : program.Owns handling held post) {state : State} (isSound : Sound state)
    (only : OpensOnly (opened state) outside held) :
    OpensOnly (opened (program.run environment state).2) outside
      (post (program.run environment state).1) := by
  rw [keeps.isOpen_run]
  exact only.after (owns.ledger (course_of_run environment program state))
    (keeps.fresh_exchanges program isSound)

omit [DecidableEq Handle] in
theorem sound_run (keeps : KeepsOpen handling environment opened Sound)
    (program : Program Frame Call α) {state : State} (isSound : Sound state) :
    Sound (program.run environment state).2 := by
  induction program generalizing state with
  | done value => exact isSound
  | call site request next induction =>
      exact induction _ (keeps.sound site request state isSound)

end KeepsOpen

end Open

end Program

end Pidnl.Foundation
