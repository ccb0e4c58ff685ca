import Mathlib.Data.Finset.Card
import Mathlib.Tactic.Common

/-! # Finite sets of bounded size

A set that never holds more elements than its capacity. An element is added only
where there is room.
-/

namespace Pidnl.Foundation

structure BoundedSet (capacity : Nat) (Element : Type u) where
  members : Finset Element
  bounded : members.card ≤ capacity

namespace BoundedSet

variable {Element : Type u} {capacity : Nat}

@[ext] theorem ext {left right : BoundedSet capacity Element}
    (equal : left.members = right.members) : left = right := by
  cases left
  cases right
  cases equal
  rfl

instance : Membership Element (BoundedSet capacity Element) where
  mem set element := element ∈ set.members

theorem mem_iff {set : BoundedSet capacity Element} {element : Element} :
    element ∈ set ↔ element ∈ set.members := Iff.rfl

def empty : BoundedSet capacity Element where
  members := ∅
  bounded := by simp

def IsFull (set : BoundedSet capacity Element) : Prop :=
  set.members.card = capacity

instance (set : BoundedSet capacity Element) : Decidable set.IsFull :=
  inferInstanceAs (Decidable (_ = _))

variable [DecidableEq Element]

instance (set : BoundedSet capacity Element) (element : Element) :
    Decidable (element ∈ set) :=
  inferInstanceAs (Decidable (element ∈ set.members))

def insert (set : BoundedSet capacity Element) (element : Element)
    (room : ¬ set.IsFull) : BoundedSet capacity Element where
  members := Insert.insert element set.members
  bounded := by
    have fewer : set.members.card < capacity := lt_of_le_of_ne set.bounded room
    have atMost := Finset.card_insert_le element set.members
    omega

def erase (set : BoundedSet capacity Element) (element : Element) :
    BoundedSet capacity Element where
  members := set.members.erase element
  bounded := Finset.card_erase_le.trans set.bounded

def filter (set : BoundedSet capacity Element) (passes : Element → Bool) :
    BoundedSet capacity Element where
  members := set.members.filter fun element => passes element = true
  bounded := (Finset.card_filter_le _ _).trans set.bounded

def insertIfRoom (set : BoundedSet capacity Element) (element : Element) :
    BoundedSet capacity Element :=
  if full : set.IsFull then set else set.insert element full

omit [DecidableEq Element] in
@[simp] theorem notMem_empty (element : Element) :
    element ∉ (empty : BoundedSet capacity Element) := Finset.notMem_empty element

@[simp] theorem mem_erase {set : BoundedSet capacity Element} {element other : Element} :
    other ∈ set.erase element ↔ other ≠ element ∧ other ∈ set := Finset.mem_erase

omit [DecidableEq Element] in
@[simp] theorem mem_filter {set : BoundedSet capacity Element} {passes : Element → Bool}
    {element : Element} : element ∈ set.filter passes ↔ element ∈ set ∧ passes element = true :=
  Finset.mem_filter

@[simp] theorem mem_insertIfRoom {set : BoundedSet capacity Element}
    {element other : Element} :
    other ∈ set.insertIfRoom element ↔ other ∈ set ∨ other = element ∧ ¬ set.IsFull := by
  rw [insertIfRoom]
  split
  · rename_i full
    simp [full]
  · rename_i room
    have inserted : other ∈ set.insert element room ↔ other = element ∨ other ∈ set :=
      Finset.mem_insert
    rw [inserted, or_comm, and_iff_left room]

@[simp] theorem erase_of_notMem {set : BoundedSet capacity Element} {element : Element}
    (absent : element ∉ set) : set.erase element = set :=
  ext (Finset.erase_eq_of_notMem absent)

end BoundedSet

end Pidnl.Foundation
