/-!
# Change events

An event carries a kind, the number of times it occurred, and the context in which it did. A change
is a creation, a modification or a deletion, or it is of a kind that the producer names; one more
kind stands for changes that were not recorded one by one. Counts lie between one and the largest
number of 32 bits and stop there when they grow. An overflow event stands for changes of many
contexts, so it has none itself.
-/

namespace PathWatch

/-! ## Kinds -/

/-- What happened to a resource. -/
inductive EventKind where
  | create
  | modify
  | delete
  /-- Changes that were not recorded one by one. -/
  | overflow
  /-- A kind of the producer's own. -/
  | custom (text : String)
  deriving DecidableEq, Repr

/-! ## Counts -/

/-- The largest count of an event. -/
def maxCount : Nat := 4294967295

/-- The sum of two counts, which stops at the largest one. -/
def addCounts (a b : Nat) : Nat :=
  min (a + b) maxCount

/-! ## Events -/

/-- One entry of an event buffer. -/
structure ChangeEvent (C : Type) where
  kind : EventKind
  count : Nat
  context : Option C
  deriving DecidableEq, Repr

namespace ChangeEvent

variable {C : Type}

/-- Events are equal when their kinds, their counts and their contexts are, the latter by the
equality test of their type. -/
instance [BEq C] : BEq (ChangeEvent C) where
  beq a b := a.kind == b.kind && a.count == b.count && a.context == b.context

/-- Whether the event stands for changes that were not recorded one by one. -/
def isOverflow (e : ChangeEvent C) : Bool :=
  e.kind == .overflow

/-- What every event satisfies: its count is in range, and an overflow event has no context. -/
structure WellFormed (e : ChangeEvent C) : Prop where
  one_le_count : 1 ≤ e.count
  count_le : e.count ≤ maxCount
  context_eq_none : e.kind = .overflow → e.context = none

/-- Why no event can be made: the count is zero. -/
structure InvalidCount where
  count : Nat
  deriving DecidableEq, Repr

/-- An event of a kind that has happened `count` times. A count of zero is refused, and the context
of an overflow event is dropped. -/
def checked (kind : EventKind) (count : UInt32) (context : Option C) :
    Except InvalidCount (ChangeEvent C) :=
  if count = 0 then .error ⟨0⟩
  else .ok ⟨kind, count.toNat, if kind = .overflow then none else context⟩

/-- An event that happened once. -/
def once (kind : EventKind) (context : C) : ChangeEvent C :=
  ⟨kind, 1, if kind = .overflow then none else some context⟩

/-- An event that happened `count` times. -/
def times (kind : EventKind) (context : C) (count : UInt32) :
    Except InvalidCount (ChangeEvent C) :=
  checked kind count (some context)

/-- An overflow event for `count` changes. -/
def overflow (count : UInt32) : Except InvalidCount (ChangeEvent C) :=
  checked .overflow count none

/-- The overflow event that a full buffer puts behind its last entry. -/
def marker (count : Nat) : ChangeEvent C :=
  ⟨.overflow, max count 1, none⟩

/-- The event with further occurrences counted in. -/
def absorb (e : ChangeEvent C) (count : Nat) : ChangeEvent C :=
  { e with count := addCounts e.count count }

/-! ## Small facts -/

@[simp] theorem absorb_kind (e : ChangeEvent C) (n : Nat) : (e.absorb n).kind = e.kind := rfl

@[simp] theorem absorb_context (e : ChangeEvent C) (n : Nat) :
    (e.absorb n).context = e.context := rfl

@[simp] theorem absorb_count (e : ChangeEvent C) (n : Nat) :
    (e.absorb n).count = addCounts e.count n := rfl

@[simp] theorem isOverflow_absorb (e : ChangeEvent C) (n : Nat) :
    (e.absorb n).isOverflow = e.isOverflow := rfl

@[simp] theorem isOverflow_marker (n : Nat) : (marker n : ChangeEvent C).isOverflow = true := rfl

theorem isOverflow_iff (e : ChangeEvent C) : e.isOverflow = true ↔ e.kind = .overflow := by
  simp [isOverflow]

end ChangeEvent

end PathWatch
