import PathWatch.Buffer
/-!
# Subscriptions

A subscription is one registration of interest in one resource. It buffers events and moves between
three states: ready to be signaled, signaled until its consumer resets it, and cancelled for good.
-/

namespace PathWatch

/-! ## Identifiers and states -/

/-- Identifies a subscription within the service that made it. -/
structure SubscriptionId where
  value : Nat
  deriving DecidableEq, Repr

namespace SubscriptionId

/-- The number of the identifier. -/
def text (id : SubscriptionId) : String := toString id.value

/-- The description of an identifier. -/
def describe (id : SubscriptionId) : String := "SubscriptionId(" ++ id.text ++ ")"

/-- Identifiers in the order of their numbers. -/
def sort (ids : List SubscriptionId) : List SubscriptionId :=
  ids.mergeSort fun a b => a.value ≤ b.value

end SubscriptionId

/-- Where a subscription stands. -/
inductive SubscriptionState where
  /-- The next signal puts it into the queue of its service. -/
  | ready
  /-- It is in the queue or with a consumer; further signals do nothing. -/
  | signaled
  /-- Events are dropped from now on. -/
  | cancelled
  deriving DecidableEq, Repr

/-- The name of a state. -/
def SubscriptionState.name : SubscriptionState → String
  | .ready => "Ready"
  | .signaled => "Signaled"
  | .cancelled => "Cancelled"

/-! ## Subscriptions -/

/-- Names a service that has a queue. -/
abbrev ServiceRef := Nat

/-- Names a subscription. Two handles are of the same subscription when they have the same name. -/
abbrev SubscriptionRef := Nat

/-- One registration of interest. -/
structure Subscription (R C : Type) where
  id : SubscriptionId
  resource : R
  /-- The kinds it was registered for, each once. -/
  interest : List EventKind
  config : WatchConfig
  /-- The service into whose queue a signal puts it, if it has one. -/
  owner : Option ServiceRef
  state : SubscriptionState := .ready
  buffer : Buffer C := []
  /-- Whether it is an entry of the queue of its owner. -/
  queued : Bool := false

namespace Subscription

variable {R C : Type}

/-- Whether it has not been cancelled. -/
def isValid (s : Subscription R C) : Bool :=
  s.state ≠ .cancelled

/-- The number of entries in the buffer. -/
def pending (s : Subscription R C) : Nat :=
  s.buffer.length

/-- Whether events of a kind are wanted. -/
def isInterested (s : Subscription R C) (kind : EventKind) : Bool :=
  s.interest.contains kind

/-- The description of a subscription. -/
def describe (s : Subscription R C) : String :=
  "Subscription \x7b id: " ++ s.id.describe ++ ", state: " ++ s.state.name ++
    ", capacity: " ++ toString s.config.capacity ++ " \x7d"

/-- The subscription after an event has been posted to it. -/
def post [BEq C] (s : Subscription R C) (e : ChangeEvent C) : Subscription R C :=
  if s.state = .cancelled then s
  else { s with buffer := s.buffer.post s.config e }

/-! ## Small facts -/

section Post

variable [BEq C] (s : Subscription R C) (e : ChangeEvent C)

@[simp] theorem post_id : (s.post e).id = s.id := by
  unfold post
  split <;> rfl

@[simp] theorem post_config : (s.post e).config = s.config := by
  unfold post
  split <;> rfl

@[simp] theorem post_owner : (s.post e).owner = s.owner := by
  unfold post
  split <;> rfl

@[simp] theorem post_state : (s.post e).state = s.state := by
  unfold post
  split <;> rfl

@[simp] theorem post_queued : (s.post e).queued = s.queued := by
  unfold post
  split <;> rfl

end Post

end Subscription

end PathWatch
