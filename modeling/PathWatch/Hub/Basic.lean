import PathWatch.Log
/-!
# Services and their subscriptions

A hub holds every service and every subscription there is. A notification service has a queue of
signaled subscriptions, which consumers take in the order of the signals; a silent service has none
and never hands a subscription out. A notification service lives as long as a handle on it does.

Subscriptions are numbered from one on and without a bound. A number of 64 bits, as services keep
it, would start again from zero after 2 to the 64th registrations with one service; no run gets
there.
-/

namespace PathWatch

/-! ## Services -/

/-- Names a silent service. -/
abbrev SilentRef := Nat

/-- A service with a queue. -/
structure NotificationService where
  config : WatchConfig
  /-- The number of the next subscription. -/
  nextId : Nat := 1
  /-- The subscriptions that have not been cancelled, by their identifiers. -/
  live : List (SubscriptionId × SubscriptionRef) := []
  isOpen : Bool := true
  /-- The signaled subscriptions, the one to be taken next first. -/
  queue : List SubscriptionRef := []
  /-- The number of handles on the service. -/
  handles : Nat := 1
  deriving DecidableEq, Repr

/-- A service that never signals anything. Cancelled subscriptions are struck from its list only
when the list is used. -/
structure SilentService where
  /-- The number of the next subscription. -/
  nextId : Nat := 1
  registered : List SubscriptionRef := []
  isOpen : Bool := true
  deriving DecidableEq, Repr

/-- Why a call of a service fails. -/
inductive WatchError where
  | closed
  | emptyInterestSet
  | foreignSubscription (id : SubscriptionId)
  deriving DecidableEq, Repr

/-- The message for a failed call. -/
def WatchError.message : WatchError → String
  | .closed => "Watch service is closed"
  | .emptyInterestSet => "Interest set must contain at least one event kind"
  | .foreignSubscription id => "Subscription " ++ id.text ++ " does not belong to this service"

/-! ## The hub -/

/-- All services and subscriptions. A service is missing from its place once its last handle has
been dropped; no place is used twice. -/
structure Hub (R C : Type) where
  subscriptions : Array (Subscription R C) := #[]
  services : Array (Option NotificationService) := #[]
  silent : Array SilentService := #[]

/-- What a call gives back: its value, the hub after it, and what was logged. -/
structure Outcome (R C α : Type) where
  value : α
  hub : Hub R C
  log : Log := []

namespace Hub

variable {R C : Type}

/-- A subscription by its name. -/
def subscription? (h : Hub R C) (s : SubscriptionRef) : Option (Subscription R C) :=
  h.subscriptions[s]?

/-- A service by its name, while it is there. -/
def service? (h : Hub R C) (k : ServiceRef) : Option NotificationService :=
  (h.services[k]?).join

/-- The hub with one subscription changed. -/
def modifySubscription (h : Hub R C) (s : SubscriptionRef)
    (f : Subscription R C → Subscription R C) : Hub R C :=
  { h with subscriptions := h.subscriptions.modify s f }

/-- The hub with one service changed. -/
def modifyService (h : Hub R C) (k : ServiceRef)
    (f : NotificationService → NotificationService) : Hub R C :=
  { h with services := h.services.modify k (Option.map f) }

/-- The hub with one silent service changed. -/
def modifySilent (h : Hub R C) (k : SilentRef) (f : SilentService → SilentService) : Hub R C :=
  { h with silent := h.silent.modify k f }

end Hub

end PathWatch
