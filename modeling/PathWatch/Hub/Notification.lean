import PathWatch.Hub.Lifecycle
/-!
# Notification services

Registration, retrieval and closing. A closed service refuses registrations and retrievals, has an
empty queue, and has cancelled every subscription it ever made.
-/

namespace PathWatch

/-- What a call gives back that may have to wait: its value, or that it has nothing to give as long
as nobody else acts. -/
inductive Waiting (α : Type) where
  | returns (value : α)
  | waits
  deriving DecidableEq, Repr

namespace Hub

variable {R C : Type}

/-! ## Making and dropping services -/

/-- Makes a service that accepts its configuration as it is. -/
def addService (h : Hub R C) (config : WatchConfig) : Outcome R C ServiceRef where
  value := h.services.size
  hub := { h with services := h.services.push (some { config }) }
  log := [.initialized config]

/-- Makes a service with a configuration that has to be valid. -/
def withConfig (h : Hub R C) (config : WatchConfig) :
    Except WatchConfig.Invalid (Outcome R C ServiceRef) :=
  match config.validate with
  | .error e => .error e
  | .ok () => .ok (h.addService config)

/-- Makes one more handle on a service. -/
def retain (h : Hub R C) (k : ServiceRef) : Hub R C :=
  h.modifyService k fun v => { v with handles := v.handles + 1 }

/-- Drops a handle on a service. The service goes with its last handle; its subscriptions stay. -/
def release (h : Hub R C) (k : ServiceRef) : Hub R C :=
  match h.service? k with
  | none => h
  | some v =>
    if v.handles ≤ 1 then { h with services := h.services.modify k fun _ => none }
    else h.modifyService k fun v => { v with handles := v.handles - 1 }

/-! ## What a service says about itself -/

/-- Whether the service is open. A service that is gone is not. -/
def isOpen (h : Hub R C) (k : ServiceRef) : Bool :=
  match h.service? k with
  | none => false
  | some v => v.isOpen

/-- The number of subscriptions that have not been cancelled. -/
def liveCount (h : Hub R C) (k : ServiceRef) : Nat :=
  match h.service? k with
  | none => 0
  | some v => v.live.length

/-- The number of subscriptions that wait for a consumer. -/
def signaledCount (h : Hub R C) (k : ServiceRef) : Nat :=
  match h.service? k with
  | none => 0
  | some v => v.queue.length

/-- Whether a subscription was made by the service. -/
def owns (h : Hub R C) (k : ServiceRef) (s : SubscriptionRef) : Bool :=
  match h.subscription? s with
  | none => false
  | some sub => sub.owner = some k

/-- The description of a service. -/
def describeService (h : Hub R C) (k : ServiceRef) : String :=
  match h.service? k with
  | none => ""
  | some v =>
    "NotificationService \x7b config: " ++ v.config.describe ++ ", live: " ++
      toString v.live.length ++ ", open: " ++ toString v.isOpen ++ " \x7d"

/-! ## Registration -/

/-- Makes a subscription of an open service for kinds of which there is at least one. -/
def register (h : Hub R C) (k : ServiceRef) (resource : R) (kinds : List EventKind) :
    Outcome R C (Except WatchError SubscriptionRef) :=
  if kinds.isEmpty then { value := .error .emptyInterestSet, hub := h }
  else
    match h.service? k with
    | none => { value := .error .closed, hub := h }
    | some v =>
      if !v.isOpen then { value := .error .closed, hub := h }
      else
        let s := h.subscriptions.size
        let id : SubscriptionId := ⟨v.nextId⟩
        let sub : Subscription R C :=
          { id, resource, interest := kinds.eraseDups, config := v.config, owner := some k }
        let hub := { h with subscriptions := h.subscriptions.push sub }
        { value := .ok s
          hub := hub.modifyService k fun v =>
            { v with
              nextId := v.nextId + 1
              live := v.live.filter (fun entry => entry.1 ≠ id) ++ [(id, s)] }
          log := [.registered id] }

/-- Cancels a subscription that the service made. -/
def deregister (h : Hub R C) (k : ServiceRef) (s : SubscriptionRef) :
    Outcome R C (Except WatchError Unit) :=
  match h.subscription? s with
  | none => { value := .ok (), hub := h }
  | some sub =>
    if h.owns k s then
      let cancelled := h.cancel s
      { value := .ok (), hub := cancelled.hub, log := cancelled.log }
    else { value := .error (.foreignSubscription sub.id), hub := h }

/-! ## Retrieval -/

/-- Takes the subscription at the head of the queue, if there is one. -/
def poll (h : Hub R C) (k : ServiceRef) :
    Outcome R C (Except WatchError (Option SubscriptionRef)) :=
  match h.service? k with
  | none => { value := .error .closed, hub := h }
  | some v =>
    if !v.isOpen then { value := .error .closed, hub := h }
    else
      match v.queue with
      | [] => { value := .ok none, hub := h }
      | s :: rest =>
        { value := .ok (some s)
          hub := (h.modifyService k fun v => { v with queue := rest }).modifySubscription s
            fun sub => { sub with queued := false } }

/-- Takes the subscription at the head of the queue, and waits for one if the queue is empty. -/
def take (h : Hub R C) (k : ServiceRef) :
    Outcome R C (Waiting (Except WatchError SubscriptionRef)) :=
  let polled := h.poll k
  match polled.value with
  | .error e => { value := .returns (.error e), hub := polled.hub }
  | .ok none => { value := .waits, hub := polled.hub }
  | .ok (some s) => { value := .returns (.ok s), hub := polled.hub }

/-- Takes the subscription at the head of the queue, and waits for one for some time if the queue is
empty: until the time is up, or, when the time is too long for the clock, without end. -/
def pollTimeout (h : Hub R C) (k : ServiceRef) (endless : Bool) :
    Outcome R C (Waiting (Except WatchError (Option SubscriptionRef))) :=
  let polled := h.poll k
  match polled.value with
  | .ok none =>
    { value := if endless then .waits else .returns (.ok none), hub := polled.hub }
  | value => { value := .returns value, hub := polled.hub }

/-! ## Closing -/

/-- Closes an open service and empties its queue, and says whether it was open. -/
def shut (h : Hub R C) (k : ServiceRef) : Bool × Hub R C :=
  match h.service? k with
  | none => (false, h)
  | some v =>
    if !v.isOpen then (false, h)
    else
      let unqueued := v.queue.foldl
        (fun h s => h.modifySubscription s fun sub => { sub with queued := false }) h
      (true, unqueued.modifyService k fun v => { v with isOpen := false, queue := [] })

/-- The subscriptions in the live set of a service. -/
def liveSubscriptions (h : Hub R C) (k : ServiceRef) : List SubscriptionRef :=
  match h.service? k with
  | none => []
  | some v => v.live.map Prod.snd

/-- Closes a service and cancels every subscription that is still live. A second time does
nothing. -/
def close (h : Hub R C) (k : ServiceRef) : Outcome R C Unit :=
  match h.shut k with
  | (false, _) => { value := (), hub := h }
  | (true, shut) =>
    let live := shut.liveSubscriptions k
    let cancelled := shut.cancelAll live
    { value := (), hub := cancelled.hub, log := cancelled.log ++ [.closed live.length] }

end Hub

end PathWatch
