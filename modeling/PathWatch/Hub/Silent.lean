import PathWatch.Hub.Notification
/-!
# Silent services

A service that never signals anything stands in where changes cannot be detected. Its subscriptions
can be posted to and signaled like others, but nothing is ever retrieved from it.
-/

namespace PathWatch

namespace Hub

variable {R C : Type}

/-! ## Making a silent service -/

/-- Makes a silent service. -/
def addSilent (h : Hub R C) : Outcome R C SilentRef where
  value := h.silent.size
  hub := { h with silent := h.silent.push {} }

/-- The registered subscriptions that have not been cancelled. -/
def stillValid (h : Hub R C) (registered : List SubscriptionRef) : List SubscriptionRef :=
  registered.filter fun s =>
    match h.subscription? s with
    | none => false
    | some sub => sub.isValid

/-- Strikes the cancelled subscriptions from the list of a silent service. -/
def prune (h : Hub R C) (k : SilentRef) : Hub R C :=
  h.modifySilent k fun v => { v with registered := h.stillValid v.registered }

/-! ## Calls -/

/-- Whether the silent service is open. -/
def isOpenSilent (h : Hub R C) (k : SilentRef) : Bool :=
  match h.silent[k]? with
  | none => false
  | some v => v.isOpen

/-- The number of registered subscriptions that have not been cancelled. The others are struck from
the list. -/
def liveCountSilent (h : Hub R C) (k : SilentRef) : Outcome R C Nat :=
  let pruned := h.prune k
  { value := (pruned.silent[k]?.map fun v => v.registered.length).getD 0, hub := pruned }

/-- Makes a subscription of a silent service. It has no queue to go to. -/
def registerSilent (h : Hub R C) (k : SilentRef) (resource : R) (kinds : List EventKind) :
    Outcome R C (Except WatchError SubscriptionRef) :=
  if kinds.isEmpty then { value := .error .emptyInterestSet, hub := h }
  else
    match h.silent[k]? with
    | none => { value := .error .closed, hub := h }
    | some v =>
      if !v.isOpen then { value := .error .closed, hub := h }
      else
        let s := h.subscriptions.size
        let sub : Subscription R C :=
          { id := ⟨v.nextId⟩, resource, interest := kinds.eraseDups, config := .standard
            owner := none }
        let pruned := h.prune k
        let hub := { pruned with subscriptions := pruned.subscriptions.push sub }
        { value := .ok s
          hub := hub.modifySilent k fun v =>
            { v with nextId := v.nextId + 1, registered := v.registered ++ [s] } }

/-- Finds nothing, or fails once the silent service is closed. -/
def pollSilent (h : Hub R C) (k : SilentRef) :
    Outcome R C (Except WatchError (Option SubscriptionRef)) :=
  { value := if h.isOpenSilent k then .ok none else .error .closed, hub := h }

/-- Closes a silent service and cancels everything on its list. A second time does nothing. -/
def closeSilent (h : Hub R C) (k : SilentRef) : Outcome R C Unit :=
  match h.silent[k]? with
  | none => { value := (), hub := h }
  | some v =>
    if !v.isOpen then { value := (), hub := h }
    else
      let shut := h.modifySilent k fun v => { v with isOpen := false, registered := [] }
      let cancelled := shut.cancelAll v.registered
      { value := ()
        hub := cancelled.hub
        log := cancelled.log ++ [.closedSilent v.registered.length] }

end Hub

/-! ## Services of either kind -/

/-- A service of either kind, as its consumers see it. -/
inductive AnyService where
  | notification (k : ServiceRef)
  | silent (k : SilentRef)
  deriving DecidableEq, Repr

namespace AnyService

variable {R C : Type}

/-- Makes a subscription. -/
def register (v : AnyService) (h : Hub R C) (resource : R) (kinds : List EventKind) :
    Outcome R C (Except WatchError SubscriptionRef) :=
  match v with
  | .notification k => h.register k resource kinds
  | .silent k => h.registerSilent k resource kinds

/-- Takes a subscription that has been signaled, if there is one. -/
def poll (v : AnyService) (h : Hub R C) :
    Outcome R C (Except WatchError (Option SubscriptionRef)) :=
  match v with
  | .notification k => h.poll k
  | .silent k => h.pollSilent k

/-- Takes a subscription that has been signaled, waiting for one. -/
def take (v : AnyService) (h : Hub R C) :
    Outcome R C (Waiting (Except WatchError SubscriptionRef)) :=
  match v with
  | .notification k => h.take k
  | .silent k =>
    { value := if h.isOpenSilent k then .waits else .returns (.error .closed), hub := h }

/-- Takes a subscription that has been signaled, waiting for one until the time is up. -/
def pollTimeout (v : AnyService) (h : Hub R C) (endless : Bool) :
    Outcome R C (Waiting (Except WatchError (Option SubscriptionRef))) :=
  match v with
  | .notification k => h.pollTimeout k endless
  | .silent k =>
    { value :=
        if !h.isOpenSilent k then .returns (.error .closed)
        else if endless then .waits else .returns (.ok none)
      hub := h }

/-- Closes the service. -/
def close (v : AnyService) (h : Hub R C) : Outcome R C Unit :=
  match v with
  | .notification k => h.close k
  | .silent k => h.closeSilent k

/-- Whether the service is open. -/
def isOpen (v : AnyService) (h : Hub R C) : Bool :=
  match v with
  | .notification k => h.isOpen k
  | .silent k => h.isOpenSilent k

/-- The number of subscriptions that have not been cancelled. -/
def liveCount (v : AnyService) (h : Hub R C) : Outcome R C Nat :=
  match v with
  | .notification k => { value := h.liveCount k, hub := h }
  | .silent k => h.liveCountSilent k

/-- The number of subscriptions that wait for a consumer. -/
def signaledCount (v : AnyService) (h : Hub R C) : Nat :=
  match v with
  | .notification k => h.signaledCount k
  | .silent _ => 0

end AnyService

end PathWatch
