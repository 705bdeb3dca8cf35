import PathWatch.Hub.Basic
/-!
# What happens to a subscription

Producers post events and signal; consumers drain and reset. A signal puts a ready subscription into
the queue of its service, a reset makes it ready again or, when events have come in meanwhile, puts
it back into the queue. A subscription without a service, or whose service is gone, has no queue to
go to and counts as queued.
-/

namespace PathWatch

namespace Hub

variable {R C : Type}

/-! ## The queue of the owner -/

/-- Puts a subscription at the end of the queue of its owner, unless it is there already. The answer
is false once the owner is closed. -/
def enqueue (h : Hub R C) (s : SubscriptionRef) : Bool × Hub R C :=
  match h.subscription? s with
  | none => (true, h)
  | some sub =>
    match sub.owner with
    | none => (true, h)
    | some k =>
      match h.service? k with
      | none => (true, h)
      | some service =>
        if !service.isOpen then (false, h)
        else if sub.queued then (true, h)
        else
          let lengthened := h.modifyService k fun v => { v with queue := v.queue ++ [s] }
          (true, lengthened.modifySubscription s fun sub => { sub with queued := true })

/-- Strikes a subscription from the live set of its owner. -/
def forget (h : Hub R C) (s : SubscriptionRef) : Hub R C :=
  match h.subscription? s with
  | none => h
  | some sub =>
    match sub.owner with
    | none => h
    | some k =>
      h.modifyService k fun v => { v with live := v.live.filter fun entry => entry.1 ≠ sub.id }

/-! ## Producers -/

/-- Posts an event, whatever the subscription is interested in. -/
def post [BEq C] (h : Hub R C) (s : SubscriptionRef) (e : ChangeEvent C) : Outcome R C Unit :=
  match h.subscription? s with
  | none => { value := (), hub := h }
  | some sub =>
    if sub.state = .cancelled then
      { value := (), hub := h, log := [.dropped e.kind sub.id] }
    else
      { value := ()
        hub := h.modifySubscription s fun sub => sub.post e
        log :=
          if sub.buffer.placement sub.config e = .overflowed then
            [.overflowed sub.id sub.config.capacity]
          else [] }

/-- Posts an event if its kind is of interest, and says whether it is. -/
def offer [BEq C] (h : Hub R C) (s : SubscriptionRef) (e : ChangeEvent C) : Outcome R C Bool :=
  match h.subscription? s with
  | none => { value := false, hub := h }
  | some sub =>
    if sub.isInterested e.kind then
      let posted := h.post s e
      { value := true, hub := posted.hub, log := posted.log }
    else { value := false, hub := h }

/-- Marks a ready subscription as having events and puts it into the queue. -/
def signal (h : Hub R C) (s : SubscriptionRef) : Outcome R C Unit :=
  match h.subscription? s with
  | none => { value := (), hub := h }
  | some sub =>
    if sub.state = .ready then
      let signaled := h.modifySubscription s fun sub => { sub with state := .signaled }
      { value := (), hub := (signaled.enqueue s).2, log := [.signaled sub.id] }
    else { value := (), hub := h }

/-! ## Consumers -/

/-- Takes everything out of the buffer. -/
def drain (h : Hub R C) (s : SubscriptionRef) : Outcome R C (Buffer C) :=
  match h.subscription? s with
  | none => { value := [], hub := h }
  | some sub =>
    { value := sub.buffer
      hub := h.modifySubscription s fun sub => { sub with buffer := [] }
      log := if sub.buffer.isEmpty then [] else [.drained sub.buffer.length sub.id] }

/-- Makes a signaled subscription ready again, or puts it back into the queue when its buffer is not
empty. The answer is false when the subscription is cancelled or finds its service closed on the way
into the queue. -/
def reset (h : Hub R C) (s : SubscriptionRef) : Outcome R C Bool :=
  match h.subscription? s with
  | none => { value := false, hub := h }
  | some sub =>
    match sub.state with
    | .cancelled => { value := false, hub := h }
    | .ready => { value := true, hub := h }
    | .signaled =>
      if sub.buffer.isEmpty then
        { value := true, hub := h.modifySubscription s fun sub => { sub with state := .ready } }
      else
        let queued := h.enqueue s
        { value := queued.1, hub := queued.2, log := [.requeued sub.id sub.buffer.length] }

/-! ## Cancellation -/

/-- Makes a subscription cancelled, and says whether it was not so before. -/
def markCancelled (h : Hub R C) (s : SubscriptionRef) : Bool × Hub R C :=
  match h.subscription? s with
  | none => (false, h)
  | some sub =>
    if sub.state = .cancelled then (false, h)
    else (true, h.modifySubscription s fun sub => { sub with state := .cancelled })

/-- Cancels a subscription for good. Its buffer can still be drained, and its place in a queue is
kept. -/
def cancel (h : Hub R C) (s : SubscriptionRef) : Outcome R C Unit :=
  match h.subscription? s with
  | none => { value := (), hub := h }
  | some sub =>
    match h.markCancelled s with
    | (false, _) => { value := (), hub := h }
    | (true, marked) => { value := (), hub := marked.forget s, log := [.cancelled sub.id] }

/-- Cancels several subscriptions, one after another. -/
def cancelAll (h : Hub R C) : List SubscriptionRef → Outcome R C Unit
  | [] => { value := (), hub := h }
  | s :: rest =>
    let first := h.cancel s
    let others := first.hub.cancelAll rest
    { value := (), hub := others.hub, log := first.log ++ others.log }

end Hub

end PathWatch
