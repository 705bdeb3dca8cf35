import PathWatch.Event.Describe
import PathWatch.Subscription
/-!
# Log records

What services and subscriptions report while they work. A record says what happened; its level and
its wording follow from that.
-/

namespace PathWatch

/-- How important a record is. -/
inductive Level where
  | trace
  | debug
  | info
  | warn
  | error
  deriving DecidableEq, Repr

/-- The name of a level. -/
def Level.name : Level → String
  | .trace => "TRACE"
  | .debug => "DEBUG"
  | .info => "INFO"
  | .warn => "WARN"
  | .error => "ERROR"

/-- Something that happened to a service or a subscription. -/
inductive Record where
  | initialized (config : WatchConfig)
  | registered (id : SubscriptionId)
  | signaled (id : SubscriptionId)
  | drained (count : Nat) (id : SubscriptionId)
  | requeued (id : SubscriptionId) (pending : Nat)
  | cancelled (id : SubscriptionId)
  | dropped (kind : EventKind) (id : SubscriptionId)
  | overflowed (id : SubscriptionId) (capacity : Nat)
  | closed (count : Nat)
  | closedSilent (count : Nat)
  deriving DecidableEq, Repr

/-- The level of a record. -/
def Record.level : Record → Level
  | .signaled .. | .drained .. | .dropped .. => .trace
  | .overflowed .. => .warn
  | _ => .debug

/-- The wording of a record. -/
def Record.message : Record → String
  | .initialized config =>
    "Initializing notification service: capacity=" ++ toString config.capacity ++
      ", coalesce_repeats=" ++ toString config.coalesceRepeats
  | .registered id => "Registered subscription " ++ id.text
  | .signaled id => "Signaled subscription " ++ id.text
  | .drained count id =>
    "Drained " ++ toString count ++ " events from subscription " ++ id.text
  | .requeued id pending =>
    "Re-queued subscription " ++ id.text ++ " on reset: " ++ toString pending ++ " events pending"
  | .cancelled id => "Cancelled subscription " ++ id.text
  | .dropped kind id =>
    "Dropped " ++ kind.name ++ " event for cancelled subscription " ++ id.text
  | .overflowed id capacity =>
    "Subscription " ++ id.text ++ " overflowed at " ++ toString capacity ++ " events"
  | .closed count =>
    "Closed notification service: cancelled " ++ toString count ++ " subscriptions"
  | .closedSilent count =>
    "Closed always-empty service: cancelled " ++ toString count ++ " subscriptions"

/-- Records in the order in which they were made. -/
abbrev Log := List Record

end PathWatch
