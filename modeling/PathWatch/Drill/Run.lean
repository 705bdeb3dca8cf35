import PathWatch.Event.Describe
import PathWatch.Hub.Notification
import PathWatch.Matcher.Registry
/-!
# Drills

A drill puts a notification service to the test. Producers make up changes of the files in a few
directories and post those whose paths match; then all that was posted is drained and counted, and
the service is closed. Producers and consumers take turns here, one after the other; the numbers of
posted and counted occurrences are the same in whatever order they do.
-/

namespace PathWatch

/-! ## Totals -/

/-- The occurrences counted so far. -/
structure Totals where
  delivered : Nat := 0
  overflowed : Nat := 0
  deriving DecidableEq, Repr

namespace Totals

variable {C : Type}

/-- The totals with an event counted in. -/
def count (t : Totals) (e : ChangeEvent C) : Totals :=
  if e.isOverflow then { t with overflowed := t.overflowed + e.count }
  else { t with delivered := t.delivered + e.count }

/-- The totals with several events counted in. -/
def countAll (t : Totals) (events : List (ChangeEvent C)) : Totals :=
  events.foldl count t

/-- All occurrences. -/
def seen (t : Totals) : Nat :=
  t.delivered + t.overflowed

theorem seen_count (t : Totals) (e : ChangeEvent C) : (t.count e).seen = t.seen + e.count := by
  unfold count seen
  split <;> simp <;> omega

end Totals

namespace Drill

/-! ## What is posted -/

/-- The directories whose files change. -/
def directories : List String :=
  ["/export/home", "/export/logs", "/export/tmp"]

/-- The number of files in a directory. -/
def filesPerDirectory : Nat := 200

/-- The kinds of changes that a drill watches. -/
def watchedKinds : List EventKind := [.create, .modify, .delete]

/-- The path of a file of a directory. Texts and logs take turns. -/
def filePath (directory : String) (i : Nat) : String :=
  directory ++ "/file" ++ toString i ++ (if i % 2 = 0 then ".txt" else ".log")

/-- What happens to a file. The kinds take turns. -/
def fileKind (i : Nat) : EventKind :=
  match i % 3 with
  | 0 => .create
  | 1 => .modify
  | _ => .delete

/-! ## What is reported -/

/-- A line of the report on a drill. -/
inductive Line where
  /-- Something happened to a service or a subscription. -/
  | service (record : Record)
  | started (filter : String)
  /-- A consumer drained an event. -/
  | consumed (worker directory : String) (kind : EventKind) (count : Nat)
  /-- A consumer found its subscription cancelled. -/
  | lost (worker directory : String)
  | gaveUp (seen posted : Nat)
  | finished (posted : Nat) (totals : Totals)
  deriving DecidableEq, Repr

/-- The level of a line. -/
def Line.level : Line → Level
  | .service record => record.level
  | .consumed .. | .lost .. => .debug
  | .gaveUp .. => .warn
  | _ => .info

/-- The wording of a line. -/
def Line.message : Line → String
  | .service record => record.message
  | .started filter => "fsbase watch harness starting: filter=" ++ filter
  | .consumed worker directory kind count =>
    "Consumer " ++ worker ++ ": " ++ directory ++ " " ++ kind.name ++ " x" ++ toString count
  | .lost worker directory => "Consumer " ++ worker ++ ": " ++ directory ++ " is no longer valid"
  | .gaveUp seen posted =>
    "Gave up waiting for consumers: " ++ toString seen ++ " of " ++ toString posted ++
      " events counted"
  | .finished posted totals =>
    "Posted " ++ toString posted ++ " events: delivered " ++ toString totals.delivered ++
      ", collapsed into overflow " ++ toString totals.overflowed

/-! ## The drill -/

/-- A drill that is going on. -/
structure Stage where
  hub : Hub String String := {}
  /-- The number of events that were accepted. -/
  posted : Nat := 0
  totals : Totals := {}
  report : List Line := []

namespace Stage

/-- The stage after a call of the hub. -/
def after {α : Type} (d : Stage) (o : Outcome String String α) : Stage :=
  { d with hub := o.hub, report := d.report ++ o.log.map .service }

/-- The stage with one more line in its report. -/
def tell (d : Stage) (line : Line) : Stage :=
  { d with report := d.report ++ [line] }

/-- Posts the change of a file if its path matches and its kind is of interest. -/
def change (matcher : PathMatcher) (directory : String) (s : SubscriptionRef) (d : Stage)
    (i : Nat) : Stage :=
  let path := filePath directory i
  if matcher path then
    let offered := d.hub.offer s (.once (fileKind i) path)
    let d := d.after offered
    if offered.value then { d.after (d.hub.signal s) with posted := d.posted + 1 } else d
  else d

/-- Watches a directory and posts the changes of its files. -/
def produce (matcher : PathMatcher) (k : ServiceRef) (d : Stage) (directory : String) : Stage :=
  let registered := d.hub.register k directory watchedKinds
  let d := d.after registered
  match registered.value with
  | .error _ => d
  | .ok s => (List.range filesPerDirectory).foldl (change matcher directory s) d

/-- Counts what a subscription has buffered and makes it ready again. -/
def consume (worker : String) (s : SubscriptionRef) (d : Stage) : Stage :=
  let directory := ((d.hub.subscription? s).map Subscription.resource).getD ""
  let drained := d.hub.drain s
  let d := d.after drained
  let lines := drained.value.map fun e => Line.consumed worker directory e.kind e.count
  let d := { d with totals := d.totals.countAll drained.value, report := d.report ++ lines }
  let reset := d.hub.reset s
  if reset.value then d.after reset else (d.after reset).tell (.lost worker directory)

/-- Consumes signaled subscriptions until as many occurrences were counted as events were posted, or
none is signaled. Every turn counts one occurrence or more, so that the number of posted events
bounds the turns. -/
def settle (k : ServiceRef) : Nat → Stage → Stage
  | 0, d => d
  | fuel + 1, d =>
    if d.posted ≤ d.totals.seen then d
    else
      let polled := d.hub.poll k
      match polled.value with
      | .ok (some s) => settle k fuel ((d.after polled).consume "main" s)
      | _ => d.after polled

/-- Says so if not everything that was posted has been counted. -/
def judge (d : Stage) : Stage :=
  if d.totals.seen < d.posted then d.tell (.gaveUp d.totals.seen d.posted) else d

end Stage

/-- Runs a drill with a matcher; `filter` is how the report names it. -/
def run (config : WatchConfig) (filter : String) (matcher : PathMatcher) :
    Except WatchConfig.Invalid Stage :=
  let d := ({} : Stage).tell (.started filter)
  match d.hub.withConfig config with
  | .error e => .error e
  | .ok made =>
    let k := made.value
    let d := directories.foldl (Stage.produce matcher k) (d.after made)
    let d := (d.settle k d.posted).judge
    let d := d.after (d.hub.close k)
    .ok (d.tell (.finished d.posted d.totals))

end Drill

end PathWatch
