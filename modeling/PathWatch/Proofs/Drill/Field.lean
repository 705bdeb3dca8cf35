import Mathlib
import PathWatch.Drill.Run
import PathWatch.Proofs.Run.History
/-!
# Drills with many threads

A drill as it goes on when its threads run in any order. One thread watches directories, starts the
producers and, when all of them have finished, helps until everything is counted; producers offer
changes and signal; consumers take subscriptions, drain them, count and reset them. What a thread
does between two locks is a step of its own, and so is each look at a counter.
-/

namespace PathWatch

namespace Drill

variable {R C : Type}

/-! ## Threads -/

/-- An event as a producer makes it: one change of a kind that is watched. -/
structure Change (C : Type) where
  event : Event C
  count_eq : event.val.count = 1
  kind_mem : event.val.kind ∈ watchedKinds

/-- A producer. -/
structure Producer (C : Type) where
  subscription : SubscriptionRef
  /-- The changes it has yet to offer. -/
  todo : List (Change C)
  /-- The number of its events that were accepted. -/
  posted : Nat := 0
  /-- Whether it has yet to signal the last one. -/
  owes : Bool := false

/-- Whether a producer has finished. -/
def Producer.Finished (p : Producer C) : Prop :=
  p.todo = [] ∧ p.owes = false

/-- Who drains. -/
inductive Worker where
  | consumer
  | main
  deriving DecidableEq, Repr

/-- What a worker is busy with between being given a subscription and having reset it. -/
structure Duty (C : Type) where
  worker : Worker
  subscription : SubscriptionRef
  /-- The drained events that have yet to be counted, once there are any. -/
  drained : Option (Buffer C) := none

/-- Where the main thread is. -/
inductive Settling where
  /-- It starts producers, or waits for them to finish. -/
  | starting
  /-- It is about to look at the counters. -/
  | looks (posted : Nat)
  /-- It has looked at the first counter. -/
  | looked (posted delivered : Nat)
  /-- Not everything was counted; it is about to look at the clock and to poll. -/
  | polls (posted : Nat)
  /-- It drains. -/
  | helps (posted : Nat)
  /-- It has settled, and all was counted or not. -/
  | settled (posted : Nat) (all : Bool)
  deriving DecidableEq, Repr

/-- Who has drained goes on: a consumer takes again, and the main thread looks at the counters. -/
def Settling.resume (settling : Settling) (worker : Worker) : Settling :=
  match worker, settling with
  | .main, .helps posted => .looks posted
  | _, _ => settling

/-- The number that the main thread waits for, once it knows it. -/
def Settling.posted? : Settling → Option Nat
  | .starting => none
  | .looks posted | .looked posted _ | .polls posted | .helps posted | .settled posted _ =>
    some posted

/-- Who goes on is where it was, or looks at the counters after it has helped. -/
theorem Settling.resume_cases (settling : Settling) (worker : Worker) :
    settling.resume worker = settling ∨
      ∃ posted, settling = .helps posted ∧ settling.resume worker = .looks posted := by
  cases worker <;> cases settling <;> simp [resume]

/-! ## The field -/

/-- A drill that is going on. -/
structure Field (R C : Type) where
  past : History R C
  producers : List (Producer C) := []
  duties : List (Duty C) := []
  totals : Totals := {}
  settling : Settling := .starting

namespace Field

/-- The number of events that the producers report as accepted. -/
def posted (σ : Field R C) : Nat :=
  (σ.producers.map Producer.posted).sum

variable [BEq C]

/-- The hub. -/
def hub (σ : Field R C) : Hub R C :=
  σ.past.hub

/-- What can happen in a drill. The service is the first one. -/
inductive Step : Field R C → Field R C → Prop where
  /-- The main thread watches a directory. -/
  | watch {σ : Field R C} (resource : R) (hsettling : σ.settling = .starting) :
      Step σ { σ with past := .register 0 resource watchedKinds :: σ.past }
  /-- The main thread starts a producer. -/
  | start {σ : Field R C} (s : SubscriptionRef) (todo : List (Change C))
      (hsettling : σ.settling = .starting) :
      Step σ { σ with producers := ⟨s, todo, 0, false⟩ :: σ.producers }
  /-- A producer offers a change, and notes whether it was accepted. -/
  | offer {σ : Field R C} (l r : List (Producer C)) (s : SubscriptionRef) (c : Change C)
      (todo : List (Change C)) (n : Nat)
      (hproducers : σ.producers = l ++ ⟨s, c :: todo, n, false⟩ :: r) :
      Step σ
        { σ with
          past := .offer s c.event :: σ.past
          producers :=
            l ++ ⟨s, todo, n + (σ.hub.offer s c.event.val).value.toNat,
              (σ.hub.offer s c.event.val).value⟩ :: r }
  /-- A producer signals. -/
  | signal {σ : Field R C} (l r : List (Producer C)) (s : SubscriptionRef)
      (todo : List (Change C)) (n : Nat)
      (hproducers : σ.producers = l ++ ⟨s, todo, n, true⟩ :: r) :
      Step σ
        { σ with
          past := .signal s :: σ.past
          producers := l ++ ⟨s, todo, n, false⟩ :: r }
  /-- A consumer is given a subscription. -/
  | take {σ : Field R C} (s : SubscriptionRef)
      (htake : (σ.hub.take 0).value = .returns (.ok s)) :
      Step σ { σ with past := .take 0 :: σ.past, duties := ⟨.consumer, s, none⟩ :: σ.duties }
  /-- A worker drains the subscription. -/
  | drain {σ : Field R C} (l r : List (Duty C)) (w : Worker) (s : SubscriptionRef)
      (hduties : σ.duties = l ++ ⟨w, s, none⟩ :: r) :
      Step σ
        { σ with
          past := .drain s :: σ.past
          duties := l ++ ⟨w, s, some (σ.hub.drain s).value⟩ :: r }
  /-- A worker counts an event. -/
  | count {σ : Field R C} (l r : List (Duty C)) (w : Worker) (s : SubscriptionRef)
      (e : ChangeEvent C) (rest : Buffer C)
      (hduties : σ.duties = l ++ ⟨w, s, some (e :: rest)⟩ :: r) :
      Step σ
        { σ with
          totals := σ.totals.count e
          duties := l ++ ⟨w, s, some rest⟩ :: r }
  /-- A worker resets the subscription, and is done with it. -/
  | reset {σ : Field R C} (l r : List (Duty C)) (w : Worker) (s : SubscriptionRef)
      (hduties : σ.duties = l ++ ⟨w, s, some []⟩ :: r) :
      Step σ
        { σ with
          past := .reset s :: σ.past
          duties := l ++ r
          settling := σ.settling.resume w }
  /-- All producers have finished. -/
  | settle {σ : Field R C} (hsettling : σ.settling = .starting)
      (hfinished : ∀ p ∈ σ.producers, p.Finished) :
      Step σ { σ with settling := .looks σ.posted }
  | look {σ : Field R C} (posted : Nat) (hsettling : σ.settling = .looks posted) :
      Step σ { σ with settling := .looked posted σ.totals.delivered }
  /-- The main thread looks at the second counter, and has settled or not. -/
  | judge {σ : Field R C} (posted delivered : Nat)
      (hsettling : σ.settling = .looked posted delivered) :
      Step σ
        { σ with
          settling :=
            if delivered + σ.totals.overflowed < posted then .polls posted
            else .settled posted true }
  /-- The time is up. -/
  | giveUp {σ : Field R C} (posted : Nat) (hsettling : σ.settling = .polls posted) :
      Step σ { σ with settling := .settled posted false }
  /-- The main thread is given a subscription. -/
  | help {σ : Field R C} (posted : Nat) (s : SubscriptionRef)
      (hsettling : σ.settling = .polls posted)
      (hpoll : (σ.hub.pollTimeout 0 false).value = .returns (.ok (some s))) :
      Step σ
        { σ with
          past := .pollTimeout 0 false :: σ.past
          duties := ⟨.main, s, none⟩ :: σ.duties
          settling := .helps posted }
  /-- The main thread has waited in vain. -/
  | wait {σ : Field R C} (posted : Nat) (hsettling : σ.settling = .polls posted)
      (hpoll : (σ.hub.pollTimeout 0 false).value = .returns (.ok none)) :
      Step σ { σ with past := .pollTimeout 0 false :: σ.past, settling := .looks posted }

/-- What can be reached from a service that has just been made. -/
inductive Reachable (config : WatchConfig) : Field R C → Prop where
  | start (hconfig : config.validate = .ok ()) :
      Reachable config { past := [.withConfig config] }
  | step {σ τ : Field R C} (hσ : Reachable config σ) (hstep : Step σ τ) : Reachable config τ

end Field

end Drill

end PathWatch
