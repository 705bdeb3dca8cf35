import Mathlib
import PathWatch.Proofs.Run.Lasting
/-!
# Who did what

A chronicle is a run in which every action has the name of the thread that did it. It tells which
thread has been given a subscription and has not reset it since.
-/

namespace PathWatch

/-- Names a thread. -/
abbrev Thread := Nat

/-- What a thread did. -/
structure Deed (R C : Type) where
  thread : Thread
  action : Action R C

/-- The deeds of a run, the last one first. -/
abbrev Chronicle (R C : Type) := List (Deed R C)

namespace Chronicle

variable {R C : Type}

/-- The run without the names. -/
def past (d : Chronicle R C) : History R C :=
  d.map Deed.action

@[simp] theorem past_nil : past ([] : Chronicle R C) = [] := rfl

@[simp] theorem past_cons (x : Deed R C) (d : Chronicle R C) :
    past (x :: d) = x.action :: past d := rfl

variable [BEq C]

/-- The hub at the end of a run. -/
def hub (d : Chronicle R C) : Hub R C :=
  d.past.hub

theorem hub_cons (x : Deed R C) (d : Chronicle R C) : hub (x :: d) = x.action.apply (hub d) := rfl

/-! ## Holding -/

/-- A thread holds a subscription from the moment a retrieval gives it to that thread until that
thread resets it. -/
def Holds (t : Thread) (s : SubscriptionRef) : Chronicle R C → Prop
  | [] => False
  | x :: d =>
    (x.thread = t ∧ ∃ k, x.action.retrieves (hub d) k = some s) ∨
      (¬ (x.thread = t ∧ x.action = .reset s) ∧ Holds t s d)

/-- Every thread resets only what it holds. -/
def Careful : Chronicle R C → Prop
  | [] => True
  | x :: d => (∀ s, x.action = .reset s → Holds x.thread s d) ∧ Careful d

/-- The subscriptions that the service has handed out, with the threads that were given them, the
first one first. -/
def received (k : ServiceRef) : Chronicle R C → List (Thread × SubscriptionRef)
  | [] => []
  | x :: d => received k d ++ ((x.action.retrieves (hub d) k).map (x.thread, ·)).toList

end Chronicle

end PathWatch
