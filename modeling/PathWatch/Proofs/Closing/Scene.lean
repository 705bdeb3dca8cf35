import Mathlib
import PathWatch.Proofs.Closing.LiveSet
/-!
# Scenes

Cancelling and closing let go of their locks on the way, so that others can act in between. A scene
is a run together with the calls that are not over: what they have yet to do. A step is what one of
the threads does under the locks it holds.
-/

namespace PathWatch

variable {R C : Type}

/-! ## Calls on their way -/

/-- Whether an action is a whole call that holds its locks from the beginning to the end. -/
def Action.brief : Action R C → Bool
  | .cancel _ | .deregister _ _ | .close _ | .closeSilent _ => false
  | .markCancelled _ | .forget _ | .shut _ => false
  | _ => true

/-- A call that closes the service `k`. -/
inductive Closing where
  /-- The service is shut, and its live set has yet to be looked at. -/
  | shut (k : ServiceRef)
  /-- These subscriptions have yet to be cancelled. -/
  | cancelling (k : ServiceRef) (rest : List SubscriptionRef)
  /-- The subscription `s` is cancelled and has yet to be struck from the live set, before the rest
  is cancelled. -/
  | striking (k : ServiceRef) (s : SubscriptionRef) (rest : List SubscriptionRef)
  deriving DecidableEq, Repr

/-- The service that is closed by a call. -/
def Closing.service : Closing → ServiceRef
  | .shut k | .cancelling k _ | .striking k _ _ => k

/-- A run, and the calls that are not over. -/
structure Scene (R C : Type) where
  past : History R C := []
  /-- What somebody has cancelled or deregistered who has yet to strike it from the live set. -/
  cancels : List SubscriptionRef := []
  /-- The calls that have shut a service. -/
  closes : List Closing := []

variable [BEq C]

/-! ## Steps -/

/-- How a call that closes a service goes on: by which actions, and to what it has yet to do. -/
inductive Closing.Move (h : Hub R C) : Closing → List (Action R C) → List Closing → Prop where
  /-- The live set is looked at, in whatever order it is gone through. -/
  | snapshot (k : ServiceRef) (found : List SubscriptionRef)
      (hfound : found.Perm (h.liveSubscriptions k)) :
      Move h (.shut k) [] [.cancelling k found]
  | mark (k : ServiceRef) (s : SubscriptionRef) (rest : List SubscriptionRef)
      (hs : (h.markCancelled s).1 = true) :
      Move h (.cancelling k (s :: rest)) [.markCancelled s] [.striking k s rest]
  | skip (k : ServiceRef) (s : SubscriptionRef) (rest : List SubscriptionRef)
      (hs : (h.markCancelled s).1 = false) :
      Move h (.cancelling k (s :: rest)) [] [.cancelling k rest]
  | strike (k : ServiceRef) (s : SubscriptionRef) (rest : List SubscriptionRef) :
      Move h (.striking k s rest) [.forget s] [.cancelling k rest]
  | finish (k : ServiceRef) : Move h (.cancelling k []) [] []

namespace Scene

/-- What one thread does under the locks it holds. A cancellation, a deregistration or a closing
that finds nothing to do leaves everything as it is, and is no step. -/
inductive Step : Scene R C → Scene R C → Prop where
  | brief {σ : Scene R C} (a : Action R C) (ha : a.brief = true) :
      Step σ { σ with past := a :: σ.past }
  | mark {σ : Scene R C} (s : SubscriptionRef) (hs : (σ.past.hub.markCancelled s).1 = true) :
      Step σ { σ with past := .markCancelled s :: σ.past, cancels := s :: σ.cancels }
  | strike {σ : Scene R C} (s : SubscriptionRef) (l r : List SubscriptionRef)
      (hs : σ.cancels = l ++ s :: r) :
      Step σ { σ with past := .forget s :: σ.past, cancels := l ++ r }
  | shut {σ : Scene R C} (k : ServiceRef) (hk : (σ.past.hub.shut k).1 = true) :
      Step σ { σ with past := .shut k :: σ.past, closes := .shut k :: σ.closes }
  | move {σ : Scene R C} (l r : List Closing) (c : Closing) (acts : List (Action R C))
      (c' : List Closing) (hc : σ.closes = l ++ c :: r) (hmove : c.Move σ.past.hub acts c') :
      Step σ { σ with past := acts ++ σ.past, closes := l ++ c' ++ r }

/-- What can be reached by any number of threads. -/
inductive Reachable : Scene R C → Prop where
  | start : Reachable {}
  | step {σ τ : Scene R C} (hσ : Reachable σ) (hstep : Step σ τ) : Reachable τ

/-! ## Calls that nobody interrupts -/

open Relation

/-- A cancellation that nobody interrupts is the whole call. -/
theorem cancel_alone (σ : Scene R C) (s : SubscriptionRef) :
    ∃ τ, ReflTransGen Step σ τ ∧ τ.past.hub = (σ.past.hub.cancel s).hub ∧
      τ.cancels = σ.cancels ∧ τ.closes = σ.closes := by
  rw [Hub.cancel_hub]
  by_cases hs : (σ.past.hub.markCancelled s).1 = true
  · have hmark : Step σ _ := .mark s hs
    have hstrike : Step { σ with
          past := .markCancelled s :: σ.past, cancels := s :: σ.cancels } _ :=
      .strike s [] σ.cancels rfl
    refine ⟨_, .tail (.single hmark) hstrike, ?_, rfl, rfl⟩
    rw [if_pos hs]
    rfl
  · exact ⟨σ, .refl, by rw [if_neg hs], rfl, rfl⟩

/-- The rest of a closing that nobody interrupts cancels one subscription after another. -/
theorem cancelAll_alone (l : List SubscriptionRef) {σ : Scene R C} {k : ServiceRef}
    {r : List Closing} (hc : σ.closes = .cancelling k l :: r) :
    ∃ τ, ReflTransGen Step σ τ ∧ τ.past.hub = (σ.past.hub.cancelAll l).hub ∧
      τ.cancels = σ.cancels ∧ τ.closes = r := by
  induction l generalizing σ with
  | nil => exact ⟨_, .single (.move [] r _ [] [] hc (.finish k)), rfl, rfl, rfl⟩
  | cons s rest ih =>
    have hhub : (σ.past.hub.cancelAll (s :: rest)).hub =
        (((σ.past.hub.cancel s).hub).cancelAll rest).hub := rfl
    rw [hhub, Hub.cancel_hub]
    rcases hs : (σ.past.hub.markCancelled s).1 with _ | _
    · have hskip : Step σ _ := .move [] r _ _ _ hc (.skip k s rest hs)
      obtain ⟨τ, hsteps, hτ⟩ := @ih { σ with closes := .cancelling k rest :: r } rfl
      exact ⟨τ, .head hskip hsteps, hτ⟩
    · have hmark : Step σ _ := .move [] r _ _ _ hc (.mark k s rest hs)
      have hstrike : Step { σ with
          past := .markCancelled s :: σ.past, closes := .striking k s rest :: r } _ :=
        .move [] r _ _ _ rfl (.strike k s rest)
      obtain ⟨τ, hsteps, hτ⟩ := @ih { σ with
        past := .forget s :: .markCancelled s :: σ.past, closes := .cancelling k rest :: r } rfl
      exact ⟨τ, .head hmark (.head hstrike hsteps), hτ⟩

/-- A closing that nobody interrupts is the whole call. -/
theorem close_alone (σ : Scene R C) (k : ServiceRef) :
    ∃ τ, ReflTransGen Step σ τ ∧ τ.past.hub = (σ.past.hub.close k).hub ∧
      τ.cancels = σ.cancels ∧ τ.closes = σ.closes := by
  rw [Hub.close_hub]
  by_cases hopen : σ.past.hub.isOpen k = true
  · rw [if_pos hopen]
    have hshut : Step σ _ := .shut k ((Hub.shut_fst σ.past.hub k).trans hopen)
    have hsnapshot : Step { σ with past := .shut k :: σ.past, closes := .shut k :: σ.closes } _ :=
      .move [] σ.closes _ _ _ rfl (.snapshot k _ (.refl _))
    obtain ⟨τ, hsteps, hτ⟩ := @cancelAll_alone _ _ _
      ((σ.past.hub.shut k).2.liveSubscriptions k)
      { σ with
        past := .shut k :: σ.past
        closes := .cancelling k ((σ.past.hub.shut k).2.liveSubscriptions k) :: σ.closes }
      k σ.closes rfl
    exact ⟨τ, .head hshut (.head hsnapshot hsteps), hτ⟩
  · exact ⟨σ, .refl, by rw [if_neg hopen], rfl, rfl⟩

end Scene

end PathWatch
