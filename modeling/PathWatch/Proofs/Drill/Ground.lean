import Mathlib
import PathWatch.Proofs.Drill.Field
import PathWatch.Proofs.Queue.Delivery
/-!
# What a drill stands on

Nothing in a drill cancels or closes. So its service stays open throughout, and all subscriptions
are its own and valid; what holds of any run with an open service holds of it.
-/

namespace PathWatch

namespace Drill

variable {R C : Type}

/-! ## The actions of a drill -/

/-- What the threads of a drill do with the first service and its subscriptions. -/
def Peaceful : Action R C → Prop
  | .register k _ kinds => k = 0 ∧ kinds = watchedKinds
  | .offer _ e => e.val.count = 1 ∧ e.val.kind ∈ watchedKinds
  | .take k | .pollTimeout k _ => k = 0
  | .signal _ | .drain _ | .reset _ => True
  | _ => False

/-- A run in which a service is made, and then used peacefully. -/
inductive Orderly (config : WatchConfig) : History R C → Prop where
  | start (hconfig : config.validate = .ok ()) : Orderly config [.withConfig config]
  | step {past : History R C} {a : Action R C} (ha : Peaceful a) (hpast : Orderly config past) :
      Orderly config (a :: past)

variable [BEq C]

/-- A hub whose first service is open and has made all subscriptions, none of them cancelled. -/
structure Grounded (config : WatchConfig) (h : Hub R C) : Prop where
  isOpen : h.isOpen 0 = true
  service_config : ∀ v, h.service? 0 = some v → v.config = config
  owner_eq : ∀ {s sub}, h.subscription? s = some sub → sub.owner = some 0
  config_eq : ∀ {s sub}, h.subscription? s = some sub → sub.config = config
  state_ne : ∀ {s sub}, h.subscription? s = some sub → sub.state ≠ .cancelled

/-! ## One action -/

namespace Peaceful

variable {a : Action R C} {h : Hub R C}

/-- Peaceful actions close nothing. -/
theorem isOpen_apply (ha : Peaceful a) (h : Hub R C) : (a.apply h).isOpen 0 = h.isOpen 0 := by
  cases a with
  | register k resource kinds => exact Hub.isOpen_register h k 0 resource kinds
  | offer s e => exact Hub.isOpen_congr (Hub.services_offer h s e.val) 0
  | signal s => exact Hub.isOpen_signal h s 0
  | drain s => exact Hub.isOpen_congr (Hub.services_drain h s) 0
  | reset s => exact Hub.isOpen_reset h s 0
  | pollTimeout k endless =>
    rw [Action.apply, Hub.pollTimeout_hub]
    exact Hub.isOpen_poll h k 0
  | take k =>
    rw [Action.apply, Hub.take_hub]
    exact Hub.isOpen_poll h k 0
  | _ => exact ha.elim

omit [BEq C] in
theorem cancels_eq (ha : Peaceful a) : a.cancels = false := by
  cases a <;> first | rfl | exact ha.elim

/-- What a peaceful action makes belongs to the first service. -/
theorem owner_of_fresh (ha : Peaceful a) {s : SubscriptionRef} {sub : Subscription R C}
    (hnone : h.subscription? s = none) (hs : (a.apply h).subscription? s = some sub) :
    sub.owner = some 0 := by
  cases a with
  | register k resource kinds =>
    obtain rfl : k = 0 := ha.1
    rw [Action.apply] at hs
    rcases Hub.register_cases h 0 resource kinds with ⟨e, hr⟩ | ⟨v, -, -, hr⟩
    · rw [hr, hnone] at hs
      simp at hs
    · rw [hr, Hub.subscription?_modifyService, Hub.subscription?_push, hnone] at hs
      split at hs
      · rw [← Option.some.inj hs]
      · simp at hs
  | offer s' e => simp [Action.apply, Hub.subscription?_offer, hnone] at hs
  | signal s' => simp [Action.apply, Hub.subscription?_signal, hnone] at hs
  | drain s' => simp [Action.apply, Hub.subscription?_drain, hnone] at hs
  | reset s' => simp [Action.apply, Hub.subscription?_reset, hnone] at hs
  | pollTimeout k endless =>
    simp [Action.apply, Hub.pollTimeout_hub, Hub.subscription?_poll, hnone] at hs
  | take k => simp [Action.apply, Hub.take_hub, Hub.subscription?_poll, hnone] at hs
  | _ => exact ha.elim

end Peaceful

namespace Grounded

variable {config : WatchConfig} {h : Hub R C} {a : Action R C}

/-- Peaceful actions keep the ground. -/
theorem apply (hh : Grounded config h) (ha : Peaceful a) : Grounded config (a.apply h) := by
  have hservice : ∀ v, (a.apply h).service? 0 = some v → v.config = config := by
    intro v hv
    rcases service?_apply hv with ⟨w, hw, hc⟩ | ⟨-, config', rfl, -⟩
    · have hsame : v.config = w.config := by cases hc <;> rfl
      exact hsame.trans (hh.service_config w hw)
    · exact ha.elim
  refine ⟨(ha.isOpen_apply h).trans hh.isOpen, hservice, fun hs => ?_, fun hs => ?_, fun hs => ?_⟩
  · rcases subscription?_of_apply hs with ⟨before, hbefore, hc⟩ | ⟨hnone, -⟩
    · exact hc.owner_eq.trans (hh.owner_eq hbefore)
    · exact ha.owner_of_fresh hnone hs
  · rcases subscription?_of_apply hs with ⟨before, hbefore, hc⟩ | ⟨hnone, hfresh⟩
    · exact hc.config_eq.trans (hh.config_eq hbefore)
    · obtain ⟨v, hv, -⟩ := Hub.service?_of_isOpen hh.isOpen
      rw [hfresh.config_eq 0 v (ha.owner_of_fresh hnone hs) hv, hh.service_config v hv]
  · intro hstate
    rcases subscription?_of_apply hs with ⟨before, hbefore, hc⟩ | ⟨-, hfresh⟩
    · exact hh.state_ne hbefore (hc.state_of_cancelled ha.cancels_eq hstate)
    · simp [hfresh.state_eq] at hstate

end Grounded

/-! ## Runs -/

/-- A drill stands on its ground throughout. -/
theorem Orderly.grounded {config : WatchConfig} {past : History R C} (hpast : Orderly config past) :
    Grounded config past.hub := by
  induction hpast with
  | start hconfig =>
    have hmade : History.hub [(.withConfig config : Action R C)] =
        { services := #[some { config }] } := by
      simp [History.hub, Action.apply, Hub.withConfig, hconfig, Hub.addService]
    rw [hmade]
    refine ⟨rfl, fun v hv => ?_, ?_, ?_, ?_⟩
    · rw [← Option.some.inj hv]
    all_goals
      intro s sub hs
      simp [Hub.subscription?] at hs
  | step ha _ ih => exact ih.apply ha

namespace Field

variable {config : WatchConfig} {σ τ : Field R C}

/-- Every step of a drill is peaceful. -/
theorem Step.orderly (hstep : Step σ τ) (hσ : Orderly config σ.past) : Orderly config τ.past := by
  cases hstep with
  | watch resource hsettling => exact .step ⟨rfl, rfl⟩ hσ
  | start s todo hsettling => exact hσ
  | offer l r s c todo n hproducers => exact .step ⟨c.count_eq, c.kind_mem⟩ hσ
  | signal l r s todo n hproducers => exact .step trivial hσ
  | take s htake => exact .step rfl hσ
  | drain l r w s hduties => exact .step trivial hσ
  | reset l r w s hduties => exact .step trivial hσ
  | help posted s hsettling hpoll => exact .step rfl hσ
  | wait posted hsettling hpoll => exact .step rfl hσ
  | _ => exact hσ

theorem Reachable.orderly (hσ : Reachable config σ) : Orderly config σ.past := by
  induction hσ with
  | start hconfig => exact .start hconfig
  | step _ hstep ih => exact hstep.orderly ih

end Field

end Drill

end PathWatch
