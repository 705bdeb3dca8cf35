import Mathlib
import PathWatch.Proofs.Run.SubscriptionChange
/-!
# What an action can do to a service

An action changes a service that is there afterwards in one of a few ways, or it has made it. What
holds of services throughout a run is derived from this.
-/

namespace PathWatch

variable {R C : Type}

/-- Whether an action takes entries out of live sets. -/
def Action.strikes : Action R C → Bool
  | .cancel _ | .deregister _ _ | .forget _ | .close _ | .closeSilent _ => true
  | _ => false

/-- What an action that finds the hub `h` can make of the service `k`. -/
inductive ServiceChange (h : Hub R C) (a : Action R C) (k : ServiceRef)
    (v : NotificationService) : NotificationService → Prop where
  | kept (handles : Nat) (hretrieves : a.retrieves h k = none)
      (hregisters : a.registers h k = none) :
      ServiceChange h a k v { v with handles }
  | registered (hopen : v.isOpen = true)
      (hregisters : a.registers h k = some h.subscriptions.size)
      (hretrieves : a.retrieves h k = none) :
      ServiceChange h a k v
        { v with
          nextId := v.nextId + 1
          live := v.live.filter (fun entry => entry.1 ≠ ⟨v.nextId⟩) ++
            [(⟨v.nextId⟩, h.subscriptions.size)] }
  | appended (s : SubscriptionRef) (ha : a = .signal s ∨ a = .reset s) (hopen : v.isOpen = true)
      (sub : Subscription R C) (hs : h.subscription? s = some sub) (howner : sub.owner = some k)
      (hqueued : sub.queued = false) :
      ServiceChange h a k v { v with queue := v.queue ++ [s] }
  | retrieved (s : SubscriptionRef) (rest : List SubscriptionRef) (hopen : v.isOpen = true)
      (hqueue : v.queue = s :: rest) (hretrieves : a.retrieves h k = some s) :
      ServiceChange h a k v { v with queue := rest }
  | struck (live : List (SubscriptionId × SubscriptionRef)) (ha : a.strikes = true) :
      ServiceChange h a k v { v with live }
  | closed (live : List (SubscriptionId × SubscriptionRef)) (ha : a = .shut k ∨ a = .close k)
      (hlive : a = .shut k → live = v.live) (hopen : v.isOpen = true) :
      ServiceChange h a k v { v with isOpen := false, queue := [], live }

namespace ServiceChange

variable {h : Hub R C} {a : Action R C} {k : ServiceRef} {v v' : NotificationService}

/-- Who neither retrieves nor registers keeps a service. -/
theorem of_same (hk : h.service? k = some v') (hretrieves : a.retrieves h k = none)
    (hregisters : a.registers h k = none) :
    ∃ v, h.service? k = some v ∧ ServiceChange h a k v v' :=
  ⟨v', hk, .kept v'.handles hretrieves hregisters⟩

theorem of_mayAppend {s : SubscriptionRef} (happend : h.MayAppend s k (some v'))
    (ha : a = .signal s ∨ a = .reset s) :
    ∃ v, h.service? k = some v ∧ ServiceChange h a k v v' := by
  have hquiet : a.retrieves h k = none ∧ a.registers h k = none := by
    rcases ha with rfl | rfl <;> exact ⟨rfl, rfl⟩
  rcases happend with hsame | ⟨sub, v, hs, howner, hqueued, hk, hopen, hafter⟩
  · exact of_same hsame.symm hquiet.1 hquiet.2
  · obtain rfl := Option.some.inj hafter
    exact ⟨v, hk, .appended s ha hopen sub hs howner hqueued⟩

theorem of_poll {k' : ServiceRef} (hk : (h.poll k').hub.service? k = some v')
    (hretrieves : a.retrieves h k = (Action.poll k' : Action R C).retrieves h k)
    (hregisters : a.registers h k = none) :
    ∃ v, h.service? k = some v ∧ ServiceChange h a k v v' := by
  rw [Hub.service?_poll] at hk
  obtain ⟨v, hv, rfl⟩ := Option.map_eq_some_iff.mp hk
  refine ⟨v, hv, ?_⟩
  rw [Action.retrieves_poll] at hretrieves
  by_cases hkk : k' = k
  · subst hkk
    rw [Hub.isOpen_of_service? hv, Hub.queue_of_service? hv] at hretrieves
    by_cases hopen : v.isOpen = true
    · rw [if_pos rfl, if_pos hopen]
      rw [if_pos ⟨rfl, hopen⟩] at hretrieves
      rcases hqueue : v.queue with _ | ⟨s, rest⟩
      · rw [hqueue] at hretrieves
        have hsame : { v with queue := ([] : List SubscriptionRef).tail } = v := by
          rw [List.tail_nil, ← hqueue]
        rw [hsame]
        exact .kept v.handles hretrieves hregisters
      · rw [hqueue] at hretrieves
        exact .retrieved s rest hopen hqueue hretrieves
    · rw [if_pos rfl, if_neg hopen]
      exact .kept v.handles (by rw [hretrieves, if_neg (by simp [hopen])]) hregisters
  · rw [if_neg hkk]
    exact .kept v.handles (by rw [hretrieves, if_neg (by simp [hkk])]) hregisters

theorem of_sameButLive (hlive : h.SameButLive k (some v')) (ha : a.strikes = true) :
    ∃ v, h.service? k = some v ∧ ServiceChange h a k v v' := by
  obtain ⟨f, hf⟩ := hlive
  obtain ⟨v, hv, rfl⟩ := Option.map_eq_some_iff.mp hf.symm
  exact ⟨v, hv, .struck (f v) ha⟩

end ServiceChange

variable [BEq C]

/-- A service that is there after an action was there before and was changed in one of the ways of
`ServiceChange`, or the action has made it. -/
theorem service?_apply {h : Hub R C} {a : Action R C} {k : ServiceRef} {v' : NotificationService}
    (hk : (a.apply h).service? k = some v') :
    (∃ v, h.service? k = some v ∧ ServiceChange h a k v v') ∨
      (k = h.services.size ∧ ∃ config, a = .withConfig config ∧ v' = { config }) := by
  -- Many calls leave the services as they are.
  have unnoticed : a.apply h = h ∨ (a.apply h).services = h.services → a.retrieves h k = none →
      a.registers h k = none → ∃ v, h.service? k = some v ∧ ServiceChange h a k v v' := by
    rintro (hsame | hsame) hretrieves hregisters
    · rw [hsame] at hk
      exact ServiceChange.of_same hk hretrieves hregisters
    · rw [Hub.service?_congr hsame] at hk
      exact ServiceChange.of_same hk hretrieves hregisters
  cases a with
  | withConfig config =>
    rw [Action.apply] at hk
    rcases Hub.withConfig_cases h config with ⟨e, hw⟩ | ⟨-, hw⟩
    · rw [hw] at hk
      exact Or.inl (ServiceChange.of_same hk rfl rfl)
    · rw [hw] at hk
      have hpush := (Hub.service?_push h { config } k).symm.trans hk
      by_cases hnew : k = h.services.size
      · rw [if_pos hnew] at hpush
        exact Or.inr ⟨hnew, config, rfl, (Option.some.inj hpush).symm⟩
      · rw [if_neg hnew] at hpush
        exact Or.inl (ServiceChange.of_same hpush rfl rfl)
  | retain k' =>
    left
    rw [Action.apply, Hub.retain, Hub.service?_modify_eq_map (fun _ _ => rfl)] at hk
    obtain ⟨v, hv, rfl⟩ := Option.map_eq_some_iff.mp hk
    refine ⟨v, hv, ?_⟩
    split
    · exact .kept _ rfl rfl
    · exact .kept v.handles rfl rfl
  | release k' =>
    left
    rw [Action.apply, Hub.service?_release] at hk
    obtain ⟨v, hv, hafter⟩ := Option.bind_eq_some_iff.mp hk
    refine ⟨v, hv, ?_⟩
    split at hafter
    · split at hafter
      · simp at hafter
      · rw [← Option.some.inj hafter]
        exact .kept _ rfl rfl
    · rw [← Option.some.inj hafter]
      exact .kept v.handles rfl rfl
  | register k' resource kinds =>
    left
    rw [Action.apply] at hk
    rcases Hub.register_cases h k' resource kinds with ⟨e, hr⟩ | ⟨v, hv, hopen, hr⟩
    · rw [hr] at hk
      exact ServiceChange.of_same hk rfl (by simp [Action.registers, hr])
    · rw [hr, Hub.service?_modifyService] at hk
      by_cases hkk : k' = k
      · subst hkk
        rw [if_pos rfl] at hk
        obtain ⟨w, hw, rfl⟩ := Option.map_eq_some_iff.mp hk
        obtain rfl : v = w := Option.some.inj (hv.symm.trans hw)
        exact ⟨v, hv, .registered hopen (by simp [Action.registers, hr]) rfl⟩
      · rw [if_neg hkk] at hk
        exact ServiceChange.of_same hk rfl (by simp [Action.registers, hkk])
  | post s e => exact Or.inl (unnoticed (Or.inr (Hub.services_post h s e)) rfl rfl)
  | offer s e => exact Or.inl (unnoticed (Or.inr (Hub.services_offer h s e)) rfl rfl)
  | signal s =>
    exact Or.inl (ServiceChange.of_mayAppend (hk ▸ Hub.service?_signal h s k) (Or.inl rfl))
  | drain s => exact Or.inl (unnoticed (Or.inr (Hub.services_drain h s)) rfl rfl)
  | reset s =>
    exact Or.inl (ServiceChange.of_mayAppend (hk ▸ Hub.service?_reset h s k) (Or.inr rfl))
  | poll k' => exact Or.inl (ServiceChange.of_poll hk rfl rfl)
  | pollTimeout k' endless =>
    rw [Action.apply, Hub.pollTimeout_hub] at hk
    exact Or.inl (ServiceChange.of_poll hk (Action.retrieves_pollTimeout h k' k endless) rfl)
  | take k' =>
    rw [Action.apply, Hub.take_hub] at hk
    exact Or.inl (ServiceChange.of_poll hk (Action.retrieves_take h k' k) rfl)
  | cancel s =>
    have hlive := (Hub.thinned_cancel h s k).sameButLive
    exact Or.inl (ServiceChange.of_sameButLive (hk ▸ hlive) rfl)
  | deregister k' s =>
    left
    rw [Action.apply, Hub.deregister] at hk
    split at hk
    · exact ServiceChange.of_same hk rfl rfl
    · split at hk
      · have hlive := (Hub.thinned_cancel h s k).sameButLive
        exact ServiceChange.of_sameButLive (hk ▸ hlive) rfl
      · exact ServiceChange.of_same hk rfl rfl
  | close k' =>
    left
    rw [Action.apply, Hub.close_hub] at hk
    split at hk
    · rename_i hopen
      obtain ⟨f, hf⟩ :=
        (Hub.thinned_cancelAll (h.shut k').2 ((h.shut k').2.liveSubscriptions k') k).sameButLive
      rw [hf, Hub.service?_shut, Option.map_map] at hk
      obtain ⟨v, hv, hafter⟩ := Option.map_eq_some_iff.mp hk
      refine ⟨v, hv, ?_⟩
      subst hafter
      by_cases hkk : k' = k
      · subst hkk
        rw [Hub.isOpen_of_service? hv] at hopen
        simp only [Function.comp_apply, hopen, if_true]
        exact .closed _ (Or.inr rfl) (by simp) hopen
      · simp only [Function.comp_apply, hkk, if_false]
        exact .struck _ rfl
    · exact ServiceChange.of_same hk rfl rfl
  | markCancelled s => exact Or.inl (unnoticed (Or.inr (Hub.services_markCancelled h s)) rfl rfl)
  | forget s =>
    have hlive := (Hub.thinned_forget h s k).sameButLive
    exact Or.inl (ServiceChange.of_sameButLive (hk ▸ hlive) rfl)
  | shut k' =>
    left
    rw [Action.apply, Hub.service?_shut] at hk
    obtain ⟨v, hv, rfl⟩ := Option.map_eq_some_iff.mp hk
    refine ⟨v, hv, ?_⟩
    by_cases hkk : k' = k
    · subst hkk
      rw [if_pos rfl]
      by_cases hopen : v.isOpen = true
      · rw [if_pos hopen]
        exact .closed v.live (Or.inl rfl) (fun _ => rfl) hopen
      · rw [if_neg hopen]
        exact .kept v.handles rfl rfl
    · rw [if_neg hkk]
      exact .kept v.handles rfl rfl
  | addSilent => exact Or.inl (unnoticed (Or.inr rfl) rfl rfl)
  | registerSilent k' resource kinds =>
    refine Or.inl (unnoticed ?_ rfl rfl)
    rw [Action.apply]
    rcases Hub.registerSilent_cases h k' resource kinds with
      hr | ⟨made, v, f, g, -, -, -, -, -, hr⟩
    · exact Or.inl hr
    · exact Or.inr (by rw [hr]; rfl)
  | liveCountSilent k' => exact Or.inl (unnoticed (Or.inr rfl) rfl rfl)
  | closeSilent k' =>
    left
    rw [Action.apply] at hk
    rcases Hub.closeSilent_cases h k' with hc | ⟨f, l, hc⟩
    · rw [hc] at hk
      exact ServiceChange.of_same hk rfl rfl
    · rw [hc] at hk
      have hlive := (Hub.thinned_cancelAll (h.modifySilent k' f) l k).sameButLive
      exact ServiceChange.of_sameButLive (hk ▸ hlive) rfl

end PathWatch
