import Mathlib
import PathWatch.Proofs.Run.ServiceChange
/-!
# What lasts throughout a run

Places are never given up, a subscription keeps what it was made with, and a service that is not
open any more does not open again. So the subscriptions of a service are those it has registered.
-/

namespace PathWatch

variable {R C : Type} [BEq C]

/-! ## Subscriptions -/

namespace SubscriptionChange

variable {h : Hub R C} {a : Action R C} {s : SubscriptionRef} {sub sub' : Subscription R C}

/-- No change touches what a subscription was made with. -/
theorem made_eq (hc : SubscriptionChange h a s sub sub') :
    sub'.owner = sub.owner ∧ sub'.config = sub.config ∧ sub'.id = sub.id := by
  cases hc with
  | posted e hposts => exact ⟨sub.post_owner e, sub.post_config e, sub.post_id e⟩
  | _ => exact ⟨rfl, rfl, rfl⟩

theorem owner_eq (hc : SubscriptionChange h a s sub sub') : sub'.owner = sub.owner := hc.made_eq.1

theorem config_eq (hc : SubscriptionChange h a s sub sub') : sub'.config = sub.config :=
  hc.made_eq.2.1

theorem id_eq (hc : SubscriptionChange h a s sub sub') : sub'.id = sub.id := hc.made_eq.2.2

/-- What is cancelled stays so. -/
theorem state_eq_cancelled (hc : SubscriptionChange h a s sub sub')
    (hstate : sub.state = .cancelled) : sub'.state = .cancelled := by
  cases hc with
  | posted e hposts => rw [sub.post_state, hstate]
  | signaled ha hready => simp [hready] at hstate
  | readied ha hsignaled hbuffer => simp [hsignaled] at hstate
  | cancelled ha queued hqueued => rfl
  | _ => exact hstate

/-- Only a cancellation cancels. -/
theorem state_of_cancelled (hc : SubscriptionChange h a s sub sub') (ha : a.cancels = false)
    (hstate : sub'.state = .cancelled) : sub.state = .cancelled := by
  cases hc with
  | posted e hposts => exact (sub.post_state e).symm.trans hstate
  | signaled hsignal hready => simp at hstate
  | readied hreset hsignaled hbuffer => simp at hstate
  | cancelled hcancels queued hqueued => simp [ha] at hcancels
  | _ => exact hstate

/-- No change flags a subscription whose owner is not open. -/
theorem queued_eq_false (hc : SubscriptionChange h a s sub sub') (hqueued : sub.queued = false)
    (hclosed : h.ownerIsOpen sub = false) : sub'.queued = false := by
  cases hc with
  | posted e hposts => rw [sub.post_queued, hqueued]
  | signaled ha hstate => simp [hqueued, hclosed]
  | requeued ha hstate hbuffer => simp [hqueued, hclosed]
  | cancelled ha queued hsame => rcases hsame with rfl | rfl <;> first | exact hqueued | rfl
  | retrieved k hretrieves => rfl
  | flushed k ha hopen hqueue => rfl
  | _ => exact hqueued

end SubscriptionChange

/-- A subscription that is there after an action was there before and has been changed, or the
action has made it. -/
theorem subscription?_of_apply {h : Hub R C} {a : Action R C} {s : SubscriptionRef}
    {sub' : Subscription R C} (hs : (a.apply h).subscription? s = some sub') :
    (∃ sub, h.subscription? s = some sub ∧ SubscriptionChange h a s sub sub') ∨
      (h.subscription? s = none ∧ Fresh h a s sub') := by
  rcases hbefore : h.subscription? s with _ | sub
  · exact Or.inr ⟨rfl, fresh_of_apply hbefore hs⟩
  · obtain ⟨sub'', hs'', hc⟩ := subscription?_apply hbefore a
    obtain rfl : sub'' = sub' := Option.some.inj (hs''.symm.trans hs)
    exact Or.inl ⟨sub, rfl, hc⟩

/-- A subscription that is not there after an action was not there before. -/
theorem subscription?_eq_none_of_apply {h : Hub R C} {a : Action R C} {s : SubscriptionRef}
    (hs : (a.apply h).subscription? s = none) : h.subscription? s = none := by
  by_contra hthere
  obtain ⟨sub, hsub⟩ := Option.ne_none_iff_exists'.mp hthere
  obtain ⟨sub', hsub', -⟩ := subscription?_apply hsub a
  exact absurd (hs.symm.trans hsub') (by simp)

/-- What an action hands out as a new subscription of a service is one. -/
theorem subscription?_of_registers {h : Hub R C} {a : Action R C} {k : ServiceRef}
    {s : SubscriptionRef} (hr : a.registers h k = some s) :
    ∃ sub, (a.apply h).subscription? s = some sub ∧ sub.owner = some k := by
  cases a with
  | register k' resource kinds =>
    rw [Action.apply]
    rcases Hub.register_cases h k' resource kinds with ⟨e, hcall⟩ | ⟨v, -, -, hcall⟩
    · simp [Action.registers, hcall] at hr
    · obtain ⟨rfl, rfl⟩ : k' = k ∧ h.subscriptions.size = s := by
        simpa [Action.registers, hcall] using hr
      rw [hcall, Hub.subscription?_modifyService, Hub.subscription?_push, if_pos rfl]
      exact ⟨_, rfl, rfl⟩
  | _ => simp [Action.registers] at hr

/-! ## Services -/

/-- The number of places for services never shrinks. -/
theorem size_services_le_apply (h : Hub R C) (a : Action R C) :
    h.services.size ≤ (a.apply h).services.size := by
  cases a with
  | withConfig config =>
    rw [Action.apply]
    rcases Hub.withConfig_cases h config with ⟨e, hw⟩ | ⟨-, hw⟩ <;> simp [hw, Hub.addService]
  | retain k => simp [Action.apply, Hub.retain]
  | release k =>
    simp only [Action.apply, Hub.release]
    repeat' split
    all_goals simp
  | register k resource kinds =>
    rw [Action.apply]
    rcases Hub.register_cases h k resource kinds with ⟨e, hr⟩ | ⟨v, -, -, hr⟩ <;> simp [hr]
  | post s e => simp [Action.apply, Hub.services_post]
  | offer s e => simp [Action.apply, Hub.services_offer]
  | signal s => simp [Action.apply, Hub.size_services_signal]
  | drain s => simp [Action.apply, Hub.services_drain]
  | reset s => simp [Action.apply, Hub.size_services_reset]
  | poll k => simp [Action.apply, Hub.size_services_poll]
  | pollTimeout k endless => simp [Action.apply, Hub.pollTimeout_hub, Hub.size_services_poll]
  | take k => simp [Action.apply, Hub.take_hub, Hub.size_services_poll]
  | cancel s => simp [Action.apply, Hub.size_services_cancel]
  | deregister k s =>
    simp only [Action.apply, Hub.deregister]
    repeat' split
    all_goals simp [Hub.size_services_cancel]
  | close k => simp [Action.apply, Hub.size_services_close]
  | markCancelled s => simp [Action.apply, Hub.services_markCancelled]
  | forget s => simp [Action.apply, Hub.size_services_forget]
  | shut k => simp [Action.apply, Hub.size_services_shut]
  | addSilent => simp [Action.apply, Hub.addSilent]
  | registerSilent k resource kinds =>
    rw [Action.apply]
    rcases Hub.registerSilent_cases h k resource kinds with
      hr | ⟨made, v, f, g, -, -, -, -, -, hr⟩ <;> simp [hr]
  | liveCountSilent k => simp [Action.apply, Hub.liveCountSilent, Hub.prune]
  | closeSilent k =>
    rw [Action.apply]
    rcases Hub.closeSilent_cases h k with hc | ⟨f, l, hc⟩ <;>
      simp [hc, Hub.size_services_cancelAll]

omit [BEq C] in
/-- No change opens a service. -/
theorem ServiceChange.isOpen_of_isOpen {h : Hub R C} {a : Action R C} {k : ServiceRef}
    {v v' : NotificationService} (hc : ServiceChange h a k v v') (hopen : v'.isOpen = true) :
    v.isOpen = true := by
  cases hc with
  | closed live ha hlive hwas => exact hwas
  | _ => exact hopen

/-- A service that was there once and is not open does not open again. -/
theorem isOpen_apply_eq_false {h : Hub R C} {k : ServiceRef} (hk : k < h.services.size)
    (hclosed : h.isOpen k = false) (a : Action R C) : (a.apply h).isOpen k = false := by
  by_contra hopen
  obtain ⟨v', hv', hopen'⟩ := Hub.service?_of_isOpen (by simpa using hopen)
  rcases service?_apply hv' with ⟨v, hv, hc⟩ | ⟨hnew, -⟩
  · rw [Hub.isOpen_of_service? hv, hc.isOpen_of_isOpen hopen'] at hclosed
    simp at hclosed
  · exact absurd hnew (Nat.ne_of_lt hk)

/-! ## Runs -/

namespace History

theorem size_services_le (past later : History R C) :
    past.hub.services.size ≤ (hub (later ++ past)).services.size := by
  induction later with
  | nil => exact Nat.le_refl _
  | cons a later ih => exact ih.trans (size_services_le_apply _ a)

/-- A service that is not open does not open again, whatever is done later. -/
theorem isOpen_append (past : History R C) {k : ServiceRef} (hk : k < past.hub.services.size)
    (hclosed : past.hub.isOpen k = false) (later : History R C) :
    (hub (later ++ past)).isOpen k = false := by
  induction later with
  | nil => exact hclosed
  | cons a later ih =>
    exact isOpen_apply_eq_false (hk.trans_le (size_services_le past later)) ih a

/-- The subscriptions of a service are those it has registered. -/
theorem mem_registered_iff (past : History R C) (k : ServiceRef) (s : SubscriptionRef) :
    s ∈ past.registered k ↔ ∃ sub, past.hub.subscription? s = some sub ∧ sub.owner = some k := by
  induction past with
  | nil => simp [registered, hub]
  | cons a past ih =>
    rw [registered, List.mem_append, ih, Option.mem_toList]
    constructor
    · rintro (⟨sub, hs, howner⟩ | hr)
      · obtain ⟨sub', hs', hc⟩ := subscription?_apply hs a
        exact ⟨sub', hs', hc.owner_eq.trans howner⟩
      · exact subscription?_of_registers hr
    · rintro ⟨sub', hs', howner⟩
      rcases subscription?_of_apply hs' with ⟨sub, hs, hc⟩ | ⟨-, hfresh⟩
      · exact Or.inl ⟨sub, hs, hc.owner_eq.symm.trans howner⟩
      · exact Or.inr (hfresh.registers_of_owner k howner).1

end History

end PathWatch
