import Mathlib
import PathWatch.Proofs.Live.Pruned
/-!
# Calls that fail

A call that fails, or that finds nothing left to do, leaves the whole hub as it found it. Whether a
subscription can be deregistered with a service is a matter of who made it: each service numbers its
subscriptions for itself, and an equal number does not make one another service's.
-/

namespace PathWatch

variable {R C : Type}

/-! ## Services that refuse -/

/-- A service that is asked for nothing, or asked for something when it is closed, or closed again,
answers so and does nothing else. -/
structure AnyService.RefusesQuietly (v : AnyService) (h : Hub R C) : Prop where
  register_nothing : ∀ resource,
    v.register h resource [] = { value := .error .emptyInterestSet, hub := h }
  register : v.isOpen h = false → ∀ resource kinds, kinds ≠ [] →
    v.register h resource kinds = { value := .error .closed, hub := h }
  poll : v.isOpen h = false → v.poll h = { value := .error .closed, hub := h }
  pollTimeout : v.isOpen h = false → ∀ endless,
    v.pollTimeout h endless = { value := .returns (.error .closed), hub := h }
  take : v.isOpen h = false → v.take h = { value := .returns (.error .closed), hub := h }
  close : v.isOpen h = false → v.close h = { value := (), hub := h }

namespace Hub

variable {h : Hub R C} {k : ServiceRef}

/-- A closed service refuses a poll before it looks at its queue. -/
theorem poll_of_closed (hclosed : h.isOpen k = false) :
    h.poll k = { value := .error .closed, hub := h } := by
  unfold isOpen at hclosed
  unfold poll
  split
  · rfl
  · simp_all

/-- A second close does nothing. -/
theorem close_of_closed (hclosed : h.isOpen k = false) :
    h.close k = { value := (), hub := h } := by
  have hshut := (h.shut_fst k).trans hclosed
  unfold close
  split
  · rfl
  · simp_all

theorem closeSilent_of_closed {j : SilentRef} (hclosed : h.isOpenSilent j = false) :
    h.closeSilent j = { value := (), hub := h } := by
  unfold isOpenSilent at hclosed
  unfold closeSilent
  split
  · rfl
  · simp_all

end Hub

theorem AnyService.refusesQuietly (v : AnyService) (h : Hub R C) : v.RefusesQuietly h := by
  cases v with
  | notification k =>
    constructor
    case register_nothing => exact fun resource => rfl
    case register =>
      exact fun hclosed resource kinds hkinds => Hub.register_of_closed hclosed resource hkinds
    case poll => exact fun hclosed => Hub.poll_of_closed hclosed
    case pollTimeout =>
      intro hclosed endless
      simp only [AnyService.pollTimeout, Hub.pollTimeout, Hub.poll_of_closed hclosed]
    case take =>
      intro hclosed
      simp only [AnyService.take, Hub.take, Hub.poll_of_closed hclosed]
    case close => exact fun hclosed => Hub.close_of_closed hclosed
  | silent j =>
    constructor
    case register_nothing => exact fun resource => rfl
    case register =>
      exact fun hclosed resource kinds hkinds =>
        Hub.registerSilent_of_closed hclosed resource hkinds
    case poll =>
      intro hclosed
      have hshut : h.isOpenSilent j = false := hclosed
      simp only [AnyService.poll, Hub.pollSilent, hshut, Bool.false_eq_true, if_false]
    case pollTimeout =>
      intro hclosed endless
      have hshut : h.isOpenSilent j = false := hclosed
      simp only [AnyService.pollTimeout, hshut, Bool.not_false, if_true]
    case take =>
      intro hclosed
      have hshut : h.isOpenSilent j = false := hclosed
      simp only [AnyService.take, hshut, Bool.false_eq_true, if_false]
    case close => exact fun hclosed => Hub.closeSilent_of_closed hclosed

/-! ## Resets that fail -/

namespace Hub

/-- What does not get into a queue leaves the queue. -/
theorem enqueue_of_false {h : Hub R C} {s : SubscriptionRef} (hfalse : (h.enqueue s).1 = false) :
    (h.enqueue s).2 = h := by
  unfold enqueue at hfalse ⊢
  rcases hs : h.subscription? s with _ | sub
  · rfl
  rcases howner : sub.owner with _ | k
  · simp only [howner]
  rcases hv : h.service? k with _ | v
  · simp only [howner, hv]
  · simp only [hs, howner, hv] at hfalse ⊢
    split_ifs at hfalse ⊢
    · rfl

/-- A reset that answers false has found nothing to change. -/
theorem reset_of_false {h : Hub R C} {s : SubscriptionRef} (hfalse : (h.reset s).value = false) :
    (h.reset s).hub = h := by
  unfold reset at hfalse ⊢
  rcases hs : h.subscription? s with _ | sub
  · rfl
  simp only [hs] at hfalse ⊢
  cases hstate : sub.state with
  | cancelled => rfl
  | ready => rfl
  | signaled =>
    simp only [hstate] at hfalse
    dsimp only
    split_ifs at hfalse ⊢
    exact enqueue_of_false hfalse

/-! ## Who made a subscription -/

/-- To deregister is to cancel, after the owner has been compared. -/
theorem deregister_eq {h : Hub R C} {s : SubscriptionRef} {sub : Subscription R C}
    (hs : h.subscription? s = some sub) (k : ServiceRef) :
    h.deregister k s =
      if sub.owner = some k then
        { value := .ok (), hub := (h.cancel s).hub, log := (h.cancel s).log }
      else { value := .error (.foreignSubscription sub.id), hub := h } := by
  simp only [deregister, owns, hs, decide_eq_true_eq]

/-- A second cancellation does nothing. -/
theorem cancel_of_cancelled {h : Hub R C} {s : SubscriptionRef} {sub : Subscription R C}
    (hs : h.subscription? s = some sub) (hstate : sub.state = .cancelled) :
    h.cancel s = { value := (), hub := h } := by
  simp [cancel, markCancelled, hs, hstate]

end Hub

namespace History

variable [BEq C]

/-- A subscription that a silent service has made has no owner. -/
theorem owner_of_mem_registeredSilent (past : History R C) {j : SilentRef} {s : SubscriptionRef}
    (hs : s ∈ past.registeredSilent j) :
    ∃ sub, past.hub.subscription? s = some sub ∧ sub.owner = none := by
  induction past with
  | nil => simp [registeredSilent] at hs
  | cons a past ih =>
    rw [registeredSilent, List.mem_append, Option.mem_toList] at hs
    rcases hs with hbefore | hr
    · obtain ⟨sub, hsub, howner⟩ := ih hbefore
      obtain ⟨sub', hsub', hc⟩ := subscription?_apply hsub a
      exact ⟨sub', hsub', hc.owner_eq.trans howner⟩
    · obtain ⟨w, sub, -, -, hsub, -, howner⟩ := subscription?_of_registersSilent hr
      exact ⟨sub, hsub, howner⟩

/-- What comes of deregistering a subscription, by who made it. -/
structure SettlesOwnership (past : History R C) (k : ServiceRef) (s : SubscriptionRef)
    (sub : Subscription R C) : Prop where
  foreign_iff : (past.hub.deregister k s).value = .error (.foreignSubscription sub.id) ↔
    s ∉ past.registered k
  foreign : s ∉ past.registered k →
    past.hub.deregister k s = { value := .error (.foreignSubscription sub.id), hub := past.hub }
  /-- Another service made it, which may be gone. -/
  foreign_of_other : ∀ k', k' ≠ k → s ∈ past.registered k' → s ∉ past.registered k
  foreign_of_silent : ∀ j, s ∈ past.registeredSilent j → s ∉ past.registered k
  own : s ∈ past.registered k →
    past.hub.deregister k s =
      { value := .ok (), hub := (past.hub.cancel s).hub, log := (past.hub.cancel s).log }
  own_of_cancelled : s ∈ past.registered k → sub.state = .cancelled →
    past.hub.deregister k s = { value := .ok (), hub := past.hub }

theorem settlesOwnership (past : History R C) (k : ServiceRef) {s : SubscriptionRef}
    {sub : Subscription R C} (hs : past.hub.subscription? s = some sub) :
    past.SettlesOwnership k s sub := by
  have hown : ∀ k, s ∈ past.registered k ↔ sub.owner = some k := by
    intro k
    simp [past.mem_registered_iff k s, hs]
  have hcall := Hub.deregister_eq hs k
  constructor
  case foreign_iff =>
    rw [hcall, hown]
    split_ifs with howner <;> simp [howner]
  case foreign =>
    intro hforeign
    rw [hcall, if_neg (mt (hown k).mpr hforeign)]
  case foreign_of_other =>
    intro k' hne hmem hmine
    exact hne (Option.some.inj (((hown k').mp hmem).symm.trans ((hown k).mp hmine)))
  case foreign_of_silent =>
    intro j hmem hmine
    obtain ⟨sub', hs', howner⟩ := past.owner_of_mem_registeredSilent hmem
    obtain rfl : sub = sub' := Option.some.inj (hs.symm.trans hs')
    simp [(hown k).mp hmine] at howner
  case own =>
    intro hmem
    rw [hcall, if_pos ((hown k).mp hmem)]
  case own_of_cancelled =>
    intro hmem hstate
    rw [hcall, if_pos ((hown k).mp hmem), Hub.cancel_of_cancelled hs hstate]

/-- Failing calls change nothing: registering for nothing or with a closed service, retrieving from
one, closing it again, resetting in vain, and deregistering what another service has made. A service
deregisters what it has made, by cancelling it. -/
theorem failed_calls_change_nothing (past : History R C) :
    (∀ v : AnyService, v.RefusesQuietly past.hub) ∧
      (∀ s, (past.hub.reset s).value = false → (past.hub.reset s).hub = past.hub) ∧
      ∀ k s sub, past.hub.subscription? s = some sub → past.SettlesOwnership k s sub := by
  refine ⟨fun v => v.refusesQuietly past.hub, fun s => Hub.reset_of_false, ?_⟩
  exact fun k s sub hs => past.settlesOwnership k hs

/-- Three subscriptions have the number one: one of an open service, one of a service that is gone,
and one of a closed silent service. -/
theorem failed_calls_change_nothing_of_equal_numbers :
    let past : History Nat Nat :=
      [.closeSilent 0, .release 1, .registerSilent 0 30 [.modify], .register 1 20 [.modify],
        .register 0 10 [.modify], .addSilent, .withConfig .standard, .withConfig .standard]
    (∀ s ∈ [0, 1, 2], (past.hub.subscription? s).map (fun sub => sub.id) = some ⟨1⟩) ∧
      past.hub.deregister 0 1 =
        { value := .error (.foreignSubscription ⟨1⟩), hub := past.hub } ∧
      past.hub.deregister 0 2 =
        { value := .error (.foreignSubscription ⟨1⟩), hub := past.hub } ∧
      past.hub.deregister 0 0 =
        { value := .ok (), hub := (past.hub.cancel 0).hub, log := (past.hub.cancel 0).log } ∧
      (past.hub.reset 2).hub = past.hub ∧
      (AnyService.silent 0).poll past.hub = { value := .error .closed, hub := past.hub } := by
  intro past
  obtain ⟨hservices, hreset, howner⟩ := failed_calls_change_nothing past
  refine ⟨by decide, ?_, ?_, ?_, hreset 2 (by decide), (hservices (.silent 0)).poll (by decide)⟩
  · have hs : past.hub.subscription? 1 = some _ := rfl
    exact (howner 0 1 _ hs).foreign (by decide)
  · have hs : past.hub.subscription? 2 = some _ := rfl
    exact (howner 0 2 _ hs).foreign (by decide)
  · have hs : past.hub.subscription? 0 = some _ := rfl
    exact (howner 0 0 _ hs).own (by decide)

end History

end PathWatch
