import Mathlib
import PathWatch.Hub.Silent
/-!
# The hub by its two views

A hub is looked at through `subscription?` and `service?`. What a change of one place does to both
views is said here; what calls do to them follows from that.
-/

namespace PathWatch

namespace Hub

variable {R C : Type}

/-! ## Changes of one place -/

/-- At the start there is no subscription. -/
@[simp] theorem subscription?_empty (s : SubscriptionRef) :
    ({} : Hub R C).subscription? s = none := by
  simp [subscription?]

/-- At the start there is no service. -/
@[simp] theorem service?_empty (k : ServiceRef) : ({} : Hub R C).service? k = none := by
  simp [service?]

/-- Changing a subscription shows at its own place only. -/
theorem subscription?_modifySubscription (h : Hub R C) (s s' : SubscriptionRef)
    (f : Subscription R C → Subscription R C) :
    (h.modifySubscription s f).subscription? s' =
      if s = s' then (h.subscription? s').map f else h.subscription? s' := by
  unfold subscription? modifySubscription
  exact Array.getElem?_modify

/-- What is done to a subscription matters at its record only. -/
theorem modifySubscription_congr {h : Hub R C} {s : SubscriptionRef}
    {f g : Subscription R C → Subscription R C}
    (hfg : ∀ sub, h.subscription? s = some sub → f sub = g sub) :
    h.modifySubscription s f = h.modifySubscription s g := by
  have hsame : h.subscriptions.modify s f = h.subscriptions.modify s g := by
    refine Array.ext_getElem? fun s' => ?_
    rw [Array.getElem?_modify, Array.getElem?_modify]
    split
    · rename_i hs
      exact Option.map_congr fun sub hsub => hfg sub (hs ▸ hsub)
    · rfl
  rw [modifySubscription, modifySubscription, hsame]

@[simp] theorem service?_modifySubscription (h : Hub R C) (s : SubscriptionRef)
    (f : Subscription R C → Subscription R C) (k : ServiceRef) :
    (h.modifySubscription s f).service? k = h.service? k := rfl

/-- Changing a service shows at its own place only. -/
theorem service?_modifyService (h : Hub R C) (k k' : ServiceRef)
    (f : NotificationService → NotificationService) :
    (h.modifyService k f).service? k' =
      if k = k' then (h.service? k').map f else h.service? k' := by
  unfold service? modifyService
  rw [Array.getElem?_modify]
  split
  · rcases h.services[k']? with _ | v
    · rfl
    · rcases v with _ | v <;> rfl
  · rfl

@[simp] theorem subscription?_modifyService (h : Hub R C) (k : ServiceRef)
    (f : NotificationService → NotificationService) (s : SubscriptionRef) :
    (h.modifyService k f).subscription? s = h.subscription? s := rfl

@[simp] theorem subscription?_modifySilent (h : Hub R C) (k : SilentRef)
    (f : SilentService → SilentService) (s : SubscriptionRef) :
    (h.modifySilent k f).subscription? s = h.subscription? s := rfl

@[simp] theorem service?_modifySilent (h : Hub R C) (k : SilentRef)
    (f : SilentService → SilentService) (k' : ServiceRef) :
    (h.modifySilent k f).service? k' = h.service? k' := rfl

/-- Clearing the flags of several subscriptions leaves the services as they are. -/
theorem services_unqueueAll (l : List SubscriptionRef) (h : Hub R C) :
    (l.foldl (fun h s => h.modifySubscription s fun sub => { sub with queued := false })
      h).services = h.services := by
  induction l generalizing h with
  | nil => rfl
  | cons s rest ih => rw [List.foldl_cons, ih, modifySubscription]

/-- A service is found in the list of services alone. -/
theorem service?_congr {g h : Hub R C} (hs : g.services = h.services) (k : ServiceRef) :
    g.service? k = h.service? k := by
  unfold service?
  rw [hs]

/-! ## Growth -/

/-- A place that is in use lies below the number of places. -/
theorem lt_size_of_subscription? {h : Hub R C} {s : SubscriptionRef} {sub : Subscription R C}
    (hs : h.subscription? s = some sub) : s < h.subscriptions.size := by
  unfold subscription? at hs
  exact (Array.getElem?_eq_some_iff.mp hs).1

/-- A service that is found has been added. -/
theorem lt_size_of_service? {h : Hub R C} {k : ServiceRef} {v : NotificationService}
    (hk : h.service? k = some v) : k < h.services.size := by
  unfold service? at hk
  rcases hv : h.services[k]? with _ | w
  · simp [hv] at hk
  · exact (Array.getElem?_eq_some_iff.mp hv).1

@[simp] theorem size_services_modifyService (h : Hub R C) (k : ServiceRef)
    (f : NotificationService → NotificationService) :
    (h.modifyService k f).services.size = h.services.size := by
  simp [modifyService]

@[simp] theorem size_services_modifySubscription (h : Hub R C) (s : SubscriptionRef)
    (f : Subscription R C → Subscription R C) :
    (h.modifySubscription s f).services.size = h.services.size := rfl

@[simp] theorem size_services_modifySilent (h : Hub R C) (k : SilentRef)
    (f : SilentService → SilentService) :
    (h.modifySilent k f).services.size = h.services.size := rfl

/-- One more subscription takes the next place. -/
theorem subscription?_push (h : Hub R C) (sub : Subscription R C) (s : SubscriptionRef) :
    ({ h with subscriptions := h.subscriptions.push sub } : Hub R C).subscription? s =
      if s = h.subscriptions.size then some sub else h.subscription? s := by
  unfold subscription?
  exact Array.getElem?_push

/-- A new subscription takes the first free number, and the others keep theirs. -/
theorem subscription?_of_push {h g : Hub R C} {sub : Subscription R C}
    (hg : g.subscriptions = h.subscriptions.push sub) (s : SubscriptionRef) :
    g.subscription? s = if s = h.subscriptions.size then some sub else h.subscription? s := by
  rw [← subscription?_push h sub s, subscription?, subscription?, hg]

/-- One more service takes the next place. -/
theorem service?_push (h : Hub R C) (v : NotificationService) (k : ServiceRef) :
    ({ h with services := h.services.push (some v) } : Hub R C).service? k =
      if k = h.services.size then some v else h.service? k := by
  unfold service?
  rw [Array.getElem?_push]
  split <;> rfl

/-! ## What is read off a service -/

/-- The queue of a service. A service that is gone has none. -/
def queue (h : Hub R C) (k : ServiceRef) : List SubscriptionRef :=
  match h.service? k with
  | none => []
  | some v => v.queue

theorem queue_of_service? {h : Hub R C} {k : ServiceRef} {v : NotificationService}
    (hk : h.service? k = some v) : h.queue k = v.queue := by
  simp [queue, hk]

/-- A service that does not exist counts as one with an empty queue. -/
theorem queue_of_service?_eq_none {h : Hub R C} {k : ServiceRef} (hk : h.service? k = none) :
    h.queue k = [] := by
  simp [queue, hk]

theorem isOpen_of_service? {h : Hub R C} {k : ServiceRef} {v : NotificationService}
    (hk : h.service? k = some v) : h.isOpen k = v.isOpen := by
  simp [isOpen, hk]

/-- Only a service that is there is open. -/
theorem service?_of_isOpen {h : Hub R C} {k : ServiceRef} (hk : h.isOpen k = true) :
    ∃ v, h.service? k = some v ∧ v.isOpen = true := by
  unfold isOpen at hk
  rcases hv : h.service? k with _ | v
  · simp [hv] at hk
  · exact ⟨v, rfl, by simpa [hv] using hk⟩

end Hub

end PathWatch
