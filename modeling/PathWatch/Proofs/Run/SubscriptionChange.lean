import Mathlib
import PathWatch.Proofs.Hub.Subscriptions
import PathWatch.Proofs.Run.History
/-!
# What an action can do to a subscription

An action keeps every subscription and changes it in one of a few ways; a subscription that was not
there before is ready and empty. What holds of subscriptions throughout a run is derived from this.
-/

namespace PathWatch

variable {R C : Type}

namespace Action

/-! ## Retrieval -/

/-- What is retrieved is the head of the queue of an open service. -/
theorem retrieves_poll (h : Hub R C) (k k' : ServiceRef) :
    (Action.poll k : Action R C).retrieves h k' =
      if k = k' ∧ h.isOpen k = true then (h.queue k).head? else none := by
  unfold retrieves
  by_cases hk : k = k'
  · subst hk
    simp only [if_true, true_and]
    unfold Hub.poll Hub.isOpen Hub.queue
    rcases h.service? k with _ | v
    · simp
    · rcases hopen : v.isOpen with _ | _
      · simp [hopen]
      · rcases hq : v.queue with _ | ⟨s, rest⟩ <;> simp [hopen, hq]
  · simp [hk]

theorem retrieves_take (h : Hub R C) (k k' : ServiceRef) :
    (Action.take k : Action R C).retrieves h k' = (Action.poll k : Action R C).retrieves h k' := by
  simp only [retrieves, Hub.take]
  split
  · rcases hvalue : (h.poll k).value with e | found
    · simp
    · rcases found with _ | s <;> simp
  · rfl

theorem retrieves_pollTimeout (h : Hub R C) (k k' : ServiceRef) (endless : Bool) :
    (Action.pollTimeout k endless : Action R C).retrieves h k' =
      (Action.poll k : Action R C).retrieves h k' := by
  simp only [retrieves, Hub.pollTimeout]
  split
  · rcases hvalue : (h.poll k).value with e | found
    · simp
    · rcases found with _ | s <;> cases endless <;> simp
  · rfl

/-! ## Sorts of actions -/

/-- Whether an action cancels subscriptions. -/
def cancels : Action R C → Bool
  | .cancel _ | .deregister _ _ | .close _ | .markCancelled _ | .closeSilent _ => true
  | _ => false

/-- The subscription that a producer or a consumer acts on. -/
def subject? : Action R C → Option SubscriptionRef
  | .post s _ | .offer s _ | .signal s | .drain s | .reset s => some s
  | _ => none

theorem posts_eq_nil {a : Action R C} {s : SubscriptionRef} (ha : a.subject? ≠ some s)
    (h : Hub R C) : a.posts h s = [] := by
  unfold posts
  split
  · rfl
  · cases a <;> simp_all [subject?]

theorem drains_eq_false {a : Action R C} {s : SubscriptionRef} (ha : a.subject? ≠ some s) :
    a.drains s = false := by
  cases a <;> simp_all [subject?, drains]

end Action

/-! ## Changes of a subscription -/

/-- What an action that finds the hub `h` can make of the subscription `s`. -/
inductive SubscriptionChange (h : Hub R C) (a : Action R C) (s : SubscriptionRef)
    (sub : Subscription R C) [BEq C] : Subscription R C → Prop where
  | kept (hsignal : a = .signal s → sub.state ≠ .ready)
      (hreset : a = .reset s → sub.state ≠ .signaled)
      (hposts : a.posts h s = []) (hdrains : a.drains s = false) :
      SubscriptionChange h a s sub sub
  | posted (e : Event C) (hposts : a.posts h s = [e.val]) :
      SubscriptionChange h a s sub (sub.post e)
  | drained (ha : a = .drain s) :
      SubscriptionChange h a s sub { sub with buffer := [] }
  | signaled (ha : a = .signal s) (hstate : sub.state = .ready) :
      SubscriptionChange h a s sub
        { sub with state := .signaled, queued := sub.queued || h.ownerIsOpen sub }
  | readied (ha : a = .reset s) (hstate : sub.state = .signaled) (hbuffer : sub.buffer = []) :
      SubscriptionChange h a s sub { sub with state := .ready }
  | requeued (ha : a = .reset s) (hstate : sub.state = .signaled) (hbuffer : sub.buffer ≠ []) :
      SubscriptionChange h a s sub { sub with queued := sub.queued || h.ownerIsOpen sub }
  | retrieved (k : ServiceRef) (hretrieves : a.retrieves h k = some s) :
      SubscriptionChange h a s sub { sub with queued := false }
  | flushed (k : ServiceRef) (ha : a = .shut k ∨ a = .close k) (hopen : h.isOpen k = true)
      (hqueue : s ∈ h.queue k) :
      SubscriptionChange h a s sub { sub with queued := false }
  | cancelled (ha : a.cancels = true) (queued : Bool)
      (hqueued : queued = sub.queued ∨ queued = false) :
      SubscriptionChange h a s sub { sub with state := .cancelled, queued }

namespace SubscriptionChange

variable [BEq C] {h : Hub R C} {a : Action R C} {s : SubscriptionRef} {sub : Subscription R C}

/-- Who acts on something else keeps a subscription. -/
theorem of_subject_ne (ha : a.subject? ≠ some s) : SubscriptionChange h a s sub sub :=
  .kept (fun hs => absurd (by rw [hs]; rfl) ha) (fun hs => absurd (by rw [hs]; rfl) ha)
    (Action.posts_eq_nil ha h) (Action.drains_eq_false ha)

/-- A retrieval clears the flag of what it retrieves. -/
theorem of_poll {k : ServiceRef} (hs : h.subscription? s = some sub)
    (hretrieves : a.retrieves h k = (Action.poll k : Action R C).retrieves h k)
    (ha : a.subject? ≠ some s) :
    ∃ sub', (h.poll k).hub.subscription? s = some sub' ∧ SubscriptionChange h a s sub sub' := by
  rw [Hub.subscription?_poll, hs, Option.map_some]
  rw [Action.retrieves_poll] at hretrieves
  by_cases hhead : h.isOpen k = true ∧ (h.queue k).head? = some s
  · rw [if_pos hhead]
    exact ⟨_, rfl, .retrieved k (by rw [hretrieves, if_pos ⟨rfl, hhead.1⟩, hhead.2])⟩
  · rw [if_neg hhead]
    exact ⟨_, rfl, of_subject_ne ha⟩

/-- A cancellation of some subscriptions makes `s` cancelled or keeps it. -/
theorem of_cancel (p : Prop) [Decidable p] (hcancels : a.cancels = true)
    (ha : a.subject? ≠ some s) :
    SubscriptionChange h a s sub (if p then { sub with state := .cancelled } else sub) := by
  by_cases hp : p
  · rw [if_pos hp]
    exact .cancelled hcancels sub.queued (Or.inl rfl)
  · rw [if_neg hp]
    exact of_subject_ne ha

end SubscriptionChange

variable [BEq C]

/-- Every action keeps a subscription and changes it in one of the ways of `SubscriptionChange`. -/
theorem subscription?_apply {h : Hub R C} {s : SubscriptionRef} {sub : Subscription R C}
    (hs : h.subscription? s = some sub) (a : Action R C) :
    ∃ sub', (a.apply h).subscription? s = some sub' ∧ SubscriptionChange h a s sub sub' := by
  -- A call on another subscription keeps this one, and a call on this one may find nothing to do.
  cases a with
  | withConfig config =>
    refine ⟨sub, ?_, .of_subject_ne (by simp [Action.subject?])⟩
    rcases Hub.withConfig_cases h config with ⟨e, hw⟩ | ⟨-, hw⟩ <;> simpa [Action.apply, hw]
  | retain k => exact ⟨sub, hs, .of_subject_ne (by simp [Action.subject?])⟩
  | release k =>
    exact ⟨sub, by simpa [Action.apply], .of_subject_ne (by simp [Action.subject?])⟩
  | register k resource kinds =>
    exact ⟨sub, Hub.subscription?_register hs k resource kinds,
      .of_subject_ne (by simp [Action.subject?])⟩
  | post s' e =>
    refine ⟨_, by rw [Action.apply, Hub.subscription?_post, hs, Option.map_some], ?_⟩
    by_cases hss : s' = s
    · subst hss
      rw [if_pos rfl]
      by_cases hstate : sub.state = .cancelled
      · rw [Subscription.post, if_pos hstate]
        exact .kept (by simp) (by simp) (by simp [Action.posts, hs, hstate]) rfl
      · exact .posted e (by simp [Action.posts, hs, hstate])
    · rw [if_neg hss]
      exact .of_subject_ne (by simpa [Action.subject?])
  | offer s' e =>
    refine ⟨_, by rw [Action.apply, Hub.subscription?_offer, hs, Option.map_some], ?_⟩
    by_cases hss : s' = s
    · subst hss
      rw [if_pos rfl]
      by_cases hkind : sub.isInterested e.val.kind = true
      · rw [if_pos hkind]
        by_cases hstate : sub.state = .cancelled
        · rw [Subscription.post, if_pos hstate]
          exact .kept (by simp) (by simp) (by simp [Action.posts, hs, hstate]) rfl
        · exact .posted e (by simp [Action.posts, hs, hstate, hkind])
      · rw [if_neg hkind]
        exact .kept (by simp) (by simp) (by simp [Action.posts, hs, hkind]) rfl
    · rw [if_neg hss]
      exact .of_subject_ne (by simpa [Action.subject?])
  | signal s' =>
    refine ⟨_, by rw [Action.apply, Hub.subscription?_signal, hs, Option.map_some], ?_⟩
    by_cases hss : s' = s
    · subst hss
      rw [if_pos rfl]
      by_cases hstate : sub.state = .ready
      · rw [if_pos hstate]
        exact .signaled rfl hstate
      · rw [if_neg hstate]
        exact .kept (fun _ => hstate) (by simp) (by simp [Action.posts, hs]) rfl
    · rw [if_neg hss]
      exact .of_subject_ne (by simpa [Action.subject?])
  | drain s' =>
    refine ⟨_, by rw [Action.apply, Hub.subscription?_drain, hs, Option.map_some], ?_⟩
    by_cases hss : s' = s
    · subst hss
      rw [if_pos rfl]
      exact .drained rfl
    · rw [if_neg hss]
      exact .of_subject_ne (by simpa [Action.subject?])
  | reset s' =>
    refine ⟨_, by rw [Action.apply, Hub.subscription?_reset, hs, Option.map_some], ?_⟩
    by_cases hss : s' = s
    · subst hss
      rw [if_pos rfl]
      by_cases hstate : sub.state = .signaled
      · rw [if_pos hstate]
        by_cases hbuffer : sub.buffer = []
        · rw [if_pos hbuffer]
          exact .readied rfl hstate hbuffer
        · rw [if_neg hbuffer]
          exact .requeued rfl hstate hbuffer
      · rw [if_neg hstate]
        exact .kept (by simp) (fun _ => hstate) (by simp [Action.posts, hs]) rfl
    · rw [if_neg hss]
      exact .of_subject_ne (by simpa [Action.subject?])
  | poll k => exact SubscriptionChange.of_poll hs rfl (by simp [Action.subject?])
  | pollTimeout k endless =>
    rw [Action.apply, Hub.pollTimeout_hub]
    exact SubscriptionChange.of_poll hs (Action.retrieves_pollTimeout h k k endless)
      (by simp [Action.subject?])
  | take k =>
    rw [Action.apply, Hub.take_hub]
    exact SubscriptionChange.of_poll hs (Action.retrieves_take h k k) (by simp [Action.subject?])
  | cancel s' =>
    refine ⟨_, by rw [Action.apply, Hub.subscription?_cancel, hs, Option.map_some], ?_⟩
    exact .of_cancel _ rfl (by simp [Action.subject?])
  | deregister k s' =>
    refine ⟨_, by rw [Action.apply, Hub.subscription?_deregister, hs, Option.map_some], ?_⟩
    exact .of_cancel _ rfl (by simp [Action.subject?])
  | close k =>
    refine ⟨_, by rw [Action.apply, Hub.subscription?_close, hs, Option.map_some], ?_⟩
    by_cases hopen : h.isOpen k = true
    · by_cases hlive : s ∈ h.liveSubscriptions k
      · simp only [hopen, hlive, if_true]
        exact .cancelled rfl _ (by split <;> simp)
      · by_cases hq : s ∈ h.queue k
        · simp only [hopen, hlive, hq, if_true, if_false]
          exact .flushed k (Or.inr rfl) hopen hq
        · simp only [hopen, hlive, hq, if_true, if_false]
          exact .of_subject_ne (by simp [Action.subject?])
    · rw [if_neg hopen]
      exact .of_subject_ne (by simp [Action.subject?])
  | markCancelled s' =>
    refine ⟨_, by rw [Action.apply, Hub.subscription?_markCancelled, hs, Option.map_some], ?_⟩
    exact .of_cancel _ rfl (by simp [Action.subject?])
  | forget s' =>
    exact ⟨sub, by simpa [Action.apply], .of_subject_ne (by simp [Action.subject?])⟩
  | shut k =>
    refine ⟨_, by rw [Action.apply, Hub.subscription?_shut, hs, Option.map_some], ?_⟩
    by_cases hq : h.isOpen k = true ∧ s ∈ h.queue k
    · rw [if_pos hq]
      exact .flushed k (Or.inl rfl) hq.1 hq.2
    · rw [if_neg hq]
      exact .of_subject_ne (by simp [Action.subject?])
  | addSilent => exact ⟨sub, hs, .of_subject_ne (by simp [Action.subject?])⟩
  | registerSilent k resource kinds =>
    exact ⟨sub, Hub.subscription?_registerSilent hs k resource kinds,
      .of_subject_ne (by simp [Action.subject?])⟩
  | liveCountSilent k => exact ⟨sub, hs, .of_subject_ne (by simp [Action.subject?])⟩
  | closeSilent k =>
    rcases Hub.closeSilent_cases h k with hc | ⟨f, l, hc⟩
    · exact ⟨sub, by rwa [Action.apply, hc], .of_subject_ne (by simp [Action.subject?])⟩
    · refine ⟨_, by rw [Action.apply, hc, Hub.subscription?_cancelAll,
        Hub.subscription?_modifySilent, hs, Option.map_some], ?_⟩
      exact .of_cancel _ rfl (by simp [Action.subject?])

/-! ## New subscriptions -/

/-- What is true of a subscription that the action `a` has made. -/
structure Fresh (h : Hub R C) (a : Action R C) (s : SubscriptionRef) (sub : Subscription R C) :
    Prop where
  state_eq : sub.state = .ready
  buffer_eq : sub.buffer = []
  queued_eq : sub.queued = false
  registers_of_owner : ∀ k, sub.owner = some k → a.registers h k = some s ∧ h.isOpen k = true
  config_eq : ∀ k v, sub.owner = some k → h.service? k = some v → sub.config = v.config
  id_eq : ∀ k v, sub.owner = some k → h.service? k = some v → sub.id = ⟨v.nextId⟩

/-- A subscription that was not there before has been made by the action. -/
theorem fresh_of_apply {h : Hub R C} {a : Action R C} {s : SubscriptionRef}
    {sub : Subscription R C} (hs : h.subscription? s = none)
    (ha : (a.apply h).subscription? s = some sub) : Fresh h a s sub := by
  -- Only the two registrations make subscriptions; all other calls map over those that are there.
  cases a with
  | register k resource kinds =>
    rw [Action.apply] at ha
    rcases Hub.register_cases h k resource kinds with ⟨e, hr⟩ | ⟨v, hk, hopen, hr⟩
    · simp [hr, hs] at ha
    · rw [hr, Hub.subscription?_modifyService, Hub.subscription?_push, hs] at ha
      obtain ⟨rfl, rfl⟩ : s = h.subscriptions.size ∧ _ = sub := by simpa using ha
      have same : ∀ k' w, some k = some k' → h.service? k' = some w → w = v := by
        rintro k' w hkk hw
        exact Option.some.inj (hw.symm.trans (Option.some.inj hkk ▸ hk))
      refine ⟨rfl, rfl, rfl, fun k' ho => ?_, fun k' w ho hw => ?_, fun k' w ho hw => ?_⟩
      · obtain rfl : k = k' := Option.some.inj ho
        exact ⟨by simp [Action.registers, hr], by simp [Hub.isOpen, hk, hopen]⟩
      · rw [same k' w ho hw]
      · rw [same k' w ho hw]
  | registerSilent k resource kinds =>
    rw [Action.apply] at ha
    rcases Hub.registerSilent_cases h k resource kinds with
      hr | ⟨made, v, f, g, howner, hstate, hbuffer, hqueued, -, hr⟩
    · simp [hr, hs] at ha
    · rw [hr, Hub.subscription?_modifySilent] at ha
      have hpush := (Hub.subscription?_push h made s).symm.trans ha
      obtain ⟨rfl, rfl⟩ : s = h.subscriptions.size ∧ made = sub := by simpa [hs] using hpush
      exact ⟨hstate, hbuffer, hqueued, fun k' ho => by simp [howner] at ho,
        fun k' w ho => by simp [howner] at ho, fun k' w ho => by simp [howner] at ho⟩
  | withConfig config =>
    rw [Action.apply] at ha
    rcases Hub.withConfig_cases h config with ⟨e, hw⟩ | ⟨-, hw⟩ <;> simp [hw, hs] at ha
  | closeSilent k =>
    rw [Action.apply] at ha
    rcases Hub.closeSilent_cases h k with hc | ⟨f, l, hc⟩ <;>
      simp [hc, hs, Hub.subscription?_cancelAll] at ha
  | addSilent => exact absurd (hs.symm.trans ha) (by simp)
  | _ =>
    simp_all [Action.apply, Hub.retain, Hub.subscription?_post, Hub.subscription?_offer,
      Hub.subscription?_signal, Hub.subscription?_drain, Hub.subscription?_reset,
      Hub.subscription?_poll, Hub.pollTimeout_hub, Hub.take_hub, Hub.subscription?_cancel,
      Hub.subscription?_deregister, Hub.subscription?_close, Hub.subscription?_markCancelled,
      Hub.subscription?_shut, Hub.liveCountSilent, Hub.prune]

end PathWatch
