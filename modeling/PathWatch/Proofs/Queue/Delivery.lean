import Mathlib
import PathWatch.Proofs.Queue.Order
/-!
# Delivery

No event is stranded: as long as its service is open, a subscription that holds events is queued, or
with the consumer who has taken it, or with a producer who has yet to signal.
-/

namespace PathWatch

variable {R C : Type} [BEq C]

/-! ## Kinds of actions -/

/-- The subscription is taken from the queue of the service. -/
def Takes (k : ServiceRef) (s : SubscriptionRef) (h : Hub R C) (a : Action R C) : Prop :=
  a.retrieves h k = some s

/-- The subscription goes into the queue of the service, or its consumer resets it. -/
def EnqueuesOrResets (k : ServiceRef) (s : SubscriptionRef) (h : Hub R C) (a : Action R C) : Prop :=
  s ∈ a.appends h k ∨ a = .reset s

/-- The consumer of the subscription resets it. -/
def Resets (s : SubscriptionRef) (_ : Hub R C) (a : Action R C) : Prop :=
  a = .reset s

/-- An event is posted to the subscription. -/
def Posts (s : SubscriptionRef) (h : Hub R C) (a : Action R C) : Prop :=
  a.posts h s ≠ []

/-- A producer signals the subscription. -/
def Signals (s : SubscriptionRef) (_ : Hub R C) (a : Action R C) : Prop :=
  a = .signal s

/-! ## The invariant -/

/-- Where the events of a subscription of an open service are waiting: a signaled subscription is
flagged or was taken, and the events of a ready one are not signaled yet. -/
structure OnTheWay (past : History R C) (k : ServiceRef) (s : SubscriptionRef)
    (sub : Subscription R C) : Prop where
  of_signaled : sub.state = .signaled →
    sub.queued = true ∨ past.Since (Takes k s) (EnqueuesOrResets k s)
  of_ready : sub.state = .ready → sub.buffer ≠ [] → past.Since (Posts s) (Signals s)

/-- Closing closes. -/
theorem isOpen_apply_shut {h : Hub R C} {a : Action R C} {k : ServiceRef}
    (ha : a = .shut k ∨ a = .close k) : (a.apply h).isOpen k = false := by
  have hshut : (h.shut k).2.isOpen k = false := by
    unfold Hub.isOpen
    rw [Hub.service?_shut]
    rcases h.service? k with _ | v
    · rfl
    · simp only [Option.map_some, if_true]
      split
      · rfl
      · simp_all
  rcases ha with rfl | rfl
  · exact hshut
  · rw [Action.apply, Hub.close_hub]
    split
    · obtain ⟨f, hf⟩ :=
        Hub.thinned_cancelAll (h.shut k).2 ((h.shut k).2.liveSubscriptions k) k
      unfold Hub.isOpen at hshut ⊢
      rw [hf]
      rcases hv : (h.shut k).2.service? k with _ | v
      · rfl
      · simpa [hv] using hshut
    · simp_all

omit [BEq C] in
/-- An entry of a queue belongs to the service. -/
theorem Hub.QueueSound.owner_eq {h : Hub R C} (hh : h.QueueSound) {k : ServiceRef}
    {s : SubscriptionRef} {sub : Subscription R C} (hs : h.subscription? s = some sub)
    (hqueue : s ∈ h.queue k) : sub.owner = some k := by
  rcases hv : h.service? k with _ | v
  · simp [Hub.queue_of_service?_eq_none hv] at hqueue
  · rw [Hub.queue_of_service? hv] at hqueue
    obtain ⟨sub', hs', howner⟩ := hh.exists_of_mem hv hqueue
    exact Option.some.inj (hs'.symm.trans hs) ▸ howner

/-- What stays unflagged in an action has not been put into the queue by it. -/
theorem Hub.QueueSound.not_mem_appends {h : Hub R C} {a : Action R C}
    (ha : (a.apply h).QueueSound) {k : ServiceRef} {s : SubscriptionRef} {sub' : Subscription R C}
    (hs' : (a.apply h).subscription? s = some sub') (hqueued : sub'.queued = false) :
    s ∉ a.appends h k := by
  intro hmem
  have hqueue : s ∈ (a.apply h).queue k := List.mem_of_mem_drop hmem
  have howner := ha.owner_eq hs' hqueue
  rcases hv : (a.apply h).service? k with _ | v
  · simp [Hub.queue_of_service?_eq_none hv] at hqueue
  · rw [Hub.queue_of_service? hv] at hqueue
    have hiff := ha.queued_iff_mem hv hs' howner
    simp [hqueued] at hiff
    exact hiff hqueue

/-- A subscription that an action keeps signaled and unflagged, without resetting it, is still with
the consumer who has taken it. -/
theorem OnTheWay.still_taken {past : History R C} {k : ServiceRef} {s : SubscriptionRef}
    {sub sub' : Subscription R C} (hway : OnTheWay past k s sub) (a : Action R C)
    (hs' : (a.apply past.hub).subscription? s = some sub') (hflag : sub'.queued = sub.queued)
    (hstate : sub.state = .signaled) (hreset : a ≠ .reset s) :
    sub'.queued = true ∨ History.Since (Takes k s) (EnqueuesOrResets k s) (a :: past) := by
  rcases hqueued : sub'.queued with _ | _
  · -- It was unflagged before, too: it has been taken, and nothing has put it back.
    right
    rcases hway.of_signaled hstate with hq | hsince
    · simp [← hflag, hqueued] at hq
    · refine Or.inr ⟨?_, hsince⟩
      rintro (hmem | ha)
      · exact (past.queueSound.apply a).not_mem_appends hs' hqueued hmem
      · exact hreset ha
  · exact Or.inl rfl

/-- A ready subscription that is not signaled is still waiting for a signal. -/
theorem OnTheWay.still_posted {past : History R C} {k : ServiceRef} {s : SubscriptionRef}
    {sub : Subscription R C} (hway : OnTheWay past k s sub) (a : Action R C)
    (hstate : sub.state = .ready) (hbuffer : sub.buffer ≠ []) (hsignal : a ≠ .signal s) :
    History.Since (Posts s) (Signals s) (a :: past) :=
  Or.inr ⟨hsignal, hway.of_ready hstate hbuffer⟩

/-! ## One action -/

/-- No action loses the events of a subscription, as long as the service stays open. -/
theorem OnTheWay.step {past : History R C} {k : ServiceRef} {s : SubscriptionRef}
    {sub sub' : Subscription R C} (hway : OnTheWay past k s sub) (a : Action R C)
    (hs : past.hub.subscription? s = some sub) (howner : sub.owner = some k)
    (hs' : (a.apply past.hub).subscription? s = some sub')
    (hc : SubscriptionChange past.hub a s sub sub') (hopen : past.hub.isOpen k = true)
    (hopen' : (a.apply past.hub).isOpen k = true) : OnTheWay (a :: past) k s sub' := by
  have hout : past.hub.ownerIsOpen sub = true := by
    rw [Hub.ownerIsOpen_of_owner howner, hopen]
  -- A flag that is set stays, a flag that is cleared goes to a consumer, and the rest is unchanged.
  cases hc with
  | kept hsignal hreset hposts hdrains =>
    constructor
    · intro hstate
      exact hway.still_taken a hs' rfl hstate fun ha => hreset ha hstate
    · intro hstate hbuffer
      exact hway.still_posted a hstate hbuffer fun ha => hsignal ha hstate
  | posted e hposts =>
    constructor
    · intro hstate
      rw [sub.post_state] at hstate
      refine hway.still_taken a hs' (sub.post_queued e) hstate ?_
      rintro rfl
      simp [Action.posts, hs] at hposts
    · intro hstate hbuffer
      exact Or.inl (by simp [Posts, hposts])
  | drained ha =>
    constructor
    · intro hstate
      exact hway.still_taken a hs' rfl hstate (by simp [ha])
    · intro hstate hbuffer
      exact absurd rfl hbuffer
  | signaled ha hstate =>
    constructor
    · intro _
      exact Or.inl (by simp [hout])
    · intro hready
      simp at hready
  | readied ha hstate hbuffer =>
    constructor
    · intro hsignaled
      simp at hsignaled
    · intro _ hne
      exact absurd hbuffer hne
  | requeued ha hstate hbuffer =>
    constructor
    · intro _
      exact Or.inl (by simp [hout])
    · intro hready
      exact absurd (hstate.symm.trans hready) (by simp)
  | retrieved k' hretrieves =>
    have hqueue := List.mem_of_head? (Action.head_of_retrieves hretrieves).2
    have hkk := past.queueSound.owner_eq hs hqueue
    obtain rfl : k = k' := Option.some.inj (howner.symm.trans hkk)
    constructor
    · intro _
      exact Or.inr (Or.inl hretrieves)
    · intro hstate hbuffer
      refine hway.still_posted a hstate hbuffer ?_
      rintro rfl
      simp [Action.retrieves] at hretrieves
  | flushed k' ha hwas hqueue =>
    -- The service that is closed is the owner, which is open afterwards.
    have hkk := past.queueSound.owner_eq hs hqueue
    rw [howner] at hkk
    rw [← Option.some.inj hkk] at ha
    rw [isOpen_apply_shut ha] at hopen'
    simp at hopen'
  | cancelled ha queued hqueued =>
    constructor
    · intro hstate
      simp at hstate
    · intro hstate
      simp at hstate

/-- A new subscription has no events yet. -/
theorem Fresh.onTheWay {past : History R C} {a : Action R C} {k : ServiceRef} {s : SubscriptionRef}
    {sub : Subscription R C} (hfresh : Fresh past.hub a s sub) : OnTheWay (a :: past) k s sub where
  of_signaled hstate := absurd (hfresh.state_eq.symm.trans hstate) (by simp)
  of_ready _ hbuffer := absurd hfresh.buffer_eq hbuffer

/-! ## Runs -/

namespace History

/-- In every run, the events of a subscription of an open service are on the way. -/
theorem onTheWay (past : History R C) {k : ServiceRef} (hopen : past.hub.isOpen k = true)
    {s : SubscriptionRef} {sub : Subscription R C} (hs : past.hub.subscription? s = some sub)
    (howner : sub.owner = some k) : OnTheWay past k s sub := by
  induction past generalizing sub with
  | nil => simp [hub] at hs
  | cons a past ih =>
    rcases subscription?_of_apply hs with ⟨before, hbefore, hc⟩ | ⟨-, hfresh⟩
    · have howner' : before.owner = some k := hc.owner_eq ▸ howner
      have hsize : k < (hub past).services.size :=
        (queueSound past).lt_size_of_owner hbefore howner'
      have hopen' : (hub past).isOpen k = true := by
        rcases hwas : (hub past).isOpen k with _ | _
        · exact absurd hopen (by simp [hub, isOpen_apply_eq_false hsize hwas a])
        · rfl
      exact (ih hopen' hbefore howner').step a hbefore howner' hs hc hopen' hopen
    · exact hfresh.onTheWay

/-- No event is stranded. While a service is open, every subscription of it that holds events and is
not cancelled is queued; or it is signaled, and has been taken after it was queued for the last time
and not been reset since; or it is ready, and nobody has signaled it since the last event was
posted. So when every event has been signaled, every subscription that was taken has been reset, and
nothing is queued, no event is left. -/
theorem no_event_stranded (past : History R C) {k : ServiceRef}
    (hopen : past.hub.isOpen k = true) :
    (∀ s sub, past.hub.subscription? s = some sub → sub.owner = some k → sub.state ≠ .cancelled →
      sub.buffer ≠ [] →
        s ∈ past.hub.queue k ∨
        (sub.state = .signaled ∧ past.Since (Takes k s) (EnqueuesOrResets k s)) ∨
        (sub.state = .ready ∧ past.Since (Posts s) (Signals s))) ∧
      ((∀ s ∈ past.registered k, past.Answered (Posts s) (Signals s)) →
        (∀ s ∈ past.registered k, past.Answered (Takes k s) (Resets s)) →
        past.hub.queue k = [] →
        ∀ s sub, past.hub.subscription? s = some sub → sub.owner = some k →
          sub.state ≠ .cancelled → sub.buffer = []) := by
  have hwhere : ∀ s sub, past.hub.subscription? s = some sub → sub.owner = some k →
      sub.state ≠ .cancelled → sub.buffer ≠ [] →
        s ∈ past.hub.queue k ∨
        (sub.state = .signaled ∧ past.Since (Takes k s) (EnqueuesOrResets k s)) ∨
        (sub.state = .ready ∧ past.Since (Posts s) (Signals s)) := by
    intro s sub hs howner hvalid hbuffer
    have hway := past.onTheWay hopen hs howner
    rcases hstate : sub.state with _ | _ | _
    · exact Or.inr (Or.inr ⟨rfl, hway.of_ready hstate hbuffer⟩)
    · rcases hway.of_signaled hstate with hqueued | hsince
      · obtain ⟨v, hv, -⟩ := Hub.service?_of_isOpen hopen
        have hiff := past.queueSound.queued_iff_mem hv hs howner
        exact Or.inl (Hub.queue_of_service? hv ▸ hiff.mp hqueued)
      · exact Or.inr (Or.inl ⟨rfl, hsince⟩)
    · exact absurd hstate hvalid
  refine ⟨hwhere, fun hsignaled hreset hqueue s sub hs howner hvalid => ?_⟩
  by_contra hbuffer
  have hmem := (past.mem_registered_iff k s).mpr ⟨sub, hs, howner⟩
  rcases hwhere s sub hs howner hvalid hbuffer with hq | ⟨-, hsince⟩ | ⟨-, hsince⟩
  · simp [hqueue] at hq
  · exact (hreset s hmem).not_since (hsince.mono fun h a ha => Or.inr ha)
  · exact (hsignaled s hmem).not_since hsince

/-- A subscription was posted to, signaled and taken, and posted to again: it is still with its
consumer. -/
theorem no_event_stranded_of_taken :
    let past : History Nat Nat :=
      [.post 0 (.once .modify 8), .poll 0, .signal 0, .post 0 (.once .modify 7),
        .register 0 10 [.modify], .withConfig .standard]
    past.hub.isOpen 0 = true ∧ past.Since (Takes 0 0) (EnqueuesOrResets 0 0) := by
  intro past
  have hopen : past.hub.isOpen 0 = true := rfl
  obtain ⟨sub, hs, howner, hstate, hbuffer⟩ : ∃ sub, past.hub.subscription? 0 = some sub ∧
      sub.owner = some 0 ∧ sub.state = .signaled ∧ sub.buffer ≠ [] :=
    ⟨_, rfl, rfl, rfl, List.cons_ne_nil _ _⟩
  have hqueue : past.hub.queue 0 = [] := rfl
  have hwhere := (no_event_stranded past hopen).1 0 sub hs howner (by simp [hstate]) hbuffer
  simp only [hqueue, hstate, List.not_mem_nil, false_or, true_and] at hwhere
  rcases hwhere with hsince | ⟨hready, -⟩
  · exact ⟨hopen, hsince⟩
  · simp at hready

end History

end PathWatch
