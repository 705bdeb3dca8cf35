import Mathlib
import PathWatch.Proofs.Queue.Delivery
import PathWatch.Proofs.Run.Chronicle
/-!
# Holding a subscription

As long as subscriptions are reset by those who hold them, nobody is given what somebody else holds.
No lock sees to this: a subscription stays signaled until it is reset, and a signaled subscription
is not queued by a signal.
-/

namespace PathWatch

variable {R C : Type}

/-! ## Retrieval -/

/-- Every retrieval that hands something out is a call of `poll`. -/
theorem Action.apply_of_retrieves [BEq C] {a : Action R C} {h : Hub R C} {k : ServiceRef}
    {s : SubscriptionRef} (hr : a.retrieves h k = some s) : a.apply h = (h.poll k).hub := by
  cases a with
  | poll k' =>
    obtain rfl : k' = k := by
      by_contra hk
      simp [retrieves, hk] at hr
    rfl
  | pollTimeout k' endless =>
    obtain rfl : k' = k := by
      by_contra hk
      simp [retrieves, hk] at hr
    exact Hub.pollTimeout_hub h k' endless
  | take k' =>
    obtain rfl : k' = k := by
      by_contra hk
      simp [retrieves, hk] at hr
    exact Hub.take_hub h k'
  | _ => simp [retrieves] at hr

/-- What is handed out loses its flag, and nothing else about it changes. -/
theorem subscription?_of_retrieves [BEq C] {a : Action R C} {h : Hub R C} {k : ServiceRef}
    {s : SubscriptionRef} (hr : a.retrieves h k = some s) :
    (a.apply h).subscription? s =
      (h.subscription? s).map fun sub => { sub with queued := false } := by
  rw [Action.apply_of_retrieves hr, Hub.subscription?_poll]
  simp [Action.head_of_retrieves hr]

namespace Hub.QueueSound

variable {h : Hub R C} {k : ServiceRef} {s : SubscriptionRef} {sub : Subscription R C}

/-- An entry of a queue is flagged. -/
theorem queued_of_mem (hh : h.QueueSound) (hs : h.subscription? s = some sub)
    (hmem : s ∈ h.queue k) : sub.queued = true := by
  have howner := hh.owner_eq hs hmem
  rcases hv : h.service? k with _ | v
  · simp [queue_of_service?_eq_none hv] at hmem
  · rw [queue_of_service? hv] at hmem
    exact (hh.queued_iff_mem hv hs howner).mpr hmem

/-- An entry of a queue is there. -/
theorem subscription?_of_mem (hh : h.QueueSound) (hmem : s ∈ h.queue k) :
    ∃ sub, h.subscription? s = some sub := by
  rcases hv : h.service? k with _ | v
  · simp [queue_of_service?_eq_none hv] at hmem
  · rw [queue_of_service? hv] at hmem
    obtain ⟨sub, hs, -⟩ := hh.exists_of_mem hv hmem
    exact ⟨sub, hs⟩

end Hub.QueueSound

namespace Chronicle

variable [BEq C]

/-! ## The invariant -/

/-- A subscription that somebody holds is not flagged, a ready one is neither held nor flagged, and
nobody shares. -/
structure Exclusive (d : Chronicle R C) (s : SubscriptionRef) (sub : Subscription R C) : Prop where
  unique : ∀ {t t'}, Holds t s d → Holds t' s d → t = t'
  of_held : ∀ {t}, Holds t s d → sub.state ≠ .ready ∧ sub.queued = false
  of_queued : sub.queued = true → sub.state ≠ .ready

/-- What is held is there. -/
theorem subscription?_of_holds {d : Chronicle R C} {t : Thread} {s : SubscriptionRef}
    (ht : Holds t s d) : ∃ sub, d.hub.subscription? s = some sub := by
  induction d with
  | nil => exact ht.elim
  | cons x d ih =>
    have hbefore : ∃ sub, (hub d).subscription? s = some sub := by
      rcases ht with ⟨-, k, hr⟩ | ⟨-, hd⟩
      · have hmem := List.mem_of_head? (Action.head_of_retrieves hr).2
        exact (past d).queueSound.subscription?_of_mem hmem
      · exact ih hd
    obtain ⟨sub, hs⟩ := hbefore
    obtain ⟨sub', hs', -⟩ := subscription?_apply hs x.action
    exact ⟨sub', hs'⟩

namespace Exclusive

variable {d : Chronicle R C} {x : Deed R C} {s : SubscriptionRef} {sub sub' : Subscription R C}

/-- Who is given a subscription is the only one to hold it: it was queued, so nobody held it. -/
theorem of_retrieves (hd : d.Exclusive s sub) (hs : d.hub.subscription? s = some sub)
    {k : ServiceRef} (hr : x.action.retrieves d.hub k = some s)
    (hs' : (hub (x :: d)).subscription? s = some sub') : Exclusive (x :: d) s sub' := by
  have hmem := List.mem_of_head? (Action.head_of_retrieves hr).2
  have hqueued : sub.queued = true := d.past.queueSound.queued_of_mem hs hmem
  have hnobody : ∀ t, ¬ Holds t s d := by
    intro t ht
    simp [(hd.of_held ht).2] at hqueued
  have honly : ∀ t, Holds t s (x :: d) → x.thread = t := by
    rintro t (⟨ht, -⟩ | ⟨-, ht⟩)
    · exact ht
    · exact absurd ht (hnobody t)
  obtain rfl : { sub with queued := false } = sub' := by
    rw [hub_cons, subscription?_of_retrieves hr, hs] at hs'
    exact Option.some.inj hs'
  exact
    { unique := fun ht ht' => (honly _ ht).symm.trans (honly _ ht')
      of_held := fun _ => ⟨hd.of_queued hqueued, rfl⟩
      of_queued := fun hq => by simp at hq }

/-- A deed that hands nothing out leaves everybody with what they held, or with less. -/
theorem of_change (hd : d.Exclusive s sub)
    (hcareful : x.action = .reset s → Holds x.thread s d)
    (hr : ∀ k, x.action.retrieves d.hub k ≠ some s)
    (hc : SubscriptionChange d.hub x.action s sub sub') : Exclusive (x :: d) s sub' := by
  have hbefore : ∀ t, Holds t s (x :: d) →
      ¬ (x.thread = t ∧ x.action = .reset s) ∧ Holds t s d := by
    rintro t (⟨-, k, hk⟩ | ht)
    · exact absurd hk (hr k)
    · exact ht
  -- After a reset nobody holds the subscription: the only holder has reset it.
  have hnobody : x.action = .reset s → ∀ t, ¬ Holds t s (x :: d) := by
    intro hx t ht
    obtain ⟨hnot, hheld⟩ := hbefore t ht
    exact hnot ⟨hd.unique (hcareful hx) hheld, hx⟩
  refine ⟨fun ht ht' => hd.unique (hbefore _ ht).2 (hbefore _ ht').2, fun {t} ht => ?_, ?_⟩
  · obtain ⟨hstate, hqueued⟩ := hd.of_held (hbefore t ht).2
    cases hc with
    | kept hsignal hreset hposts hdrains => exact ⟨hstate, hqueued⟩
    | posted e hposts =>
      rw [sub.post_state, sub.post_queued]
      exact ⟨hstate, hqueued⟩
    | drained hx => exact ⟨hstate, hqueued⟩
    | signaled hx hready => exact absurd hready hstate
    | readied hx hsignaled hbuffer => exact absurd ht (hnobody hx t)
    | requeued hx hsignaled hbuffer => exact absurd ht (hnobody hx t)
    | retrieved k hk => exact absurd hk (hr k)
    | flushed k hx hopen hmem => exact ⟨hstate, rfl⟩
    | cancelled hx queued hsame =>
      refine ⟨by simp, ?_⟩
      rcases hsame with rfl | rfl
      · exact hqueued
      · rfl
  · intro hqueued
    cases hc with
    | kept hsignal hreset hposts hdrains => exact hd.of_queued hqueued
    | posted e hposts =>
      rw [sub.post_queued] at hqueued
      rw [sub.post_state]
      exact hd.of_queued hqueued
    | drained hx => exact hd.of_queued hqueued
    | signaled hx hready => simp
    | readied hx hsignaled hbuffer =>
      -- Only its holder resets it, and what is held is not flagged.
      simp [(hd.of_held (hcareful hx)).2] at hqueued
    | requeued hx hsignaled hbuffer => simp [hsignaled]
    | retrieved k hk => exact absurd hk (hr k)
    | flushed k hx hopen hmem => simp at hqueued
    | cancelled hx queued hsame => simp

end Exclusive

/-- A new subscription is held by nobody. -/
theorem exclusive_of_fresh {d : Chronicle R C} {x : Deed R C} {s : SubscriptionRef}
    {sub : Subscription R C} (hnone : d.hub.subscription? s = none)
    (hfresh : Fresh d.hub x.action s sub) : Exclusive (x :: d) s sub := by
  have hnobody : ∀ t, ¬ Holds t s (x :: d) := by
    rintro t (⟨-, k, hr⟩ | ⟨-, ht⟩)
    · have hmem := List.mem_of_head? (Action.head_of_retrieves hr).2
      obtain ⟨sub', hs'⟩ := d.past.queueSound.subscription?_of_mem hmem
      simp [hub] at hnone
      simp [hnone] at hs'
    · obtain ⟨sub', hs'⟩ := subscription?_of_holds ht
      simp [hnone] at hs'
  exact
    { unique := fun ht => absurd ht (hnobody _)
      of_held := fun ht => absurd ht (hnobody _)
      of_queued := fun hq => by simp [hfresh.queued_eq] at hq }

/-! ## Runs -/

/-- In every run in which subscriptions are reset by those who hold them, holding is exclusive. -/
theorem Careful.exclusive {d : Chronicle R C} (hd : d.Careful) {s : SubscriptionRef}
    {sub : Subscription R C} (hs : d.hub.subscription? s = some sub) : Exclusive d s sub := by
  induction d generalizing sub with
  | nil => simp [hub, History.hub] at hs
  | cons x d ih =>
    obtain ⟨hcareful, hbefore⟩ := hd
    rcases subscription?_of_apply hs with ⟨before, hwas, hc⟩ | ⟨hnone, hfresh⟩
    · by_cases hr : ∃ k, x.action.retrieves (hub d) k = some s
      · obtain ⟨k, hk⟩ := hr
        exact (ih hbefore hwas).of_retrieves hwas hk hs
      · exact (ih hbefore hwas).of_change (hcareful s) (fun k hk => hr ⟨k, hk⟩) hc
    · exact exclusive_of_fresh hnone hfresh

end Chronicle

end PathWatch
