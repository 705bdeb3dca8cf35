import Mathlib
import PathWatch.Proofs.Queue.Sound
import PathWatch.Proofs.Run.Lasting
/-!
# The order of the queue

Nothing is lost, doubled or reordered between the signals and the retrievals: what was retrieved,
followed by what is queued, is what was appended. A closed service stays closed and empty.
-/

namespace PathWatch

variable {R C : Type}

/-! ## One action -/

/-- What is retrieved was at the head of the queue of an open service. -/
theorem Action.head_of_retrieves {a : Action R C} {h : Hub R C} {k : ServiceRef}
    {s : SubscriptionRef} (hr : a.retrieves h k = some s) :
    h.isOpen k = true ∧ (h.queue k).head? = some s := by
  have of_poll : ∀ k', (Action.poll k' : Action R C).retrieves h k = some s →
      h.isOpen k = true ∧ (h.queue k).head? = some s := by
    intro k' hpoll
    rw [retrieves_poll] at hpoll
    split at hpoll
    · rename_i hk
      obtain ⟨rfl, hopen⟩ := hk
      exact ⟨hopen, hpoll⟩
    · simp at hpoll
  cases a with
  | poll k' => exact of_poll k' hr
  | pollTimeout k' endless => exact of_poll k' (retrieves_pollTimeout h k' k endless ▸ hr)
  | take k' => exact of_poll k' (retrieves_take h k' k ▸ hr)
  | _ => simp [retrieves] at hr

variable [BEq C]

/-- What an action retrieves comes from the front of the queue, what it appends goes to the end, and
the rest keeps its order, as long as the service is open. -/
theorem ServiceChange.retrieves_append_queue {h : Hub R C} {a : Action R C} {k : ServiceRef}
    {v v' : NotificationService} (hc : ServiceChange h a k v v') (hv : h.service? k = some v)
    (hv' : (a.apply h).service? k = some v') (hopen : v'.isOpen = true) :
    (a.retrieves h k).toList ++ v'.queue = v.queue ++ a.appends h k := by
  have happends : a.appends h k = v'.queue.drop v.queue.length := by
    rw [Action.appends, Hub.queue_of_service? hv, Hub.queue_of_service? hv']
  rw [happends]
  cases hc with
  | kept handles hretrieves hregisters => simp [hretrieves]
  | registered hwas hregisters hretrieves => simp [hretrieves]
  | appended s ha hwas =>
    have hnone : a.retrieves h k = none := by rcases ha with rfl | rfl <;> rfl
    simp [hnone]
  | retrieved s rest hwas hqueue hretrieves => simp [hretrieves, hqueue]
  | struck live ha =>
    have hnone : a.retrieves h k = none := by
      cases a <;> first | rfl | simp [Action.strikes] at ha
    simp [hnone]
  | closed live ha hlive hwas => simp at hopen

/-! ## Runs -/

namespace History

theorem queueSound (past : History R C) : past.hub.QueueSound := by
  induction past with
  | nil => exact Hub.QueueSound.empty
  | cons a past ih => exact ih.apply a

/-- Before a service is made, nothing is retrieved from it and nothing is appended to its queue. -/
theorem retrieved_eq_nil (past : History R C) {k : ServiceRef} (hk : past.hub.services.size ≤ k) :
    past.retrieved k = [] ∧ past.appended k = [] := by
  induction past with
  | nil => exact ⟨rfl, rfl⟩
  | cons a past ih =>
    obtain ⟨hretrieved, happended⟩ := ih ((size_services_le_apply (hub past) a).trans hk)
    have hafter : (a.apply (hub past)).service? k = none := by
      by_contra hthere
      obtain ⟨v, hv⟩ := Option.ne_none_iff_exists'.mp hthere
      exact absurd (Hub.lt_size_of_service? hv) (Nat.not_lt.mpr hk)
    have hnone : a.retrieves (hub past) k = none := by
      by_contra hthere
      obtain ⟨s, hs⟩ := Option.ne_none_iff_exists'.mp hthere
      obtain ⟨v, hv, -⟩ := Hub.service?_of_isOpen (Action.head_of_retrieves hs).1
      have hlt := (Hub.lt_size_of_service? hv).trans_le (size_services_le_apply (hub past) a)
      exact absurd hlt (Nat.not_lt.mpr hk)
    refine ⟨?_, ?_⟩
    · rw [retrieved, hretrieved, hnone]
      rfl
    · rw [appended, happended, Action.appends, Hub.queue_of_service?_eq_none hafter, List.drop_nil]
      rfl

/-- As long as the service is open, what was retrieved, followed by what is queued, is what was
appended. -/
theorem retrieved_append_queue (past : History R C) {k : ServiceRef} {v : NotificationService}
    (hv : past.hub.service? k = some v) (hopen : v.isOpen = true) :
    past.retrieved k ++ v.queue = past.appended k := by
  induction past generalizing v with
  | nil => simp [hub] at hv
  | cons a past ih =>
    -- An old service continues the equation by one action; a new one has no history.
    rcases service?_apply hv with ⟨w, hw, hc⟩ | ⟨rfl, config, rfl, rfl⟩
    · have hstep := hc.retrieves_append_queue hw hv hopen
      rw [retrieved, appended, ← ih hw (hc.isOpen_of_isOpen hopen), List.append_assoc, hstep,
        List.append_assoc]
    · obtain ⟨hretrieved, happended⟩ := retrieved_eq_nil past (Nat.le_refl _)
      have hqueue : (Action.apply (.withConfig config) (hub past)).queue _ = [] :=
        Hub.queue_of_service? hv
      rw [retrieved, appended, hretrieved, happended, Action.appends, hqueue, List.drop_nil]
      rfl

/-- Once a service is closed it stays so, its queue stays empty, and no subscription of it is
flagged again. -/
theorem closed_forever (past : History R C) {k : ServiceRef} {v : NotificationService}
    (hv : past.hub.service? k = some v) (hclosed : v.isOpen = false) (later : History R C) :
    (hub (later ++ past)).isOpen k = false ∧ (hub (later ++ past)).queue k = [] ∧
      ∀ s sub, (hub (later ++ past)).subscription? s = some sub → sub.owner = some k →
        sub.queued = false := by
  have hsize := Hub.lt_size_of_service? hv
  have hqueue : ∀ {g : Hub R C}, g.QueueSound → g.isOpen k = false → g.queue k = [] := by
    intro g hg hopen
    rcases hw : g.service? k with _ | w
    · exact Hub.queue_of_service?_eq_none hw
    · rw [Hub.isOpen_of_service? hw] at hopen
      rw [Hub.queue_of_service? hw]
      exact hg.queue_eq_nil hw hopen
  have hopen : ∀ later, (hub (later ++ past)).isOpen k = false :=
    past.isOpen_append hsize ((Hub.isOpen_of_service? hv).trans hclosed)
  refine ⟨hopen later, hqueue (queueSound (later ++ past)) (hopen later), ?_⟩
  induction later with
  | nil =>
    intro s sub hs howner
    have hiff := past.queueSound.queued_iff_mem hv hs howner
    simpa [past.queueSound.queue_eq_nil hv hclosed] using hiff
  | cons a later ih =>
    intro s sub' hs' howner
    rcases subscription?_of_apply hs' with ⟨sub, hs, hc⟩ | ⟨-, hfresh⟩
    · -- No flag is set while the owner is closed.
      have hbefore := hc.owner_eq ▸ howner
      have hflag := ih s sub hs hbefore
      have hout : (hub (later ++ past)).ownerIsOpen sub = false := by
        rw [Hub.ownerIsOpen_of_owner hbefore, hopen later]
      exact hc.queued_eq_false hflag hout
    · exact hfresh.queued_eq

/-- In every run, as long as a handle on a service is left: its queue has no repetitions and holds
the flagged subscriptions of the service and nothing else; while it is open, what was retrieved and
what is queued is what was appended, in this order; once it is closed, its queue is empty and no
subscription of it is flagged, now and ever after. -/
theorem queue_faithful (past : History R C) {k : ServiceRef} {v : NotificationService}
    (hv : past.hub.service? k = some v) :
    v.queue.Nodup ∧
      (∀ s sub, past.hub.subscription? s = some sub → sub.owner = some k →
        (sub.queued = true ↔ s ∈ v.queue)) ∧
      (∀ s ∈ v.queue, s ∈ past.registered k) ∧
      (v.isOpen = true → past.retrieved k ++ v.queue = past.appended k) ∧
      (v.isOpen = false → ∀ later : History R C,
        (hub (later ++ past)).isOpen k = false ∧ (hub (later ++ past)).queue k = [] ∧
          ∀ s sub, (hub (later ++ past)).subscription? s = some sub → sub.owner = some k →
            sub.queued = false) := by
  have hsound := past.queueSound
  refine ⟨hsound.nodup (Hub.front?_of_service? hv), ?_, ?_, past.retrieved_append_queue hv,
    past.closed_forever hv⟩
  · intro s sub hs howner
    exact hsound.queued_iff_mem hv hs howner
  · intro s hs
    exact (past.mem_registered_iff k s).mpr (hsound.exists_of_mem hv hs)

/-- Two subscriptions of one service are signaled, the first one is taken, posted to and reset: it
goes back behind the second one. -/
theorem queue_faithful_of_requeue :
    let past : History Nat Nat :=
      [.reset 0, .post 0 (.once .modify 7), .poll 0, .signal 1, .signal 0,
        .register 0 20 [.modify], .register 0 10 [.modify], .withConfig .standard]
    past.retrieved 0 = [0] ∧ past.hub.queue 0 = [1, 0] ∧ past.appended 0 = [0, 1, 0] ∧
      past.retrieved 0 ++ past.hub.queue 0 = past.appended 0 := by
  intro past
  refine ⟨rfl, rfl, rfl, ?_⟩
  obtain ⟨v, hv, hopen⟩ : ∃ v, past.hub.service? 0 = some v ∧ v.isOpen = true := ⟨_, rfl, rfl⟩
  rw [Hub.queue_of_service? hv]
  exact (queue_faithful past hv).2.2.2.1 hopen

end History

end PathWatch
