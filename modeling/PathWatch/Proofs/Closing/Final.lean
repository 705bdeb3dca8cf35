import Mathlib
import PathWatch.Proofs.Closing.Settled
import PathWatch.Proofs.Buffer.Drain
import PathWatch.Proofs.Queue.Holding
/-!
# Cancellation is final

Whatever happens after a subscription has been cancelled, it stays cancelled, no queue and no live
set gets it again, and its buffer is left as it is until it is drained.
-/

namespace PathWatch

variable {R C : Type} [BEq C]

/-! ## Live sets shrink -/

/-- Only what an action makes can come into a live set. -/
theorem mem_liveSubscriptions_of_apply {h : Hub R C} {a : Action R C} {k : ServiceRef}
    {s : SubscriptionRef} (hs : s ∈ (a.apply h).liveSubscriptions k) :
    s ∈ h.liveSubscriptions k ∨ s = h.subscriptions.size := by
  rcases hv' : (a.apply h).service? k with _ | v'
  · simp [Hub.liveSubscriptions, hv'] at hs
  · obtain ⟨id, hmem⟩ := (Hub.mem_liveSubscriptions hv' s).mp hs
    rcases mem_live_of_apply hv' hmem with ⟨v, hv, hbefore⟩ | ⟨v, -, -, hnow⟩
    · exact Or.inl ((Hub.mem_liveSubscriptions hv s).mpr ⟨id, hbefore⟩)
    · exact Or.inr (Prod.mk.inj hnow).2

/-! ## Queues -/

/-- Neither a signal nor a reset changes anything about a cancelled subscription. -/
theorem apply_of_cancelled {h : Hub R C} {s : SubscriptionRef} (hs : h.IsCancelled s)
    {a : Action R C} (ha : a = .signal s ∨ a = .reset s) : a.apply h = h := by
  obtain ⟨sub, hsub, hstate⟩ := hs
  rcases ha with rfl | rfl <;> simp [Action.apply, Hub.signal, Hub.reset, hsub, hstate]

/-- What an action makes of a queue: it takes entries from the front and puts entries to the end,
among them nothing that has been cancelled. -/
theorem queue_apply_of_cancelled {h : Hub R C} {s : SubscriptionRef} (hs : h.IsCancelled s)
    (a : Action R C) (k : ServiceRef) :
    ∃ n l, s ∉ l ∧ (a.apply h).queue k = (h.queue k ++ l).drop n := by
  have hemptied : (a.apply h).queue k = [] →
      ∃ n l, s ∉ l ∧ (a.apply h).queue k = (h.queue k ++ l).drop n := by
    intro hnil
    exact ⟨(h.queue k).length, [], by simp, by simp [hnil]⟩
  rcases hv' : (a.apply h).service? k with _ | v'
  · exact hemptied (Hub.queue_of_service?_eq_none hv')
  · rcases service?_apply hv' with ⟨v, hv, hc⟩ | ⟨-, config, -, rfl⟩
    · have hkept : v'.queue = v.queue →
          ∃ n l, s ∉ l ∧ (a.apply h).queue k = (h.queue k ++ l).drop n := by
        intro hsame
        rw [Hub.queue_of_service? hv', Hub.queue_of_service? hv, hsame]
        exact ⟨0, [], by simp, by simp⟩
      cases hc with
      | kept handles hretrieves hregisters => exact hkept rfl
      | registered hopen hregisters hretrieves => exact hkept rfl
      | appended s' ha hopen sub' hs' howner hqueued =>
        rw [Hub.queue_of_service? hv', Hub.queue_of_service? hv]
        refine ⟨0, [s'], ?_, rfl⟩
        intro hmem
        obtain rfl := List.mem_singleton.mp hmem
        -- Nothing has been done, so the queue cannot have grown.
        rw [apply_of_cancelled hs ha, hv] at hv'
        have hlength := congrArg (fun w => w.queue.length) (Option.some.inj hv')
        simp at hlength
      | retrieved s' rest hopen hqueue hretrieves =>
        rw [Hub.queue_of_service? hv', Hub.queue_of_service? hv, hqueue]
        exact ⟨1, [], by simp, by simp⟩
      | struck live ha => exact hkept rfl
      | closed live ha hlive hopen => exact hemptied (Hub.queue_of_service? hv')
    · exact hemptied (Hub.queue_of_service? hv')

/-- What has been cancelled is not put into a queue. -/
theorem not_mem_appends_of_cancelled {h : Hub R C} {s : SubscriptionRef} (hs : h.IsCancelled s)
    (a : Action R C) (k : ServiceRef) : s ∉ a.appends h k := by
  obtain ⟨n, l, hl, hqueue⟩ := queue_apply_of_cancelled hs a k
  rw [Action.appends, hqueue, List.drop_drop]
  intro hmem
  rw [Nat.add_comm, ← List.drop_drop, List.drop_left] at hmem
  exact hl (List.mem_of_mem_drop hmem)

/-- A cancelled subscription can be taken from a queue as long as it is there, and then it is there
no more. -/
theorem count_retrieves_le {h : Hub R C} (hh : h.QueueSound) {s : SubscriptionRef}
    (hs : h.IsCancelled s) (a : Action R C) (k : ServiceRef) :
    (a.retrieves h k).toList.count s + (if s ∈ (a.apply h).queue k then 1 else 0) ≤
      if s ∈ h.queue k then 1 else 0 := by
  by_cases hr : a.retrieves h k = some s
  · obtain ⟨hopen, hhead⟩ := Action.head_of_retrieves hr
    obtain ⟨rest, hqueue⟩ := List.head?_eq_some_iff.mp hhead
    obtain ⟨v, hv, -⟩ := Hub.service?_of_isOpen hopen
    have hnodup : (s :: rest).Nodup := by
      rw [← hqueue, Hub.queue_of_service? hv]
      exact hh.nodup (Hub.front?_of_service? hv)
    have hgone : s ∉ (a.apply h).queue k := by
      rw [Action.apply_of_retrieves hr, (Hub.poll_of_queue_eq_cons hopen hqueue).2]
      exact (List.nodup_cons.mp hnodup).1
    simp [hr, hgone, hqueue]
  · have hnone : (a.retrieves h k).toList.count s = 0 := by
      rw [List.count_eq_zero, Option.mem_toList]
      exact hr
    obtain ⟨n, l, hl, hqueue⟩ := queue_apply_of_cancelled hs a k
    have hbefore : s ∈ (a.apply h).queue k → s ∈ h.queue k := by
      intro hmem
      rw [hqueue] at hmem
      exact (List.mem_append.mp (List.mem_of_mem_drop hmem)).resolve_right hl
    rw [hnone, Nat.zero_add]
    split_ifs with hafter hmem
    · exact Nat.le_refl 1
    · exact absurd (hbefore hafter) hmem
    · exact Nat.zero_le 1
    · exact Nat.le_refl 0

/-! ## Runs -/

/-- A subscription that has been cancelled and struck from every live set. -/
structure Hub.Finished (h : Hub R C) (s : SubscriptionRef) : Prop where
  cancelled : h.IsCancelled s
  unlisted : ∀ k, s ∉ h.liveSubscriptions k

/-- No action brings back what is finished. -/
theorem Hub.Finished.apply {h : Hub R C} {s : SubscriptionRef} (hs : h.Finished s)
    (a : Action R C) : (a.apply h).Finished s := by
  obtain ⟨sub, hsub, hstate⟩ := hs.cancelled
  obtain ⟨sub', hsub', hc⟩ := subscription?_apply hsub a
  refine ⟨⟨sub', hsub', hc.state_eq_cancelled hstate⟩, fun k hmem => ?_⟩
  rcases mem_liveSubscriptions_of_apply hmem with hbefore | hnew
  · exact hs.unlisted k hbefore
  · exact absurd (Hub.lt_size_of_subscription? hsub) (by simp [hnew])

namespace History

variable {past : History R C} {s : SubscriptionRef} {sub : Subscription R C}

theorem finished_append (hs : past.hub.Finished s) (later : History R C) :
    (hub (later ++ past)).Finished s := by
  induction later with
  | nil => exact hs
  | cons a later ih => exact ih.apply a

/-- The buffer of what is cancelled is kept until it is drained. -/
theorem buffer_append (hs : past.hub.subscription? s = some sub) (hstate : sub.state = .cancelled)
    (later : History R C) :
    ∃ sub', (hub (later ++ past)).subscription? s = some sub' ∧ sub'.state = .cancelled ∧
      sub'.buffer = if later.any (·.drains s) then [] else sub.buffer := by
  induction later with
  | nil => exact ⟨sub, hs, hstate, rfl⟩
  | cons a later ih =>
    obtain ⟨before, hbefore, hcancelled, hbuffer⟩ := ih
    obtain ⟨after, hafter, hc⟩ := subscription?_apply hbefore a
    have hposts : a.posts (hub (later ++ past)) s = [] := by
      simp [Action.posts, hbefore, hcancelled]
    refine ⟨after, hafter, hc.state_eq_cancelled hcancelled, ?_⟩
    rw [hc.buffer_eq hbefore, hposts, hbuffer, List.any_cons]
    cases a.drains s <;> simp

/-- A cancelled subscription is retrieved once more if it is queued, and never if it is not. -/
theorem count_retrieved_append_le (hs : past.hub.Finished s) (later : History R C)
    (k : ServiceRef) :
    (retrieved k (later ++ past)).count s + (if s ∈ (hub (later ++ past)).queue k then 1 else 0) ≤
      (retrieved k past).count s + if s ∈ past.hub.queue k then 1 else 0 := by
  induction later with
  | nil => exact Nat.le_refl _
  | cons a later ih =>
    have hstep := count_retrieves_le (queueSound (later ++ past))
      (finished_append hs later).cancelled a k
    rw [List.cons_append, retrieved, List.count_append, hub]
    omega

/-- Cancellation is final. In every run of whole calls, once a subscription is cancelled, whatever
is done later and in whatever order: it stays cancelled; every reset of it fails; no queue gets it
again, and no live set lists it; it is retrieved once more if it is queued, from its own service,
and never if it is not; and the first drain returns its buffer as it is, and every further one
nothing. -/
theorem cancellation_final (hwhole : ∀ a ∈ past, a.whole = true)
    (hs : past.hub.subscription? s = some sub) (hstate : sub.state = .cancelled)
    (later : History R C) :
    (∃ sub', (hub (later ++ past)).subscription? s = some sub' ∧ sub'.state = .cancelled ∧
        sub'.buffer = if later.any (·.drains s) then [] else sub.buffer) ∧
      ((hub (later ++ past)).reset s).value = false ∧
      (∀ (a : Action R C) (k : ServiceRef), s ∉ a.appends (hub (later ++ past)) k) ∧
      (∀ k, s ∉ (hub (later ++ past)).liveSubscriptions k) ∧
      (∀ k, (retrieved k (later ++ past)).count s ≤ (retrieved k past).count s +
        if sub.owner = some k ∧ sub.queued = true then 1 else 0) ∧
      ((hub (later ++ past)).drain s).value =
        if later.any (·.drains s) then [] else sub.buffer := by
  have hcancelled : past.hub.IsCancelled s := ⟨sub, hs, hstate⟩
  have hfinished : past.hub.Finished s :=
    ⟨hcancelled, (past.settled hwhole).not_mem_liveSubscriptions hcancelled⟩
  have hlater := finished_append hfinished later
  obtain ⟨sub', hs', hstate', hbuffer⟩ := buffer_append hs hstate later
  refine ⟨⟨sub', hs', hstate', hbuffer⟩, ?_, not_mem_appends_of_cancelled hlater.cancelled,
    hlater.unlisted, fun k => ?_, ?_⟩
  · rw [← Bool.not_eq_true, Hub.reset_value hs']
    simp [hstate']
  · have hcount := count_retrieved_append_le hfinished later k
    -- An entry of a queue belongs to the service and is flagged.
    have hqueue : s ∈ past.hub.queue k → sub.owner = some k ∧ sub.queued = true :=
      fun hmem => ⟨past.queueSound.owner_eq hs hmem, past.queueSound.queued_of_mem hs hmem⟩
    by_cases hmem : s ∈ past.hub.queue k
    · rw [if_pos hmem] at hcount
      rw [if_pos (hqueue hmem)]
      omega
    · rw [if_neg hmem] at hcount
      omega
  · rw [← hbuffer]
    simp [Hub.drain, hs']

/-- A subscription that is queued and holds an event is cancelled. It is retrieved once, and before
it is drained it is posted to, signaled and reset in vain. -/
theorem cancellation_final_of_queued :
    let past : History Nat Nat :=
      [.cancel 0, .signal 0, .post 0 (.once .modify 7), .register 0 10 [.modify],
        .withConfig .standard]
    let later : History Nat Nat :=
      [.reset 0, .signal 0, .post 0 (.once .modify 8), .poll 0]
    retrieved 0 past = [] ∧ retrieved 0 (later ++ past) = [0] ∧
      (retrieved 0 (later ++ past)).count 0 ≤ 1 ∧ 0 ∉ (hub (later ++ past)).liveSubscriptions 0 ∧
      ((hub (later ++ past)).drain 0).value = [⟨.modify, 1, some 7⟩] := by
  intro past later
  have hwhole : ∀ a ∈ past, a.whole = true := by simp [past, Action.whole]
  obtain ⟨sub, hs, howner, hstate, hqueued, hbuffer⟩ : ∃ sub, past.hub.subscription? 0 = some sub ∧
      sub.owner = some 0 ∧ sub.state = .cancelled ∧ sub.queued = true ∧
        sub.buffer = [⟨.modify, 1, some 7⟩] := ⟨_, rfl, rfl, rfl, rfl, rfl⟩
  obtain ⟨-, -, -, hlive, hcount, hdrain⟩ := cancellation_final hwhole hs hstate later
  have honce := hcount 0
  rw [if_pos ⟨howner, hqueued⟩] at honce
  rw [hbuffer] at hdrain
  exact ⟨rfl, rfl, honce, hlive 0, hdrain⟩

end History

end PathWatch
