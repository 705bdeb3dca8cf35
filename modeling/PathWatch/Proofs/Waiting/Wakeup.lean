import Mathlib
import PathWatch.Proofs.Waiting.Hall
/-!
# No wakeup is lost

A consumer sleeps beside a queue with entries only as long as somebody is on the way: the producer
who has yet to wake a consumer, or a consumer who was woken and has yet to look. A consumer sleeps
beside a closed service only until the one who has closed it wakes everybody.
-/

namespace PathWatch

variable {R C : Type} [BEq C]

/-! ## Queues -/

namespace Hub.QueueSound

variable {h : Hub R C} {k : ServiceRef}

/-- A call that looks at the queue takes its head. -/
theorem queue_apply_action (hh : h.QueueSound) (c : Call) (late : Bool) :
    ((c.action k late : Action R C).apply h).queue k = (h.queue k).tail := by
  rw [Call.apply_action, queue, queue, service?_poll]
  rcases hv : h.service? k with _ | v
  · rfl
  · rcases hopen : v.isOpen with _ | _
    · simp [hopen, hh.queue_eq_nil hv hopen]
    · simp [hopen]

omit [BEq C] in
theorem queue_shut (hh : h.QueueSound) : (h.shut k).2.queue k = [] := by
  rw [queue, service?_shut]
  rcases hv : h.service? k with _ | v
  · rfl
  · rcases hopen : v.isOpen with _ | _
    · simp [hopen, hh.queue_eq_nil hv hopen]
    · simp [hopen]

end Hub.QueueSound

omit [BEq C] in
/-- Who finds a service closed leaves everything as it is. -/
theorem Hub.shut_of_fst_eq_false {h : Hub R C} {k : ServiceRef} (hk : (h.shut k).1 = false) :
    (h.shut k).2 = h := by
  unfold shut at hk ⊢
  split
  · rfl
  · split <;> simp_all

/-- A queue grows by what is appended, at most. -/
theorem Action.length_queue_apply_le (a : Action R C) (h : Hub R C) (k : ServiceRef) :
    ((a.apply h).queue k).length ≤ (h.queue k).length + (a.appends h k).length := by
  rw [appends, List.length_drop]
  omega

omit [BEq C] in
/-- Only closing closes. -/
theorem ServiceChange.isOpen_eq {h : Hub R C} {a : Action R C} {k : ServiceRef}
    {v v' : NotificationService} (hc : ServiceChange h a k v v') (hshut : a ≠ .shut k)
    (hclose : a ≠ .close k) : v'.isOpen = v.isOpen := by
  cases hc with
  | closed live ha => exact absurd ha (by simp [hshut, hclose])
  | _ => rfl

/-! ## The invariant -/

namespace Hall

variable {k : ServiceRef} {may : Thread → Action R C → Prop} {σ τ : Hall R C}

theorem queueSound (σ : Hall R C) : σ.hub.QueueSound :=
  σ.deeds.past.queueSound

/-- Whoever sleeps will be woken in time. -/
structure Attended (k : ServiceRef) (σ : Hall R C) : Prop where
  queue_le : σ.parked ≠ [] → (σ.hub.queue k).length ≤ σ.notices + σ.woken.length
  of_closed : ∀ v, σ.hub.service? k = some v → v.isOpen = false →
    0 < σ.broadcasts ∨ σ.parked = []

/-- The second half of the invariant does not mind an action that closes nothing. -/
theorem Attended.of_closed_apply (hσ : Attended k σ) {a : Action R C} (hshut : a ≠ .shut k)
    (hclose : a ≠ .close k) {v : NotificationService}
    (hv : (a.apply σ.hub).service? k = some v) (hclosed : v.isOpen = false) :
    0 < σ.broadcasts ∨ σ.parked = [] := by
  rcases service?_apply hv with ⟨w, hw, hc⟩ | ⟨-, config, -, rfl⟩
  · exact hσ.of_closed w hw ((hc.isOpen_eq hshut hclose).symm.trans hclosed)
  · simp at hclosed

/-- Who has to wait finds the service open and its queue empty, so parking does no harm. -/
theorem attended_of_waits {c : Call} {late : Bool} (hc : c.Waits σ.hub k late)
    (hτ : τ.deeds = σ.deeds) : Attended k τ := by
  obtain ⟨hopen, hqueue⟩ := hc.queue_eq_nil
  have hhub : τ.hub = σ.hub := by rw [hub, hub, hτ]
  constructor
  · intro _
    simp [hhub, hqueue]
  · intro v hv hclosed
    rw [hhub] at hv
    simp [Hub.isOpen_of_service? hv, hclosed] at hopen

omit [BEq C] in
theorem action_ne (c : Call) (late : Bool) :
    (c.action k late : Action R C) ≠ .shut k ∧ (c.action k late : Action R C) ≠ .close k := by
  cases c <;> simp [Call.action]

omit [BEq C] in
/-- After a broadcast nobody sleeps. -/
theorem parked_rouse (σ : Hall R C) (n : Nat) :
    parked { σ with waiters := σ.waiters.map Waiter.rouse, broadcasts := n } = [] := by
  rw [parked, List.filter_eq_nil_iff]
  intro w hw
  obtain ⟨u, -, rfl⟩ := List.mem_map.mp hw
  rcases u with ⟨t, c, _ | late⟩ <;> simp [Waiter.rouse]

/-- Waking somebody does no harm: whoever slept counts as woken from now on. -/
theorem Attended.wake (hσ : Attended k σ) {l r : List Waiter} {t : Thread} {c : Call} {p : Pause}
    {late : Bool} (hw : σ.waiters = l ++ ⟨t, c, p⟩ :: r)
    (hwaiters : τ.waiters = l ++ ⟨t, c, .woken late⟩ :: r) (hdeeds : τ.deeds = σ.deeds)
    (hbroadcasts : τ.broadcasts = σ.broadcasts)
    (hnotices : σ.notices ≤ τ.notices + if p = .parked then 1 else 0) : Attended k τ := by
  have hhub : τ.hub = σ.hub := by rw [hub, hub, hdeeds]
  have hnobody : σ.parked = [] → τ.parked = [] := by
    simp [parked, hw, hwaiters]
    tauto
  have hwoken : τ.woken.length = σ.woken.length + if p = .parked then 1 else 0 := by
    rcases p with _ | late <;> simp [woken, hw, hwaiters]
    omega
  constructor
  · intro hparked
    have hbefore := hσ.queue_le (mt hnobody hparked)
    rw [hhub]
    omega
  · intro v hv hclosed
    rw [hhub] at hv
    rw [hbroadcasts]
    exact (hσ.of_closed v hv hclosed).imp_right hnobody

/-- Every step keeps everybody attended. -/
theorem Attended.step (hσ : Attended k σ) (hstep : Step k may σ τ) : Attended k τ := by
  cases hstep with
  | act t a hmay hfree ha =>
    refine ⟨fun hparked => ?_, fun v hv hclosed => ?_⟩
    · have hbefore := hσ.queue_le hparked
      have hgrows := a.length_queue_apply_le σ.hub k
      show ((a.apply σ.hub).queue k).length ≤
        σ.notices + (a.appends σ.hub k).length + σ.woken.length
      omega
    · refine hσ.of_closed_apply ?_ ?_ hv hclosed <;> rintro rfl <;> exact ha rfl
  | pass t c hmay hfree hc =>
    refine ⟨fun hparked => ?_, fun v hv hclosed => ?_⟩
    · have hbefore := hσ.queue_le hparked
      show (((c.action k false).apply σ.hub).queue k).length ≤ σ.notices + σ.woken.length
      rw [σ.queueSound.queue_apply_action, List.length_tail]
      omega
    · exact hσ.of_closed_apply (action_ne c false).1 (action_ne c false).2 hv hclosed
  | park t c hmay hfree hc => exact attended_of_waits hc rfl
  | leave l r t c late hw hc =>
    refine ⟨fun hparked => ?_, fun v hv hclosed => ?_⟩
    · -- The consumer who stops counting as woken takes an entry with it, if there is one.
      have hparked' : σ.parked ≠ [] := by simpa [parked, hw] using hparked
      have hbefore := hσ.queue_le hparked'
      have hwoken : σ.woken.length = (woken { σ with waiters := l ++ r }).length + 1 := by
        simp [woken, hw]
        omega
      show (((c.action k late).apply σ.hub).queue k).length ≤
        σ.notices + (woken { σ with waiters := l ++ r }).length
      rw [σ.queueSound.queue_apply_action, List.length_tail]
      omega
    · have hbefore := hσ.of_closed_apply (action_ne c late).1 (action_ne c late).2 hv hclosed
      simpa [parked, hw] using hbefore
  | repark l r t c late hw hc => exact attended_of_waits hc rfl
  | notify l r t c n hn hw => exact hσ.wake hw rfl rfl rfl (by simp [hn])
  | notifyNobody n hn hw =>
    exact ⟨fun hparked => absurd hw hparked, fun v hv hclosed => Or.inr hw⟩
  | stir l r t c hw => exact hσ.wake hw rfl rfl rfl (Nat.le_add_right _ _)
  | expire l r t c p hw hc => exact hσ.wake hw rfl rfl rfl (Nat.le_add_right _ _)
  | shut t hmay hfree =>
    refine ⟨fun _ => ?_, fun v hv hclosed => ?_⟩
    · show ((σ.hub.shut k).2.queue k).length ≤ _
      simp [σ.queueSound.queue_shut]
    -- Shutting an open service owes a broadcast; shutting a closed one changes nothing.
    · rcases hflip : (σ.hub.shut k).1 with _ | _
      · have hsame : (σ.hub.shut k).2 = σ.hub := Hub.shut_of_fst_eq_false hflip
        have hv' : (σ.hub.shut k).2.service? k = some v := hv
        rw [hsame] at hv'
        exact (hσ.of_closed v hv' hclosed).imp_left fun hpos => Nat.add_pos_left hpos _
      · exact Or.inl (by simp)
  | broadcast n hn =>
    have hnobody := parked_rouse σ n
    exact ⟨fun hparked => absurd hnobody hparked, fun v hv hclosed => Or.inr hnobody⟩

theorem Attended.start : Attended k ({} : Hall R C) where
  queue_le hparked := absurd rfl hparked
  of_closed _ hv _ := by simp [hub, Chronicle.hub, History.hub] at hv

/-- In everything that can be reached, everybody is attended. -/
theorem Reachable.attended (hσ : Reachable k may σ) : Attended k σ := by
  induction hσ with
  | start => exact .start
  | step hσ hstep ih => exact ih.step hstep

/-! ## After closing -/

/-- A step is a deed, or changes nothing in the hub. -/
theorem Step.hub_eq (hstep : Step k may σ τ) :
    τ.hub = σ.hub ∨ ∃ a : Action R C, τ.hub = a.apply σ.hub := by
  cases hstep with
  | act t a hmay hfree ha => exact Or.inr ⟨a, rfl⟩
  | pass t c hmay hfree hc => exact Or.inr ⟨_, rfl⟩
  | leave l r t c late hw hc => exact Or.inr ⟨_, rfl⟩
  | shut t hmay hfree => exact Or.inr ⟨.shut k, rfl⟩
  | _ => exact Or.inl rfl

/-- A service that has been closed stays so. -/
theorem closed_of_steps (hk : k < σ.hub.services.size) (hclosed : σ.hub.isOpen k = false)
    (hsteps : Relation.ReflTransGen (Step k may) σ τ) :
    k < τ.hub.services.size ∧ τ.hub.isOpen k = false := by
  induction hsteps with
  | refl => exact ⟨hk, hclosed⟩
  | tail _ hstep ih =>
    rcases hstep.hub_eq with hsame | ⟨a, ha⟩
    · rwa [hsame]
    · rw [ha]
      exact ⟨ih.1.trans_le (size_services_le_apply _ a), isOpen_apply_eq_false ih.1 ih.2 a⟩

/-- Nobody parks beside a service that is not open. -/
theorem Step.parked_sublist (hstep : Step k may σ τ) (hclosed : σ.hub.isOpen k = false) :
    τ.parked.Sublist σ.parked := by
  cases hstep with
  | park t c hmay hfree hc => simp [hc.queue_eq_nil.1] at hclosed
  | repark l r t c late hw hc => simp [hc.queue_eq_nil.1] at hclosed
  | leave l r t c late hw hc => simp [parked, hw]
  | notify l r t c n hn hw => simp [parked, hw]
  | stir l r t c hw => simp [parked, hw]
  | expire l r t c p hw hc =>
    rcases p with _ | late <;> simp [parked, hw]
  | broadcast n hn =>
    rw [parked_rouse σ n]
    exact List.nil_sublist _
  | _ => exact List.Sublist.refl _

/-! ## No lost wakeup -/

/-- In every run, whatever the threads do and in whatever order: while somebody sleeps beside an
open service, its queue has no more entries than there are notifications still to come and consumers
who have been woken and have yet to look. Once the service is closed, a broadcast is still to come
or nobody sleeps, and nobody starts to sleep any more. -/
theorem no_lost_wakeup (hσ : Reachable k may σ) :
    (σ.hub.isOpen k = true → σ.parked ≠ [] →
      (σ.hub.queue k).length ≤ σ.notices + σ.woken.length) ∧
    (∀ v, σ.hub.service? k = some v → v.isOpen = false →
      (0 < σ.broadcasts ∨ σ.parked = []) ∧
        ∀ τ τ', Relation.ReflTransGen (Step k may) σ τ → Step k may τ τ' →
          τ'.parked.Sublist τ.parked) := by
  have hattended := hσ.attended
  refine ⟨fun _ => hattended.queue_le, fun v hv hclosed => ⟨hattended.of_closed v hv hclosed, ?_⟩⟩
  intro τ τ' hsteps hstep
  have hnow : σ.hub.isOpen k = false := (Hub.isOpen_of_service? hv).trans hclosed
  have hthen := closed_of_steps (Hub.lt_size_of_service? hv) hnow hsteps
  exact hstep.parked_sublist hthen.2

/-- Two consumers sleep when two subscriptions are signaled, and one of the two wakes because its
time is up; then the service is closed. -/
theorem no_lost_wakeup_of_two_sleepers :
    let run : List (Deed Nat Nat) :=
      [⟨0, .signal 1⟩, ⟨0, .signal 0⟩, ⟨0, .register 0 20 [.modify]⟩,
        ⟨0, .register 0 10 [.modify]⟩, ⟨0, .withConfig .standard⟩]
    let asleep : Hall Nat Nat :=
      { deeds := run
        waiters := [⟨2, .pollTimeout false, .woken true⟩, ⟨1, .take, .parked⟩]
        notices := 2 }
    let closed : Hall Nat Nat :=
      { asleep with deeds := ⟨0, .shut 0⟩ :: run, broadcasts := 1 }
    (asleep.hub.queue 0).length = 2 ∧ (asleep.hub.queue 0).length ≤ 2 + 1 ∧
      (0 < closed.broadcasts ∨ closed.parked = []) := by
  intro run asleep closed
  have hasleep : Reachable 0 Anything asleep := by
    have h₀ : Reachable 0 Anything ({} : Hall Nat Nat) := .start
    have h₁ := h₀.step (.act 0 (.withConfig .standard) trivial (by decide) trivial)
    have h₂ := h₁.step (.act 0 (.register 0 10 [.modify]) trivial (by decide) trivial)
    have h₃ := h₂.step (.act 0 (.register 0 20 [.modify]) trivial (by decide) trivial)
    have h₄ := h₃.step (.park 1 .take trivial (by decide) rfl)
    have h₅ := h₄.step (.park 2 (.pollTimeout false) trivial (by decide) rfl)
    have h₆ := h₅.step (.act 0 (.signal 0) trivial (by decide) trivial)
    have h₇ := h₆.step (.act 0 (.signal 1) trivial (by decide) trivial)
    exact h₇.step (.expire [] _ 2 _ _ rfl rfl)
  have hclosed : Reachable 0 Anything closed := hasleep.step (.shut 0 trivial (by decide))
  refine ⟨rfl, (no_lost_wakeup hasleep).1 rfl (by decide), ?_⟩
  obtain ⟨v, hv, hshut⟩ : ∃ v, closed.hub.service? 0 = some v ∧ v.isOpen = false := ⟨_, rfl, rfl⟩
  exact ((no_lost_wakeup hclosed).2 v hv hshut).1

end Hall

end PathWatch
