import Mathlib
import PathWatch.Proofs.Queue.Holding
/-!
# Resetting what is still queued

A reset looks at the state and the buffer of a subscription only. One that is drained and reset
while it is still queued becomes ready and stays in the queue, and the next retrieval hands it out
although nobody has signaled it again. This is the only way: as long as no reset makes ready what is
queued, the queue holds what is signaled or cancelled.
-/

namespace PathWatch

variable {R C : Type} [BEq C]

/-! ## Kinds of resets -/

/-- A reset makes the subscription ready. -/
def Readies (s : SubscriptionRef) (h : Hub R C) (a : Action R C) : Prop :=
  a = .reset s ∧ ∃ sub, h.subscription? s = some sub ∧ sub.state = .signaled ∧ sub.buffer = []

/-- A reset makes the subscription ready while it is in a queue. -/
def ReadiesEarly (s : SubscriptionRef) (h : Hub R C) (a : Action R C) : Prop :=
  a = .reset s ∧ ∃ sub, h.subscription? s = some sub ∧ sub.state = .signaled ∧ sub.buffer = [] ∧
    sub.queued = true

/-! ## The invariant -/

/-- Where a flag on a subscription that is not signaled comes from: it was made ready while it was
flagged, and has not been signaled since. -/
structure Prompt (past : History R C) (s : SubscriptionRef) (sub : Subscription R C) : Prop where
  /-- What a reset has made ready is not signaled before the next signal. -/
  not_signaled : past.Since (Readies s) (Signals s) → sub.state ≠ .signaled
  of_ready : sub.queued = true → sub.state = .ready → past.Since (ReadiesEarly s) (Signals s)
  of_readied : sub.queued = true → past.Since (Readies s) (Signals s) →
    past.Since (ReadiesEarly s) (Signals s)

variable {past : History R C} {a : Action R C} {s : SubscriptionRef} {sub sub' : Subscription R C}

/-- Who neither signals nor resets adds nothing to the story of a reset. -/
theorem since_reset_cons (past : History R C) {p : Hub R C → Action R C → Prop}
    (hp : ∀ h a, p h a → a = .reset s) (hsignal : a ≠ .signal s) (hreset : a ≠ .reset s) :
    History.Since p (Signals s) (a :: past) ↔ past.Since p (Signals s) := by
  have hnot : ¬ p past.hub a := fun h => hreset (hp _ _ h)
  simp [History.Since, Signals, hsignal, hnot]

/-- After a signal no reset counts any more. -/
theorem not_since_reset_signal {p : Hub R C → Action R C → Prop}
    (hp : ∀ h a, p h a → a = .reset s) :
    ¬ History.Since p (Signals s) (.signal s :: past) := by
  rintro (hnow | ⟨hnot, -⟩)
  · exact absurd (hp _ _ hnow) (by simp)
  · exact hnot rfl

namespace Prompt

/-- A new subscription is not flagged. -/
theorem of_fresh (hfresh : Fresh past.hub a s sub) : Prompt (a :: past) s sub where
  not_signaled _ := by simp [hfresh.state_eq]
  of_ready hq := by simp [hfresh.queued_eq] at hq
  of_readied hq := by simp [hfresh.queued_eq] at hq

/-- An action that neither signals nor resets sets no flag, and makes nothing ready. -/
theorem of_quiet (hprompt : Prompt past s sub) (hsignal : a ≠ .signal s) (hreset : a ≠ .reset s)
    (hstate : sub'.state = sub.state ∨ sub'.state = .cancelled)
    (hqueued : sub'.queued = true → sub.queued = true) : Prompt (a :: past) s sub' := by
  have hreadies := since_reset_cons past (fun h b (hb : Readies s h b) => hb.1) hsignal hreset
  have hearly := since_reset_cons past (fun h b (hb : ReadiesEarly s h b) => hb.1) hsignal hreset
  refine ⟨fun hsince => ?_, fun hq hready => ?_, fun hq hsince => ?_⟩
  · have hbefore := hprompt.not_signaled (hreadies.mp hsince)
    rcases hstate with hsame | hcancelled
    · rwa [hsame]
    · simp [hcancelled]
  · refine hearly.mpr (hprompt.of_ready (hqueued hq) ?_)
    rcases hstate with hsame | hcancelled
    · exact hsame.symm.trans hready
    · simp [hcancelled] at hready
  · exact hearly.mpr (hprompt.of_readied (hqueued hq) (hreadies.mp hsince))

/-- After a signal nothing is ready. -/
theorem of_signal (hs : past.hub.subscription? s = some sub)
    (hs' : (past.hub.signal s).hub.subscription? s = some sub') :
    Prompt (.signal s :: past) s sub' := by
  have hstate : sub'.state ≠ .ready := by
    rw [Hub.subscription?_signal, hs, Option.map_some, if_pos rfl] at hs'
    rw [← Option.some.inj hs']
    split
    · simp
    · assumption
  exact
    { not_signaled := fun hsince => absurd hsince (not_since_reset_signal fun _ _ h => h.1)
      of_ready := fun _ hready => absurd hready hstate
      of_readied := fun _ hsince => absurd hsince (not_since_reset_signal fun _ _ h => h.1) }

/-- A reset that makes ready what is flagged is early, one that sets the flag makes nothing ready,
and any other one does nothing. -/
theorem of_reset (hprompt : Prompt past s sub) (hs : past.hub.subscription? s = some sub)
    (hs' : (past.hub.reset s).hub.subscription? s = some sub') :
    Prompt (.reset s :: past) s sub' := by
  have hlater : ∀ {p : Hub R C → Action R C → Prop}, past.Since p (Signals s) →
      History.Since p (Signals s) (.reset s :: past) :=
    fun hsince => Or.inr ⟨by simp [Signals], hsince⟩
  -- A reset makes ready only what is signaled and drained.
  have hreadies : History.Since (Readies s) (Signals s) (.reset s :: past) →
      ¬ (sub.state = .signaled ∧ sub.buffer = []) → past.Since (Readies s) (Signals s) := by
    rintro (⟨-, found, hfound, hready⟩ | ⟨-, hbefore⟩) hnot
    · exact absurd (Option.some.inj (hfound.symm.trans hs) ▸ hready) hnot
    · exact hbefore
  rw [Hub.subscription?_reset, hs, Option.map_some, if_pos rfl] at hs'
  obtain rfl := Option.some.inj hs'
  by_cases hsignaled : sub.state = .signaled
  · have hnever : ¬ past.Since (Readies s) (Signals s) := fun hsince =>
      hprompt.not_signaled hsince hsignaled
    by_cases hbuffer : sub.buffer = []
    · rw [if_pos hsignaled, if_pos hbuffer]
      have hearly : sub.queued = true →
          History.Since (ReadiesEarly s) (Signals s) (.reset s :: past) :=
        fun hq => Or.inl ⟨rfl, sub, hs, hsignaled, hbuffer, hq⟩
      exact ⟨fun _ => by simp, fun hq _ => hearly hq, fun hq _ => hearly hq⟩
    · rw [if_pos hsignaled, if_neg hbuffer]
      have hnot := fun hsince => hnever (hreadies hsince fun hdrained => hbuffer hdrained.2)
      exact ⟨fun h => absurd h hnot, fun _ h => by simp [hsignaled] at h, fun _ h => absurd h hnot⟩
  · rw [if_neg hsignaled]
    have hbefore := fun hsince => hreadies hsince fun hdrained => hsignaled hdrained.1
    exact ⟨fun _ => hsignaled, fun hq hready => hlater (hprompt.of_ready hq hready),
      fun hq hsince => hlater (hprompt.of_readied hq (hbefore hsince))⟩

/-- Every action keeps flags where they belong. -/
theorem step (hprompt : Prompt past s sub) (hs : past.hub.subscription? s = some sub)
    (hs' : (a.apply past.hub).subscription? s = some sub')
    (hc : SubscriptionChange past.hub a s sub sub') : Prompt (a :: past) s sub' := by
  by_cases hsignal : a = .signal s
  · subst hsignal
    exact of_signal hs hs'
  by_cases hreset : a = .reset s
  · subst hreset
    exact hprompt.of_reset hs hs'
  -- Anything else clears flags, cancels, or touches neither state nor flag.
  cases hc with
  | kept _ _ hposts hdrains => exact hprompt.of_quiet hsignal hreset (Or.inl rfl) id
  | posted e hposts =>
    exact hprompt.of_quiet hsignal hreset (Or.inl (sub.post_state _)) (by simp)
  | drained ha => exact hprompt.of_quiet hsignal hreset (Or.inl rfl) id
  | signaled ha => exact absurd ha hsignal
  | readied ha => exact absurd ha hreset
  | requeued ha => exact absurd ha hreset
  | retrieved k hr => exact hprompt.of_quiet hsignal hreset (Or.inl rfl) (by simp)
  | flushed k ha hopen hmem => exact hprompt.of_quiet hsignal hreset (Or.inl rfl) (by simp)
  | cancelled ha queued hsame =>
    refine hprompt.of_quiet hsignal hreset (Or.inr rfl) fun hq => ?_
    rcases hsame with hsame | hsame <;> simp_all

end Prompt

/-! ## Runs -/

namespace History

theorem prompt (past : History R C) {s : SubscriptionRef} {sub : Subscription R C}
    (hs : past.hub.subscription? s = some sub) : Prompt past s sub := by
  induction past generalizing sub with
  | nil => simp [hub] at hs
  | cons a past ih =>
    rcases subscription?_of_apply hs with ⟨before, hwas, hc⟩ | ⟨-, hfresh⟩
    · exact (ih hwas).step hwas hs hc
    · exact .of_fresh hfresh

/-- A run in which a subscription is drained and reset while it is still queued: it becomes ready,
stays an entry of the queue, and the next retrieval hands it out although it has not been signaled
since the reset. -/
theorem ready_entry_of_early_reset :
    let past : History Nat Nat :=
      [.reset 0, .drain 0, .signal 0, .post 0 (.once .modify 7), .register 0 10 [.modify],
        .withConfig .standard]
    ∃ sub, past.hub.subscription? 0 = some sub ∧ 0 ∈ past.hub.queue 0 ∧ sub.state = .ready ∧
      past.Since (Readies 0) (Signals 0) ∧
      (Action.poll 0 : Action Nat Nat).retrieves past.hub 0 = some 0 := by
  exact ⟨_, rfl, by decide, rfl, Or.inl ⟨rfl, _, rfl, rfl, rfl⟩, rfl⟩

/-- Unless a reset has made a subscription ready while it was queued, and it was not signaled since,
it is signaled or cancelled as long as it is an entry of a queue, and what a reset has made ready is
not handed out before it is signaled again. -/
theorem queue_holds_signaled (past : History R C) {s : SubscriptionRef} {sub : Subscription R C}
    (hs : past.hub.subscription? s = some sub)
    (hearly : ¬ past.Since (ReadiesEarly s) (Signals s)) :
    (∀ k, s ∈ past.hub.queue k → sub.state = .signaled ∨ sub.state = .cancelled) ∧
      (past.Since (Readies s) (Signals s) →
        ∀ (k : ServiceRef) (a : Action R C), a.retrieves past.hub k ≠ some s) := by
  have hprompt := past.prompt hs
  constructor
  · intro k hmem
    have hqueued := past.queueSound.queued_of_mem hs hmem
    rcases hstate : sub.state with _ | _ | _
    · exact absurd (hprompt.of_ready hqueued hstate) hearly
    · exact Or.inl rfl
    · exact Or.inr rfl
  · intro hsince k a hr
    have hmem := List.mem_of_head? (Action.head_of_retrieves hr).2
    have hqueued := past.queueSound.queued_of_mem hs hmem
    exact hearly (hprompt.of_readied hqueued hsince)

/-- A subscription is taken, drained and reset: it is ready, and no retrieval hands it out. -/
theorem queue_holds_signaled_of_taken :
    let past : History Nat Nat :=
      [.reset 0, .drain 0, .poll 0, .signal 0, .post 0 (.once .modify 7),
        .register 0 10 [.modify], .withConfig .standard]
    (Action.poll 0 : Action Nat Nat).retrieves past.hub 0 ≠ some 0 := by
  intro past
  have hearly : ¬ past.Since (ReadiesEarly 0) (Signals 0) := by
    rintro (⟨-, sub, hs, -, -, hqueued⟩ | ⟨-, hbefore⟩)
    · have hunqueued : some false = some sub.queued := congrArg (Option.map Subscription.queued) hs
      simp [hqueued] at hunqueued
    · simp [Since, ReadiesEarly, Signals] at hbefore
  obtain ⟨sub, hs⟩ : ∃ sub, past.hub.subscription? 0 = some sub := ⟨_, rfl⟩
  exact (queue_holds_signaled past hs hearly).2 (Or.inl ⟨rfl, _, rfl, rfl, rfl⟩) 0 (.poll 0)

end History

end PathWatch
