import Mathlib
import PathWatch.Proofs.Drill.Tally
/-!
# A drill accounts for every event

Every event that was accepted is in a buffer, in the hands of a worker, or counted. So the totals
never run ahead, they are complete when the main thread has settled, and as long as they are not,
something is queued or somebody is draining.
-/

namespace PathWatch

variable {R C : Type}

/-! ## What is accepted -/

/-- Only posts and offers put something into buffers. -/
theorem Action.accepts_eq_zero {a : Action R C} (ha : a.fills = false ∨ ∃ s, a = .drain s)
    (h : Hub R C) : a.accepts h = 0 := by
  unfold accepts
  split
  · rfl
  · rename_i s hs
    rcases ha with hfills | ⟨s', rfl⟩
    · rw [(posts_eq_nil_of_fills hfills h s).1]
      rfl
    · obtain rfl : s' = s := by simpa [subject?] using hs
      rw [posts_of_drains (by simp [drains]) h]
      rfl

namespace Drill

/-- In a drill an offer puts an event into a buffer when it says so. -/
theorem Grounded.accepts_offer [BEq C] {config : WatchConfig} {h : Hub R C}
    (hh : Grounded config h) (s : SubscriptionRef) (e : Event C) :
    (Action.offer s e : Action R C).accepts h = (h.offer s e.val).value.toNat := by
  rcases hs : h.subscription? s with _ | sub
  · simp [Action.accepts, Action.subject?, Action.posts, Hub.offer, hs]
  · have hstate := hh.state_ne hs
    rcases hkind : sub.isInterested e.val.kind with _ | _ <;>
      simp [Action.accepts, Action.subject?, Action.posts, Hub.offer, hs, hstate, hkind]

/-- The occurrences that a worker has yet to count. -/
def Duty.weight (d : Duty C) : Nat :=
  match d.drained with
  | none => 0
  | some events => events.weight

/-- A worker has no overflow event in hand. -/
def Duty.Roomy (d : Duty C) : Prop :=
  ∀ events, d.drained = some events → ∀ e ∈ events, e.isOverflow = false

namespace Field

/-- The occurrences that the workers have in their hands. -/
def inHand (σ : Field R C) : Nat :=
  (σ.duties.map Duty.weight).sum

theorem inHand_of_duties {σ : Field R C} {l r : List (Duty C)} {d : Duty C}
    (hduties : σ.duties = l ++ d :: r) :
    σ.inHand = (l.map Duty.weight).sum + d.weight + (r.map Duty.weight).sum := by
  simp [inHand, hduties, Nat.add_assoc]

variable [BEq C] {config : WatchConfig} {σ τ : Field R C}

/-! ## The balance -/

/-- What was accepted is counted, in somebody's hands, or in a buffer. -/
def Balanced (σ : Field R C) : Prop :=
  ∀ n, σ.hub.subscriptions.size ≤ n → σ.totals.seen + σ.inHand + σ.past.waiting n = σ.past.accepted

/-- An action that drains nothing keeps the balance. -/
theorem Balanced.of_deed (hσ : Balanced σ) {a : Action R C} (ha : ∀ s, a.drains s = false)
    (hpast : τ.past = a :: σ.past) (htotals : τ.totals = σ.totals) (hhand : τ.inHand = σ.inHand) :
    Balanced τ := by
  intro n hn
  rw [hub, hpast] at hn
  have hbefore := (size_subscriptions_le_apply σ.hub a).trans hn
  have hsum := hσ n hbefore
  rw [hpast, htotals, hhand, History.waiting_cons hbefore ha, History.accepted]
  have hhub : σ.past.hub = σ.hub := rfl
  rw [hhub]
  omega

/-- Every step keeps the balance, as long as no count grows too large. -/
theorem Step.balanced (hstep : Step σ τ) (hσ : Balanced σ) (horderly : Orderly config σ.past)
    (hfew : ∀ s, σ.past.acceptedBy s ≤ maxCount) : Balanced τ := by
  cases hstep with
  | watch resource hsettling => exact hσ.of_deed (fun _ => rfl) rfl rfl rfl
  | start s todo hsettling => exact hσ
  | offer l r s c todo n hproducers => exact hσ.of_deed (fun _ => rfl) rfl rfl rfl
  | signal l r s todo n hproducers => exact hσ.of_deed (fun _ => rfl) rfl rfl rfl
  | take s htake => exact hσ.of_deed (fun _ => rfl) rfl rfl (by simp [inHand, Duty.weight])
  | drain l r w s hduties =>
    -- What leaves the buffer is what the worker has in hand.
    intro n hn
    have hbefore : σ.past.hub.subscriptions.size ≤ n :=
      (size_subscriptions_le_apply σ.hub (.drain s)).trans hn
    have hsum := hσ n hbefore
    have hwaiting := History.waiting_drain (s := s) hbefore
    have hweight := horderly.weight_drain (hfew s)
    have haccepts : (Action.drain s : Action R C).accepts σ.past.hub = 0 :=
      Action.accepts_eq_zero (Or.inr ⟨s, rfl⟩) _
    rw [inHand_of_duties hduties] at hsum
    rw [inHand_of_duties rfl, History.accepted, haccepts]
    simp only [Duty.weight, hub] at hsum ⊢
    omega
  | count l r w s e rest hduties =>
    -- What is counted is no longer in hand.
    intro n hn
    have hsum := hσ n hn
    have hseen := σ.totals.seen_count e
    rw [inHand_of_duties hduties] at hsum
    rw [inHand_of_duties rfl]
    simp only [Duty.weight, Buffer.weight_cons] at hsum ⊢
    omega
  | reset l r w s hduties =>
    -- Who resets has counted everything.
    exact hσ.of_deed (fun _ => rfl) rfl rfl (by simp [inHand, hduties, Duty.weight])
  | settle hsettling hfinished => exact hσ
  | look posted hsettling => exact hσ
  | judge posted delivered hsettling => exact hσ
  | giveUp posted hsettling => exact hσ
  | help posted s hsettling hpoll =>
    exact hσ.of_deed (fun _ => rfl) rfl rfl (by simp [inHand, Duty.weight])
  | wait posted hsettling hpoll => exact hσ.of_deed (fun _ => rfl) rfl rfl rfl

/-- A step does one thing at most. -/
theorem Step.past_eq (hstep : Step σ τ) : τ.past = σ.past ∨ ∃ a, τ.past = a :: σ.past := by
  cases hstep with
  | start | count | settle | look | judge | giveUp => exact Or.inl rfl
  | _ => exact Or.inr ⟨_, rfl⟩

theorem Step.acceptedBy_le (hstep : Step σ τ) (s : SubscriptionRef) :
    σ.past.acceptedBy s ≤ τ.past.acceptedBy s := by
  rcases hstep.past_eq with hsame | ⟨a, ha⟩
  · rw [hsame]
  · rw [ha]
    exact History.acceptedBy_le_cons a σ.past s

/-- In everything that can be reached without a count growing too large, the balance is kept. -/
theorem Reachable.balanced (hσ : Reachable config σ) (hfew : ∀ s, σ.past.acceptedBy s ≤ maxCount) :
    Balanced σ := by
  induction hσ with
  | start hconfig =>
    intro n hn
    have hnone : ∀ s, (History.hub ([] : History R C)).subscription? s = none := fun _ => rfl
    simp [Totals.seen, inHand, History.waiting, History.posted, History.accepted, Action.drains,
      Action.posts, Action.accepts, Action.subject?, hnone]
  | step hσ hstep ih =>
    have hbefore := fun s => (hstep.acceptedBy_le s).trans (hfew s)
    exact hstep.balanced (ih hbefore) hσ.orderly hbefore

/-! ## What the producers report -/

/-- The producers report what was accepted. -/
theorem Step.posted_eq (hstep : Step σ τ) (hground : Grounded config σ.hub)
    (hσ : σ.posted = σ.past.accepted) : τ.posted = τ.past.accepted := by
  have hdeed : ∀ {a : Action R C}, a.fills = false ∨ (∃ s, a = .drain s) →
      σ.posted = History.accepted (a :: σ.past) := by
    intro a ha
    rw [History.accepted, Action.accepts_eq_zero ha, hσ, Nat.add_zero]
  cases hstep with
  | watch resource hsettling => exact hdeed (Or.inl rfl)
  | start s todo hsettling => simpa [posted] using hσ
  | offer l r s c todo n hproducers =>
    have haccepts := hground.accepts_offer s c.event
    simp only [posted, hproducers, History.accepted, List.map_append, List.map_cons,
      List.sum_append, List.sum_cons] at hσ ⊢
    rw [← hub, haccepts]
    omega
  | signal l r s todo n hproducers =>
    rw [History.accepted, Action.accepts_eq_zero (Or.inl rfl), Nat.add_zero, ← hσ]
    simp [posted, hproducers]
  | take s htake => exact hdeed (Or.inl rfl)
  | drain l r w s hduties => exact hdeed (Or.inr ⟨s, rfl⟩)
  | reset l r w s hduties => exact hdeed (Or.inl rfl)
  | help posted s hsettling hpoll => exact hdeed (Or.inl rfl)
  | wait posted hsettling hpoll => exact hdeed (Or.inl rfl)
  | _ => exact hσ

theorem Reachable.posted_eq (hσ : Reachable config σ) : σ.posted = σ.past.accepted := by
  induction hσ with
  | start hconfig => rfl
  | step hσ hstep ih => exact hstep.posted_eq hσ.orderly.grounded ih

/-! ## Room -/

/-- Nobody has come across an overflow event. -/
structure Roomy (σ : Field R C) : Prop where
  overflowed_eq : σ.totals.overflowed = 0
  duties : ∀ d ∈ σ.duties, d.Roomy

omit [BEq C] in
/-- Replacing a duty by one without overflow events keeps the rest. -/
theorem Roomy.replace (hσ : Roomy σ) {l r : List (Duty C)} {d d' : Duty C}
    (hduties : σ.duties = l ++ d :: r) (hd' : d'.Roomy) :
    ∀ x ∈ l ++ d' :: r, x.Roomy := by
  have hall := hσ.duties
  rw [hduties, List.forall_mem_append, List.forall_mem_cons] at hall
  rw [List.forall_mem_append, List.forall_mem_cons]
  exact ⟨hall.1, hd', hall.2.2⟩

/-- As long as the capacity is not exceeded, nobody comes across an overflow event. -/
theorem Step.roomy (hstep : Step σ τ) (hσ : Roomy σ) (horderly : Orderly config σ.past)
    (hroom : ∀ s, σ.past.acceptedBy s ≤ config.capacity) : Roomy τ := by
  have hnew : ∀ w s, Duty.Roomy (⟨w, s, none⟩ : Duty C) := fun w s events h => by simp at h
  cases hstep with
  | take s htake => exact ⟨hσ.overflowed_eq, List.forall_mem_cons.mpr ⟨hnew _ s, hσ.duties⟩⟩
  | drain l r w s hduties =>
    refine ⟨hσ.overflowed_eq, hσ.replace hduties fun events h => ?_⟩
    rw [← Option.some.inj h]
    exact horderly.isOverflow_drain (hroom s)
  | count l r w s e rest hduties =>
    have hmem : (⟨w, s, some (e :: rest)⟩ : Duty C) ∈ σ.duties := by simp [hduties]
    obtain ⟨he, hrest⟩ := List.forall_mem_cons.mp (hσ.duties _ hmem _ rfl)
    refine ⟨?_, hσ.replace hduties fun events h => ?_⟩
    · simpa [Totals.count, he] using hσ.overflowed_eq
    · rwa [← Option.some.inj h]
  | reset l r w s hduties =>
    have hall := hσ.duties
    rw [hduties, List.forall_mem_append, List.forall_mem_cons] at hall
    exact ⟨hσ.overflowed_eq, List.forall_mem_append.mpr ⟨hall.1, hall.2.2⟩⟩
  | help posted s hsettling hpoll =>
    exact ⟨hσ.overflowed_eq, List.forall_mem_cons.mpr ⟨hnew _ s, hσ.duties⟩⟩
  | _ => exact ⟨hσ.overflowed_eq, hσ.duties⟩

theorem Reachable.roomy (hσ : Reachable config σ)
    (hroom : ∀ s, σ.past.acceptedBy s ≤ config.capacity) : Roomy σ := by
  induction hσ with
  | start hconfig => exact ⟨rfl, by simp⟩
  | step hσ hstep ih =>
    have hbefore := fun s => (hstep.acceptedBy_le s).trans (hroom s)
    exact hstep.roomy (ih hbefore) hσ.orderly hbefore

end Field

end Drill

end PathWatch
