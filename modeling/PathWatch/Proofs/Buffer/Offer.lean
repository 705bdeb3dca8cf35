import Mathlib
import PathWatch.Proofs.Buffer.Weight
import PathWatch.Proofs.Run.History
/-!
# What an offer answers

An offer says whether the kind of the event is of interest. As long as the subscription has not been
cancelled this says as well whether the event has been counted: what is of interest is posted, and
every post adds the count of its event to the buffer. A cancelled subscription gives the same answer
and drops the event.
-/

namespace PathWatch

variable {R C : Type}

namespace Hub

variable [BEq C] {h : Hub R C} {s : SubscriptionRef} {sub : Subscription R C}

theorem offer_value (hs : h.subscription? s = some sub) (e : ChangeEvent C) :
    (h.offer s e).value = true ↔ e.kind ∈ sub.interest := by
  rw [← List.contains_iff_mem]
  change _ ↔ sub.isInterested e.kind = true
  by_cases hkind : sub.isInterested e.kind = true <;> simp [offer, hs, hkind]

/-- An offer that is accepted is a post. -/
theorem offer_hub_of_value {e : ChangeEvent C} (hvalue : (h.offer s e).value = true) :
    (h.offer s e).hub = (h.post s e).hub := by
  unfold offer at hvalue ⊢
  split
  · simp_all
  · split
    · rfl
    · simp_all

theorem offer_hub_of_not_value {e : ChangeEvent C} (hvalue : (h.offer s e).value = false) :
    (h.offer s e).hub = h := by
  unfold offer at hvalue ⊢
  split
  · rfl
  · split
    · simp_all
    · rfl

/-- What is posted to a cancelled subscription is dropped. -/
theorem post_hub_of_cancelled (hs : h.subscription? s = some sub) (hstate : sub.state = .cancelled)
    (e : ChangeEvent C) : (h.post s e).hub = h := by
  simp only [post, hs, hstate, if_true]

/-- What is posted to a subscription that has not been cancelled goes into its buffer, and changes
nothing else. -/
theorem post_hub_of_valid (hs : h.subscription? s = some sub) (hstate : sub.state ≠ .cancelled)
    (e : ChangeEvent C) :
    (h.post s e).hub =
      h.modifySubscription s fun w => { w with buffer := sub.buffer.post sub.config e } := by
  have hpost : (h.post s e).hub = h.modifySubscription s fun w => w.post e := by
    simp only [post, hs, hstate, if_false]
  rw [hpost]
  refine modifySubscription_congr fun w hw => ?_
  obtain rfl := Option.some.inj (hs.symm.trans hw)
  rw [Subscription.post, if_neg hstate]

/-- What an offer answers and does, in whatever state and with whatever buffer it finds the
subscription. It says whether the kind of the event is of interest, and does nothing if it is not.
As long as the subscription has not been cancelled, an event of interest is counted by the buffer,
which is all that changes. Once it has been cancelled the event is dropped, whatever the answer. -/
theorem offer_counts_unless_cancelled (hs : h.subscription? s = some sub) (e : Event C) :
    ((h.offer s e.val).value = true ↔ e.val.kind ∈ sub.interest) ∧
      ((h.offer s e.val).value = false → (h.offer s e.val).hub = h) ∧
      ((h.offer s e.val).value = true → sub.state ≠ .cancelled →
        ∃ buffer, sub.buffer.Gains buffer e.val.count ∧
          (h.offer s e.val).hub = h.modifySubscription s fun w => { w with buffer }) ∧
      (sub.state = .cancelled → (h.offer s e.val).hub = h) := by
  refine ⟨offer_value hs e.val, offer_hub_of_not_value, fun hvalue hstate => ?_, fun hstate => ?_⟩
  · refine ⟨sub.buffer.post sub.config e.val,
      Buffer.gains_post sub.config sub.buffer e.property.one_le_count, ?_⟩
    rw [offer_hub_of_value hvalue, post_hub_of_valid hs hstate]
  · rcases hvalue : (h.offer s e.val).value with _ | _
    · exact offer_hub_of_not_value hvalue
    · rw [offer_hub_of_value hvalue, post_hub_of_cancelled hs hstate]

/-- The buffer holds one entry, which has the largest count there is. An event that repeats it is
accepted, and only the cap keeps the buffer from counting it. -/
theorem offer_counts_unless_cancelled_of_cap :
    let full : ChangeEvent Nat := ⟨.modify, maxCount, some 7⟩
    let sub : Subscription Nat Nat :=
      { id := ⟨1⟩, resource := 10, interest := [.modify], config := .standard, owner := none
        buffer := [full] }
    let h : Hub Nat Nat := { subscriptions := #[sub] }
    h.subscription? 0 = some sub ∧ (h.offer 0 (Event.once .modify 7).val).value = true ∧
      ∃ buffer, sub.buffer.Gains buffer 1 ∧
        (h.offer 0 (Event.once .modify 7).val).hub =
          h.modifySubscription 0 fun w => { w with buffer } := by
  intro full sub h
  have hs : h.subscription? 0 = some sub := rfl
  have hvalue : (h.offer 0 (Event.once .modify 7).val).value = true := rfl
  exact ⟨hs, hvalue,
    (offer_counts_unless_cancelled hs (Event.once .modify 7)).2.2.1 hvalue (by decide)⟩

/-- An event is offered to a subscription that has been cancelled. The offer answers that it has
been accepted, and the buffer is as empty as it was. -/
theorem offer_accepts_in_vain :
    let past : History Nat Nat :=
      [.cancel 0, .register 0 10 [.modify], .withConfig .standard]
    let after := past.hub.offer 0 (Event.once .modify 7).val
    after.value = true ∧
      (past.hub.subscription? 0).map (fun sub => sub.buffer) = some [] ∧
      (after.hub.subscription? 0).map (fun sub => sub.buffer) = some [] ∧
      ¬ Buffer.Gains ([] : Buffer Nat) [] 1 := by
  intro past after
  refine ⟨rfl, rfl, rfl, ?_⟩
  rintro (hcounted | ⟨init, last, hbefore, -⟩)
  · simp at hcounted
  · simp at hbefore

end Hub

end PathWatch
