import Mathlib
import PathWatch.Proofs.Closing.Escape
/-!
# Resetting while a service closes

A reset asks the service only when it puts a subscription back into the queue. So from the moment a
service is shut, it answers false for what is cancelled and for what is signaled and holds events.
What is ready, or signaled and empty, is reset with success until the call that closes the service
has come to it.
-/

namespace PathWatch

variable {R C : Type} [BEq C]

namespace Scene

/-- Once a service is shut, a subscription that is not cancelled is still to be reached by a call
that closes the service. -/
theorem Reachable.awaited {σ : Scene R C} (hσ : Reachable σ) {k : ServiceRef}
    {v : NotificationService} (hv : σ.past.hub.service? k = some v) (hclosed : v.isOpen = false)
    {s : SubscriptionRef} {sub : Subscription R C} (hs : σ.past.hub.subscription? s = some sub)
    (howner : sub.owner = some k) (hvalid : sub.state ≠ .cancelled) :
    ∃ c ∈ σ.closes, c.service = k ∧ c.Awaits s := by
  rcases hσ.sound.close.awaited_of_closed hv hclosed hs howner hvalid with hcall | hnone
  · exact hcall
  · exact hnone.elim

/-- Of two subscriptions of a service one is ready, and the other is signaled and holds an event. -/
theorem reachable_of_signaled :
    Reachable
      ({ past := [.signal 1, .post 1 (.once .modify 7), .register 0 20 [.modify],
          .register 0 10 [.modify], .withConfig .standard] } : Scene Nat Nat) := by
  have hstart : Reachable ({ past := [.withConfig .standard] } : Scene Nat Nat) :=
    .step .start (.brief _ rfl)
  have hready : Reachable _ := .step hstart (.brief (.register 0 10 [.modify]) rfl)
  have hother : Reachable _ := .step hready (.brief (.register 0 20 [.modify]) rfl)
  have hposted : Reachable _ := .step hother (.brief (.post 1 (.once .modify 7)) rfl)
  exact .step hposted (.brief (.signal 1) rfl)

/-- What a reset answers once the service is shut, whoever else is at work: false exactly for what
is cancelled and for what is signaled and holds events; and false for every subscription that no
call that closes the service has yet to reach. -/
theorem reset_reports_closure {σ : Scene R C} (hσ : Reachable σ) {k : ServiceRef}
    {v : NotificationService} (hv : σ.past.hub.service? k = some v) (hclosed : v.isOpen = false)
    {s : SubscriptionRef} {sub : Subscription R C} (hs : σ.past.hub.subscription? s = some sub)
    (howner : sub.owner = some k) :
    ((σ.past.hub.reset s).value = false ↔
        sub.state = .cancelled ∨ (sub.state = .signaled ∧ sub.buffer ≠ [])) ∧
      ((∀ c ∈ σ.closes, c.service = k → ¬ c.Awaits s) → (σ.past.hub.reset s).value = false) := by
  have hbarred : σ.past.hub.admits sub = false :=
    Hub.admits_eq_false_iff.mpr ⟨k, v, howner, hv, hclosed⟩
  have hvalue : (σ.past.hub.reset s).value = false ↔
      sub.state = .cancelled ∨ (sub.state = .signaled ∧ sub.buffer ≠ []) := by
    rw [← Bool.not_eq_true, Hub.reset_value hs, hbarred]
    rcases sub.state with _ | _ | _ <;> simp
  refine ⟨hvalue, fun hreached => hvalue.mpr (Or.inl ?_)⟩
  -- Nobody will come for the subscription any more, so somebody has been there.
  by_contra hvalid
  obtain ⟨c, hc, hservice, hawaits⟩ := hσ.awaited hv hclosed hs howner hvalid
  exact hreached c hc hservice hawaits

/-- The call that closes a service has cancelled the first of two subscriptions, which was ready,
and has yet to come to the second one, which is signaled and holds an event. Neither is reset. -/
theorem reset_reports_closure_of_halfway :
    let σ : Scene Nat Nat :=
      { past := [.forget 0, .markCancelled 0, .shut 0, .signal 1, .post 1 (.once .modify 7),
          .register 0 20 [.modify], .register 0 10 [.modify], .withConfig .standard]
        closes := [.cancelling 0 [1]] }
    (σ.past.hub.reset 0).value = false ∧ (σ.past.hub.reset 1).value = false := by
  intro σ
  have hsignaled := reachable_of_signaled
  have hshut : Reachable _ := .step hsignaled (.shut 0 rfl)
  have hsnapshot : Reachable _ := .step hshut (.move [] [] _ _ _ rfl (.snapshot 0 [0, 1] (.refl _)))
  have hmark : Reachable _ := .step hsnapshot (.move [] [] _ _ _ rfl (.mark 0 0 [1] rfl))
  have hσ : Reachable σ := .step hmark (.move [] [] _ _ _ rfl (.strike 0 0 [1]))
  obtain ⟨v, hv, hclosed⟩ : ∃ v, σ.past.hub.service? 0 = some v ∧ v.isOpen = false :=
    ⟨_, rfl, rfl⟩
  obtain ⟨first, hfirst, hfirstOwner⟩ : ∃ sub, σ.past.hub.subscription? 0 = some sub ∧
      sub.owner = some 0 := ⟨_, rfl, rfl⟩
  obtain ⟨second, hsecond, hsecondOwner, hstate, hbuffer⟩ :
      ∃ sub, σ.past.hub.subscription? 1 = some sub ∧ sub.owner = some 0 ∧
        sub.state = .signaled ∧ sub.buffer ≠ [] := ⟨_, rfl, rfl, rfl, List.cons_ne_nil _ _⟩
  constructor
  · refine (reset_reports_closure hσ hv hclosed hfirst hfirstOwner).2 ?_
    simp [σ, Closing.Awaits]
  · exact (reset_reports_closure hσ hv hclosed hsecond hsecondOwner).1.mpr
      (Or.inr ⟨hstate, hbuffer⟩)

/-- A service is shut while one of its subscriptions is ready and another one has been taken and
drained. Both are reset with success, although the service is not open any more. -/
theorem reset_succeeds_after_shut :
    let σ : Scene Nat Nat :=
      { past := [.shut 0, .drain 1, .poll 0, .signal 1, .post 1 (.once .modify 7),
          .register 0 20 [.modify], .register 0 10 [.modify], .withConfig .standard]
        closes := [.shut 0] }
    Reachable σ ∧ (∃ v, σ.past.hub.service? 0 = some v ∧ v.isOpen = false) ∧
      (σ.past.hub.reset 0).value = true ∧ (σ.past.hub.reset 1).value = true := by
  intro σ
  have hsignaled := reachable_of_signaled
  have htaken : Reachable _ := .step hsignaled (.brief (.poll 0) rfl)
  have hdrained : Reachable _ := .step htaken (.brief (.drain 1) rfl)
  have hσ : Reachable σ := .step hdrained (.shut 0 rfl)
  exact ⟨hσ, ⟨_, rfl, rfl⟩, rfl, rfl⟩

end Scene

end PathWatch
