import Mathlib
import PathWatch.Proofs.Owner.Twins
/-!
# Indifference to the owner

Subscriptions behave the same whoever owns them. A service with a queue and a silent one go through
the same replies, retrievals left out, and a subscription does not notice that its service goes away
while it is open.
-/

namespace PathWatch

variable {R C : Type} [BEq C]

/-! ## Runs of twins -/

namespace Twins

variable {k : ServiceRef} {j : SilentRef} {h g : Hub R C}

/-- Twins stay twins under a request to both, unless something is to be retrieved. -/
theorem perform (htw : Twins k j h g) {q : Request R C} (hq : q.isPoll = false) :
    (q.perform (.notification k) h).1 = (q.perform (.silent j) g).1 ∧
      Twins k j (q.perform (.notification k) h).2 (q.perform (.silent j) g).2 := by
  cases q with
  | register resource kinds => exact htw.register resource kinds
  | handle s u => exact htw.handle s u
  | liveCount =>
    obtain ⟨hcount, htwins⟩ := htw.liveCount
    exact ⟨congrArg Reply.number hcount, htwins⟩
  | isOpen => exact ⟨congrArg Reply.flag htw.isOpen_eq, htw⟩
  | close => exact ⟨rfl, htw.close⟩
  | poll => simp [Request.isPoll] at hq

/-- What is retrieved in between from the one that has a queue does not show in the replies. -/
theorem transcript (htw : Twins k j h g) (qs : List (Request R C)) :
    ((Request.transcript qs (.notification k) h).1.filter fun asked => !asked.1.isPoll) =
        (Request.transcript (qs.filter fun q => !q.isPoll) (.silent j) g).1 ∧
      Twins k j (Request.transcript qs (.notification k) h).2
        (Request.transcript (qs.filter fun q => !q.isPoll) (.silent j) g).2 := by
  induction qs generalizing h g with
  | nil => exact ⟨rfl, htw⟩
  | cons q qs ih =>
    rcases hq : q.isPoll with _ | _
    · obtain ⟨hreply, htwins⟩ := htw.perform hq
      obtain ⟨hrest, hend⟩ := ih htwins
      simp only [Request.transcript, List.filter_cons, hq, Bool.not_false, if_true]
      exact ⟨by rw [hreply, hrest], hend⟩
    · -- A retrieval is made from the one service only.
      obtain rfl : q = .poll := by
        cases q <;> simp_all [Request.isPoll]
      obtain ⟨hrest, hend⟩ := ih htw.poll
      simp only [Request.transcript, List.filter_cons, hq, Bool.not_true, Bool.false_eq_true,
        if_false, Request.perform_poll]
      exact ⟨hrest, hend⟩

end Twins

namespace Request

/-- A service that has been closed on the way is closed at the end. -/
theorem isOpen_transcript (qs : List (Request R C)) {k : ServiceRef} {h : Hub R C}
    (hk : k < h.services.size) (hclosed : Request.close ∈ qs ∨ h.isOpen k = false) :
    (transcript qs (.notification k) h).2.isOpen k = false := by
  induction qs generalizing h with
  | nil => exact hclosed.resolve_left (by simp)
  | cons q qs ih =>
    -- The service is closed by this request, by a later one, or it is closed already.
    refine ih ?_ ?_
    · rcases q.perform_notification k h with hsame | ⟨a, -, happly⟩
      · rwa [hsame]
      · rw [happly]
        exact Nat.lt_of_lt_of_le hk (size_services_le_apply h a)
    · have still : h.isOpen k = false → (q.perform (.notification k) h).2.isOpen k = false := by
        intro hshut
        rcases q.perform_notification k h with hsame | ⟨a, -, happly⟩
        · rwa [hsame]
        · rw [happly]
          exact isOpen_apply_eq_false hk hshut a
      rcases hclosed with hmem | hshut
      · rcases List.mem_cons.mp hmem with rfl | hrest
        · right
          rcases hopen : h.isOpen k with _ | _
          · exact still hopen
          · obtain ⟨v, hv, hvopen⟩ := Hub.service?_of_isOpen hopen
            obtain ⟨v', hv', hshut, -⟩ := Hub.service?_close_of_open hv hvopen
            exact (Hub.isOpen_of_service? hv').trans hshut
        · exact Or.inl hrest
      · exact Or.inr (still hshut)

end Request

/-! ## Losing the service -/

/-- A subscription of an open service goes on as before when the last handle on the service is
dropped. -/
theorem performAll_release {h : Hub R C} {k : ServiceRef} {v : NotificationService}
    {s : SubscriptionRef} {sub : Subscription R C} (hv : h.service? k = some v)
    (hopen : v.isOpen = true) (hlast : v.handles = 1) (hs : h.subscription? s = some sub)
    (howner : sub.owner = some k) (us : List (Handling C)) :
    (h.release k).service? k = none ∧
      (Handling.performAll us (h.release k) s).1 = (Handling.performAll us h s).1 ∧
      ((Handling.performAll us (h.release k) s).2.subscription? s).map Subscription.bare =
        ((Handling.performAll us h s).2.subscription? s).map Subscription.bare := by
  have hgone : (h.release k).service? k = none := by
    rw [Hub.service?_release, hv]
    simp [hlast]
  have hadmits : h.admits sub = true := by simp [Hub.admits, howner, hv, hopen]
  have gadmits : (h.release k).admits sub = true := by simp [Hub.admits, howner, hgone]
  have gs : (h.release k).subscription? s = some sub := by rw [Hub.subscription?_release, hs]
  obtain ⟨hreplies, sub₁, hsub₁, -, hbare, -⟩ := Handling.performAll_eq_aloneAll us hs hadmits
  obtain ⟨greplies, sub₂, hsub₂, -, gbare, -⟩ := Handling.performAll_eq_aloneAll us gs gadmits
  refine ⟨hgone, greplies.trans hreplies.symm, ?_⟩
  rw [hsub₁, hsub₂, Option.map_some, Option.map_some, hbare, gbare]

/-! ## The main statement -/

/-- Subscriptions behave the same whoever owns them. A fresh service with the standard configuration
and a fresh silent one give the same replies to the same requests, whatever is retrieved from the
former in between, and both turn everybody away once they have been closed. And whatever has been
done to a subscription of an open service: when the last handle on the service is dropped, it goes
on with the same replies and comes to the same state and buffer as it would otherwise. -/
theorem subscriptions_indifferent_to_owner :
    (∀ qs : List (Request R C),
      let loud := ({} : Hub R C).addService .standard
      let silent := ({} : Hub R C).addSilent
      let atLoud := Request.transcript qs (.notification loud.value) loud.hub
      let atSilent :=
        Request.transcript (qs.filter fun q => !q.isPoll) (.silent silent.value) silent.hub
      (atLoud.1.filter fun asked => !asked.1.isPoll) = atSilent.1 ∧
        (Request.close ∈ qs →
          (AnyService.notification loud.value).Refuses atLoud.2 ∧
            (AnyService.silent silent.value).Refuses atSilent.2)) ∧
    (∀ (h : Hub R C) (k : ServiceRef) (v : NotificationService) (s : SubscriptionRef)
      (sub : Subscription R C), h.service? k = some v → v.isOpen = true → v.handles = 1 →
      h.subscription? s = some sub → sub.owner = some k →
      ∀ before after : List (Handling C),
        let here := (Handling.performAll before h s).2
        (here.release k).service? k = none ∧
          (Handling.performAll after (here.release k) s).1 =
            (Handling.performAll after here s).1 ∧
          ((Handling.performAll after (here.release k) s).2.subscription? s).map
              Subscription.bare =
            ((Handling.performAll after here s).2.subscription? s).map Subscription.bare) := by
  constructor
  · intro qs loud silent atLoud atSilent
    obtain ⟨hreplies, htwins⟩ := Twins.fresh.transcript qs
    refine ⟨hreplies, fun hmem => ?_⟩
    have hclosed : atLoud.2.isOpen loud.value = false :=
      Request.isOpen_transcript qs (by simp [loud, Hub.addService]) (Or.inl hmem)
    have gclosed : atSilent.2.isOpenSilent silent.value = false :=
      htwins.isOpen_eq.symm.trans hclosed
    exact ⟨AnyService.refuses_of_closed hclosed, AnyService.refuses_of_closed gclosed⟩
  · intro h k v s sub hv hopen hlast hs howner before after here
    have hadmits : h.admits sub = true := by simp [Hub.admits, howner, hv, hopen]
    -- The calls before the release leave the service open and its last handle the last one.
    obtain ⟨v', hv', hopen', hlast'⟩ := Handling.service?_performAll before s hv
    obtain ⟨-, sub', hs', howner', -⟩ := Handling.performAll_eq_aloneAll before hs hadmits
    exact performAll_release hv' (hopen'.trans hopen) (hlast'.trans hlast) hs'
      (howner'.trans howner) after

/-- A subscription is signaled, retrieved, posted to and cancelled, a registration is refused, and
the service is closed. Another one loses its service while it is signaled, and is reset with an
event in its buffer. -/
theorem subscriptions_indifferent_to_owner_of_closing :
    (let qs : List (Request String Nat) :=
        [.register "/etc" [.modify, .delete], .handle 0 .signal, .poll,
          .handle 0 (.offer (.once .modify 1)), .handle 0 .reset, .register "/var" [],
          .handle 0 .cancel, .poll, .liveCount, .handle 0 .drain, .close]
      let loud := ({} : Hub String Nat).addService .standard
      let silent := ({} : Hub String Nat).addSilent
      let atLoud := Request.transcript qs (.notification loud.value) loud.hub
      let atSilent :=
        Request.transcript (qs.filter fun q => !q.isPoll) (.silent silent.value) silent.hub
      Request.close ∈ qs ∧
        (atLoud.1.filter fun asked => !asked.1.isPoll) = atSilent.1 ∧
        (AnyService.notification loud.value).Refuses atLoud.2 ∧
        (AnyService.silent silent.value).Refuses atSilent.2) ∧
    (let h := ((({} : Hub String Nat).addService .standard).hub.register 0 "/etc" [.modify]).hub
      let here := (Handling.performAll [.signal, .post (.once .modify 1)] h 0).2
      let after : List (Handling Nat) := [.reset, .drain, .reset, .cancel, .state]
      ∃ v sub, h.service? 0 = some v ∧ v.isOpen = true ∧ v.handles = 1 ∧
        h.subscription? 0 = some sub ∧ sub.owner = some 0 ∧
        (here.release 0).service? 0 = none ∧
        (Handling.performAll after (here.release 0) 0).1 = (Handling.performAll after here 0).1 ∧
        ((Handling.performAll after (here.release 0) 0).2.subscription? 0).map Subscription.bare =
          ((Handling.performAll after here 0).2.subscription? 0).map Subscription.bare) := by
  constructor
  · intro qs loud silent atLoud atSilent
    have hmem : Request.close ∈ qs := by simp [qs]
    obtain ⟨hreplies, hrefuse⟩ := subscriptions_indifferent_to_owner.1 qs
    exact ⟨hmem, hreplies, hrefuse hmem⟩
  · intro h here after
    have hv : h.service? 0 =
        some { config := .standard, nextId := 2, live := [(⟨1⟩, 0)] } := rfl
    have hs : h.subscription? 0 =
        some
          { id := ⟨1⟩, resource := "/etc", interest := [.modify], config := .standard
            owner := some 0 } := rfl
    exact ⟨_, _, hv, rfl, rfl, hs, rfl,
      subscriptions_indifferent_to_owner.2 h 0 _ 0 _ hv rfl rfl hs rfl
        [.signal, .post (.once .modify 1)] after⟩

end PathWatch
