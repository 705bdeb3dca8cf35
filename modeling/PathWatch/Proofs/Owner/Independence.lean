import Mathlib
import PathWatch.Proofs.Closing.Escape
import PathWatch.Proofs.Live.Identifiers
import PathWatch.Proofs.Owner.Handling
/-!
# Independence

Calls on different subscriptions do not get in each other's way, whoever owns the subscriptions.
They can be made in either order: the replies are the same and so is all that is left, but for the
end of a queue that both subscriptions went to.
-/

namespace PathWatch

variable {R C : Type}

namespace Handling

variable [BEq C] {h : Hub R C} {a b s : SubscriptionRef} {subA subB sub : Subscription R C}
  {k : ServiceRef} {v : NotificationService}

/-! ## What a call leaves alone -/

/-- A call on a subscription changes nothing about the others: neither their records nor their
places in live sets nor their order in queues, and no service but the owner. -/
structure Spares (u : Handling C) (h : Hub R C) (s : SubscriptionRef) (sub : Subscription R C) :
    Prop where
  subscription?_eq : ∀ s', s' ≠ s → (u.perform h s).2.subscription? s' = h.subscription? s'
  live_iff : ∀ k s', s' ≠ s →
    (s' ∈ (u.perform h s).2.liveSubscriptions k ↔ s' ∈ h.liveSubscriptions k)
  queue_filter : ∀ k,
    ((u.perform h s).2.queue k).filter (· ≠ s) = (h.queue k).filter (· ≠ s)
  service?_eq : ∀ k, sub.owner ≠ some k → (u.perform h s).2.service? k = h.service? k
  silent_eq : (u.perform h s).2.silent = h.silent

/-- No call changes another subscription. -/
theorem subscription?_perform_of_ne (u : Handling C) (h : Hub R C) {s s' : SubscriptionRef}
    (hne : s ≠ s') : (u.perform h s).2.subscription? s' = h.subscription? s' := by
  rw [u.subscription?_perform_eq]
  simp [hne]

/-- No call changes a service that does not own the subscription. -/
theorem service?_perform_of_ne (u : Handling C) (hs : h.subscription? s = some sub)
    (howner : sub.owner ≠ some k) : (u.perform h s).2.service? k = h.service? k := by
  rw [u.service?_perform_eq hs]
  simp [howner]

/-- What a call does to the owner can be told from the owner and the subscription. -/
theorem service?_perform_of_owner (u : Handling C) (hs : h.subscription? s = some sub)
    (howner : sub.owner = some k) (hv : h.service? k = some v) :
    (u.perform h s).2.service? k = some (u.atOwner s sub v) := by
  rw [u.service?_perform_eq hs, hv, Option.map_some, if_pos howner]

/-- In every queue the other entries keep their order. -/
theorem queue_perform_filter (u : Handling C) (hs : h.subscription? s = some sub)
    (k : ServiceRef) : ((u.perform h s).2.queue k).filter (· ≠ s) = (h.queue k).filter (· ≠ s) := by
  rw [Hub.queue, Hub.queue, u.service?_perform_eq hs]
  rcases h.service? k with _ | v
  · rfl
  · simp only [Option.map_some]
    split
    · simp only [atOwner, List.filter_append]
      split <;> simp
    · rfl

/-- Who is struck from a live set leaves the others there: their numbers are different. -/
theorem mem_liveSubscriptions_perform (past : History R C) (u : Handling C)
    (hs : past.hub.subscription? s = some sub) (k : ServiceRef) {s' : SubscriptionRef}
    (hne : s' ≠ s) :
    s' ∈ (u.perform past.hub s).2.liveSubscriptions k ↔ s' ∈ past.hub.liveSubscriptions k := by
  rcases hv : past.hub.service? k with _ | v
  · have hnone : (u.perform past.hub s).2.service? k = none := by
      rw [u.service?_perform_eq hs, hv, Option.map_none]
    simp [Hub.liveSubscriptions, hv, hnone]
  by_cases howner : sub.owner = some k
  · rw [Hub.mem_liveSubscriptions (u.service?_perform_of_owner hs howner hv),
      Hub.mem_liveSubscriptions hv]
    refine exists_congr fun id => ?_
    rw [atOwner, List.mem_filter]
    refine and_iff_left_of_imp fun hentry => ?_
    simp [past.id_ne_of_mem_live hv hs howner hentry hne]
  · rw [Hub.liveSubscriptions, u.service?_perform_of_ne hs howner, Hub.liveSubscriptions]

theorem spares (past : History R C) (u : Handling C) (hs : past.hub.subscription? s = some sub) :
    u.Spares past.hub s sub where
  subscription?_eq _ hne := u.subscription?_perform_of_ne past.hub (Ne.symm hne)
  live_iff k _ hne := mem_liveSubscriptions_perform past u hs k hne
  queue_filter := u.queue_perform_filter hs
  service?_eq _ howner := u.service?_perform_of_ne hs howner
  silent_eq := u.silent_perform past.hub s

/-! ## Either order -/

/-- What two calls on different subscriptions come to in either order: the same replies and the same
hub, but for the last two entries of a queue that each of them appends to. -/
structure Exchange (f g : Handling C) (h : Hub R C) (a b : SubscriptionRef) : Prop where
  fst_eq : (f.perform (g.perform h b).2 a).1 = (f.perform h a).1
  snd_eq : (g.perform (f.perform h a).2 b).1 = (g.perform h b).1
  subscription?_eq : ∀ s, (g.perform (f.perform h a).2 b).2.subscription? s =
    (f.perform (g.perform h b).2 a).2.subscription? s
  service?_cases : ∀ k,
    (g.perform (f.perform h a).2 b).2.service? k = (f.perform (g.perform h b).2 a).2.service? k ∨
      ∃ v : NotificationService, (f.perform h a).2.queue k = h.queue k ++ [a] ∧
        (g.perform h b).2.queue k = h.queue k ++ [b] ∧
        (g.perform (f.perform h a).2 b).2.service? k =
          some { v with queue := h.queue k ++ [a, b] } ∧
        (f.perform (g.perform h b).2 a).2.service? k =
          some { v with queue := h.queue k ++ [b, a] }
  silent_eq : (g.perform (f.perform h a).2 b).2.silent = (f.perform (g.perform h b).2 a).2.silent

/-- A reply does not depend on what has been done to others meanwhile. -/
theorem perform_fst_of_ne (f g : Handling C) (ha : h.subscription? a = some subA) (hne : b ≠ a) :
    (f.perform (g.perform h b).2 a).1 = (f.perform h a).1 := by
  have hkept : (g.perform h b).2.subscription? a = some subA := by
    rw [g.subscription?_perform_of_ne h hne, ha]
  rw [f.perform_fst hkept, f.perform_fst ha, g.admits_perform_eq]

theorem ownerIsOpen_perform (u : Handling C) (h : Hub R C) (s : SubscriptionRef)
    (sub : Subscription R C) : (u.perform h s).2.ownerIsOpen sub = h.ownerIsOpen sub := by
  unfold Hub.ownerIsOpen
  split
  · rfl
  · rename_i k howner
    obtain ⟨queue, live, hservice, -⟩ := u.service?_perform h s k
    rw [Hub.isOpen, Hub.isOpen, hservice]
    cases h.service? k <;> rfl

/-- Calls on two subscriptions leave the same subscriptions in either order. -/
theorem subscription?_perform_comm (f g : Handling C) (h : Hub R C) (hne : a ≠ b)
    (s : SubscriptionRef) :
    (g.perform (f.perform h a).2 b).2.subscription? s =
      (f.perform (g.perform h b).2 a).2.subscription? s := by
  rw [g.subscription?_perform_eq, f.subscription?_perform_eq, f.subscription?_perform_eq,
    g.subscription?_perform_eq, Option.map_map, Option.map_map]
  refine Option.map_congr fun sub _ => ?_
  by_cases ha : a = s
  · have hb : b ≠ s := fun hb => hne (ha.trans hb.symm)
    simp [ha, hb, g.ownerIsOpen_perform]
  · simp [ha, f.ownerIsOpen_perform]

omit [BEq C] in
/-- The first of two calls changes nothing about the owner that the second one looks at. -/
theorem atOwner_atOwner (f g : Handling C) (a b : SubscriptionRef) (v : NotificationService) :
    g.atOwner b subB (f.atOwner a subA v) =
      { v with
        queue := v.queue ++ ((if f.appends subA v then [a] else []) ++
          if g.appends subB v then [b] else [])
        live := v.live.filter fun entry =>
          !(f.strikes subA && entry.1 = subA.id) && !(g.strikes subB && entry.1 = subB.id) } := by
  have hg : g.appends subB (f.atOwner a subA v) = g.appends subB v := rfl
  rw [atOwner, hg, atOwner]
  simp only [List.append_assoc, List.filter_filter, Bool.and_comm]

omit [BEq C] in
/-- Two calls that do not both append do the same to a service in either order. -/
theorem atOwner_comm (f g : Handling C) (a b : SubscriptionRef) {v : NotificationService}
    (hnot : ¬ (f.appends subA v = true ∧ g.appends subB v = true)) :
    g.atOwner b subB (f.atOwner a subA v) = f.atOwner a subA (g.atOwner b subB v) := by
  rw [atOwner_atOwner, atOwner_atOwner]
  rcases hf : f.appends subA v with _ | _
  · simp [Bool.and_comm]
  · have hg : g.appends subB v = false := by simpa [hf] using hnot
    simp [hg, Bool.and_comm]

/-- A service ends up the same in either order, unless both subscriptions are put at the end of its
queue. -/
theorem service?_perform_comm (f g : Handling C) (ha : h.subscription? a = some subA)
    (hb : h.subscription? b = some subB) (hne : a ≠ b) (k : ServiceRef) :
    (g.perform (f.perform h a).2 b).2.service? k = (f.perform (g.perform h b).2 a).2.service? k ∨
      ∃ v : NotificationService, (f.perform h a).2.queue k = h.queue k ++ [a] ∧
        (g.perform h b).2.queue k = h.queue k ++ [b] ∧
        (g.perform (f.perform h a).2 b).2.service? k =
          some { v with queue := h.queue k ++ [a, b] } ∧
        (f.perform (g.perform h b).2 a).2.service? k =
          some { v with queue := h.queue k ++ [b, a] } := by
  have ha' : (g.perform h b).2.subscription? a = some subA := by
    rw [g.subscription?_perform_of_ne h hne.symm, ha]
  have hb' : (f.perform h a).2.subscription? b = some subB := by
    rw [f.subscription?_perform_of_ne h hne, hb]
  by_cases hboth : subA.owner = some k ∧ subB.owner = some k
  · obtain ⟨hownerA, hownerB⟩ := hboth
    rcases hv : h.service? k with _ | v
    · left
      rw [g.service?_perform_eq hb', f.service?_perform_eq ha, f.service?_perform_eq ha',
        g.service?_perform_eq hb, hv]
      rfl
    have hf := f.service?_perform_of_owner ha hownerA hv
    have hg := g.service?_perform_of_owner hb hownerB hv
    rw [g.service?_perform_of_owner hb' hownerB hf, f.service?_perform_of_owner ha' hownerA hg]
    by_cases happends : f.appends subA v = true ∧ g.appends subB v = true
    · right
      obtain ⟨hfirst, hsecond⟩ := happends
      refine ⟨f.atOwner a subA (g.atOwner b subB v), ?_, ?_, ?_, ?_⟩
      · rw [Hub.queue_of_service? hf, Hub.queue_of_service? hv, atOwner, hfirst, if_pos rfl]
      · rw [Hub.queue_of_service? hg, Hub.queue_of_service? hv, atOwner, hsecond, if_pos rfl]
      · rw [atOwner_atOwner, atOwner_atOwner, Hub.queue_of_service? hv]
        simp [hfirst, hsecond, Bool.and_comm]
      · rw [atOwner_atOwner, Hub.queue_of_service? hv]
        simp [hfirst, hsecond]
    · exact Or.inl (congrArg some (atOwner_comm f g a b happends))
  · -- One of the two calls does not touch the service.
    left
    rw [g.service?_perform_eq hb', f.service?_perform_eq ha, f.service?_perform_eq ha',
      g.service?_perform_eq hb, Option.map_map, Option.map_map]
    refine Option.map_congr fun v _ => ?_
    simp only [Function.comp_apply]
    split_ifs with hownerB hownerA
    · exact absurd ⟨hownerA, hownerB⟩ hboth
    · rfl
    · rfl
    · rfl

/-! ## The main statement -/

/-- Calls on different subscriptions do not interfere. In every run, whatever is done to a
subscription leaves all others as they are, in their places in live sets and in their order in
queues, and touches no service but its owner. Two calls on different subscriptions, of the same
service or of different ones, give the same replies in either order and leave the same
subscriptions and services; only where both have put a subscription into one queue, the last two
entries come in the order of the calls. -/
theorem calls_independent (past : History R C) (f g : Handling C)
    (ha : past.hub.subscription? a = some subA) (hb : past.hub.subscription? b = some subB)
    (hne : a ≠ b) : f.Exchange g past.hub a b ∧ f.Spares past.hub a subA where
  left :=
    { fst_eq := perform_fst_of_ne f g ha hne.symm
      snd_eq := perform_fst_of_ne g f hb hne
      subscription?_eq := subscription?_perform_comm f g past.hub hne
      service?_cases := service?_perform_comm f g ha hb hne
      silent_eq := by rw [g.silent_perform, f.silent_perform, f.silent_perform, g.silent_perform] }
  right := spares past f ha

/-- The two subscriptions of a service are signaled in either order, and then the queue has them in
either order. A third one has the same number as the first one and another service: when the first
one is cancelled, it keeps its place in the live set of its own. -/
theorem calls_independent_of_signals :
    let past : History Nat Nat :=
      [.register 1 30 [.modify], .withConfig .standard, .register 0 20 [.modify],
        .register 0 10 [.modify], .withConfig .standard]
    let h := past.hub
    let wake : Handling Nat := .signal
    let stop : Handling Nat := .cancel
    (wake.perform (wake.perform h 0).2 1).2.queue 0 = [0, 1] ∧
      (wake.perform (wake.perform h 1).2 0).2.queue 0 = [1, 0] ∧
      wake.Exchange wake h 0 1 ∧
      h.number? 0 = h.number? 2 ∧
      (2 ∈ (stop.perform h 0).2.liveSubscriptions 1 ↔ 2 ∈ h.liveSubscriptions 1) := by
  intro past h wake stop
  have hthere : ∀ s < 3, ∃ sub, h.subscription? s = some sub := by
    intro s hs
    interval_cases s <;> exact ⟨_, rfl⟩
  obtain ⟨sub₀, h₀⟩ := hthere 0 (by decide)
  obtain ⟨sub₁, h₁⟩ := hthere 1 (by decide)
  obtain ⟨sub₂, h₂⟩ := hthere 2 (by decide)
  exact ⟨by decide, by decide, (calls_independent past wake wake h₀ h₁ (by decide)).1, by decide,
    (calls_independent past stop wake h₀ h₂ (by decide)).2.live_iff 1 2 (by decide)⟩

end Handling

end PathWatch
