import Mathlib
import PathWatch.Proofs.Run.ServiceChange
/-!
# Queues and flags

Whether a subscription is queued is written down twice: in the queue of its owner and in a flag of
its own. The two agree in every run, whatever is called in whatever order.
-/

namespace PathWatch

namespace Hub

variable {R C : Type}

/-! ## The invariant -/

/-- The owner and the flag of a subscription. -/
def tag? (h : Hub R C) (s : SubscriptionRef) : Option (Option ServiceRef × Bool) :=
  (h.subscription? s).map fun sub => (sub.owner, sub.queued)

/-- The queue of a service, and whether it is open. -/
def front? (h : Hub R C) (k : ServiceRef) : Option (List SubscriptionRef × Bool) :=
  (h.service? k).map fun v => (v.queue, v.isOpen)

/-- Queues have no repetitions, hold what is flagged, and are empty once their service is closed. -/
structure QueueSound (h : Hub R C) : Prop where
  owner_lt : ∀ {s k q}, h.tag? s = some (some k, q) → k < h.services.size
  nodup : ∀ {k l o}, h.front? k = some (l, o) → l.Nodup
  queued_iff : ∀ {k l o s q}, h.front? k = some (l, o) → h.tag? s = some (some k, q) →
    (q = true ↔ s ∈ l)
  owned : ∀ {k l o s}, h.front? k = some (l, o) → s ∈ l → ∃ q, h.tag? s = some (some k, q)
  closed : ∀ {k l}, h.front? k = some (l, false) → l = []

theorem tag?_of_subscription? {h : Hub R C} {s : SubscriptionRef} {sub : Subscription R C}
    (hs : h.subscription? s = some sub) : h.tag? s = some (sub.owner, sub.queued) := by
  simp [tag?, hs]

theorem front?_of_service? {h : Hub R C} {k : ServiceRef} {v : NotificationService}
    (hk : h.service? k = some v) : h.front? k = some (v.queue, v.isOpen) := by
  simp [front?, hk]

namespace QueueSound

variable {h g : Hub R C}

/-- At the start there is nothing to be queued. -/
theorem empty : QueueSound ({} : Hub R C) where
  owner_lt ht := by simp [tag?] at ht
  nodup hk := by simp [front?] at hk
  queued_iff hk := by simp [front?] at hk
  owned hk := by simp [front?] at hk
  closed hk := by simp [front?] at hk

/-! ## What the invariant says of a subscription and of a service -/

section Views

variable {s : SubscriptionRef} {sub : Subscription R C} {k : ServiceRef} {v : NotificationService}

/-- The place of an owner is in use or has been. -/
theorem lt_size_of_owner (hh : QueueSound h) (hs : h.subscription? s = some sub)
    (howner : sub.owner = some k) : k < h.services.size :=
  hh.owner_lt (howner ▸ tag?_of_subscription? hs)

/-- The flag of a subscription says whether it is in the queue of its owner. -/
theorem queued_iff_mem (hh : QueueSound h) (hv : h.service? k = some v)
    (hs : h.subscription? s = some sub) (howner : sub.owner = some k) :
    sub.queued = true ↔ s ∈ v.queue :=
  hh.queued_iff (front?_of_service? hv) (howner ▸ tag?_of_subscription? hs)

/-- An entry of a queue is a subscription of the service. -/
theorem exists_of_mem (hh : QueueSound h) (hv : h.service? k = some v) (hmem : s ∈ v.queue) :
    ∃ sub, h.subscription? s = some sub ∧ sub.owner = some k := by
  obtain ⟨q, hq⟩ := hh.owned (front?_of_service? hv) hmem
  obtain ⟨sub, hs, htag⟩ := Option.map_eq_some_iff.mp hq
  exact ⟨sub, hs, congrArg Prod.fst htag⟩

/-- A closed service has an empty queue. -/
theorem queue_eq_nil (hh : QueueSound h) (hv : h.service? k = some v) (hclosed : v.isOpen = false) :
    v.queue = [] :=
  hh.closed (hclosed ▸ front?_of_service? hv)

end Views

/-! ## Steps -/

/-- Who keeps owners, flags and queues keeps the invariant. Services may be taken away. -/
theorem of_kept (hh : QueueSound h) (hsize : g.services.size = h.services.size)
    (htag : ∀ s, g.tag? s = h.tag? s)
    (hfront : ∀ k x, g.front? k = some x → h.front? k = some x) : QueueSound g where
  owner_lt ht := by
    rw [hsize]
    exact hh.owner_lt (htag _ ▸ ht)
  nodup hk := hh.nodup (hfront _ _ hk)
  queued_iff hk ht := hh.queued_iff (hfront _ _ hk) (htag _ ▸ ht)
  owned hk hs := by
    rw [htag]
    exact hh.owned (hfront _ _ hk) hs
  closed hk := hh.closed (hfront _ _ hk)

/-- A new subscription is not flagged, and its owner is there. -/
theorem of_new_subscription (hh : QueueSound h) (hsize : g.services.size = h.services.size)
    {n : SubscriptionRef} {owner : Option ServiceRef} (hn : h.tag? n = none)
    (hnew : g.tag? n = some (owner, false)) (howner : ∀ k, owner = some k → k < h.services.size)
    (htag : ∀ s, s ≠ n → g.tag? s = h.tag? s) (hfront : ∀ k, g.front? k = h.front? k) :
    QueueSound g := by
  have absent : ∀ {k l o}, h.front? k = some (l, o) → n ∉ l := by
    intro k l o hk hmem
    obtain ⟨q, hq⟩ := hh.owned hk hmem
    simp [hn] at hq
  constructor
  · intro s k q ht
    rw [hsize]
    by_cases hs : s = n
    · subst hs
      rw [hnew] at ht
      exact howner k (by simpa using congrArg Prod.fst (Option.some.inj ht))
    · exact hh.owner_lt (htag s hs ▸ ht)
  · intro k l o hk
    exact hh.nodup (hfront k ▸ hk)
  · intro k l o s q hk ht
    rw [hfront] at hk
    by_cases hs : s = n
    · subst hs
      rw [hnew] at ht
      obtain ⟨-, rfl⟩ : owner = some k ∧ false = q := by simpa using ht
      simp [absent hk]
    · exact hh.queued_iff hk (htag s hs ▸ ht)
  · intro k l o s hk hs
    rw [hfront] at hk
    have hne : s ≠ n := fun he => absent hk (he ▸ hs)
    rw [htag s hne]
    exact hh.owned hk hs
  · intro k l hk
    exact hh.closed (hfront k ▸ hk)

/-- A new service is open and has an empty queue. -/
theorem of_new_service (hh : QueueSound h) (hsize : g.services.size = h.services.size + 1)
    (hnew : g.front? h.services.size = some ([], true)) (htag : ∀ s, g.tag? s = h.tag? s)
    (hfront : ∀ k, k ≠ h.services.size → g.front? k = h.front? k) : QueueSound g := by
  constructor
  · intro s k q ht
    have hlt := hh.owner_lt (htag s ▸ ht)
    rw [hsize]
    exact Nat.lt_succ_of_lt hlt
  · intro k l o hk
    by_cases hkk : k = h.services.size
    · rw [hkk, hnew] at hk
      obtain ⟨rfl, -⟩ : [] = l ∧ true = o := by simpa using hk
      exact List.nodup_nil
    · exact hh.nodup (hfront k hkk ▸ hk)
  · intro k l o s q hk ht
    have hlt := hh.owner_lt (htag s ▸ ht)
    exact hh.queued_iff (hfront k (Nat.ne_of_lt hlt) ▸ hk) (htag s ▸ ht)
  · intro k l o s hk hs
    by_cases hkk : k = h.services.size
    · rw [hkk, hnew] at hk
      obtain ⟨rfl, -⟩ : [] = l ∧ true = o := by simpa using hk
      simp at hs
    · rw [htag]
      exact hh.owned (hfront k hkk ▸ hk) hs
  · intro k l hk
    by_cases hkk : k = h.services.size
    · rw [hkk, hnew] at hk
      simp at hk
    · exact hh.closed (hfront k hkk ▸ hk)

/-- The flag of a subscription says whether it is in the queue of its owner. -/
theorem flag_eq (hh : QueueSound h) {k : ServiceRef} {l : List SubscriptionRef} {o : Bool}
    (hk : h.front? k = some (l, o)) {s : SubscriptionRef} {q : Bool}
    (ht : h.tag? s = some (some k, q)) : q = decide (s ∈ l) := by
  have hiff := hh.queued_iff hk ht
  by_cases hmem : s ∈ l
  · simpa [hmem] using hiff
  · simpa [hmem] using hiff

/-- Giving one service another queue, with the flags of its subscriptions to match. -/
theorem of_front (hh : QueueSound h) (hsize : g.services.size = h.services.size)
    {k : ServiceRef} {l : List SubscriptionRef} {o : Bool} (hk' : g.front? k = some (l, o))
    (hnodup : l.Nodup) (howned : ∀ s ∈ l, ∃ q, h.tag? s = some (some k, q))
    (hclosed : o = false → l = [])
    (htag : ∀ s, g.tag? s = (h.tag? s).map fun x =>
      (x.1, if x.1 = some k then decide (s ∈ l) else x.2))
    (hfront : ∀ k', k' ≠ k → g.front? k' = h.front? k') : QueueSound g := by
  -- Every subscription has kept its owner, and its flag unless that is the service in question.
  have before : ∀ {s k' q}, g.tag? s = some (some k', q) → ∃ q₀,
      h.tag? s = some (some k', q₀) ∧ q = if k' = k then decide (s ∈ l) else q₀ := by
    intro s k' q hs
    rw [htag] at hs
    obtain ⟨⟨owner, q₀⟩, hq₀, hx⟩ := Option.map_eq_some_iff.mp hs
    obtain ⟨rfl, rfl⟩ := Prod.mk.inj hx
    exact ⟨q₀, hq₀, by simp⟩
  constructor
  · intro s k' q hs
    obtain ⟨q₀, hq₀, -⟩ := before hs
    rw [hsize]
    exact hh.owner_lt hq₀
  · intro k' l' o' hl'
    by_cases hkk : k' = k
    · rw [hkk, hk'] at hl'
      obtain ⟨rfl, -⟩ := Prod.mk.inj (Option.some.inj hl')
      exact hnodup
    · exact hh.nodup (hfront k' hkk ▸ hl')
  · intro k' l' o' s q hl' hs
    obtain ⟨q₀, hq₀, rfl⟩ := before hs
    by_cases hkk : k' = k
    · rw [hkk, hk'] at hl'
      obtain ⟨rfl, -⟩ := Prod.mk.inj (Option.some.inj hl')
      rw [if_pos hkk, decide_eq_true_eq]
    · rw [if_neg hkk]
      exact hh.queued_iff (hfront k' hkk ▸ hl') hq₀
  · intro k' l' o' s hl' hmem
    have hbefore : ∃ q, h.tag? s = some (some k', q) := by
      by_cases hkk : k' = k
      · rw [hkk, hk'] at hl'
        obtain ⟨rfl, -⟩ := Prod.mk.inj (Option.some.inj hl')
        exact hkk ▸ howned s hmem
      · exact hh.owned (hfront k' hkk ▸ hl') hmem
    obtain ⟨q, hq⟩ := hbefore
    exact ⟨_, by rw [htag, hq]; rfl⟩
  · intro k' l' hl'
    by_cases hkk : k' = k
    · rw [hkk, hk'] at hl'
      obtain ⟨rfl, hopen⟩ := Prod.mk.inj (Option.some.inj hl')
      exact hclosed hopen
    · exact hh.closed (hfront k' hkk ▸ hl')

/-- A subscription whose place in the queue does not change keeps its flag. -/
theorem tag?_eq_map (hh : QueueSound h) {k : ServiceRef} {l l' : List SubscriptionRef} {o : Bool}
    (hk : h.front? k = some (l, o)) {s : SubscriptionRef} (hmem : s ∈ l' ↔ s ∈ l) :
    h.tag? s = (h.tag? s).map fun x => (x.1, if x.1 = some k then decide (s ∈ l') else x.2) := by
  rcases ht : h.tag? s with _ | ⟨owner, q⟩
  · rfl
  · by_cases howner : owner = some k
    · subst howner
      simp [hh.flag_eq hk ht, hmem]
    · simp [howner]

/-- Appending an unflagged subscription to the queue of its open owner, and flagging it. -/
theorem of_append (hh : QueueSound h) (hsize : g.services.size = h.services.size)
    {s : SubscriptionRef} {k : ServiceRef} {l : List SubscriptionRef}
    (ht : h.tag? s = some (some k, false)) (ht' : g.tag? s = some (some k, true))
    (hk : h.front? k = some (l, true)) (hk' : g.front? k = some (l ++ [s], true))
    (htag : ∀ s', s' ≠ s → g.tag? s' = h.tag? s')
    (hfront : ∀ k', k' ≠ k → g.front? k' = h.front? k') : QueueSound g := by
  have hnew : s ∉ l := fun hmem => by simpa using (hh.queued_iff hk ht).mpr hmem
  refine hh.of_front hsize hk' ?_ ?_ (by simp) ?_ hfront
  · rw [← List.concat_eq_append]
    exact (hh.nodup hk).concat hnew
  · intro s' hs'
    rcases List.mem_append.mp hs' with hold | hlast
    · exact hh.owned hk hold
    · exact ⟨false, List.mem_singleton.mp hlast ▸ ht⟩
  · intro s'
    by_cases hss : s' = s
    · simp [hss, ht, ht']
    · rw [htag s' hss]
      exact hh.tag?_eq_map hk (by simp [hss])

/-- Taking the head of the queue of an open service, and clearing its flag. -/
theorem of_pop (hh : QueueSound h) (hsize : g.services.size = h.services.size)
    {s : SubscriptionRef} {k : ServiceRef} {rest : List SubscriptionRef}
    (hk : h.front? k = some (s :: rest, true)) (hk' : g.front? k = some (rest, true))
    (ht' : g.tag? s = (h.tag? s).map fun x => (x.1, false))
    (htag : ∀ s', s' ≠ s → g.tag? s' = h.tag? s')
    (hfront : ∀ k', k' ≠ k → g.front? k' = h.front? k') : QueueSound g := by
  obtain ⟨hgone, hnodup⟩ := List.nodup_cons.mp (hh.nodup hk)
  refine hh.of_front hsize hk' hnodup ?_ (by simp) ?_ hfront
  · intro s' hs'
    exact hh.owned hk (List.mem_cons_of_mem s hs')
  · intro s'
    by_cases hss : s' = s
    · obtain ⟨q, hq⟩ := hh.owned hk List.mem_cons_self
      subst hss
      simp [ht', hq, hgone]
    · rw [htag s' hss]
      exact hh.tag?_eq_map hk (by simp [hss])

/-- Closing an open service, emptying its queue and clearing the flags of the entries. -/
theorem of_flush (hh : QueueSound h) (hsize : g.services.size = h.services.size)
    {k : ServiceRef} {l : List SubscriptionRef} (hk : h.front? k = some (l, true))
    (hk' : g.front? k = some ([], false))
    (htag : ∀ s, g.tag? s = (h.tag? s).map fun x => (x.1, if s ∈ l then false else x.2))
    (hfront : ∀ k', k' ≠ k → g.front? k' = h.front? k') : QueueSound g := by
  refine hh.of_front hsize hk' List.nodup_nil (by simp) (fun _ => rfl) ?_ hfront
  intro s
  rw [htag]
  by_cases hmem : s ∈ l
  · obtain ⟨q, hq⟩ := hh.owned hk hmem
    simp [hq, hmem]
  · have hsame : h.tag? s = (h.tag? s).map fun x =>
        (x.1, if x.1 = some k then decide (s ∈ ([] : List SubscriptionRef)) else x.2) :=
      hh.tag?_eq_map hk (by simp [hmem])
    rw [← hsame]
    simp [hmem]

/-! ## Calls -/

/-- Changing a subscription without touching its owner or its flag. -/
theorem modifySubscription (hh : QueueSound h) (s : SubscriptionRef)
    {f : Subscription R C → Subscription R C} (howner : ∀ sub, (f sub).owner = sub.owner)
    (hqueued : ∀ sub, (f sub).queued = sub.queued) : QueueSound (h.modifySubscription s f) := by
  refine hh.of_kept (size_services_modifySubscription h s f) (fun s' => ?_) (fun k x hk => hk)
  unfold tag?
  rw [subscription?_modifySubscription]
  split
  · simp [howner, hqueued, Function.comp_def]
  · rfl

/-- Changing a service without touching its queue, and without closing or opening it. -/
theorem modifyService (hh : QueueSound h) (k : ServiceRef)
    {f : NotificationService → NotificationService} (hqueue : ∀ v, (f v).queue = v.queue)
    (hopen : ∀ v, (f v).isOpen = v.isOpen) : QueueSound (h.modifyService k f) := by
  refine hh.of_kept (size_services_modifyService h k f) (fun s => rfl) (fun k' x hk => ?_)
  unfold front? at hk ⊢
  rw [service?_modifyService] at hk
  split at hk
  · simpa [hqueue, hopen, Function.comp_def] using hk
  · exact hk

theorem post [BEq C] (hh : QueueSound h) (s : SubscriptionRef) (e : ChangeEvent C) :
    QueueSound (h.post s e).hub := by
  unfold Hub.post
  split
  · exact hh
  · split
    · exact hh
    · exact hh.modifySubscription s (fun sub => sub.post_owner e) (fun sub => sub.post_queued e)

theorem offer [BEq C] (hh : QueueSound h) (s : SubscriptionRef) (e : ChangeEvent C) :
    QueueSound (h.offer s e).hub := by
  unfold Hub.offer
  split
  · exact hh
  · split
    · exact hh.post s e
    · exact hh

theorem drain (hh : QueueSound h) (s : SubscriptionRef) : QueueSound (h.drain s).hub := by
  unfold Hub.drain
  split
  · exact hh
  · exact hh.modifySubscription s (fun _ => rfl) (fun _ => rfl)

/-- An entry is put into a queue together with the flag that says so. -/
theorem enqueue (hh : QueueSound h) (s : SubscriptionRef) : QueueSound (h.enqueue s).2 := by
  unfold Hub.enqueue
  split
  · exact hh
  · rename_i sub hs
    split
    · exact hh
    · rename_i k ho
      split
      · exact hh
      · rename_i v hk
        split
        · exact hh
        · rename_i hopen
          split
          · exact hh
          · rename_i hq
            have ht := tag?_of_subscription? hs
            rw [ho, show sub.queued = false by simpa using hq] at ht
            have hf := front?_of_service? hk
            rw [show v.isOpen = true by simpa using hopen] at hf
            refine hh.of_append (by simp) ht ?_ hf ?_ ?_ ?_
            · simp [tag?, subscription?_modifySubscription, hs, ho]
            · simpa [front?, service?_modifyService, hk] using hopen
            · intro s' hss
              simp [tag?, subscription?_modifySubscription, Ne.symm hss]
            · intro k' hkk
              simp [front?, service?_modifyService, Ne.symm hkk]

theorem signal (hh : QueueSound h) (s : SubscriptionRef) : QueueSound (h.signal s).hub := by
  unfold Hub.signal
  split
  · exact hh
  · split
    · refine QueueSound.enqueue ?_ s
      exact hh.modifySubscription s (fun _ => rfl) (fun _ => rfl)
    · exact hh

theorem reset (hh : QueueSound h) (s : SubscriptionRef) : QueueSound (h.reset s).hub := by
  unfold Hub.reset
  split
  · exact hh
  · split
    · exact hh
    · exact hh
    · split
      · exact hh.modifySubscription s (fun _ => rfl) (fun _ => rfl)
      · exact hh.enqueue s

/-- The entry that a poll takes out loses its flag. -/
theorem poll (hh : QueueSound h) (k : ServiceRef) : QueueSound (h.poll k).hub := by
  unfold Hub.poll
  split
  · exact hh
  · rename_i v hk
    split
    · exact hh
    · rename_i hopen
      split
      · exact hh
      · rename_i s rest hq
        have hf := front?_of_service? hk
        rw [hq, show v.isOpen = true by simpa using hopen] at hf
        refine hh.of_pop (by simp) hf ?_ ?_ ?_ ?_
        · simpa [front?, service?_modifyService, hk] using hopen
        · simp [tag?, subscription?_modifySubscription, Function.comp_def]
        · intro s' hss
          simp [tag?, subscription?_modifySubscription, Ne.symm hss]
        · intro k' hkk
          simp [front?, service?_modifyService, Ne.symm hkk]

/-- Shutting a service empties its queue and takes the flag from all that was in it. -/
theorem shut (hh : QueueSound h) (k : ServiceRef) : QueueSound (h.shut k).2 := by
  by_cases hopen : h.isOpen k = true
  · obtain ⟨v, hk, hv⟩ := service?_of_isOpen hopen
    have hf := front?_of_service? hk
    rw [hv] at hf
    refine hh.of_flush (size_services_shut h k) hf ?_ (fun s => ?_) (fun k' hkk => ?_)
    · simp [front?, service?_shut, hk, hv]
    · unfold tag?
      rw [subscription?_shut, Option.map_map, Option.map_map, queue_of_service? hk]
      refine Option.map_congr fun sub _ => ?_
      by_cases hmem : s ∈ v.queue <;> simp [hopen, hmem]
    · simp [front?, service?_shut, Ne.symm hkk]
  · unfold Hub.shut
    split
    · exact hh
    · rename_i v hk
      rw [isOpen_of_service? hk] at hopen
      simpa [hopen] using hh

theorem forget (hh : QueueSound h) (s : SubscriptionRef) : QueueSound (h.forget s) := by
  unfold Hub.forget
  split
  · exact hh
  · split
    · exact hh
    · exact hh.modifyService _ (fun _ => rfl) (fun _ => rfl)

theorem markCancelled (hh : QueueSound h) (s : SubscriptionRef) :
    QueueSound (h.markCancelled s).2 := by
  unfold Hub.markCancelled
  split
  · exact hh
  · split
    · exact hh
    · exact hh.modifySubscription s (fun _ => rfl) (fun _ => rfl)

theorem cancel (hh : QueueSound h) (s : SubscriptionRef) : QueueSound (h.cancel s).hub := by
  rw [cancel_hub]
  split
  · exact (hh.markCancelled s).forget s
  · exact hh

theorem cancelAll (hh : QueueSound h) (l : List SubscriptionRef) :
    QueueSound (h.cancelAll l).hub := by
  induction l generalizing h with
  | nil => exact hh
  | cons s rest ih => exact ih (hh.cancel s)

theorem modifySilent (hh : QueueSound h) (k : SilentRef) (f : SilentService → SilentService) :
    QueueSound (h.modifySilent k f) :=
  hh.of_kept (size_services_modifySilent h k f) (fun _ => rfl) (fun _ _ hk => hk)

/-- A subscription that is made without a flag, for a service that is there or for none. -/
theorem push (hh : QueueSound h) {sub : Subscription R C} (hqueued : sub.queued = false)
    (howner : ∀ k, sub.owner = some k → k < h.services.size) :
    QueueSound { h with subscriptions := h.subscriptions.push sub } := by
  have hnone : h.tag? h.subscriptions.size = none := by simp [tag?, subscription?]
  have hnew : ({ h with subscriptions := h.subscriptions.push sub } : Hub R C).tag?
      h.subscriptions.size = some (sub.owner, false) := by
    simp [tag?, subscription?_push, hqueued]
  refine hh.of_new_subscription rfl hnone hnew howner (fun s hs => ?_) (fun _ => rfl)
  simp [tag?, subscription?_push, hs]

/-- A new subscription is in no queue. -/
theorem register (hh : QueueSound h) (k : ServiceRef) (resource : R) (kinds : List EventKind) :
    QueueSound (h.register k resource kinds).hub := by
  rcases register_cases h k resource kinds with ⟨e, hr⟩ | ⟨v, hk, -, hr⟩
  · rw [hr]
    exact hh
  · rw [hr]
    refine QueueSound.modifyService ?_ k (fun _ => rfl) (fun _ => rfl)
    refine hh.push rfl (fun k' hkk => ?_)
    rw [← Option.some.inj hkk]
    exact lt_size_of_service? hk

theorem registerSilent (hh : QueueSound h) (k : SilentRef) (resource : R)
    (kinds : List EventKind) : QueueSound (h.registerSilent k resource kinds).hub := by
  rcases registerSilent_cases h k resource kinds with
    hr | ⟨made, v, f, g, howner, -, -, hqueued, -, hr⟩
  · rw [hr]
    exact hh
  · rw [hr]
    refine QueueSound.modifySilent ?_ k g
    exact (hh.modifySilent k f).push hqueued (by simp [howner])

theorem addService (hh : QueueSound h) (config : WatchConfig) :
    QueueSound (h.addService config).hub := by
  refine hh.of_new_service (by simp [Hub.addService]) ?_ (fun _ => rfl) (fun k hk => ?_)
  · exact (congrArg _ (service?_push h { config } h.services.size)).trans (by simp)
  · exact (congrArg _ (service?_push h { config } k)).trans (by simp [front?, hk])

theorem release (hh : QueueSound h) (k : ServiceRef) : QueueSound (h.release k) := by
  refine hh.of_kept ?_ (fun s => by simp [tag?]) (fun k' x hx => ?_)
  · unfold Hub.release
    repeat' split
    all_goals simp
  · obtain ⟨v', hv', rfl⟩ := Option.map_eq_some_iff.mp hx
    rw [service?_release] at hv'
    obtain ⟨v, hv, hafter⟩ := Option.bind_eq_some_iff.mp hv'
    rw [front?_of_service? hv]
    split at hafter
    · split at hafter
      · simp at hafter
      · rw [← Option.some.inj hafter]
    · rw [← Option.some.inj hafter]

end QueueSound

end Hub

variable {R C : Type} [BEq C]

/-- Every action keeps queues and flags in agreement. -/
theorem Hub.QueueSound.apply {h : Hub R C} (hh : h.QueueSound) (a : Action R C) :
    (a.apply h).QueueSound := by
  cases a with
  | withConfig config =>
    rw [Action.apply]
    rcases Hub.withConfig_cases h config with ⟨e, hw⟩ | ⟨-, hw⟩
    · rw [hw]
      exact hh
    · rw [hw]
      exact hh.addService config
  | retain k => exact hh.modifyService k (fun _ => rfl) (fun _ => rfl)
  | release k => exact hh.release k
  | register k resource kinds => exact hh.register k resource kinds
  | post s e => exact hh.post s e
  | offer s e => exact hh.offer s e
  | signal s => exact hh.signal s
  | drain s => exact hh.drain s
  | reset s => exact hh.reset s
  | poll k => exact hh.poll k
  | pollTimeout k endless =>
    rw [Action.apply, Hub.pollTimeout_hub]
    exact hh.poll k
  | take k =>
    rw [Action.apply, Hub.take_hub]
    exact hh.poll k
  | cancel s => exact hh.cancel s
  | deregister k s =>
    rw [Action.apply, Hub.deregister]
    split
    · exact hh
    · split
      · exact hh.cancel s
      · exact hh
  | close k =>
    rw [Action.apply, Hub.close_hub]
    split
    · exact (hh.shut k).cancelAll _
    · exact hh
  | markCancelled s => exact hh.markCancelled s
  | forget s => exact hh.forget s
  | shut k => exact hh.shut k
  | addSilent => exact hh.of_kept rfl (fun _ => rfl) (fun _ _ hk => hk)
  | registerSilent k resource kinds => exact hh.registerSilent k resource kinds
  | liveCountSilent k => exact hh.modifySilent k _
  | closeSilent k =>
    rw [Action.apply]
    rcases Hub.closeSilent_cases h k with hc | ⟨f, l, hc⟩
    · rw [hc]
      exact hh
    · rw [hc]
      exact (hh.modifySilent k f).cancelAll l

end PathWatch
