import Mathlib
import PathWatch.Proofs.Hub.Views
/-!
# What calls do to a service

Every call maps the record of a service, and the map is written out here for each call. Only a
release of the last handle takes a service away.
-/

namespace PathWatch

namespace Hub

variable {R C : Type}

/-- A call that leaves the hub as it is maps a service by what would not change it. -/
theorem service?_eq_map {h : Hub R C} {k : ServiceRef}
    {f : NotificationService → NotificationService}
    (hf : ∀ v, h.service? k = some v → f v = v) (k' : ServiceRef) :
    h.service? k' = (h.service? k').map fun v => if k = k' then f v else v := by
  rcases hk : h.service? k' with _ | v
  · rfl
  · by_cases hkk : k = k'
    · subst hkk
      simp [hf v hk]
    · simp [hkk]

/-- A call that changes a service maps it by anything that changes it in the same way. -/
theorem service?_modify_eq_map {h : Hub R C} {k : ServiceRef}
    {f g : NotificationService → NotificationService}
    (hf : ∀ v, h.service? k = some v → g v = f v) (k' : ServiceRef) :
    (h.modifyService k g).service? k' =
      (h.service? k').map fun v => if k = k' then f v else v := by
  rw [service?_modifyService]
  rcases hk : h.service? k' with _ | v
  · simp
  · by_cases hkk : k = k'
    · subst hkk
      simp [hf v hk]
    · simp [hkk]

/-! ## Calls that no service notices -/

/-- Posting changes the buffer of a subscription, and no service. -/
theorem services_post [BEq C] (h : Hub R C) (s : SubscriptionRef) (e : ChangeEvent C) :
    (h.post s e).hub.services = h.services := by
  unfold post
  split
  · rfl
  · split <;> rfl

theorem services_offer [BEq C] (h : Hub R C) (s : SubscriptionRef) (e : ChangeEvent C) :
    (h.offer s e).hub.services = h.services := by
  unfold offer
  split
  · rfl
  · split
    · exact services_post h s e
    · rfl

theorem services_drain (h : Hub R C) (s : SubscriptionRef) :
    (h.drain s).hub.services = h.services := by
  unfold drain
  split <;> rfl

/-- A subscription is marked as cancelled before its service hears of it. -/
theorem services_markCancelled (h : Hub R C) (s : SubscriptionRef) :
    (h.markCancelled s).2.services = h.services := by
  unfold markCancelled
  split
  · rfl
  · split <;> rfl

/-! ## The queue -/

/-- What a call that may enqueue `s` leaves of the service `k`: either what was there, or that with
`s` at the end of the queue. The latter needs `s` to be unflagged and `k` to be its open owner. -/
def MayAppend (h : Hub R C) (s : SubscriptionRef) (k : ServiceRef)
    (after : Option NotificationService) : Prop :=
  after = h.service? k ∨
    ∃ sub v, h.subscription? s = some sub ∧ sub.owner = some k ∧ sub.queued = false ∧
      h.service? k = some v ∧ v.isOpen = true ∧ after = some { v with queue := v.queue ++ [s] }

/-- Enqueueing changes no service but by one entry at the end of a queue. -/
theorem service?_enqueue (h : Hub R C) (s : SubscriptionRef) (k : ServiceRef) :
    h.MayAppend s k ((h.enqueue s).2.service? k) := by
  unfold enqueue
  split
  · exact Or.inl rfl
  · rename_i sub hs
    split
    · exact Or.inl rfl
    · rename_i k' ho
      split
      · exact Or.inl rfl
      · rename_i v hv
        split
        · exact Or.inl rfl
        · rename_i hopen
          split
          · exact Or.inl rfl
          · rename_i hq
            rw [service?_modifySubscription, service?_modifyService]
            by_cases hk : k' = k
            · subst hk
              right
              exact ⟨sub, v, hs, ho, by simpa using hq, hv, by simpa using hopen, by simp [hv]⟩
            · left
              simp [hk]

theorem service?_signal (h : Hub R C) (s : SubscriptionRef) (k : ServiceRef) :
    h.MayAppend s k ((h.signal s).hub.service? k) := by
  unfold signal
  split
  · exact Or.inl rfl
  · rename_i sub hs
    split
    · -- The state is changed first, but enqueueing does not look at it.
      rcases service?_enqueue (h.modifySubscription s _) s k with hsame | happ
      · exact Or.inl hsame
      · obtain ⟨w, v, hw, ho, hq, hv, hopen, hafter⟩ := happ
        rw [subscription?_modifySubscription, if_pos rfl, hs] at hw
        obtain rfl := Option.some.inj hw
        exact Or.inr ⟨sub, v, hs, ho, hq, hv, hopen, hafter⟩
    · exact Or.inl rfl

/-- A reset puts its subscription at the end of the queue, or leaves all queues as they are. -/
theorem service?_reset (h : Hub R C) (s : SubscriptionRef) (k : ServiceRef) :
    h.MayAppend s k ((h.reset s).hub.service? k) := by
  unfold reset
  split
  · exact Or.inl rfl
  · split
    · exact Or.inl rfl
    · exact Or.inl rfl
    · split
      · exact Or.inl rfl
      · exact service?_enqueue h s k

/-- Taking the head of the queue of an open service shortens it by one entry. -/
theorem service?_poll (h : Hub R C) (k k' : ServiceRef) :
    (h.poll k).hub.service? k' = (h.service? k').map fun v =>
      if k = k' then
        if v.isOpen then { v with queue := v.queue.tail } else v
      else v := by
  unfold poll
  split
  · exact service?_eq_map (by simp [*]) k'
  · rename_i v hk
    split
    · exact service?_eq_map (by simp_all) k'
    · split
      · rename_i hq
        refine service?_eq_map (fun w hw => ?_) k'
        obtain rfl : v = w := Option.some.inj (hk.symm.trans hw)
        rw [hq, List.tail_nil, ← hq]
        split <;> rfl
      · rw [service?_modifySubscription]
        exact service?_modify_eq_map (by simp_all) k'

/-- Whether a service is open depends on the services only. -/
theorem isOpen_congr {g h : Hub R C} (hs : g.services = h.services) (k : ServiceRef) :
    g.isOpen k = h.isOpen k := by
  rw [isOpen, isOpen, service?_congr hs]

/-- An entry more in the queue does not close a service. -/
theorem isOpen_of_mayAppend {g h : Hub R C} {s : SubscriptionRef} {k : ServiceRef}
    (hg : h.MayAppend s k (g.service? k)) : g.isOpen k = h.isOpen k := by
  rcases hg with hsame | ⟨sub, v, -, -, -, hv, -, hlonger⟩
  · rw [isOpen, isOpen, hsame]
  · rw [isOpen_of_service? hlonger, isOpen_of_service? hv]

theorem isOpen_signal (h : Hub R C) (s : SubscriptionRef) (k : ServiceRef) :
    (h.signal s).hub.isOpen k = h.isOpen k :=
  isOpen_of_mayAppend (service?_signal h s k)

theorem isOpen_reset (h : Hub R C) (s : SubscriptionRef) (k : ServiceRef) :
    (h.reset s).hub.isOpen k = h.isOpen k :=
  isOpen_of_mayAppend (service?_reset h s k)

/-- A poll takes an entry out of a queue, and closes nothing. -/
theorem isOpen_poll (h : Hub R C) (k k' : ServiceRef) :
    (h.poll k).hub.isOpen k' = h.isOpen k' := by
  rw [isOpen, isOpen, service?_poll]
  rcases h.service? k' with _ | v
  · rfl
  · simp only [Option.map_some]
    split_ifs <;> rfl

theorem queue_congr {g h : Hub R C} (hs : g.services = h.services) (k : ServiceRef) :
    g.queue k = h.queue k := by
  rw [queue, queue, service?_congr hs]

/-- What a call may append is one entry. -/
theorem length_queue_of_mayAppend {g h : Hub R C} {s : SubscriptionRef} {k : ServiceRef}
    (hg : h.MayAppend s k (g.service? k)) : (g.queue k).length ≤ (h.queue k).length + 1 := by
  rcases hg with hsame | ⟨sub, v, -, -, -, hv, -, hlonger⟩
  · rw [queue, queue, hsame]
    exact Nat.le_succ _
  · rw [queue_of_service? hlonger, queue_of_service? hv, List.length_append]
    exact Nat.le_refl _

/-- A subscription with an empty buffer is not put back into the queue. -/
theorem queue_reset_of_buffer_eq_nil {h : Hub R C} {s : SubscriptionRef}
    (hs : ∀ sub, h.subscription? s = some sub → sub.buffer = []) (k : ServiceRef) :
    (h.reset s).hub.queue k = h.queue k := by
  unfold reset
  split
  · rfl
  · rename_i sub hsub
    split
    · rfl
    · rfl
    · rw [hs sub hsub]
      rfl

/-- An open service hands out the head of its queue and keeps the rest. -/
theorem poll_of_queue_eq_cons {h : Hub R C} {k : ServiceRef} {s : SubscriptionRef}
    {rest : List SubscriptionRef} (hopen : h.isOpen k = true) (hqueue : h.queue k = s :: rest) :
    (h.poll k).value = .ok (some s) ∧ (h.poll k).hub.queue k = rest := by
  obtain ⟨v, hv, hvopen⟩ := service?_of_isOpen hopen
  rw [queue_of_service? hv] at hqueue
  constructor
  · simp [poll, hv, hvopen, hqueue]
  · rw [queue, service?_poll, hv]
    simp [hvopen, hqueue]

/-- Shutting an open service closes it and empties its queue. -/
theorem service?_shut (h : Hub R C) (k k' : ServiceRef) :
    (h.shut k).2.service? k' = (h.service? k').map fun v =>
      if k = k' then
        if v.isOpen then { v with isOpen := false, queue := [] } else v
      else v := by
  unfold shut
  split
  · exact service?_eq_map (by simp [*]) k'
  · rename_i v hk
    split
    · exact service?_eq_map (by simp_all) k'
    · have unflagged := service?_congr (services_unqueueAll v.queue h)
      rw [← unflagged k']
      refine service?_modify_eq_map (fun w hw => ?_) k'
      rw [unflagged, hk] at hw
      simp_all

/-- The live set is the map of the service without the numbers. -/
theorem liveSubscriptions_of_service? {h : Hub R C} {k : ServiceRef} {v : NotificationService}
    (hk : h.service? k = some v) : h.liveSubscriptions k = v.live.map Prod.snd := by
  simp [liveSubscriptions, hk]

/-- Every live set is as it was before a service was shut. -/
theorem liveSubscriptions_shut (h : Hub R C) (k k' : ServiceRef) :
    (h.shut k).2.liveSubscriptions k' = h.liveSubscriptions k' := by
  unfold liveSubscriptions
  rw [service?_shut]
  rcases h.service? k' with _ | v
  · rfl
  · simp only [Option.map_some]
    split_ifs <;> rfl

/-- A call of `shut` says whether the service was open. -/
theorem shut_fst (h : Hub R C) (k : ServiceRef) : (h.shut k).1 = h.isOpen k := by
  unfold shut isOpen
  split
  · simp [*]
  · split <;> simp_all

/-! ## The live set -/

/-- Striking a subscription takes the entries under its identifier out of the live set of its
owner. -/
theorem service?_forget {h : Hub R C} {s : SubscriptionRef} {sub : Subscription R C}
    (hs : h.subscription? s = some sub) (k : ServiceRef) :
    (h.forget s).service? k = (h.service? k).map fun v =>
      if sub.owner = some k then { v with live := v.live.filter fun entry => entry.1 ≠ sub.id }
      else v := by
  unfold forget
  simp only [hs]
  split
  · simp [*]
  · rename_i k' ho
    rw [service?_modify_eq_map (fun _ _ => rfl)]
    simp [ho]

/-- What calls that cancel leave of a service: its live set keeps some of its entries. -/
def Thinned (h : Hub R C) (k : ServiceRef) (after : Option NotificationService) : Prop :=
  ∃ keep : SubscriptionId × SubscriptionRef → Bool,
    after = (h.service? k).map fun v => { v with live := v.live.filter keep }

theorem Thinned.refl (h : Hub R C) (k : ServiceRef) : h.Thinned k (h.service? k) :=
  ⟨fun _ => true, by simp⟩

/-- What has been thinned twice has been thinned. -/
theorem Thinned.trans {h g : Hub R C} {k : ServiceRef} {after : Option NotificationService}
    (hg : h.Thinned k (g.service? k)) (ha : g.Thinned k after) : h.Thinned k after := by
  obtain ⟨keep, hkeep⟩ := hg
  obtain ⟨keep', hkeep'⟩ := ha
  refine ⟨fun entry => keep entry && keep' entry, ?_⟩
  rw [hkeep', hkeep, Option.map_map]
  refine Option.map_congr fun v _ => ?_
  simp only [Function.comp_apply, List.filter_filter, Bool.and_comm]

/-- To forget a subscription is to strike it from the live set of its owner. -/
theorem thinned_forget (h : Hub R C) (s : SubscriptionRef) (k : ServiceRef) :
    h.Thinned k ((h.forget s).service? k) := by
  rcases hs : h.subscription? s with _ | sub
  · have hforget : h.forget s = h := by simp [forget, hs]
    rw [hforget]
    exact .refl h k
  · rw [service?_forget hs]
    by_cases ho : sub.owner = some k
    · exact ⟨fun entry => entry.1 ≠ sub.id, by simp [ho]⟩
    · simpa [ho] using Thinned.refl h k

/-- What calls that cancel leave of a service: its live set may differ. -/
def SameButLive (h : Hub R C) (k : ServiceRef) (after : Option NotificationService) : Prop :=
  ∃ f : NotificationService → List (SubscriptionId × SubscriptionRef),
    after = (h.service? k).map fun v => { v with live := f v }

/-- A service that has been thinned is the same but for its live set. -/
theorem Thinned.sameButLive {h : Hub R C} {k : ServiceRef} {after : Option NotificationService}
    (ha : h.Thinned k after) : h.SameButLive k after := by
  obtain ⟨keep, hkeep⟩ := ha
  exact ⟨fun v => v.live.filter keep, hkeep⟩

/-- Only what is there and has not been cancelled is marked. -/
theorem markCancelled_fst (h : Hub R C) (s : SubscriptionRef) :
    (h.markCancelled s).1 = true ↔
      ∃ sub, h.subscription? s = some sub ∧ sub.state ≠ .cancelled := by
  unfold markCancelled
  split
  · simp [*]
  · split <;> simp_all

/-- A subscription that has been cancelled before is not marked again. -/
theorem markCancelled_of_false {h : Hub R C} {s : SubscriptionRef}
    (hs : (h.markCancelled s).1 = false) : (h.markCancelled s).2 = h := by
  unfold markCancelled at hs ⊢
  split
  · rfl
  · split
    · rfl
    · simp_all

/-- A cancellation marks and strikes, or finds nothing to do. -/
theorem cancel_hub (h : Hub R C) (s : SubscriptionRef) :
    (h.cancel s).hub =
      if (h.markCancelled s).1 = true then (h.markCancelled s).2.forget s else h := by
  rcases hm : h.markCancelled s with ⟨_ | _, marked⟩
  · unfold cancel
    split <;> simp [hm]
  · unfold cancel
    split
    · rename_i hs
      simp [markCancelled, hs] at hm
    · simp [hm]

theorem thinned_cancel (h : Hub R C) (s : SubscriptionRef) (k : ServiceRef) :
    h.Thinned k ((h.cancel s).hub.service? k) := by
  rw [cancel_hub]
  split
  · have hforget := thinned_forget (h.markCancelled s).2 s k
    unfold Thinned at hforget
    rwa [service?_congr (services_markCancelled h s)] at hforget
  · exact .refl h k

/-- Cancelling any number of subscriptions thins services, by one cancellation after another. -/
theorem thinned_cancelAll (h : Hub R C) (l : List SubscriptionRef) (k : ServiceRef) :
    h.Thinned k ((h.cancelAll l).hub.service? k) := by
  induction l generalizing h with
  | nil => exact .refl h k
  | cons s rest ih => exact (thinned_cancel h s k).trans (ih (h.cancel s).hub)

/-! ## Closing -/

/-- Closing an open service shuts it and then cancels what is live; a closed one is left alone. -/
theorem close_hub (h : Hub R C) (k : ServiceRef) :
    (h.close k).hub =
      if h.isOpen k then ((h.shut k).2.cancelAll ((h.shut k).2.liveSubscriptions k)).hub
      else h := by
  have hfst := shut_fst h k
  unfold close
  split
  · rename_i hs
    rw [hs] at hfst
    simp [← hfst]
  · rename_i hs
    rw [hs] at hfst
    simp [← hfst, hs]

/-- A service that has been closed keeps its configuration and its count. -/
theorem service?_close_of_open {h : Hub R C} {k : ServiceRef} {v : NotificationService}
    (hv : h.service? k = some v) (hopen : v.isOpen = true) :
    ∃ v', (h.close k).hub.service? k = some v' ∧ v'.isOpen = false ∧ v'.config = v.config ∧
      v'.nextId = v.nextId := by
  obtain ⟨live, hlive⟩ :=
    (thinned_cancelAll (h.shut k).2 ((h.shut k).2.liveSubscriptions k) k).sameButLive
  rw [close_hub, isOpen_of_service? hv, if_pos hopen, hlive, service?_shut, hv]
  simp [hopen]

/-! ## Handles -/

/-- A release takes a service away with its last handle. -/
theorem service?_release (h : Hub R C) (k k' : ServiceRef) :
    (h.release k).service? k' = (h.service? k').bind fun v =>
      if k = k' then
        if v.handles ≤ 1 then none else some { v with handles := v.handles - 1 }
      else some v := by
  by_cases hkk : k = k'
  · subst hkk
    unfold release
    rcases hk : h.service? k with _ | v
    · simpa using hk
    · by_cases hlast : v.handles ≤ 1
      · simp only [hlast, if_true, Option.bind_some]
        unfold service?
        rw [Array.getElem?_modify, if_pos rfl]
        rcases h.services[k]? with _ | w <;> rfl
      · simp [hlast, service?_modifyService, hk]
  · have hsame : (h.release k).service? k' = h.service? k' := by
      unfold release
      split
      · rfl
      · split
        · unfold service?
          rw [Array.getElem?_modify, if_neg hkk]
        · rw [service?_modifyService, if_neg hkk]
    rw [hsame]
    rcases h.service? k' with _ | v <;> simp [hkk]

/-! ## The number of places -/

theorem size_services_enqueue (h : Hub R C) (s : SubscriptionRef) :
    (h.enqueue s).2.services.size = h.services.size := by
  unfold enqueue
  repeat' split
  all_goals simp

theorem size_services_signal (h : Hub R C) (s : SubscriptionRef) :
    (h.signal s).hub.services.size = h.services.size := by
  unfold signal
  repeat' split
  all_goals simp [size_services_enqueue]

theorem size_services_reset (h : Hub R C) (s : SubscriptionRef) :
    (h.reset s).hub.services.size = h.services.size := by
  unfold reset
  repeat' split
  all_goals simp [size_services_enqueue]

theorem size_services_poll (h : Hub R C) (k : ServiceRef) :
    (h.poll k).hub.services.size = h.services.size := by
  unfold poll
  repeat' split
  all_goals simp

theorem size_services_forget (h : Hub R C) (s : SubscriptionRef) :
    (h.forget s).services.size = h.services.size := by
  unfold forget
  repeat' split
  all_goals simp

theorem size_services_cancel (h : Hub R C) (s : SubscriptionRef) :
    (h.cancel s).hub.services.size = h.services.size := by
  rw [cancel_hub]
  split
  · rw [size_services_forget, services_markCancelled]
  · rfl

theorem size_services_cancelAll (h : Hub R C) (l : List SubscriptionRef) :
    (h.cancelAll l).hub.services.size = h.services.size := by
  induction l generalizing h with
  | nil => rfl
  | cons s rest ih => rw [cancelAll, ih, size_services_cancel]

theorem size_services_shut (h : Hub R C) (k : ServiceRef) :
    (h.shut k).2.services.size = h.services.size := by
  unfold shut
  repeat' split
  all_goals simp [services_unqueueAll]

theorem size_services_close (h : Hub R C) (k : ServiceRef) :
    (h.close k).hub.services.size = h.services.size := by
  rw [close_hub]
  split
  · rw [size_services_cancelAll, size_services_shut]
  · rfl

end Hub

end PathWatch
