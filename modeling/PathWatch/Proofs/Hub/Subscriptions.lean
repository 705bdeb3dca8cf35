import Mathlib
import PathWatch.Proofs.Hub.Services
/-!
# What calls do to a subscription

Every call maps the record of a subscription, and the map is written out here for each call. A call
never takes a subscription away.
-/

namespace PathWatch

namespace Hub

variable {R C : Type}

/-- Whether a subscription has a service that is there and open. -/
def ownerIsOpen (h : Hub R C) (sub : Subscription R C) : Bool :=
  match sub.owner with
  | none => false
  | some k => h.isOpen k

theorem ownerIsOpen_of_owner {h : Hub R C} {sub : Subscription R C} {k : ServiceRef}
    (ho : sub.owner = some k) : h.ownerIsOpen sub = h.isOpen k := by
  simp [ownerIsOpen, ho]

/-! ## Calls about one subscription -/

/-- A call that leaves the hub as it is maps a subscription by what would not change it. -/
theorem subscription?_eq_map {h : Hub R C} {s : SubscriptionRef}
    {f : Subscription R C → Subscription R C}
    (hf : ∀ sub, h.subscription? s = some sub → f sub = sub) (s' : SubscriptionRef) :
    h.subscription? s' = (h.subscription? s').map fun sub => if s = s' then f sub else sub := by
  rcases hs : h.subscription? s' with _ | sub
  · rfl
  · by_cases hss : s = s'
    · subst hss
      simp [hf sub hs]
    · simp [hss]

/-- A call that changes a subscription maps it by anything that changes it in the same way. -/
theorem subscription?_modify_eq_map {h : Hub R C} {s : SubscriptionRef}
    {f g : Subscription R C → Subscription R C}
    (hf : ∀ sub, h.subscription? s = some sub → g sub = f sub) (s' : SubscriptionRef) :
    (h.modifySubscription s g).subscription? s' =
      (h.subscription? s').map fun sub => if s = s' then f sub else sub := by
  rw [subscription?_modifySubscription]
  rcases hs : h.subscription? s' with _ | sub
  · simp
  · by_cases hss : s = s'
    · subst hss
      simp [hf sub hs]
    · simp [hss]

/-- A subscription that is enqueued is flagged if its owner is there and open. -/
theorem subscription?_enqueue (h : Hub R C) (s s' : SubscriptionRef) :
    (h.enqueue s).2.subscription? s' = (h.subscription? s').map fun sub =>
      if s = s' then { sub with queued := sub.queued || h.ownerIsOpen sub } else sub := by
  have unflagged : ∀ sub, h.subscription? s = some sub → h.ownerIsOpen sub = false →
      h.subscription? s' = (h.subscription? s').map fun sub =>
        if s = s' then { sub with queued := sub.queued || h.ownerIsOpen sub } else sub := by
    intro sub hs hopen
    refine subscription?_eq_map (fun w hw => ?_) s'
    obtain rfl : sub = w := Option.some.inj (hs.symm.trans hw)
    simp [hopen]
  unfold enqueue
  split
  · exact subscription?_eq_map (by simp [*]) s'
  · rename_i sub hs
    split
    · rename_i ho
      exact unflagged sub hs (by simp [ownerIsOpen, ho])
    · rename_i k ho
      split
      · rename_i hk
        exact unflagged sub hs (by simp [ownerIsOpen, isOpen, ho, hk])
      · rename_i v hk
        split
        · rename_i hv
          exact unflagged sub hs (by simpa [ownerIsOpen, isOpen, ho, hk] using hv)
        · split
          · rename_i hq
            refine subscription?_eq_map (fun w hw => ?_) s'
            obtain rfl : sub = w := Option.some.inj (hs.symm.trans hw)
            rw [hq, Bool.true_or, ← hq]
          · exact subscription?_modify_eq_map (h := h.modifyService k _)
              (by simp_all [ownerIsOpen, isOpen]) s'

/-- Whether the way into the queue is not barred: a subscription has no service, or its service is
gone, or it is open. -/
def admits (h : Hub R C) (sub : Subscription R C) : Bool :=
  match sub.owner with
  | none => true
  | some k =>
    match h.service? k with
    | none => true
    | some v => v.isOpen

/-- Only a closed service turns subscriptions away. -/
theorem admits_eq_false_iff {h : Hub R C} {sub : Subscription R C} :
    h.admits sub = false ↔
      ∃ k v, sub.owner = some k ∧ h.service? k = some v ∧ v.isOpen = false := by
  unfold admits
  split
  · simp [*]
  · rename_i k ho
    split
    · simp [*]
    · rename_i v hv
      simp [ho, hv]

/-- What a call that enqueues answers. -/
theorem enqueue_fst {h : Hub R C} {s : SubscriptionRef} {sub : Subscription R C}
    (hs : h.subscription? s = some sub) : (h.enqueue s).1 = h.admits sub := by
  unfold enqueue admits
  simp only [hs]
  rcases sub.owner with _ | k
  · rfl
  · rcases hv : h.service? k with _ | v
    · simp [hv]
    · rcases hopen : v.isOpen with _ | _
      · simp [hv, hopen]
      · rcases hq : sub.queued with _ | _ <;> simp [hv, hopen]

/-- Striking a subscription from the live set changes no subscription. -/
@[simp] theorem subscription?_forget (h : Hub R C) (s s' : SubscriptionRef) :
    (h.forget s).subscription? s' = h.subscription? s' := by
  unfold forget
  split
  · rfl
  · split <;> rfl

theorem subscription?_post [BEq C] (h : Hub R C) (s : SubscriptionRef) (e : ChangeEvent C)
    (s' : SubscriptionRef) :
    (h.post s e).hub.subscription? s' = (h.subscription? s').map fun sub =>
      if s = s' then sub.post e else sub := by
  unfold post
  split
  · exact subscription?_eq_map (by simp [*]) s'
  · split
    · exact subscription?_eq_map (by simp_all [Subscription.post]) s'
    · exact subscription?_modify_eq_map (fun _ _ => rfl) s'

theorem subscription?_offer [BEq C] (h : Hub R C) (s : SubscriptionRef) (e : ChangeEvent C)
    (s' : SubscriptionRef) :
    (h.offer s e).hub.subscription? s' = (h.subscription? s').map fun sub =>
      if s = s' then
        if sub.isInterested e.kind then sub.post e else sub
      else sub := by
  unfold offer
  split
  · exact subscription?_eq_map (by simp [*]) s'
  · rename_i sub hs
    split
    · rw [subscription?_post]
      refine Option.map_congr fun w hw => ?_
      by_cases hss : s = s'
      · subst hss
        simp_all
      · simp [hss]
    · exact subscription?_eq_map (by simp_all) s'

/-- A signal makes a ready subscription signaled, and flags it if its owner is there and open. -/
theorem subscription?_signal (h : Hub R C) (s s' : SubscriptionRef) :
    (h.signal s).hub.subscription? s' = (h.subscription? s').map fun sub =>
      if s = s' then
        if sub.state = .ready then
          { sub with state := .signaled, queued := sub.queued || h.ownerIsOpen sub }
        else sub
      else sub := by
  unfold signal
  split
  · exact subscription?_eq_map (by simp [*]) s'
  · rename_i sub hs
    split
    · rw [subscription?_enqueue, subscription?_modifySubscription]
      rcases hs' : h.subscription? s' with _ | w
      · simp
      · by_cases hss : s = s'
        · subst hss
          simp_all [ownerIsOpen, isOpen]
        · simp [hss]
    · exact subscription?_eq_map (by simp_all) s'

theorem subscription?_drain (h : Hub R C) (s s' : SubscriptionRef) :
    (h.drain s).hub.subscription? s' = (h.subscription? s').map fun sub =>
      if s = s' then { sub with buffer := [] } else sub := by
  unfold drain
  split
  · exact subscription?_eq_map (by simp [*]) s'
  · exact subscription?_modify_eq_map (fun _ _ => rfl) s'

theorem drain_value {h : Hub R C} {s : SubscriptionRef} {sub : Subscription R C}
    (hs : h.subscription? s = some sub) : (h.drain s).value = sub.buffer := by
  rw [drain, hs]

theorem drain_value_of_eq_none {h : Hub R C} {s : SubscriptionRef}
    (hs : h.subscription? s = none) : (h.drain s).value = [] := by
  rw [drain, hs]

/-- A reset makes a signaled subscription ready when its buffer is empty, and flags it otherwise if
its owner is there and open. -/
theorem subscription?_reset (h : Hub R C) (s s' : SubscriptionRef) :
    (h.reset s).hub.subscription? s' = (h.subscription? s').map fun sub =>
      if s = s' then
        if sub.state = .signaled then
          if sub.buffer = [] then { sub with state := .ready }
          else { sub with queued := sub.queued || h.ownerIsOpen sub }
        else sub
      else sub := by
  unfold reset
  split
  · exact subscription?_eq_map (by simp [*]) s'
  · rename_i sub hs
    split
    · exact subscription?_eq_map (by simp_all) s'
    · exact subscription?_eq_map (by simp_all) s'
    · split
      · exact subscription?_modify_eq_map (by simp_all) s'
      · rw [subscription?_enqueue]
        refine Option.map_congr fun w hw => ?_
        by_cases hss : s = s'
        · subst hss
          simp_all
        · simp [hss]

/-- A reset looks at the service only when events have come in meanwhile. -/
theorem reset_value {h : Hub R C} {s : SubscriptionRef} {sub : Subscription R C}
    (hs : h.subscription? s = some sub) :
    (h.reset s).value = true ↔
      sub.state = .ready ∨
        (sub.state = .signaled ∧ (sub.buffer = [] ∨ h.admits sub = true)) := by
  unfold reset
  simp only [hs]
  rcases hstate : sub.state with _ | _ | _
  · simp
  · by_cases hbuffer : sub.buffer = []
    · simp [hbuffer]
    · simp [hbuffer, enqueue_fst hs]
  · simp

theorem subscription?_markCancelled (h : Hub R C) (s s' : SubscriptionRef) :
    (h.markCancelled s).2.subscription? s' = (h.subscription? s').map fun sub =>
      if s = s' then { sub with state := .cancelled } else sub := by
  unfold markCancelled
  split
  · exact subscription?_eq_map (by simp [*]) s'
  · rename_i sub hs
    split
    · refine subscription?_eq_map (fun w hw => ?_) s'
      obtain rfl : sub = w := Option.some.inj (hs.symm.trans hw)
      cases sub
      simp_all
    · exact subscription?_modify_eq_map (fun _ _ => rfl) s'

theorem subscription?_cancel (h : Hub R C) (s s' : SubscriptionRef) :
    (h.cancel s).hub.subscription? s' = (h.subscription? s').map fun sub =>
      if s = s' then { sub with state := .cancelled } else sub := by
  rw [← subscription?_markCancelled, cancel_hub]
  split
  · rw [subscription?_forget]
  · rename_i hs
    rw [markCancelled_of_false (by simpa using hs)]

/-- A subscription that is enqueued goes to the end of the queue of its open owner, unless it is
flagged already. -/
theorem service?_enqueue_eq_map {h : Hub R C} {s : SubscriptionRef} {sub : Subscription R C}
    (hs : h.subscription? s = some sub) (k : ServiceRef) :
    (h.enqueue s).2.service? k = (h.service? k).map fun v =>
      if sub.owner = some k then
        if v.isOpen && !sub.queued then { v with queue := v.queue ++ [s] } else v
      else v := by
  rcases howner : sub.owner with _ | k'
  · have hsame : (h.enqueue s).2 = h := by simp [enqueue, hs, howner]
    simp [hsame]
  simp only [Option.some.injEq]
  by_cases hin : ∃ v, h.service? k' = some v ∧ v.isOpen = true ∧ sub.queued = false
  · obtain ⟨v, hv, hopen, hqueued⟩ := hin
    have hlonger : (h.enqueue s).2 =
        (h.modifyService k' fun v => { v with queue := v.queue ++ [s] }).modifySubscription s
          fun sub => { sub with queued := true } := by
      simp [enqueue, hs, howner, hv, hopen, hqueued]
    rw [hlonger, service?_modifySubscription]
    exact service?_modify_eq_map (by simp [hv, hopen, hqueued]) k
  · have hsame : (h.enqueue s).2 = h := by
      unfold enqueue
      simp only [hs, howner]
      split
      · rfl
      · split
        · rfl
        · split
          · rfl
          · simp_all
    rw [hsame]
    refine service?_eq_map (fun v hv => ?_) k
    simp_all

/-- A cancellation strikes the subscription from the live set of its owner, unless it has been
cancelled before. -/
theorem service?_cancel_eq_map {h : Hub R C} {s : SubscriptionRef} {sub : Subscription R C}
    (hs : h.subscription? s = some sub) (k : ServiceRef) :
    (h.cancel s).hub.service? k = (h.service? k).map fun v =>
      if sub.owner = some k then
        if sub.state = .cancelled then v
        else { v with live := v.live.filter fun entry => entry.1 ≠ sub.id }
      else v := by
  have hfst := markCancelled_fst h s
  rw [cancel_hub]
  by_cases hstate : sub.state = .cancelled
  · rw [if_neg (by simp [hfst, hs, hstate])]
    simp [hstate]
  · have hmarked : (h.markCancelled s).2.subscription? s =
        some { sub with state := .cancelled } := by
      rw [subscription?_markCancelled, hs]
      simp
    rw [if_pos (by simp [hfst, hs, hstate]), service?_forget hmarked,
      service?_congr (services_markCancelled h s)]
    simp [hstate]

/-- Cancelling several subscriptions makes each of them cancelled and changes no other. -/
theorem subscription?_cancelAll (h : Hub R C) (l : List SubscriptionRef) (s' : SubscriptionRef) :
    (h.cancelAll l).hub.subscription? s' = (h.subscription? s').map fun sub =>
      if s' ∈ l then { sub with state := .cancelled } else sub := by
  induction l generalizing h with
  | nil => simp [cancelAll]
  | cons s rest ih =>
    rw [cancelAll, ih, subscription?_cancel, Option.map_map]
    refine Option.map_congr fun sub _ => ?_
    by_cases hs : s = s'
    · by_cases hr : s' ∈ rest <;> simp [hs, hr]
    · simp [hs, Ne.symm hs]

/-! ## Calls about a service -/

/-- Taking the head of the queue clears the flag of the subscription that is taken. -/
theorem subscription?_poll (h : Hub R C) (k : ServiceRef) (s' : SubscriptionRef) :
    (h.poll k).hub.subscription? s' = (h.subscription? s').map fun sub =>
      if h.isOpen k = true ∧ (h.queue k).head? = some s' then { sub with queued := false }
      else sub := by
  unfold poll
  split
  · rename_i hk
    simp [isOpen, hk]
  · rename_i v hk
    split
    · simp_all [isOpen]
    · split
      · simp_all [queue]
      · rename_i s rest hq
        rw [subscription?_modify_eq_map (h := h.modifyService k _) (fun _ _ => rfl)]
        simp_all [isOpen, queue]

theorem take_hub (h : Hub R C) (k : ServiceRef) : (h.take k).hub = (h.poll k).hub := by
  simp only [take]
  split <;> rfl

theorem pollTimeout_hub (h : Hub R C) (k : ServiceRef) (endless : Bool) :
    (h.pollTimeout k endless).hub = (h.poll k).hub := by
  simp only [pollTimeout]
  split <;> rfl

/-- Clearing the flags of several subscriptions. -/
theorem subscription?_unqueueAll (l : List SubscriptionRef) (h : Hub R C) (s' : SubscriptionRef) :
    (l.foldl (fun h s => h.modifySubscription s fun sub => { sub with queued := false })
      h).subscription? s' = (h.subscription? s').map fun sub =>
        if s' ∈ l then { sub with queued := false } else sub := by
  induction l generalizing h with
  | nil => simp
  | cons s rest ih =>
    rw [List.foldl_cons, ih, subscription?_modify_eq_map (fun _ _ => rfl), Option.map_map]
    refine Option.map_congr fun sub _ => ?_
    by_cases hs : s = s'
    · by_cases hr : s' ∈ rest <;> simp [hs, hr]
    · simp [hs, Ne.symm hs]

/-- Shutting an open service clears the flags of the entries of its queue. -/
theorem subscription?_shut (h : Hub R C) (k : ServiceRef) (s' : SubscriptionRef) :
    (h.shut k).2.subscription? s' = (h.subscription? s').map fun sub =>
      if h.isOpen k = true ∧ s' ∈ h.queue k then { sub with queued := false } else sub := by
  unfold shut
  split
  · rename_i hk
    simp [isOpen, hk]
  · rename_i v hk
    split
    · simp_all [isOpen]
    · rw [subscription?_modifyService, subscription?_unqueueAll]
      simp_all [isOpen, queue]

theorem subscription?_deregister (h : Hub R C) (k : ServiceRef) (s s' : SubscriptionRef) :
    (h.deregister k s).hub.subscription? s' = (h.subscription? s').map fun sub =>
      if h.owns k s = true ∧ s = s' then { sub with state := .cancelled } else sub := by
  unfold deregister
  split
  · rename_i hs
    simp [owns, hs]
  · split
    · rename_i ho
      rw [subscription?_cancel]
      simp [ho]
    · simp [*]

/-- Closing an open service clears the flags of the entries of its queue and cancels what is in its
live set. -/
theorem subscription?_close (h : Hub R C) (k : ServiceRef) (s' : SubscriptionRef) :
    (h.close k).hub.subscription? s' = (h.subscription? s').map fun sub =>
      if h.isOpen k then
        { sub with
          queued := if s' ∈ h.queue k then false else sub.queued
          state := if s' ∈ h.liveSubscriptions k then .cancelled else sub.state }
      else sub := by
  rw [close_hub]
  by_cases hopen : h.isOpen k = true
  · rw [if_pos hopen, subscription?_cancelAll, subscription?_shut, liveSubscriptions_shut,
      Option.map_map]
    refine Option.map_congr fun sub _ => ?_
    simp only [hopen, Function.comp_apply, true_and, if_true]
    by_cases hq : s' ∈ h.queue k <;> by_cases hl : s' ∈ h.liveSubscriptions k <;> simp [hq, hl]
  · simp [hopen]

/-! ## Calls that make subscriptions -/

/-- A registration fails and changes nothing, or it makes a subscription of the open service. -/
theorem register_cases (h : Hub R C) (k : ServiceRef) (resource : R) (kinds : List EventKind) :
    (∃ e, h.register k resource kinds = { value := .error e, hub := h }) ∨
      ∃ v, h.service? k = some v ∧ v.isOpen = true ∧
        h.register k resource kinds =
          { value := .ok h.subscriptions.size
            hub :=
              ({ h with
                subscriptions := h.subscriptions.push
                  { id := ⟨v.nextId⟩, resource, interest := kinds.eraseDups, config := v.config
                    owner := some k } } : Hub R C).modifyService k fun v' =>
                { v' with
                  nextId := v'.nextId + 1
                  live := v'.live.filter (fun entry => entry.1 ≠ ⟨v.nextId⟩) ++
                    [(⟨v.nextId⟩, h.subscriptions.size)] }
            log := [.registered ⟨v.nextId⟩] } := by
  unfold register
  split
  · exact Or.inl ⟨_, rfl⟩
  · split
    · exact Or.inl ⟨_, rfl⟩
    · rename_i v hk
      split
      · exact Or.inl ⟨_, rfl⟩
      · rename_i hopen
        exact Or.inr ⟨v, hk, by simpa using hopen, rfl⟩

/-- An open service numbers a new subscription and puts it behind the others in its live set. -/
theorem register_of_open {h : Hub R C} {k : ServiceRef} {v : NotificationService}
    (hv : h.service? k = some v) (hopen : v.isOpen = true) (resource : R) {kinds : List EventKind}
    (hkinds : kinds ≠ []) :
    (h.register k resource kinds).value = .ok h.subscriptions.size ∧
      (h.register k resource kinds).hub.subscriptions =
        h.subscriptions.push
          { id := ⟨v.nextId⟩, resource, interest := kinds.eraseDups, config := v.config
            owner := some k } ∧
      (h.register k resource kinds).hub.service? k =
        some { v with
          nextId := v.nextId + 1
          live := v.live.filter (fun entry => entry.1 ≠ ⟨v.nextId⟩) ++
            [(⟨v.nextId⟩, h.subscriptions.size)] } := by
  have hsome : kinds.isEmpty = false := by simpa using hkinds
  unfold register
  simp only [hsome, hv, hopen, Bool.not_true, Bool.false_eq_true, if_false]
  refine ⟨trivial, rfl, ?_⟩
  rw [service?_modifyService, if_pos rfl]
  change Option.map _ (h.service? k) = _
  rw [hv, Option.map_some, hopen]

/-- A service that is not open registers nothing. -/
theorem register_of_closed {h : Hub R C} {k : ServiceRef} (hclosed : h.isOpen k = false)
    (resource : R) {kinds : List EventKind} (hkinds : kinds ≠ []) :
    h.register k resource kinds = { value := .error .closed, hub := h } := by
  have hsome : kinds.isEmpty = false := by simpa using hkinds
  unfold register
  unfold isOpen at hclosed
  simp only [hsome, Bool.false_eq_true, if_false]
  split
  · rfl
  · rename_i v hv
    rw [hv] at hclosed
    simp_all

theorem subscription?_register {h : Hub R C} {s : SubscriptionRef} {sub : Subscription R C}
    (hs : h.subscription? s = some sub) (k : ServiceRef) (resource : R) (kinds : List EventKind) :
    (h.register k resource kinds).hub.subscription? s = some sub := by
  rcases register_cases h k resource kinds with ⟨e, hr⟩ | ⟨v, -, -, hr⟩
  · rw [hr]
    exact hs
  · have hlt : s ≠ h.subscriptions.size := Nat.ne_of_lt (lt_size_of_subscription? hs)
    rw [hr, subscription?_modifyService, subscription?_push, if_neg hlt, hs]

/-- A registration changes of a service at most what it numbers and lists its subscriptions by. -/
theorem service?_register (h : Hub R C) (k k' : ServiceRef) (resource : R)
    (kinds : List EventKind) :
    ∃ f : NotificationService → Nat × List (SubscriptionId × SubscriptionRef),
      (h.register k resource kinds).hub.service? k' =
        (h.service? k').map fun v => { v with nextId := (f v).1, live := (f v).2 } := by
  rcases register_cases h k resource kinds with ⟨e, hr⟩ | ⟨w, -, -, hr⟩
  · exact ⟨fun v => (v.nextId, v.live), by simp [hr]⟩
  · -- The new subscription is no service.
    have hsame (subs : Array (Subscription R C)) :
        ({ h with subscriptions := subs } : Hub R C).service? k' = h.service? k' := rfl
    rw [hr, service?_modifyService, hsame]
    by_cases hk : k = k'
    · refine ⟨fun v => (v.nextId + 1, v.live.filter (fun entry => entry.1 ≠ ⟨w.nextId⟩) ++
        [(⟨w.nextId⟩, h.subscriptions.size)]), ?_⟩
      rw [if_pos hk]
    · exact ⟨fun v => (v.nextId, v.live), by simp [hk]⟩

theorem isOpen_register (h : Hub R C) (k k' : ServiceRef) (resource : R)
    (kinds : List EventKind) : (h.register k resource kinds).hub.isOpen k' = h.isOpen k' := by
  obtain ⟨f, hf⟩ := service?_register h k k' resource kinds
  rw [isOpen, isOpen, hf]
  cases h.service? k' <;> rfl

theorem queue_register (h : Hub R C) (k k' : ServiceRef) (resource : R)
    (kinds : List EventKind) : (h.register k resource kinds).hub.queue k' = h.queue k' := by
  obtain ⟨f, hf⟩ := service?_register h k k' resource kinds
  rw [queue, queue, hf]
  cases h.service? k' <;> rfl

/-- A registration with a silent service fails and changes nothing, or it makes a subscription that
has no owner. -/
theorem registerSilent_cases (h : Hub R C) (k : SilentRef) (resource : R)
    (kinds : List EventKind) :
    (h.registerSilent k resource kinds).hub = h ∨
      ∃ sub v f g, sub.owner = none ∧ sub.state = .ready ∧ sub.buffer = [] ∧
        sub.queued = false ∧ h.silent[k]? = some v ∧
        (h.registerSilent k resource kinds).hub =
          ({ h.modifySilent k f with
            subscriptions := h.subscriptions.push sub } : Hub R C).modifySilent k g := by
  unfold registerSilent
  split
  · exact Or.inl rfl
  · split
    · exact Or.inl rfl
    · rename_i v hk
      split
      · exact Or.inl rfl
      · exact Or.inr ⟨_, v, _, _, rfl, rfl, rfl, rfl, hk, rfl⟩

theorem subscription?_registerSilent {h : Hub R C} {s : SubscriptionRef} {sub : Subscription R C}
    (hs : h.subscription? s = some sub) (k : SilentRef) (resource : R) (kinds : List EventKind) :
    (h.registerSilent k resource kinds).hub.subscription? s = some sub := by
  rcases registerSilent_cases h k resource kinds with hr | ⟨fresh, v, f, g, -, -, -, -, -, hr⟩
  · rw [hr]
    exact hs
  · have hlt : s ≠ h.subscriptions.size := Nat.ne_of_lt (lt_size_of_subscription? hs)
    rw [hr, subscription?_modifySilent]
    exact (subscription?_push h fresh s).trans (by rw [if_neg hlt, hs])

/-! ## Calls that make, keep and drop services -/

theorem withConfig_cases (h : Hub R C) (config : WatchConfig) :
    (∃ e, h.withConfig config = .error e) ∨
      (1 ≤ config.capacity ∧ h.withConfig config = .ok (h.addService config)) := by
  unfold withConfig WatchConfig.validate
  by_cases hc : config.capacity = 0
  · exact Or.inl ⟨.zeroCapacity, by simp [hc]⟩
  · exact Or.inr ⟨by omega, by simp [hc]⟩

@[simp] theorem subscription?_addService (h : Hub R C) (config : WatchConfig)
    (s : SubscriptionRef) : (h.addService config).hub.subscription? s = h.subscription? s := rfl

@[simp] theorem subscription?_release (h : Hub R C) (k : ServiceRef) (s : SubscriptionRef) :
    (h.release k).subscription? s = h.subscription? s := by
  unfold release
  split
  · rfl
  · split <;> rfl

/-- Closing a silent service changes subscriptions as cancelling some of them does. -/
theorem closeSilent_cases (h : Hub R C) (k : SilentRef) :
    (h.closeSilent k).hub = h ∨
      ∃ f l, (h.closeSilent k).hub = ((h.modifySilent k f).cancelAll l).hub := by
  unfold closeSilent
  split
  · exact Or.inl rfl
  · split
    · exact Or.inl rfl
    · exact Or.inr ⟨_, _, rfl⟩

end Hub

end PathWatch
