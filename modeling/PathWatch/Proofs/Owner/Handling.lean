import Mathlib
import PathWatch.Proofs.Hub.Silent
import PathWatch.Proofs.Run.History
/-!
# Subscriptions on their own

What is done to a subscription changes it in the same way whoever owns it. The service shows in one
answer only: a subscription that holds events is not reset once its service is closed. So as long as
the way into the queue is not barred, a subscription behaves as one that has no service at all. And
a call looks at the record of its subscription and at its owner and changes nothing else.
-/

namespace PathWatch

variable {R C : Type}

/-! ## Calls and replies -/

/-- What is done to one subscription, or asked of it. -/
inductive Handling (C : Type) where
  | post (e : Event C)
  | offer (e : Event C)
  | signal
  | drain
  | reset
  | cancel
  | state
  | pending
  | isValid

/-- What a call gives back. -/
inductive Reply (C : Type) where
  | done
  | flag (value : Bool)
  | events (buffer : Buffer C)
  | state (state : SubscriptionState)
  | number (n : Nat)
  /-- A subscription has been made and got this identifier. -/
  | made (s : SubscriptionRef) (id : Option SubscriptionId)
  | found (s : Option SubscriptionRef)
  | refused (e : WatchError)

namespace Handling

variable [BEq C]

/-- The reply of a subscription, and the hub after it. A subscription that is not there has nothing
to say. -/
def perform (u : Handling C) (h : Hub R C) (s : SubscriptionRef) : Reply C × Hub R C :=
  match u with
  | .post e => (.done, (h.post s e.val).hub)
  | .offer e => (.flag (h.offer s e.val).value, (h.offer s e.val).hub)
  | .signal => (.done, (h.signal s).hub)
  | .drain => (.events (h.drain s).value, (h.drain s).hub)
  | .reset => (.flag (h.reset s).value, (h.reset s).hub)
  | .cancel => (.done, (h.cancel s).hub)
  | .state => (((h.subscription? s).map fun sub => .state sub.state).getD .done, h)
  | .pending => (((h.subscription? s).map fun sub => .number sub.pending).getD .done, h)
  | .isValid => (((h.subscription? s).map fun sub => .flag sub.isValid).getD .done, h)

/-- The reply of a subscription that has no service, and what becomes of it. -/
def alone (u : Handling C) (sub : Subscription R C) : Reply C × Subscription R C :=
  match u with
  | .post e => (.done, sub.post e.val)
  | .offer e =>
    if sub.isInterested e.val.kind then (.flag true, sub.post e.val) else (.flag false, sub)
  | .signal => (.done, if sub.state = .ready then { sub with state := .signaled } else sub)
  | .drain => (.events sub.buffer, { sub with buffer := [] })
  | .reset =>
    (.flag sub.isValid,
      if sub.state = .signaled ∧ sub.buffer = [] then { sub with state := .ready } else sub)
  | .cancel => (.done, { sub with state := .cancelled })
  | .state => (.state sub.state, sub)
  | .pending => (.number sub.pending, sub)
  | .isValid => (.flag sub.isValid, sub)

/-! ## What a call does, place by place -/

/-- Whether a call wants the subscription in the queue of its owner. -/
def queues (u : Handling C) (sub : Subscription R C) : Bool :=
  match u with
  | .signal => sub.state = .ready
  | .reset => sub.state = .signaled ∧ sub.buffer ≠ []
  | _ => false

/-- Whether a call strikes the subscription from the live set of its owner. -/
def strikes (u : Handling C) (sub : Subscription R C) : Bool :=
  match u with
  | .cancel => sub.state ≠ .cancelled
  | _ => false

/-- Whether the owner puts the subscription at the end of its queue. -/
def appends (u : Handling C) (sub : Subscription R C) (v : NotificationService) : Bool :=
  u.queues sub && v.isOpen && !sub.queued

/-- What becomes of the owner. -/
def atOwner (u : Handling C) (s : SubscriptionRef) (sub : Subscription R C)
    (v : NotificationService) : NotificationService :=
  { v with
    queue := v.queue ++ if u.appends sub v then [s] else []
    live := v.live.filter fun entry => !(u.strikes sub && entry.1 = sub.id) }

/-- What becomes of the subscription, given whether its owner is there and open. -/
def inPlace (u : Handling C) (sub : Subscription R C) (isOpen : Bool) : Subscription R C :=
  { (u.alone sub).2 with queued := sub.queued || (u.queues sub && isOpen) }

/-- The reply of the subscription, given whether the way into the queue is not barred. -/
def answer (u : Handling C) (sub : Subscription R C) (admits : Bool) : Reply C :=
  match u with
  | .reset => .flag (if u.queues sub then admits else sub.isValid)
  | _ => (u.alone sub).1

variable {h : Hub R C} {s : SubscriptionRef} {sub : Subscription R C}

/-- The reply needs the record of the subscription and the way into the queue. -/
theorem perform_fst (u : Handling C) (hs : h.subscription? s = some sub) :
    (u.perform h s).1 = u.answer sub (h.admits sub) := by
  cases u with
  | offer e =>
    by_cases hkind : sub.isInterested e.val.kind = true <;>
      simp [perform, answer, alone, Hub.offer, hs, hkind]
  | drain => simp [perform, answer, alone, Hub.drain, hs]
  | reset =>
    have hvalue : (h.reset s).value =
        if queues (.reset : Handling C) sub then h.admits sub else sub.isValid := by
      rw [Bool.eq_iff_iff, Hub.reset_value hs]
      rcases hstate : sub.state with _ | _ | _
      · simp [queues, Subscription.isValid, hstate]
      · by_cases hbuffer : sub.buffer = [] <;>
          simp [queues, Subscription.isValid, hstate, hbuffer]
      · simp [queues, Subscription.isValid, hstate]
    rw [perform, hvalue]
    rfl
  | state => simp [perform, answer, alone, hs]
  | pending => simp [perform, answer, alone, hs]
  | isValid => simp [perform, answer, alone, hs]
  | _ => rfl

/-- A subscription on its own keeps its owner and its flag. -/
theorem alone_kept (u : Handling C) (sub : Subscription R C) :
    (u.alone sub).2.owner = sub.owner ∧ (u.alone sub).2.queued = sub.queued := by
  cases u with
  | post e => exact ⟨sub.post_owner e.val, sub.post_queued e.val⟩
  | offer e =>
    dsimp only [alone]
    split
    · exact ⟨sub.post_owner e.val, sub.post_queued e.val⟩
    · exact ⟨rfl, rfl⟩
  | signal =>
    dsimp only [alone]
    split <;> exact ⟨rfl, rfl⟩
  | reset =>
    dsimp only [alone]
    split <;> exact ⟨rfl, rfl⟩
  | _ => exact ⟨rfl, rfl⟩

theorem inPlace_of_not_queues {u : Handling C} (hqueues : u.queues sub = false) (isOpen : Bool) :
    u.inPlace sub isOpen = (u.alone sub).2 := by
  rw [inPlace, hqueues, Bool.false_and, Bool.or_false, ← (u.alone_kept sub).2]

/-- A call changes the record of its subscription and no other one. -/
theorem subscription?_perform_eq (u : Handling C) (h : Hub R C) (s s' : SubscriptionRef) :
    (u.perform h s).2.subscription? s' = (h.subscription? s').map fun sub =>
      if s = s' then u.inPlace sub (h.ownerIsOpen sub) else sub := by
  have of_map : ∀ {f : Subscription R C → Subscription R C},
      (u.perform h s).2.subscription? s' =
        ((h.subscription? s').map fun sub => if s = s' then f sub else sub) →
      (∀ sub, f sub = u.inPlace sub (h.ownerIsOpen sub)) →
      (u.perform h s).2.subscription? s' = (h.subscription? s').map fun sub =>
        if s = s' then u.inPlace sub (h.ownerIsOpen sub) else sub := by
    intro f hmap hf
    simp only [hmap, hf]
  -- A question leaves everything as it is.
  have asked : (u.perform h s).2 = h → (∀ sub : Subscription R C, (u.alone sub).2 = sub) →
      (∀ sub : Subscription R C, u.queues sub = false) →
      (u.perform h s).2.subscription? s' = (h.subscription? s').map fun sub =>
        if s = s' then u.inPlace sub (h.ownerIsOpen sub) else sub := by
    intro hhub halone hqueues
    refine of_map (f := id) ?_ fun sub => ?_
    · simp [hhub]
    · rw [inPlace_of_not_queues (hqueues sub), halone, id]
  cases u with
  | post e =>
    exact of_map (Hub.subscription?_post h s e.val s') fun sub =>
      (inPlace_of_not_queues (u := .post e) rfl _).symm
  | offer e =>
    refine of_map (Hub.subscription?_offer h s e.val s') fun sub => ?_
    rw [inPlace_of_not_queues rfl, alone]
    split <;> rfl
  | signal =>
    refine of_map (Hub.subscription?_signal h s s') fun sub => ?_
    by_cases hstate : sub.state = .ready <;> simp [inPlace, alone, queues, hstate]
  | drain =>
    exact of_map (Hub.subscription?_drain h s s') fun sub =>
      (inPlace_of_not_queues (u := .drain) rfl _).symm
  | reset =>
    refine of_map (Hub.subscription?_reset h s s') fun sub => ?_
    by_cases hstate : sub.state = .signaled
    · by_cases hbuffer : sub.buffer = [] <;> simp [inPlace, alone, queues, hstate, hbuffer]
    · rw [inPlace_of_not_queues (by simp [queues, hstate])]
      simp [alone, hstate]
  | cancel =>
    exact of_map (Hub.subscription?_cancel h s s') fun sub =>
      (inPlace_of_not_queues (u := .cancel) rfl _).symm
  | state => exact asked rfl (fun _ => rfl) (fun _ => rfl)
  | pending => exact asked rfl (fun _ => rfl) (fun _ => rfl)
  | isValid => exact asked rfl (fun _ => rfl) (fun _ => rfl)

/-- Who wants a subscription in the queue enqueues it, and does nothing else to any service. -/
theorem service?_of_queues {u : Handling C} (hs : h.subscription? s = some sub)
    (hqueues : u.queues sub = true) (k : ServiceRef) :
    (u.perform h s).2.service? k = (h.enqueue s).2.service? k := by
  cases u with
  | signal =>
    have hstate : sub.state = .ready := by simpa [queues] using hqueues
    -- The state is changed first, but enqueueing does not look at it.
    have hmarked : (h.modifySubscription s fun w => { w with state := .signaled }).subscription? s =
        some { sub with state := .signaled } := by
      simp [Hub.subscription?_modifySubscription, hs]
    have hperform : ((signal : Handling C).perform h s).2 =
        ((h.modifySubscription s fun w => { w with state := .signaled }).enqueue s).2 := by
      simp [perform, Hub.signal, hs, hstate]
    rw [hperform, Hub.service?_enqueue_eq_map hmarked, Hub.service?_enqueue_eq_map hs]
    rfl
  | reset =>
    obtain ⟨hstate, hbuffer⟩ : sub.state = .signaled ∧ sub.buffer ≠ [] := by
      simpa [queues] using hqueues
    simp [perform, Hub.reset, hs, hstate, hbuffer]
  | _ => simp [queues] at hqueues

/-- Who wants no subscription in a queue and cancels none leaves the services as they are. -/
theorem services_of_not_queues {u : Handling C} (hs : h.subscription? s = some sub)
    (hqueues : u.queues sub = false) (hu : u ≠ .cancel) :
    (u.perform h s).2.services = h.services := by
  cases u with
  | post e => exact Hub.services_post h s e.val
  | offer e => exact Hub.services_offer h s e.val
  | signal =>
    have hstate : sub.state ≠ .ready := by simpa [queues] using hqueues
    simp [perform, Hub.signal, hs, hstate]
  | drain => exact Hub.services_drain h s
  | reset =>
    rcases hstate : sub.state with _ | _ | _
    · simp [perform, Hub.reset, hs, hstate]
    · have hbuffer : sub.buffer = [] := by simpa [queues, hstate] using hqueues
      simp [perform, Hub.reset, hs, hstate, hbuffer, Hub.modifySubscription]
    · simp [perform, Hub.reset, hs, hstate]
  | cancel => exact absurd rfl hu
  | _ => rfl

/-- A call changes the record of the owner and no other one. -/
theorem service?_perform_eq (u : Handling C) (hs : h.subscription? s = some sub) (k : ServiceRef) :
    (u.perform h s).2.service? k = (h.service? k).map fun v =>
      if sub.owner = some k then u.atOwner s sub v else v := by
  rcases hqueues : u.queues sub with _ | _
  · by_cases hu : u = .cancel
    · subst hu
      refine (Hub.service?_cancel_eq_map hs k).trans (Option.map_congr fun v _ => ?_)
      by_cases hstate : sub.state = .cancelled <;> simp [atOwner, appends, queues, strikes, hstate]
    · have hstrikes : u.strikes sub = false := by cases u <;> first | rfl | exact absurd rfl hu
      rw [Hub.service?_congr (services_of_not_queues hs hqueues hu)]
      simp [atOwner, appends, hqueues, hstrikes]
  · have hstrikes : u.strikes sub = false := by
      cases u <;> first | rfl | simp [queues] at hqueues
    rw [service?_of_queues hs hqueues, Hub.service?_enqueue_eq_map hs]
    refine Option.map_congr fun v _ => ?_
    by_cases hin : (v.isOpen && !sub.queued) = true <;>
      simp [atOwner, appends, hqueues, hstrikes, hin]

end Handling

/-! ## Subscriptions without a service -/

/-- A subscription without its service and its place in the queue. -/
def Subscription.bare (sub : Subscription R C) : Subscription R C :=
  { sub with owner := none, queued := false }

@[simp] theorem Subscription.bare_state (sub : Subscription R C) : sub.bare.state = sub.state := rfl

@[simp] theorem Subscription.bare_buffer (sub : Subscription R C) :
    sub.bare.buffer = sub.buffer := rfl

@[simp] theorem Subscription.bare_post [BEq C] (sub : Subscription R C) (e : ChangeEvent C) :
    sub.bare.post e = (sub.post e).bare := by
  unfold post
  by_cases hstate : sub.state = .cancelled
  · rw [if_pos hstate, if_pos (show sub.bare.state = .cancelled from hstate)]
  · rw [if_neg hstate, if_neg (show sub.bare.state ≠ .cancelled from hstate)]
    rfl

/-- What is left of a service when at most its queue has changed, and its live set if something
was cancelled. -/
def Hub.SameButLists (h : Hub R C) (k : ServiceRef) (cancels : Prop)
    (after : Option NotificationService) : Prop :=
  ∃ (queue : NotificationService → List SubscriptionRef)
    (live : NotificationService → List (SubscriptionId × SubscriptionRef)),
    after = (h.service? k).map (fun v => { v with queue := queue v, live := live v }) ∧
      (¬ cancels → ∀ v, live v = v.live)

/-! ## One call -/

namespace Handling

variable [BEq C]

theorem alone_bare (u : Handling C) (sub : Subscription R C) :
    (u.alone sub.bare).2 = (u.alone sub).2.bare := by
  cases u with
  | post e => exact sub.bare_post e.val
  | offer e =>
    have hinterest : sub.bare.isInterested e.val.kind = sub.isInterested e.val.kind := rfl
    by_cases hkind : sub.isInterested e.val.kind = true <;> simp [alone, hinterest, hkind]
  | signal => by_cases hstate : sub.state = .ready <;> simp [alone, hstate, Subscription.bare]
  | reset =>
    by_cases hreset : sub.state = .signaled ∧ sub.buffer = [] <;>
      simp [alone, hreset, Subscription.bare]
  | _ => rfl

/-- What becomes of subscriptions is the same whoever owns them, and they keep their owners. -/
theorem subscription?_perform (u : Handling C) (h : Hub R C) (s s' : SubscriptionRef) :
    ∃ f, (u.perform h s).2.subscription? s' = (h.subscription? s').map f ∧
      ∀ sub, (f sub).owner = sub.owner ∧
        (f sub).bare = if s = s' then (u.alone sub.bare).2 else sub.bare := by
  refine ⟨_, u.subscription?_perform_eq h s s', fun sub => ?_⟩
  by_cases hs : s = s'
  · rw [if_pos hs, if_pos hs]
    exact ⟨(u.alone_kept sub).1, (u.alone_bare sub).symm⟩
  · rw [if_neg hs, if_neg hs]
    exact ⟨rfl, rfl⟩

/-- A subscription without its service and its place becomes what it would become on its own. -/
theorem bare_perform (u : Handling C) (h : Hub R C) (s s' : SubscriptionRef) :
    ((u.perform h s).2.subscription? s').map Subscription.bare =
      ((h.subscription? s').map Subscription.bare).map fun b =>
        if s = s' then (u.alone b).2 else b := by
  obtain ⟨f, hf, hafter⟩ := u.subscription?_perform h s s'
  rw [hf, Option.map_map, Option.map_map]
  exact Option.map_congr fun sub _ => (hafter sub).2

theorem alone_of_cancelled (u : Handling C) {sub : Subscription R C}
    (hstate : sub.state = .cancelled) : (u.alone sub).2.state = .cancelled := by
  cases u with
  | post e => exact (sub.post_state e.val).trans hstate
  | offer e =>
    dsimp only [alone]
    split
    · exact (sub.post_state e.val).trans hstate
    · exact hstate
  | signal => simp [alone, hstate]
  | reset => simp [alone, hstate]
  | cancel => rfl
  | _ => exact hstate

/-- Unless its service is closed, a subscription answers as one without a service. -/
theorem perform_reply (u : Handling C) {h : Hub R C} {s : SubscriptionRef} {sub : Subscription R C}
    (hs : h.subscription? s = some sub)
    (hadmits : sub.state ≠ .cancelled → h.admits sub = true) :
    (u.perform h s).1 = (u.alone sub.bare).1 := by
  rw [u.perform_fst hs]
  cases u with
  | offer e =>
    have hinterest : sub.bare.isInterested e.val.kind = sub.isInterested e.val.kind := rfl
    simp only [answer, alone, hinterest]
    split <;> rfl
  | reset =>
    have hvalid : sub.bare.isValid = sub.isValid := rfl
    simp only [answer, alone, hvalid]
    split
    · rename_i hqueues
      have hstate : sub.state = .signaled := by simp_all [queues]
      simp [hadmits, hstate, Subscription.isValid]
    · rfl
  | _ => rfl

/-- All that is not there answers alike. -/
theorem perform_reply_of_none (u : Handling C) {h g : Hub R C} {s : SubscriptionRef}
    (hs : h.subscription? s = none) (gs : g.subscription? s = none) :
    (u.perform h s).1 = (u.perform g s).1 := by
  cases u <;> simp [perform, Hub.offer, Hub.drain, Hub.reset, hs, gs]

/-- Subscriptions that differ in their service and their place only answer alike, unless one of the
services is closed. -/
theorem perform_reply_congr (u : Handling C) {h g : Hub R C} {s : SubscriptionRef}
    (hbare : (h.subscription? s).map Subscription.bare = (g.subscription? s).map Subscription.bare)
    (hadmits : ∀ sub, h.subscription? s = some sub → sub.state ≠ .cancelled → h.admits sub = true)
    (gadmits : ∀ sub, g.subscription? s = some sub → sub.state ≠ .cancelled → g.admits sub = true) :
    (u.perform h s).1 = (u.perform g s).1 := by
  rcases hs : h.subscription? s with _ | sub
  · have gs : g.subscription? s = none := by simpa [hs] using hbare.symm
    exact u.perform_reply_of_none hs gs
  · rw [hs, Option.map_some] at hbare
    obtain ⟨sub', gs, hsame⟩ := Option.map_eq_some_iff.mp hbare.symm
    rw [u.perform_reply hs (hadmits sub hs), u.perform_reply gs (gadmits sub' gs), hsame]

/-- A service may find its queue changed, and its live set when a subscription is cancelled. -/
theorem service?_perform (u : Handling C) (h : Hub R C) (s : SubscriptionRef) (k : ServiceRef) :
    h.SameButLists k (u = .cancel) ((u.perform h s).2.service? k) := by
  have kept : (u.perform h s).2.service? k = h.service? k →
      h.SameButLists k (u = .cancel) ((u.perform h s).2.service? k) := by
    intro hsame
    exact ⟨fun v => v.queue, fun v => v.live, by rw [hsame]; simp, fun _ _ => rfl⟩
  have appended : h.MayAppend s k ((u.perform h s).2.service? k) →
      h.SameButLists k (u = .cancel) ((u.perform h s).2.service? k) := by
    rintro (hsame | ⟨sub, v, -, -, -, hv, -, hafter⟩)
    · exact kept hsame
    · exact ⟨fun v => v.queue ++ [s], fun v => v.live, by rw [hafter, hv]; rfl, fun _ _ => rfl⟩
  cases u with
  | post e => exact kept (Hub.service?_congr (Hub.services_post h s e.val) k)
  | offer e => exact kept (Hub.service?_congr (Hub.services_offer h s e.val) k)
  | signal => exact appended (Hub.service?_signal h s k)
  | drain => exact kept (Hub.service?_congr (Hub.services_drain h s) k)
  | reset => exact appended (Hub.service?_reset h s k)
  | cancel =>
    obtain ⟨live, hlive⟩ := (Hub.thinned_cancel h s k).sameButLive
    exact ⟨fun v => v.queue, live, hlive, fun hne => absurd rfl hne⟩
  | state => exact kept rfl
  | pending => exact kept rfl
  | isValid => exact kept rfl

theorem silent_perform (u : Handling C) (h : Hub R C) (s : SubscriptionRef) :
    (u.perform h s).2.silent = h.silent := by
  cases u with
  | post e => exact Hub.silent_post h s e.val
  | offer e => exact Hub.silent_offer h s e.val
  | signal => exact Hub.silent_signal h s
  | drain => exact Hub.silent_drain h s
  | reset => exact Hub.silent_reset h s
  | cancel => exact Hub.silent_cancel h s
  | state => rfl
  | pending => rfl
  | isValid => rfl

/-- What is cancelled stays so. -/
theorem isValid_of_perform (u : Handling C) (h : Hub R C) (s s' : SubscriptionRef)
    (hvalid : (u.perform h s).2.isValid s' = true) : h.isValid s' = true := by
  obtain ⟨after, hafter, hstate⟩ := Hub.isValid_iff.mp hvalid
  obtain ⟨f, hf, hbare⟩ := u.subscription?_perform h s s'
  rw [hf] at hafter
  obtain ⟨sub, hs, rfl⟩ := Option.map_eq_some_iff.mp hafter
  refine Hub.isValid_iff.mpr ⟨sub, hs, fun hcancelled => hstate ?_⟩
  have hsame := congrArg Subscription.state (hbare sub).2
  rw [Subscription.bare_state] at hsame
  rw [hsame]
  split
  · exact u.alone_of_cancelled hcancelled
  · exact hcancelled

/-- What is done to a subscription neither opens a way into a queue nor bars one. -/
theorem admits_perform_eq (u : Handling C) (h : Hub R C) (s : SubscriptionRef)
    (sub : Subscription R C) : (u.perform h s).2.admits sub = h.admits sub := by
  unfold Hub.admits
  split
  · rfl
  · rename_i k howner
    obtain ⟨queue, live, hservice, -⟩ := u.service?_perform h s k
    rw [hservice]
    cases h.service? k <;> rfl

theorem admits_perform (u : Handling C) {h : Hub R C} {s : SubscriptionRef}
    {sub sub' : Subscription R C} (howner : sub'.owner = sub.owner)
    (hadmits : h.admits sub = true) :
    (u.perform h s).2.admits sub' = true := by
  rw [u.admits_perform_eq, Hub.admits, howner]
  exact hadmits

/-! ## Any number of calls -/

/-- The replies to several calls, one after another, and the hub after them. -/
def performAll (us : List (Handling C)) (h : Hub R C) (s : SubscriptionRef) :
    List (Reply C) × Hub R C :=
  match us with
  | [] => ([], h)
  | u :: us =>
    let first := u.perform h s
    let others := performAll us first.2 s
    (first.1 :: others.1, others.2)

/-- The replies of a subscription that has no service, and what becomes of it. -/
def aloneAll (us : List (Handling C)) (sub : Subscription R C) :
    List (Reply C) × Subscription R C :=
  match us with
  | [] => ([], sub)
  | u :: us =>
    let first := u.alone sub
    let others := aloneAll us first.2
    (first.1 :: others.1, others.2)

/-- As long as its service is not closed, a subscription goes through the same replies and the same
states as one without a service. -/
theorem performAll_eq_aloneAll (us : List (Handling C)) {h : Hub R C} {s : SubscriptionRef}
    {sub : Subscription R C} (hs : h.subscription? s = some sub) (hadmits : h.admits sub = true) :
    (performAll us h s).1 = (aloneAll us sub.bare).1 ∧
      ∃ sub', (performAll us h s).2.subscription? s = some sub' ∧ sub'.owner = sub.owner ∧
        sub'.bare = (aloneAll us sub.bare).2 ∧ (performAll us h s).2.admits sub' = true := by
  -- Along the calls the subscription keeps its owner, and the way into the queue stays open.
  induction us generalizing h sub with
  | nil => exact ⟨rfl, sub, hs, rfl, rfl, hadmits⟩
  | cons u us ih =>
    obtain ⟨f, hf, hafter⟩ := u.subscription?_perform h s s
    obtain ⟨howner, hbare⟩ := hafter sub
    rw [hs, Option.map_some] at hf
    rw [if_pos rfl] at hbare
    obtain ⟨hreplies, sub', hs', howner', hbare', hadmits'⟩ :=
      ih hf (u.admits_perform howner hadmits)
    rw [hbare] at hreplies hbare'
    refine ⟨?_, sub', hs', howner'.trans howner, hbare', hadmits'⟩
    rw [performAll, aloneAll, hreplies, u.perform_reply hs fun _ => hadmits]

/-- A service keeps its handles, whatever is done to a subscription. -/
theorem service?_performAll (us : List (Handling C)) {h : Hub R C} (s : SubscriptionRef)
    {k : ServiceRef} {v : NotificationService} (hv : h.service? k = some v) :
    ∃ v', (performAll us h s).2.service? k = some v' ∧ v'.isOpen = v.isOpen ∧
      v'.handles = v.handles := by
  induction us generalizing h v with
  | nil => exact ⟨v, hv, rfl, rfl⟩
  | cons u us ih =>
    obtain ⟨queue, live, hservice, -⟩ := u.service?_perform h s k
    rw [hv, Option.map_some] at hservice
    obtain ⟨v', hv', hopen, hhandles⟩ := ih hservice
    exact ⟨v', hv', hopen, hhandles⟩

end Handling

end PathWatch
