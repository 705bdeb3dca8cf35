import Mathlib
import PathWatch.Proofs.Closing.Settled
import PathWatch.Proofs.Hub.Silent
import PathWatch.Proofs.Owner.Handling
/-!
# Requests

What consumers and producers ask of a service of either kind, one request after another, and what is
left of a live set in between.
-/

namespace PathWatch

variable {R C : Type}

/-! ## Requests -/

/-- What is asked of a service, or done to one of its subscriptions. -/
inductive Request (R C : Type) where
  | register (resource : R) (kinds : List EventKind)
  | handle (s : SubscriptionRef) (u : Handling C)
  | liveCount
  | isOpen
  | close
  | poll

namespace Request

/-- Whether something is to be retrieved. -/
def isPoll : Request R C → Bool
  | .poll => true
  | _ => false

variable [BEq C]

/-- The reply of a service, and the hub after it. -/
def perform (q : Request R C) (v : AnyService) (h : Hub R C) : Reply C × Hub R C :=
  match q with
  | .register resource kinds =>
    let made := v.register h resource kinds
    match made.value with
    | .ok s => (.made s ((made.hub.subscription? s).map fun sub => sub.id), made.hub)
    | .error e => (.refused e, made.hub)
  | .handle s u => u.perform h s
  | .liveCount => (.number (v.liveCount h).value, (v.liveCount h).hub)
  | .isOpen => (.flag (v.isOpen h), h)
  | .close => (.done, (v.close h).hub)
  | .poll =>
    match (v.poll h).value with
    | .ok found => (.found found, (v.poll h).hub)
    | .error e => (.refused e, (v.poll h).hub)

/-- The requests with their replies, one after another, and the hub after them. -/
def transcript (qs : List (Request R C)) (v : AnyService) (h : Hub R C) :
    List (Request R C × Reply C) × Hub R C :=
  match qs with
  | [] => ([], h)
  | q :: qs =>
    let first := q.perform v h
    let others := transcript qs v first.2
    ((q, first.1) :: others.1, others.2)

theorem perform_poll (k : ServiceRef) (h : Hub R C) :
    ((Request.poll : Request R C).perform (.notification k) h).2 = (h.poll k).hub := by
  unfold perform
  dsimp only [AnyService.poll]
  split <;> rfl

/-- A request is a whole call, if it changes anything. -/
theorem perform_notification (q : Request R C) (k : ServiceRef) (h : Hub R C) :
    (q.perform (.notification k) h).2 = h ∨
      ∃ a : Action R C, a.whole = true ∧ (q.perform (.notification k) h).2 = a.apply h := by
  cases q with
  | register resource kinds =>
    refine Or.inr ⟨.register k resource kinds, rfl, ?_⟩
    unfold perform
    dsimp only [AnyService.register]
    split <;> rfl
  | handle s u =>
    cases u with
    | post e => exact Or.inr ⟨.post s e, rfl, rfl⟩
    | offer e => exact Or.inr ⟨.offer s e, rfl, rfl⟩
    | signal => exact Or.inr ⟨.signal s, rfl, rfl⟩
    | drain => exact Or.inr ⟨.drain s, rfl, rfl⟩
    | reset => exact Or.inr ⟨.reset s, rfl, rfl⟩
    | cancel => exact Or.inr ⟨.cancel s, rfl, rfl⟩
    | state => exact Or.inl rfl
    | pending => exact Or.inl rfl
    | isValid => exact Or.inl rfl
  | liveCount => exact Or.inl rfl
  | isOpen => exact Or.inl rfl
  | close => exact Or.inr ⟨.close k, rfl, rfl⟩
  | poll => exact Or.inr ⟨.poll k, rfl, perform_poll k h⟩

theorem perform_register_of_ok {v : AnyService} {h : Hub R C} {resource : R}
    {kinds : List EventKind} {s : SubscriptionRef}
    (hvalue : (v.register h resource kinds).value = .ok s) :
    (Request.register resource kinds).perform v h =
      (.made s (((v.register h resource kinds).hub.subscription? s).map fun sub => sub.id),
        (v.register h resource kinds).hub) := by
  simp only [perform, hvalue]

theorem settled_perform (q : Request R C) (k : ServiceRef) {h : Hub R C} (hh : h.Settled)
    (hq : h.QueueSound) :
    (q.perform (.notification k) h).2.Settled ∧ (q.perform (.notification k) h).2.QueueSound := by
  rcases q.perform_notification k h with hsame | ⟨a, ha, happly⟩
  · rw [hsame]
    exact ⟨hh, hq⟩
  · rw [happly]
    exact ⟨hh.apply_whole hq ha, hq.apply a⟩

end Request

/-! ## Live sets between whole calls -/

namespace Hub

variable {h : Hub R C}

/-- No entry of a live set has the identifier that is given next. -/
theorem LiveSound.filter_live (hh : h.LiveSound) {k : ServiceRef} {v : NotificationService}
    (hv : h.service? k = some v) : v.live.filter (fun entry => entry.1 ≠ ⟨v.nextId⟩) = v.live := by
  refine List.filter_eq_self.mpr fun entry hentry => ?_
  obtain ⟨sub, hs, howner, hid⟩ := hh.owned hv hentry
  have hlt := hh.id_lt hs howner hv
  have hne : entry.1 ≠ ⟨v.nextId⟩ := by
    intro heq
    rw [hid, heq] at hlt
    exact Nat.lt_irrefl _ hlt
  simpa using hne

theorem Settled.isValid_of_mem (hh : h.Settled) {k : ServiceRef} {s : SubscriptionRef}
    (hs : s ∈ h.liveSubscriptions k) : h.isValid s = true := by
  rcases hv : h.service? k with _ | v
  · simp [liveSubscriptions, hv] at hs
  · obtain ⟨id, hlisted⟩ := (mem_liveSubscriptions hv s).mp hs
    obtain ⟨sub, hsub, -, -⟩ := hh.live.owned hv hlisted
    refine isValid_iff.mpr ⟨sub, hsub, fun hstate => ?_⟩
    exact hh.not_mem_liveSubscriptions ⟨sub, hsub, hstate⟩ k hs

/-- A subscription of a service that is there is in the live set as long as it is valid. -/
theorem Settled.mem_of_owner (hh : h.Settled) {k : ServiceRef} {v : NotificationService}
    {s : SubscriptionRef} {sub : Subscription R C} (hv : h.service? k = some v)
    (hs : h.subscription? s = some sub) (howner : sub.owner = some k)
    (hvalid : sub.state ≠ .cancelled) : s ∈ h.liveSubscriptions k :=
  (mem_liveSubscriptions hv s).mpr ⟨sub.id, hh.live.listed hs howner hv hvalid⟩

/-- A cancellation leaves in a live set what is still valid. -/
theorem Settled.liveSubscriptions_cancel (hh : h.Settled) {s : SubscriptionRef}
    (hafter : (h.cancel s).hub.Settled) (k : ServiceRef) :
    (h.cancel s).hub.liveSubscriptions k =
      (h.cancel s).hub.stillValid (h.liveSubscriptions k) := by
  obtain ⟨keep, hkeep⟩ := thinned_cancel h s k
  rcases hv : h.service? k with _ | v
  · rw [hv, Option.map_none] at hkeep
    simp [liveSubscriptions, hkeep, hv, stillValid]
  rw [hv, Option.map_some] at hkeep
  -- Both before and after, what is listed and what is valid determine each other.
  have hkept : ∀ entry ∈ v.live, keep entry = (h.cancel s).hub.isValid entry.2 := by
    intro entry hmem
    rw [Bool.eq_iff_iff]
    constructor
    · intro hkeeps
      refine hafter.isValid_of_mem ((mem_liveSubscriptions hkeep entry.2).mpr ⟨entry.1, ?_⟩)
      exact List.mem_filter.mpr ⟨hmem, hkeeps⟩
    · intro hvalid
      obtain ⟨sub, hs, howner, hid⟩ := hh.live.owned hv hmem
      obtain ⟨sub', hs', hstate⟩ := isValid_iff.mp hvalid
      have hsame : sub'.owner = sub.owner ∧ sub'.id = sub.id := by
        rw [subscription?_cancel, hs] at hs'
        obtain rfl := Option.some.inj hs'
        split <;> exact ⟨rfl, rfl⟩
      have hlisted := hafter.live.listed hs' (hsame.1.trans howner) hkeep hstate
      rw [hsame.2, hid] at hlisted
      exact (List.mem_filter.mp hlisted).2
  rw [liveSubscriptions_of_service? hkeep, liveSubscriptions_of_service? hv,
    List.filter_congr hkept, stillValid_eq_filter, List.filter_map]
  rfl

variable [BEq C]

/-- Whatever is done to a subscription leaves in a live set what is still valid. -/
theorem Settled.liveSubscriptions_perform (hh : h.Settled) (u : Handling C) (s : SubscriptionRef)
    (hafter : (u.perform h s).2.Settled) (k : ServiceRef) :
    (u.perform h s).2.liveSubscriptions k =
      (u.perform h s).2.stillValid (h.liveSubscriptions k) := by
  by_cases hu : u = .cancel
  · subst hu
    exact hh.liveSubscriptions_cancel hafter k
  · obtain ⟨queue, live, hservice, hlive⟩ := u.service?_perform h s k
    have hsame : (u.perform h s).2.liveSubscriptions k = h.liveSubscriptions k := by
      rw [liveSubscriptions, liveSubscriptions, hservice]
      rcases h.service? k with _ | v
      · rfl
      · simp [hlive hu]
    rw [← hsame]
    exact (stillValid_eq_self fun _ hs => hafter.isValid_of_mem hs).symm

end Hub

end PathWatch
