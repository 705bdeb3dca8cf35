import Mathlib
import PathWatch.Proofs.Drill.Balance
/-!
# Nothing is forgotten in a drill

Whoever has been given a subscription is busy with it until it is reset, and whoever has had an
event accepted signals. So as long as something is not counted, something is queued or somebody is
at work, and the main thread does not wait for nothing.
-/

namespace PathWatch

variable {R C : Type} [BEq C]

namespace Drill

namespace Field

variable {config : WatchConfig} {σ τ : Field R C}

/-! ## Who is at work -/

/-- A subscription that was taken and not reset since is with a worker, and one that was posted to
and not signaled since is with a producer. -/
structure Manned (σ : Field R C) : Prop where
  taken : ∀ s, σ.past.Since (Takes 0 s) (EnqueuesOrResets 0 s) →
    ∃ d ∈ σ.duties, d.subscription = s
  posted : ∀ s, σ.past.Since (Posts s) (Signals s) →
    ∃ p ∈ σ.producers, p.subscription = s ∧ p.owes = true

omit [BEq C] in
/-- Whoever is in a list is still there when somebody else is replaced. -/
theorem mem_replace {α : Type} {l r : List α} {x y z : α} (hz : z ∈ l ++ x :: r) :
    z = x ∨ z ∈ l ++ y :: r := by
  simp only [List.mem_append, List.mem_cons] at hz ⊢
  tauto

/-- Workers stay at work when what is taken goes to one of them, and when nobody is done without a
reset. -/
theorem Manned.taken_of_deed (hσ : Manned σ) {a : Action R C} {duties : List (Duty C)}
    (hr : ∀ s, a.retrieves σ.hub 0 = some s → ∃ d ∈ duties, d.subscription = s)
    (hduties : ∀ d ∈ σ.duties, a = .reset d.subscription ∨
      ∃ d' ∈ duties, d'.subscription = d.subscription) (s : SubscriptionRef)
    (hsince : History.Since (Takes 0 s) (EnqueuesOrResets 0 s) (a :: σ.past)) :
    ∃ d ∈ duties, d.subscription = s := by
  rcases hsince with hnow | ⟨hnot, hbefore⟩
  · exact hr s hnow
  · obtain ⟨d, hd, rfl⟩ := hσ.taken s hbefore
    rcases hduties d hd with hreset | ⟨d', hd', hsame⟩
    · exact absurd (Or.inr hreset) hnot
    · exact ⟨d', hd', hsame⟩

/-- Producers stay at work when who posts has yet to signal, and when nobody is done without a
signal. -/
theorem Manned.posted_of_deed (hσ : Manned σ) {a : Action R C} {producers : List (Producer C)}
    (ha : ∀ s, a.posts σ.hub s ≠ [] → ∃ p ∈ producers, p.subscription = s ∧ p.owes = true)
    (hproducers : ∀ p ∈ σ.producers, p.owes = true → a = .signal p.subscription ∨ p ∈ producers)
    (s : SubscriptionRef) (hsince : History.Since (Posts s) (Signals s) (a :: σ.past)) :
    ∃ p ∈ producers, p.subscription = s ∧ p.owes = true := by
  rcases hsince with hnow | ⟨hnot, hbefore⟩
  · exact ha s hnow
  · obtain ⟨p, hp, rfl, howes⟩ := hσ.posted s hbefore
    rcases hproducers p hp howes with hsignal | hp'
    · exact absurd hsignal hnot
    · exact ⟨p, hp', rfl, howes⟩

omit [BEq C] in
/-- A duty that goes on is about the same subscription. -/
theorem exists_of_replace {l r : List (Duty C)} {d d' x : Duty C} (hx : x ∈ l ++ d :: r)
    (hsame : d'.subscription = d.subscription) :
    ∃ y ∈ l ++ d' :: r, y.subscription = x.subscription := by
  rcases mem_replace hx with rfl | hother
  · exact ⟨d', by simp, hsame⟩
  · exact ⟨x, hother, rfl⟩

/-- Who has posted has had its event accepted. -/
theorem offer_of_posts {h : Hub R C} {s s' : SubscriptionRef} {e : Event C}
    (hposts : (Action.offer s e : Action R C).posts h s' ≠ []) :
    s = s' ∧ (h.offer s e.val).value = true := by
  rcases hs : h.subscription? s' with _ | sub
  · simp [Action.posts, hs] at hposts
  · simp [Action.posts, hs] at hposts
    obtain ⟨-, rfl, hkind⟩ := hposts
    simp [Hub.offer, hs, hkind]

/-- Every step keeps everybody at work. -/
theorem Step.manned (hstep : Step σ τ) (hσ : Manned σ) : Manned τ := by
  -- Most steps take nothing, post nothing, and let nobody go.
  have untaken : ∀ {a : Action R C}, a.retrieves σ.hub 0 = none → ∀ s,
      a.retrieves σ.hub 0 = some s → ∃ d ∈ σ.duties, d.subscription = s := by
    intro a ha s hs
    simp [ha] at hs
  have unposted : ∀ {a : Action R C}, (∀ s, a.posts σ.hub s = []) → ∀ s,
      a.posts σ.hub s ≠ [] → ∃ p ∈ σ.producers, p.subscription = s ∧ p.owes = true :=
    fun ha s hs => absurd (ha s) hs
  have quiet : ∀ {a : Action R C}, a.fills = false → ∀ s, a.posts σ.hub s = [] :=
    fun ha s => (Action.posts_eq_nil_of_fills ha σ.hub s).1
  have workers : ∀ {a : Action R C}, ∀ d ∈ σ.duties, a = .reset d.subscription ∨
      ∃ d' ∈ σ.duties, d'.subscription = d.subscription := fun d hd => Or.inr ⟨d, hd, rfl⟩
  have producers : ∀ {a : Action R C}, ∀ p ∈ σ.producers, p.owes = true →
      a = .signal p.subscription ∨ p ∈ σ.producers := fun p hp _ => Or.inr hp
  cases hstep with
  | watch resource hsettling =>
    exact ⟨hσ.taken_of_deed (untaken rfl) workers,
      hσ.posted_of_deed (unposted (quiet rfl)) producers⟩
  | start s todo hsettling =>
    refine ⟨hσ.taken, fun s' hsince => ?_⟩
    obtain ⟨p, hp, hs, howes⟩ := hσ.posted s' hsince
    exact ⟨p, List.mem_cons_of_mem _ hp, hs, howes⟩
  | offer l r s c todo n hproducers =>
    refine ⟨hσ.taken_of_deed (untaken rfl) workers, hσ.posted_of_deed ?_ ?_⟩
    · intro s' hposts
      obtain ⟨rfl, haccepted⟩ := offer_of_posts hposts
      exact ⟨_, List.mem_append_right _ (List.mem_cons_self ..), rfl, haccepted⟩
    · intro p hp howes
      rw [hproducers] at hp
      rcases mem_replace hp with rfl | hother
      · simp at howes
      · exact Or.inr hother
  | signal l r s todo n hproducers =>
    refine ⟨hσ.taken_of_deed (untaken rfl) workers, hσ.posted_of_deed ?_ ?_⟩
    · exact fun s' hposts => absurd (quiet rfl s') hposts
    · intro p hp howes
      rw [hproducers] at hp
      rcases mem_replace hp with rfl | hother
      · exact Or.inl rfl
      · exact Or.inr hother
  | take s htake =>
    refine ⟨hσ.taken_of_deed ?_ ?_, hσ.posted_of_deed (unposted (quiet rfl)) producers⟩
    · intro s' hr
      obtain rfl : s = s' := by simpa [Action.retrieves, htake] using hr
      exact ⟨_, List.mem_cons_self .., rfl⟩
    · exact fun d hd => Or.inr ⟨d, List.mem_cons_of_mem _ hd, rfl⟩
  | drain l r w s hduties =>
    refine ⟨hσ.taken_of_deed (fun s' hr => by simp [Action.retrieves] at hr) fun d hd => ?_,
      hσ.posted_of_deed (unposted fun s' => ?_) producers⟩
    · rw [hduties] at hd
      exact Or.inr (exists_of_replace hd rfl)
    · rcases hs : σ.hub.subscription? s' with _ | sub <;> simp [Action.posts, hs]
  | count l r w s e rest hduties =>
    refine ⟨fun s' hsince => ?_, hσ.posted⟩
    obtain ⟨d, hd, rfl⟩ := hσ.taken s' hsince
    rw [hduties] at hd
    exact exists_of_replace hd rfl
  | reset l r w s hduties =>
    refine ⟨hσ.taken_of_deed (fun s' hr => by simp [Action.retrieves] at hr) fun d hd => ?_,
      hσ.posted_of_deed (unposted (quiet rfl)) producers⟩
    rw [hduties, List.mem_append, List.mem_cons] at hd
    rcases hd with hl | rfl | hr
    · exact Or.inr ⟨d, List.mem_append_left _ hl, rfl⟩
    · exact Or.inl rfl
    · exact Or.inr ⟨d, List.mem_append_right _ hr, rfl⟩
  | help posted s hsettling hpoll =>
    refine ⟨hσ.taken_of_deed ?_ ?_, hσ.posted_of_deed (unposted (quiet rfl)) producers⟩
    · intro s' hr
      obtain rfl : s = s' := by simpa [Action.retrieves, hpoll] using hr
      exact ⟨_, List.mem_cons_self .., rfl⟩
    · exact fun d hd => Or.inr ⟨d, List.mem_cons_of_mem _ hd, rfl⟩
  | wait posted hsettling hpoll =>
    exact ⟨hσ.taken_of_deed (untaken (by simp [Action.retrieves, hpoll])) workers,
      hσ.posted_of_deed (unposted (quiet rfl)) producers⟩
  | _ => exact ⟨hσ.taken, hσ.posted⟩

theorem Reachable.manned (hσ : Reachable config σ) : Manned σ := by
  induction hσ with
  | start hconfig =>
    have hnone : ∀ s, (History.hub ([] : History R C)).subscription? s = none := fun _ => rfl
    constructor
    · intro s hsince
      simp [History.Since, Takes, Action.retrieves] at hsince
    · intro s hsince
      simp [History.Since, Posts, Action.posts, hnone] at hsince
  | step _ hstep ih => exact hstep.manned ih

/-! ## What the main thread knows -/

/-- The main thread goes on when the producers have finished, and never thinks that more was counted
than there was. -/
structure Informed (σ : Field R C) : Prop where
  finished : σ.settling ≠ .starting → ∀ p ∈ σ.producers, p.Finished
  posted_eq : ∀ n, σ.settling.posted? = some n → n = σ.posted
  delivered_le : ∀ n d, σ.settling = .looked n d → d ≤ σ.totals.delivered
  le_seen : ∀ n, σ.settling = .settled n true → n ≤ σ.totals.seen

namespace Informed

omit [BEq C] in
theorem of_starting (hsettling : σ.settling = .starting) : Informed σ := by
  constructor <;> simp [hsettling, Settling.posted?]

omit [BEq C] in
/-- A producer that has not finished keeps the main thread waiting. -/
theorem starting_of_mem (hσ : Informed σ) {p : Producer C} (hp : p ∈ σ.producers)
    (hbusy : ¬ p.Finished) : σ.settling = .starting := by
  by_contra hsettling
  exact hbusy (hσ.finished hsettling p hp)

omit [BEq C] in
/-- The main thread goes on. -/
theorem of_next (hσ : Informed σ) (hsettling : σ.settling ≠ .starting)
    (hproducers : τ.producers = σ.producers)
    (hposted : τ.settling.posted? = σ.settling.posted?)
    (hlooked : ∀ n d, τ.settling = .looked n d → d ≤ τ.totals.delivered)
    (hsettled : ∀ n, τ.settling = .settled n true → n ≤ τ.totals.seen) : Informed τ where
  finished _ := hproducers ▸ hσ.finished hsettling
  posted_eq n hn := by
    rw [hposted] at hn
    rw [posted, hproducers]
    exact hσ.posted_eq n hn
  delivered_le := hlooked
  le_seen := hsettled

end Informed

/-- Every step keeps the main thread informed. -/
theorem Step.informed (hstep : Step σ τ) (hσ : Informed σ) : Informed τ := by
  cases hstep with
  | start s todo hsettling => exact .of_starting hsettling
  | offer l r s c todo n hproducers =>
    refine .of_starting (hσ.starting_of_mem (p := ⟨s, c :: todo, n, false⟩) ?_ ?_)
    · simp [hproducers]
    · simp [Producer.Finished]
  | signal l r s todo n hproducers =>
    refine .of_starting (hσ.starting_of_mem (p := ⟨s, todo, n, true⟩) ?_ ?_)
    · simp [hproducers]
    · simp [Producer.Finished]
  | count l r w s e rest hduties =>
    -- Counting raises what is seen and lowers nothing, so what was read before is still a bound.
    have hseen := σ.totals.seen_count e
    have hdelivered : σ.totals.delivered ≤ (σ.totals.count e).delivered := by
      unfold Totals.count
      split <;> simp
    exact
      { finished := hσ.finished
        posted_eq := hσ.posted_eq
        delivered_le := fun n d h => (hσ.delivered_le n d h).trans hdelivered
        le_seen := fun n h => (hσ.le_seen n h).trans (by simp only [hseen]; omega) }
  | reset l r w s hduties =>
    -- The main thread looks again if it was the one who helped; for a worker it stays where it is.
    rcases σ.settling.resume_cases w with hsame | ⟨n, hhelps, hlooks⟩
    · exact ⟨fun h => hσ.finished (hsame ▸ h), fun n h => hσ.posted_eq n (hsame ▸ h),
        fun n d h => hσ.delivered_le n d (hsame ▸ h), fun n h => hσ.le_seen n (hsame ▸ h)⟩
    · rw [hhelps] at hlooks
      refine hσ.of_next (by simp [hhelps]) rfl ?_ ?_ ?_ <;> simp [hhelps, hlooks, Settling.posted?]
  | settle hsettling hfinished =>
    exact
      { finished := fun _ => hfinished
        posted_eq := fun n h => (Option.some.inj h).symm
        delivered_le := fun n d h => by simp at h
        le_seen := fun n h => by simp at h }
  | look n hsettling =>
    refine hσ.of_next (by simp [hsettling]) rfl (by simp [hsettling, Settling.posted?]) ?_ (by simp)
    rintro n' d ⟨⟩
    exact Nat.le_refl _
  | judge n delivered hsettling =>
    have hdelivered := hσ.delivered_le n delivered hsettling
    refine hσ.of_next (by simp [hsettling]) rfl ?_ ?_ ?_
    · simp only [hsettling]
      split <;> rfl
    · intro n' d h
      split at h <;> simp at h
    · intro n' h
      split at h
      · simp at h
      · rename_i hall
        obtain rfl : n = n' := by simpa using h
        show n ≤ σ.totals.delivered + σ.totals.overflowed
        omega
  | giveUp n hsettling =>
    refine hσ.of_next (by simp [hsettling]) rfl ?_ ?_ ?_ <;> simp [hsettling, Settling.posted?]
  | help n s hsettling hpoll =>
    refine hσ.of_next (by simp [hsettling]) rfl ?_ ?_ ?_ <;> simp [hsettling, Settling.posted?]
  | wait n hsettling hpoll =>
    refine hσ.of_next (by simp [hsettling]) rfl ?_ ?_ ?_ <;> simp [hsettling, Settling.posted?]
  | _ => exact ⟨hσ.finished, hσ.posted_eq, hσ.delivered_le, hσ.le_seen⟩

theorem Reachable.informed (hσ : Reachable config σ) : Informed σ := by
  induction hσ with
  | start hconfig => exact .of_starting rfl
  | step _ hstep ih => exact hstep.informed ih

/-! ## The account -/

/-- When nothing waits, every buffer is empty. -/
theorem buffer_eq_nil_of_waiting (hwaiting : σ.past.waiting σ.hub.subscriptions.size = 0)
    {s : SubscriptionRef} {sub : Subscription R C} (hs : σ.hub.subscription? s = some sub) :
    sub.buffer = [] := by
  have hmem : s ∈ Finset.range σ.hub.subscriptions.size :=
    Finset.mem_range.mpr (Hub.lt_size_of_subscription? hs)
  have hposted : (σ.past.posted s).length = 0 := Finset.sum_eq_zero_iff.mp hwaiting s hmem
  rw [σ.past.buffer_eq_foldl hs, List.length_eq_zero_iff.mp hposted]
  rfl

/-- A subscription whose events wait is queued, or a worker or a producer is busy with it. -/
theorem Reachable.busy_of_posted (hσ : Reachable config σ) {s : SubscriptionRef}
    (hfew : σ.past.acceptedBy s ≤ maxCount) (hposted : σ.past.posted s ≠ []) :
    s ∈ σ.hub.queue 0 ∨ (∃ d ∈ σ.duties, d.subscription = s) ∨
      ∃ p ∈ σ.producers, p.subscription = s ∧ p.owes = true := by
  have hground := hσ.orderly.grounded
  obtain ⟨sub, hs⟩ : ∃ sub, σ.hub.subscription? s = some sub := by
    by_contra hnone
    rw [not_exists, ← Option.eq_none_iff_forall_ne_some] at hnone
    exact hposted (History.posted_eq_nil hnone)
  have hbuffer : sub.buffer ≠ [] := by
    intro hempty
    have hweight := hσ.orderly.weight_drain hfew
    rw [Hub.drain_value (show σ.past.hub.subscription? s = some sub from hs), hempty] at hweight
    exact hposted (List.length_eq_zero_iff.mp hweight.symm)
  have hway := σ.past.onTheWay hground.isOpen hs (hground.owner_eq hs)
  rcases hstate : sub.state with _ | _ | _
  · -- Events wait in a ready subscription only until its producer signals.
    exact Or.inr (Or.inr (hσ.manned.posted s (hway.of_ready hstate hbuffer)))
  · -- A signaled one is queued, or has been taken and not reset since.
    rcases hway.of_signaled hstate with hqueued | hsince
    · obtain ⟨v, hv, -⟩ := Hub.service?_of_isOpen hground.isOpen
      have hmem := (σ.past.queueSound.queued_iff_mem hv hs (hground.owner_eq hs)).mp hqueued
      exact Or.inl (Hub.queue_of_service? hv ▸ hmem)
    · exact Or.inr (Or.inl (hσ.manned.taken s hsince))
  · exact absurd hstate (hground.state_ne hs)

/-- What the main thread has settled is complete, and all buffers are empty. -/
theorem Reachable.seen_eq_of_settled (hσ : Reachable config σ)
    (hfew : ∀ s, σ.past.acceptedBy s ≤ maxCount) {n : Nat}
    (hsettled : σ.settling = .settled n true) :
    σ.totals.seen = σ.posted ∧
      ∀ s sub, σ.hub.subscription? s = some sub → sub.buffer = [] := by
  have hbalance := hσ.balanced hfew _ (Nat.le_refl _)
  have hposted := hσ.posted_eq
  have hn := hσ.informed.posted_eq n (by rw [hsettled]; rfl)
  have hseen := hσ.informed.le_seen n hsettled
  exact ⟨by omega, fun s sub hs => buffer_eq_nil_of_waiting (by omega) hs⟩

/-- Once the producers have finished, the main thread never waits for nothing: what has not been
counted waits in a buffer, and nobody but a worker is left to be busy with it. -/
theorem Reachable.busy_of_seen_lt (hσ : Reachable config σ)
    (hfew : ∀ s, σ.past.acceptedBy s ≤ maxCount) (hfinished : ∀ p ∈ σ.producers, p.Finished)
    (hseen : σ.totals.seen < σ.posted) : σ.hub.queue 0 ≠ [] ∨ σ.duties ≠ [] := by
  by_contra hidle
  obtain ⟨hqueue, hduties⟩ : σ.hub.queue 0 = [] ∧ σ.duties = [] := by tauto
  have hbalance := hσ.balanced hfew _ (Nat.le_refl _)
  have hposted := hσ.posted_eq
  have hhand : σ.inHand = 0 := by simp [inHand, hduties]
  obtain ⟨s, -, hs⟩ : ∃ s ∈ Finset.range σ.hub.subscriptions.size,
      (σ.past.posted s).length ≠ 0 := by
    by_contra hnone
    simp only [not_exists, not_and, not_not] at hnone
    have hwaiting : σ.past.waiting σ.hub.subscriptions.size = 0 := Finset.sum_eq_zero hnone
    omega
  have hnonempty : σ.past.posted s ≠ [] := fun h => hs (by rw [h]; rfl)
  rcases hσ.busy_of_posted (hfew s) hnonempty with hmem | ⟨d, hd, -⟩ | ⟨p, hp, -, howes⟩
  · simp [hqueue] at hmem
  · simp [hduties] at hd
  · simp [(hfinished p hp).2] at howes

/-- A drill accounts for every event, whatever its producers offer and in whatever order its threads
take their steps, as long as fewer events than a count can hold go to each subscription. The totals
never exceed what was put into buffers. When the main thread has settled, they are what the
producers have reported, and all buffers are empty. When no subscription got more events than the
capacity, none was counted by an overflow event. And when the producers have finished and the totals
are not complete, something is queued or somebody is draining. -/
theorem accounts_for_every_event (hσ : Reachable config σ)
    (hfew : ∀ s, σ.past.acceptedBy s < 2 ^ 32) :
    σ.totals.seen ≤ σ.past.accepted ∧
    (∀ n, σ.settling = .settled n true →
      (∀ p ∈ σ.producers, p.Finished) ∧ n = σ.posted ∧ σ.totals.seen = σ.posted ∧
        ∀ s sub, σ.hub.subscription? s = some sub → sub.buffer = []) ∧
    ((∀ s, σ.past.acceptedBy s ≤ config.capacity) → σ.totals.overflowed = 0) ∧
    ((∀ p ∈ σ.producers, p.Finished) → σ.totals.seen < σ.posted →
      σ.hub.queue 0 ≠ [] ∨ σ.duties ≠ []) := by
  have hcounts : ∀ s, σ.past.acceptedBy s ≤ maxCount := fun s => Nat.le_of_lt_succ (hfew s)
  have hbalance := hσ.balanced hcounts _ (Nat.le_refl _)
  refine ⟨by omega, fun n hsettled => ?_, fun hroom => (hσ.roomy hroom).overflowed_eq,
    hσ.busy_of_seen_lt hcounts⟩
  have hfinished := hσ.informed.finished (by simp [hsettled])
  have hn := hσ.informed.posted_eq n (by rw [hsettled]; rfl)
  exact ⟨hfinished, hn, hσ.seen_eq_of_settled hcounts hsettled⟩

/-- Two changes of one file, with room for one: the main thread counts both, the second one by an
overflow event. -/
theorem accounts_for_every_event_of_overflow :
    ∃ σ : Field Nat Nat, Reachable { capacity := 1 } σ ∧ σ.settling = .settled 2 true ∧
      σ.totals = { delivered := 1, overflowed := 1 } ∧ σ.totals.seen = σ.posted ∧
      ∀ s sub, σ.hub.subscription? s = some sub → sub.buffer = [] := by
  let c : Change Nat := ⟨.once .modify 7, rfl, by decide⟩
  let past : History Nat Nat :=
    [.signal 0, .offer 0 c.event, .signal 0, .offer 0 c.event, .register 0 10 watchedKinds,
      .withConfig { capacity := 1 }]
  have hproduced : Reachable { capacity := 1 }
      ({ past, producers := [⟨0, [], 2, false⟩] } : Field Nat Nat) := by
    have h₀ : Reachable { capacity := 1 } (_ : Field Nat Nat) := .start rfl
    have h₁ := h₀.step (.watch 10 rfl)
    have h₂ := h₁.step (.start 0 [c, c] rfl)
    have h₃ := h₂.step (.offer [] [] 0 c [c] 0 rfl)
    have h₄ := h₃.step (.signal [] [] 0 [c] 1 rfl)
    have h₅ := h₄.step (.offer [] [] 0 c [] 1 rfl)
    exact h₅.step (.signal [] [] 0 [] 2 rfl)
  let polled : History Nat Nat := .pollTimeout 0 false :: past
  have hdrain : (polled.hub.drain 0).value = [⟨.modify, 1, some 7⟩, ⟨.overflow, 1, none⟩] := by
    decide
  have hdrained : Reachable { capacity := 1 }
      ({ past := .drain 0 :: polled
         producers := [⟨0, [], 2, false⟩]
         duties := [⟨.main, 0, some (polled.hub.drain 0).value⟩]
         settling := .helps 2 } : Field Nat Nat) := by
    have h₇ := hproduced.step (.settle rfl (by simp [Producer.Finished]))
    have h₈ := h₇.step (.look 2 rfl)
    have h₉ := h₈.step (.judge 2 0 rfl)
    have h₁₀ := h₉.step (.help 2 0 rfl (by decide))
    exact h₁₀.step (.drain [] [] .main 0 rfl)
  rw [hdrain] at hdrained
  have hcounted : Reachable { capacity := 1 }
      ({ past := .reset 0 :: .drain 0 :: polled
         producers := [⟨0, [], 2, false⟩]
         totals := { delivered := 1, overflowed := 1 }
         settling := .settled 2 true } : Field Nat Nat) := by
    have h₁₂ := hdrained.step (.count [] [] .main 0 _ _ rfl)
    have h₁₃ := h₁₂.step (.count [] [] .main 0 _ [] rfl)
    have h₁₄ := h₁₃.step (.reset [] [] .main 0 rfl)
    have h₁₅ := h₁₄.step (.look 2 rfl)
    exact h₁₅.step (.judge 2 1 rfl)
  have hfew : ∀ s, History.acceptedBy s (.reset 0 :: .drain 0 :: polled) < 2 ^ 32 := by
    intro s
    have hle := History.acceptedBy_le_accepted (.reset 0 :: .drain 0 :: polled) s
    exact hle.trans_lt (by decide)
  obtain ⟨-, -, hseen, hempty⟩ := (accounts_for_every_event hcounted hfew).2.1 2 rfl
  exact ⟨_, hcounted, rfl, rfl, hseen, hempty⟩

end Field

end Drill

end PathWatch
