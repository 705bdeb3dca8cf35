import Mathlib
import PathWatch.Proofs.Buffer.Weight
import PathWatch.Proofs.Drill.Ground
/-!
# What has been posted in a drill

How many events went into buffers in a run, into one buffer or into all of them, and how many of
them are still there. In a drill every event happened once, so what a buffer counts is the number of
events posted since it was drained, unless that number is beyond the largest count.
-/

namespace PathWatch

variable {R C : Type}

/-! ## Counting -/

/-- The number of events that an action puts into buffers. -/
def Action.accepts (a : Action R C) (h : Hub R C) : Nat :=
  match a.subject? with
  | none => 0
  | some s => (a.posts h s).length

namespace History

variable [BEq C]

/-- The number of events that were put into the buffer of a subscription. -/
def acceptedBy (s : SubscriptionRef) : History R C → Nat
  | [] => 0
  | a :: past => acceptedBy s past + (a.posts (hub past) s).length

/-- The number of events that were put into buffers. -/
def accepted : History R C → Nat
  | [] => 0
  | a :: past => accepted past + a.accepts (hub past)

/-- The number of events that are in the buffers of the first `n` subscriptions. -/
def waiting (n : Nat) (past : History R C) : Nat :=
  ∑ s ∈ Finset.range n, (past.posted s).length

/-- No more is in a buffer than was put into it. -/
theorem length_posted_le (past : History R C) (s : SubscriptionRef) :
    (past.posted s).length ≤ past.acceptedBy s := by
  induction past with
  | nil => exact Nat.le_refl _
  | cons a past ih =>
    rw [posted, acceptedBy]
    split
    · exact Nat.zero_le _
    · rw [List.length_append]
      exact Nat.add_le_add_right ih _

theorem acceptedBy_le_cons (a : Action R C) (past : History R C) (s : SubscriptionRef) :
    past.acceptedBy s ≤ acceptedBy s (a :: past) :=
  Nat.le_add_right _ _

end History

/-- Only what is there is posted to. -/
theorem Action.posts_of_size_le {a : Action R C} {h : Hub R C} {s : SubscriptionRef}
    (hs : h.subscriptions.size ≤ s) : a.posts h s = [] := by
  have hnone : h.subscription? s = none := Array.getElem?_eq_none hs
  simp [posts, hnone]

/-- An action posts to its subject only. -/
theorem Action.sum_length_posts (a : Action R C) {h : Hub R C} {n : Nat}
    (hn : h.subscriptions.size ≤ n) :
    ∑ s ∈ Finset.range n, (a.posts h s).length = a.accepts h := by
  rw [accepts]
  rcases hsubject : a.subject? with _ | s
  · refine Finset.sum_eq_zero fun s _ => ?_
    rw [posts_eq_nil (by simp [hsubject]) h]
    rfl
  · refine Finset.sum_eq_single s (fun s' _ hs' => ?_) fun hs => ?_
    · rw [posts_eq_nil (by simpa [hsubject] using hs'.symm) h]
      rfl
    · rw [posts_of_size_le (hn.trans (by simpa using hs))]
      rfl

/-- No subscription gets more than there is. -/
theorem Action.length_posts_le (a : Action R C) (h : Hub R C) (s : SubscriptionRef) :
    (a.posts h s).length ≤ a.accepts h := by
  by_cases hs : a.subject? = some s
  · simp [accepts, hs]
  · simp [posts_eq_nil hs h]

variable [BEq C]

/-- The number of places for subscriptions never shrinks. -/
theorem size_subscriptions_le_apply (h : Hub R C) (a : Action R C) :
    h.subscriptions.size ≤ (a.apply h).subscriptions.size := by
  by_contra hlt
  obtain ⟨sub, hs⟩ : ∃ sub, h.subscription? (a.apply h).subscriptions.size = some sub :=
    ⟨_, Array.getElem?_eq_getElem (Nat.not_le.mp hlt)⟩
  obtain ⟨sub', hs', -⟩ := subscription?_apply hs a
  exact absurd (Hub.lt_size_of_subscription? hs') (Nat.lt_irrefl _)

namespace History

theorem acceptedBy_le_accepted (past : History R C) (s : SubscriptionRef) :
    past.acceptedBy s ≤ past.accepted := by
  induction past with
  | nil => exact Nat.le_refl _
  | cons a past ih => exact Nat.add_le_add ih (a.length_posts_le (hub past) s)

/-- What an action puts into buffers waits there, unless it drains. -/
theorem waiting_cons {a : Action R C} {past : History R C} {n : Nat}
    (hn : past.hub.subscriptions.size ≤ n) (ha : ∀ s, a.drains s = false) :
    waiting n (a :: past) = past.waiting n + a.accepts past.hub := by
  rw [waiting, waiting, ← a.sum_length_posts hn, ← Finset.sum_add_distrib]
  refine Finset.sum_congr rfl fun s _ => ?_
  rw [posted, ha s, if_neg (by simp), List.length_append]

/-- What is drained does not wait any more. -/
theorem waiting_drain {past : History R C} {s : SubscriptionRef} {n : Nat}
    (hn : past.hub.subscriptions.size ≤ n) :
    waiting n (.drain s :: past) + (past.posted s).length = past.waiting n := by
  have hother : ∀ s', s' ≠ s → posted s' (.drain s :: past) = past.posted s' := by
    intro s' hs'
    have hposts : (Action.drain s : Action R C).posts past.hub s' = [] :=
      Action.posts_eq_nil (by simpa [Action.subject?] using hs'.symm) _
    rw [posted, hposts, List.append_nil, if_neg (by simpa [Action.drains] using hs'.symm)]
  have hself : posted s (.drain s :: past) = [] := by simp [posted, Action.drains]
  by_cases hs : s ∈ Finset.range n
  · rw [waiting, waiting, ← Finset.add_sum_erase _ _ hs, ← Finset.add_sum_erase _ _ hs, hself,
      List.length_nil, Nat.zero_add, Nat.add_comm]
    refine congrArg _ (Finset.sum_congr rfl fun s' hs' => ?_)
    rw [hother s' (Finset.ne_of_mem_erase hs')]
  · have hnone : past.hub.subscription? s = none :=
      Array.getElem?_eq_none (hn.trans (by simpa using hs))
    rw [posted_eq_nil hnone, List.length_nil, Nat.add_zero, waiting, waiting]
    refine Finset.sum_congr rfl fun s' hs' => ?_
    rw [hother s' fun h => hs (h ▸ hs')]

end History

/-! ## Drills -/

namespace Drill

variable {config : WatchConfig} {past : History R C} {s : SubscriptionRef}

omit [BEq C] in
/-- In a drill only single changes are posted. -/
theorem Peaceful.of_mem_posts {a : Action R C} (ha : Peaceful a) {h : Hub R C} {e : ChangeEvent C}
    (he : e ∈ a.posts h s) : e.count = 1 ∧ e.isOverflow = false := by
  have hthere : ∃ sub, h.subscription? s = some sub := by
    by_contra hnone
    rw [not_exists, ← Option.eq_none_iff_forall_ne_some] at hnone
    simp [Action.posts, hnone] at he
  obtain ⟨sub, hs⟩ := hthere
  cases a with
  | offer s' c =>
    obtain rfl : e = c.val := by
      simp [Action.posts, hs] at he
      exact he.2.2
    have hkind : c.val.kind ≠ .overflow := by
      have hmem := ha.2
      rintro hover
      simp [hover, watchedKinds] at hmem
    exact ⟨ha.1, by simpa [ChangeEvent.isOverflow] using hkind⟩
  | post s' c => exact ha.elim
  | _ => simp [Action.posts, hs] at he

/-- In a drill only single changes are in buffers. -/
theorem Orderly.of_mem_posted (hpast : Orderly config past) {e : ChangeEvent C}
    (he : e ∈ past.posted s) : e.count = 1 ∧ e.isOverflow = false := by
  induction hpast with
  | start hconfig =>
    have hnone : (History.hub ([] : History R C)).subscription? s = none := rfl
    simp [History.posted, Action.drains, Action.posts, hnone] at he
  | step ha hpast ih =>
    rw [History.posted] at he
    split at he
    · simp at he
    · rcases List.mem_append.mp he with hbefore | hnow
      · exact ih hbefore
      · exact ha.of_mem_posts hnow

/-- What a drain returns is what the events posted since the last drain have made of an empty
buffer. -/
theorem Orderly.drain_eq (hpast : Orderly config past) :
    (past.hub.drain s).value = (past.posted s).foldl (Buffer.post config) [] := by
  rcases hs : past.hub.subscription? s with _ | sub
  · rw [Hub.drain_value_of_eq_none hs, History.posted_eq_nil hs]
    rfl
  · rw [Hub.drain_value hs, past.buffer_eq_foldl hs, hpast.grounded.config_eq hs]

/-- A drain returns what counts every event that was posted since the last one. -/
theorem Orderly.weight_drain (hpast : Orderly config past) (hfew : past.acceptedBy s ≤ maxCount) :
    Buffer.weight (past.hub.drain s).value = (past.posted s).length := by
  have hweight : Buffer.weight (past.posted s) = (past.posted s).length := by
    have hones : (past.posted s).map ChangeEvent.count = List.replicate (past.posted s).length 1 :=
      List.map_eq_replicate_iff.mpr fun e he => (hpast.of_mem_posted he).1
    simp [Buffer.weight, hones]
  have hfits := (past.length_posted_le s).trans hfew
  rw [hpast.drain_eq, Buffer.weight_foldl_post config _ (hweight.le.trans hfits), hweight]
  exact fun e he => (hpast.of_mem_posted he).1.ge

/-- As long as the capacity is not exceeded, a drain returns no overflow event. -/
theorem Orderly.isOverflow_drain (hpast : Orderly config past)
    (hroom : past.acceptedBy s ≤ config.capacity) :
    ∀ e ∈ (past.hub.drain s).value, e.isOverflow = false := by
  rw [hpast.drain_eq]
  have hfits := (past.length_posted_le s).trans hroom
  exact (Buffer.isOverflow_foldl_post (fun e he => (hpast.of_mem_posted he).2) hfits).2

end Drill

end PathWatch
