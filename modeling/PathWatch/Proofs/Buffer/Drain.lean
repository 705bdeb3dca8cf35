import Mathlib
import PathWatch.Proofs.Buffer.Groups
import PathWatch.Proofs.Queue.Order
/-!
# What a drain returns

A buffer holds the collapsed groups of the events that were posted since it was drained for the last
time, whatever else has happened in between.
-/

namespace PathWatch

variable {R C : Type}

/-! ## Posts and drains -/

/-- Whether an action posts to a subscription or drains it. -/
def Action.fills : Action R C → Bool
  | .post _ _ | .offer _ _ | .drain _ => true
  | _ => false

theorem Action.posts_eq_nil_of_fills {a : Action R C} (ha : a.fills = false) (h : Hub R C)
    (s : SubscriptionRef) : a.posts h s = [] ∧ a.drains s = false := by
  refine ⟨?_, by cases a <;> first | rfl | simp [fills] at ha⟩
  unfold posts
  split
  · rfl
  · split
    · rfl
    · cases a <;> first | rfl | simp [fills] at ha

/-- Only what is not cancelled is posted to. -/
theorem Action.state_ne_cancelled {a : Action R C} {h : Hub R C} {s : SubscriptionRef}
    {sub : Subscription R C} (hs : h.subscription? s = some sub) (hposts : a.posts h s ≠ []) :
    sub.state ≠ .cancelled := by
  intro hstate
  simp [posts, hs, hstate] at hposts

/-- What is drained is not posted to. -/
theorem Action.posts_of_drains {a : Action R C} {s : SubscriptionRef} (ha : a.drains s = true)
    (h : Hub R C) : a.posts h s = [] := by
  cases a with
  | drain s' =>
    unfold posts
    split
    · rfl
    · split <;> rfl
  | _ => simp [drains] at ha

/-- Events that are posted are well-formed. -/
theorem Action.wellFormed_of_mem_posts {a : Action R C} {h : Hub R C} {s : SubscriptionRef}
    {e : ChangeEvent C} (he : e ∈ a.posts h s) : e.WellFormed := by
  unfold posts at he
  split at he
  · simp at he
  · split at he
    · simp at he
    · split at he
      · rename_i s' event
        split at he
        · rw [List.mem_singleton.mp he]
          exact event.property
        · simp at he
      · rename_i s' event
        split at he
        · rw [List.mem_singleton.mp he]
          exact event.property
        · simp at he
      · simp at he

variable [BEq C]

/-- A buffer changes by what is posted and drained, and by nothing else. -/
theorem SubscriptionChange.buffer_eq {h : Hub R C} {a : Action R C} {s : SubscriptionRef}
    {sub sub' : Subscription R C} (hc : SubscriptionChange h a s sub sub')
    (hs : h.subscription? s = some sub) :
    sub'.buffer =
      if a.drains s then [] else (a.posts h s).foldl (Buffer.post sub.config) sub.buffer := by
  have unfilled : a.fills = false → sub.buffer =
      if a.drains s then [] else (a.posts h s).foldl (Buffer.post sub.config) sub.buffer := by
    intro hfills
    obtain ⟨hposts, hdrains⟩ := a.posts_eq_nil_of_fills hfills h s
    rw [hposts, hdrains]
    rfl
  cases hc with
  | kept hsignal hreset hposts hdrains =>
    rw [hposts, hdrains]
    rfl
  | posted e hposts =>
    have hne : a.posts h s ≠ [] := by simp [hposts]
    have hstate := Action.state_ne_cancelled hs hne
    have hdrains : a.drains s = false := by
      by_contra hd
      exact hne (a.posts_of_drains (by simpa using hd) h)
    rw [hposts, hdrains, Subscription.post, if_neg hstate]
    rfl
  | drained ha => simp [ha, Action.drains]
  | signaled ha hstate => exact unfilled (by rw [ha]; rfl)
  | readied ha hstate hbuffer => exact unfilled (by rw [ha]; rfl)
  | requeued ha hstate hbuffer => exact unfilled (by rw [ha]; rfl)
  | retrieved k hretrieves =>
    exact unfilled (by cases a <;> first | rfl | simp [Action.retrieves] at hretrieves)
  | flushed k ha hopen hqueue => exact unfilled (by rcases ha with rfl | rfl <;> rfl)
  | cancelled ha queued hqueued =>
    exact unfilled (by cases a <;> first | rfl | simp [Action.cancels] at ha)

/-! ## Runs -/

namespace History

theorem wellFormed_of_mem_posted {past : History R C} {s : SubscriptionRef} {e : ChangeEvent C}
    (he : e ∈ past.posted s) : e.WellFormed := by
  induction past with
  | nil => simp [posted] at he
  | cons a past ih =>
    rw [posted] at he
    split at he
    · simp at he
    · rcases List.mem_append.mp he with hbefore | hnow
      · exact ih hbefore
      · exact Action.wellFormed_of_mem_posts hnow

/-- Nothing is posted to a subscription before it is made. -/
theorem posted_eq_nil {past : History R C} {s : SubscriptionRef}
    (hs : past.hub.subscription? s = none) : past.posted s = [] := by
  induction past with
  | nil => rfl
  | cons a past ih =>
    have hbefore := subscription?_eq_none_of_apply hs
    have hposts : a.posts (hub past) s = [] := by simp [Action.posts, hbefore]
    rw [posted, ih hbefore, hposts]
    split <;> rfl

/-- A buffer is what the posts since the last drain have made of an empty one. -/
theorem buffer_eq_foldl (past : History R C) {s : SubscriptionRef} {sub : Subscription R C}
    (hs : past.hub.subscription? s = some sub) :
    sub.buffer = (past.posted s).foldl (Buffer.post sub.config) [] := by
  induction past generalizing sub with
  | nil => simp [hub] at hs
  | cons a past ih =>
    -- The configuration never changes, so the fold goes on where it was.
    rcases subscription?_of_apply hs with ⟨before, hbefore, hc⟩ | ⟨hnew, hfresh⟩
    · rw [hc.buffer_eq hbefore, hc.config_eq, posted]
      split
      · rfl
      · rw [List.foldl_append, ← ih hbefore]
    · have hposts : a.posts (hub past) s = [] := by simp [Action.posts, hnew]
      rw [hfresh.buffer_eq, posted, posted_eq_nil hnew, hposts]
      split <;> rfl

/-- A drain returns what the posts since the last one have made of an empty buffer, also if there is
no subscription to drain. -/
theorem exists_drain_eq_foldl (past : History R C) (s : SubscriptionRef) :
    ∃ config, (past.hub.drain s).value = (past.posted s).foldl (Buffer.post config) [] := by
  rcases hs : past.hub.subscription? s with _ | sub
  · refine ⟨.standard, ?_⟩
    rw [Hub.drain_value_of_eq_none hs, posted_eq_nil hs]
    rfl
  · refine ⟨sub.config, ?_⟩
    rw [Hub.drain_value hs, past.buffer_eq_foldl hs]

/-- A buffer holds the collapsed groups of the events that were posted since the last drain. -/
theorem buffer_eq_collapse (past : History R C) {s : SubscriptionRef} {sub : Subscription R C}
    (hs : past.hub.subscription? s = some sub) :
    sub.buffer = Buffer.collapse sub.config.capacity
      (Buffer.groups sub.config.coalesceRepeats (past.posted s)) := by
  rw [past.buffer_eq_foldl hs]
  exact Buffer.foldl_post_nil sub.config fun e he => wellFormed_of_mem_posted he

/-- A subscription is configured as its service is. -/
theorem config_eq (past : History R C) {s : SubscriptionRef} {sub : Subscription R C}
    {k : ServiceRef} {v : NotificationService} (hs : past.hub.subscription? s = some sub)
    (howner : sub.owner = some k) (hv : past.hub.service? k = some v) :
    sub.config = v.config := by
  induction past generalizing sub v with
  | nil => simp [hub] at hs
  | cons a past ih =>
    rcases service?_apply hv with ⟨w, hw, hchange⟩ | ⟨hnew, -⟩
    · have hconfig : v.config = w.config := by cases hchange <;> rfl
      rw [hconfig]
      rcases subscription?_of_apply hs with ⟨before, hbefore, hc⟩ | ⟨-, hfresh⟩
      · rw [hc.config_eq]
        exact ih hbefore (hc.owner_eq ▸ howner) hw
      · exact hfresh.config_eq k w howner hw
    · -- The service is new, so it cannot have a subscription.
      rcases subscription?_of_apply hs with ⟨before, hbefore, hc⟩ | ⟨-, hfresh⟩
      · have howner' : before.owner = some k := hc.owner_eq ▸ howner
        have hlt := (queueSound past).lt_size_of_owner hbefore howner'
        exact absurd hnew (Nat.ne_of_lt hlt)
      · obtain ⟨w, hw, -⟩ := Hub.service?_of_isOpen (hfresh.registers_of_owner k howner).2
        exact absurd hnew (Nat.ne_of_lt (Hub.lt_size_of_service? hw))

/-- What a drain returns, in closed form. In every run, a drain returns what the buffer of the
subscription holds, and that is the groups of the events posted since the last drain, collapsed to
the capacity; and the subscription is configured as its service is. -/
theorem drain_eq_collapse (past : History R C) {s : SubscriptionRef} {sub : Subscription R C}
    (hs : past.hub.subscription? s = some sub) :
    (past.hub.drain s).value =
        Buffer.collapse sub.config.capacity
          (Buffer.groups sub.config.coalesceRepeats (past.posted s)) ∧
      sub.buffer =
        Buffer.collapse sub.config.capacity
          (Buffer.groups sub.config.coalesceRepeats (past.posted s)) ∧
      ∀ k v, sub.owner = some k → past.hub.service? k = some v → sub.config = v.config := by
  have hbuffer := past.buffer_eq_collapse hs
  exact ⟨(Hub.drain_value hs).trans hbuffer, hbuffer, fun k v => past.config_eq hs⟩

/-- Capacity one: a modification that is repeated after a signal is one group, and two more changes,
one of them posted after a retrieval, are counted by an overflow event. -/
theorem drain_eq_collapse_of_overflow :
    let past : History Nat Nat :=
      [.reset 0, .post 0 (.once .delete 9), .poll 0, .offer 0 (.once .create 8),
        .post 0 (.once .modify 7), .signal 0, .post 0 (.once .modify 7),
        .register 0 10 [.modify, .create],
        .withConfig { capacity := 1, coalesceRepeats := true }]
    (past.hub.drain 0).value = [⟨.modify, 2, some 7⟩, ⟨.overflow, 2, none⟩] := by
  intro past
  obtain ⟨sub, hs, hconfig⟩ : ∃ sub, past.hub.subscription? 0 = some sub ∧
      sub.config = { capacity := 1, coalesceRepeats := true } := ⟨_, rfl, rfl⟩
  rw [(drain_eq_collapse past hs).1, hconfig]
  rfl

end History

end PathWatch
