import Mathlib
import PathWatch.Proofs.Buffer.Drain
/-!
# What a buffer counts

An event that is posted adds its count to a buffer, wherever it goes: as an entry of its own, into
the last entry, or into an overflow event. Only a count that has reached its largest value loses
some. A buffer with room never makes an overflow event.
-/

namespace PathWatch

variable {R C : Type}

/-! ## Weights -/

namespace Buffer

/-- The occurrences that a buffer counts. -/
def weight (buffer : Buffer C) : Nat :=
  (buffer.map ChangeEvent.count).sum

@[simp] theorem weight_nil : weight ([] : Buffer C) = 0 := rfl

@[simp] theorem weight_cons (e : ChangeEvent C) (buffer : Buffer C) :
    weight (e :: buffer) = e.count + weight buffer := by
  simp [weight]

@[simp] theorem weight_append (l r : Buffer C) : weight (l ++ r) = weight l + weight r := by
  simp [weight]

/-- A buffer counts `n` more occurrences than before, or its last entry has grown to the largest
count on the way. -/
def Gains (before after : Buffer C) (n : Nat) : Prop :=
  after.weight = before.weight + n ∨
    ∃ init last, before = init ++ [last] ∧ after = init ++ [{ last with count := maxCount }] ∧
      maxCount < last.count + n

/-- What is counted into the last entry is gained. -/
theorem gains_countIntoLast {buffer : Buffer C} (hbuffer : buffer ≠ []) (n : Nat) :
    Gains buffer (buffer.countIntoLast n) n := by
  obtain ⟨init, last, rfl⟩ := (List.eq_nil_or_concat' buffer).resolve_left hbuffer
  rw [countIntoLast_snoc]
  rcases Nat.lt_or_ge maxCount (last.count + n) with hcapped | hfits
  · right
    have hfull : last.absorb n = { last with count := maxCount } := by
      rw [ChangeEvent.absorb, addCounts, Nat.min_eq_right hcapped.le]
    exact ⟨init, last, rfl, by rw [hfull], hcapped⟩
  · left
    have hsum : (last.absorb n).count = last.count + n := Nat.min_eq_left hfits
    simp only [weight_append, weight_cons, weight_nil, hsum]
    omega

/-- A new entry is gained. -/
theorem gains_append (buffer : Buffer C) {e : ChangeEvent C} {n : Nat} (he : e.count = n) :
    Gains buffer (buffer ++ [e]) n := by
  left
  rw [weight_append, weight_cons, weight_nil, he, Nat.add_zero]

/-- No entry grows too large as long as all occurrences together do not. -/
theorem Gains.weight_eq {before after : Buffer C} {n : Nat} (hgains : Gains before after n)
    (hfits : before.weight + n ≤ maxCount) : after.weight = before.weight + n := by
  rcases hgains with hsum | ⟨init, last, rfl, -, hcapped⟩
  · exact hsum
  · rw [weight_append, weight_cons] at hfits
    omega

variable [BEq C]

/-- There is nothing in an empty buffer that an event could be counted into. -/
theorem placement_nil (config : WatchConfig) (e : ChangeEvent C) :
    placement config [] e = if 0 < config.capacity then .appended else .overflowed := by
  simp [placement, repeatsLast]

/-- Every post gains the count of its event, whatever the buffer holds and wherever the event
goes. -/
theorem gains_post (config : WatchConfig) (buffer : Buffer C) {e : ChangeEvent C}
    (he : 1 ≤ e.count) : Gains buffer (buffer.post config e) e.count := by
  have hnonempty : buffer.placement config e = .coalesced ∨
      buffer.placement config e = .collapsed → buffer ≠ [] := by
    rintro hplace rfl
    rw [placement_nil] at hplace
    split at hplace <;> simp at hplace
  rw [post]
  rcases hplace : buffer.placement config e with _ | _ | _ | _
  · exact gains_countIntoLast (hnonempty (Or.inl hplace)) e.count
  · exact gains_append buffer rfl
  · exact gains_countIntoLast (hnonempty (Or.inr hplace)) e.count
  · exact gains_append buffer (max_eq_left he)

/-- Every event that is posted adds its count. -/
theorem weight_post (config : WatchConfig) {buffer : Buffer C} {e : ChangeEvent C}
    (he : 1 ≤ e.count) (hfits : buffer.weight + e.count ≤ maxCount) :
    (buffer.post config e).weight = buffer.weight + e.count :=
  (gains_post config buffer he).weight_eq hfits

/-- What is posted into an empty buffer weighs what the events count. -/
theorem weight_foldl_post (config : WatchConfig) {es : List (ChangeEvent C)}
    (hes : ∀ e ∈ es, 1 ≤ e.count) (hfits : weight es ≤ maxCount) :
    (es.foldl (post config) []).weight = weight es := by
  induction es using List.reverseRecOn with
  | nil => rfl
  | append_singleton es e ih =>
    rw [weight_append] at hfits
    have hbefore := ih (fun x hx => hes x (List.mem_append_left _ hx)) (by omega)
    have he : 1 ≤ e.count := hes e (by simp)
    have hroom : (es.foldl (post config) []).weight + e.count ≤ maxCount := by
      simp only [weight_cons, weight_nil] at hfits
      omega
    rw [List.foldl_append, List.foldl_cons, List.foldl_nil, weight_post config he hroom, hbefore,
      weight_append, weight_cons, weight_nil, Nat.add_zero]

/-! ## Entries -/

omit [BEq C] in
theorem mem_countIntoLast {buffer : Buffer C} {n : Nat} {x : ChangeEvent C}
    (hx : x ∈ buffer.countIntoLast n) : x ∈ buffer ∨ ∃ y ∈ buffer, x = y.absorb n := by
  induction buffer using List.reverseRecOn with
  | nil => simp at hx
  | append_singleton init last _ =>
    rw [countIntoLast_snoc] at hx
    rcases List.mem_append.mp hx with hinit | hlast
    · exact Or.inl (List.mem_append_left _ hinit)
    · exact Or.inr ⟨last, by simp, List.mem_singleton.mp hlast⟩

/-- What is in a buffer after a post: what was there, perhaps with more occurrences counted in, and
the event itself or, in a full buffer, an overflow event for it. -/
theorem mem_post {config : WatchConfig} {buffer : Buffer C} {e x : ChangeEvent C}
    (hx : x ∈ buffer.post config e) :
    x ∈ buffer ∨ (∃ y ∈ buffer, x = y.absorb e.count) ∨ x = e ∨
      (x = .marker e.count ∧ config.capacity ≤ buffer.length) := by
  rw [post] at hx
  rcases hplace : buffer.placement config e with _ | _ | _ | _ <;> rw [hplace] at hx
  · exact (mem_countIntoLast hx).imp_right Or.inl
  · rcases List.mem_append.mp hx with hbefore | hnew
    · exact Or.inl hbefore
    · exact Or.inr (Or.inr (Or.inl (List.mem_singleton.mp hnew)))
  · exact (mem_countIntoLast hx).imp_right Or.inl
  · rcases List.mem_append.mp hx with hbefore | hnew
    · exact Or.inl hbefore
    · refine Or.inr (Or.inr (Or.inr ⟨List.mem_singleton.mp hnew, ?_⟩))
      rw [placement] at hplace
      split_ifs at hplace with _ hroom
      exact Nat.not_lt.mp hroom

theorem length_post_le (config : WatchConfig) (buffer : Buffer C) (e : ChangeEvent C) :
    (buffer.post config e).length ≤ buffer.length + 1 := by
  rw [post]
  split <;> simp

/-- As long as there is room for all that is posted, no overflow event is made. -/
theorem isOverflow_foldl_post {config : WatchConfig} {es : List (ChangeEvent C)}
    (hes : ∀ e ∈ es, e.isOverflow = false) (hroom : es.length ≤ config.capacity) :
    (es.foldl (post config) []).length ≤ es.length ∧
      ∀ x ∈ es.foldl (post config) [], x.isOverflow = false := by
  induction es using List.reverseRecOn with
  | nil => simp
  | append_singleton es e ih =>
    rw [List.length_append, List.length_singleton] at hroom
    obtain ⟨hlength, hbefore⟩ := ih (fun x hx => hes x (List.mem_append_left _ hx)) (by omega)
    rw [List.foldl_append, List.length_append, List.length_singleton]
    refine ⟨(length_post_le config _ e).trans (by omega), fun x hx => ?_⟩
    rcases mem_post hx with hold | ⟨y, hy, rfl⟩ | rfl | ⟨-, hfull⟩
    · exact hbefore x hold
    · exact hbefore y hy
    · exact hes x (by simp)
    · omega

end Buffer

end PathWatch
