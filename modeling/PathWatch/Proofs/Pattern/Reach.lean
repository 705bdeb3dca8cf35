import Mathlib
import PathWatch.Pattern.Positions
/-!
# Sets of positions find what an expression matches

Following an expression from a set of positions leads to those positions at which a piece ends that
the expression matches and that starts in the set. Every operation on sets follows a relation
between positions, and the relations of the operations are put together as the expression is.
-/

namespace PathWatch.Pattern

/-! ## Relations between positions -/

/-- `n` steps of a relation between positions. -/
def Steps (p : Nat → Nat → Prop) : Nat → Nat → Nat → Prop
  | 0, i, j => i = j
  | n + 1, i, j => ∃ m, p i m ∧ Steps p n m j

/-- Any number of steps can be parted after any of them. -/
theorem steps_add {p : Nat → Nat → Prop} {a b i j : Nat} :
    Steps p (a + b) i j ↔ ∃ m, Steps p a i m ∧ Steps p b m j := by
  induction a generalizing i with
  | zero => simp [Steps]
  | succ a ih =>
    rw [Nat.succ_add]
    simp only [Steps, ih]
    constructor
    · rintro ⟨k, hk, m, hm, hj⟩
      exact ⟨m, ⟨k, hk, hm⟩, hj⟩
    · rintro ⟨m, ⟨k, hk, hm⟩, hj⟩
      exact ⟨k, hk, m, hm, hj⟩

/-- A property that a step keeps is kept by any number of them. -/
theorem Steps.keeps {p : Nat → Nat → Prop} {q : Nat → Prop} (hp : ∀ i j, q i → p i j → q j)
    {n i j : Nat} (hsteps : Steps p n i j) (hi : q i) : q j := by
  induction n generalizing i with
  | zero => exact hsteps ▸ hi
  | succ n ih =>
    obtain ⟨m, hm, hj⟩ := hsteps
    exact ih hj (hp i m hi hm)

namespace Positions

/-- The set has positions up to `n` only. -/
def Within (n : Nat) (s : Positions) : Prop :=
  ∀ i, s.testBit i = true → i ≤ n

/-- A step leads from every set to the positions that a relation leads to, and the relation does not
lead beyond `n`. -/
structure Follows (n : Nat) (step : Positions → Positions) (p : Nat → Nat → Prop) : Prop where
  testBit_iff : ∀ s, Within n s → ∀ j,
    (step s).testBit j = true ↔ ∃ i, s.testBit i = true ∧ p i j
  le : ∀ i j, i ≤ n → p i j → j ≤ n

section Follows

variable {n : Nat} {step : Positions → Positions} {p : Nat → Nat → Prop}

/-- A step that follows a relation does not lead behind the end. -/
theorem Follows.within (hstep : Follows n step p) {s : Positions} (hs : Within n s) :
    Within n (step s) := by
  intro j hj
  obtain ⟨i, hi, hp⟩ := (hstep.testBit_iff s hs j).mp hj
  exact hstep.le i j (hs i hi) hp

/-- Nor do many steps. -/
theorem Follows.steps_le (hstep : Follows n step p) {m i j : Nat} (hi : i ≤ n)
    (hsteps : Steps p m i j) : j ≤ n :=
  hsteps.keeps hstep.le hi

/-! ## Repetitions of a step -/

/-- Where one step changes nothing, no number of them does. -/
theorem power_of_fixed {s : Positions} (hs : step s = s) (m : Nat) : power step m s = s := by
  cases m with
  | zero => rfl
  | succ m => rw [power, if_pos hs]

/-- The first step taken apart from the others. -/
theorem power_succ (m : Nat) (s : Positions) : power step (m + 1) s = power step m (step s) := by
  rw [power]
  split
  · rename_i hs
    rw [hs, power_of_fixed hs]
  · rfl

/-- Applied a number of times, a step follows that number of steps of the relation. -/
theorem Follows.power (hstep : Follows n step p) (m : Nat) :
    Follows n (power step m) (Steps p m) where
  testBit_iff := by
    induction m with
    | zero => simp [Positions.power, Steps]
    | succ m ih =>
      intro s hs j
      rw [power_succ, ih _ (hstep.within hs)]
      simp only [hstep.testBit_iff s hs, Steps]
      constructor
      · rintro ⟨k, ⟨i, hi, hk⟩, hj⟩
        exact ⟨i, hi, k, hk, hj⟩
      · rintro ⟨i, hi, k, hk, hj⟩
        exact ⟨k, ⟨i, hi, hk⟩, hj⟩
  le i j hi hsteps := hstep.steps_le hi hsteps

/-- No step at all, or one and at most as many as are left. -/
theorem atMost_succ (m : Nat) (s : Positions) :
    atMost step (m + 1) s = s ||| atMost step m (step s) := by
  have of_fixed : ∀ m, step s = s → atMost step m s = s := by
    intro m hs
    cases m with
    | zero => rfl
    | succ m => rw [atMost, if_pos hs]
  rw [atMost]
  split
  · rename_i hs
    rw [hs, of_fixed m hs, Nat.or_self]
  · rfl

/-- Up to a number of times, it follows any lower number of steps. -/
theorem Follows.atMost (hstep : Follows n step p) (m : Nat) :
    Follows n (atMost step m) fun i j => ∃ l ≤ m, Steps p l i j where
  testBit_iff := by
    induction m with
    | zero => simp [Positions.atMost, Steps]
    | succ m ih =>
      intro s hs j
      rw [atMost_succ, Nat.testBit_or, Bool.or_eq_true, ih _ (hstep.within hs)]
      simp only [hstep.testBit_iff s hs]
      constructor
      · rintro (hj | ⟨k, ⟨i, hi, hk⟩, l, hl, hj⟩)
        · exact ⟨j, hj, 0, Nat.zero_le _, rfl⟩
        · exact ⟨i, hi, l + 1, Nat.succ_le_succ hl, k, hk, hj⟩
      · rintro ⟨i, hi, l, hl, hj⟩
        cases l with
        | zero => exact Or.inl (hj ▸ hi)
        | succ l =>
          obtain ⟨k, hk, hj⟩ := hj
          exact Or.inr ⟨k, ⟨i, hi, hk⟩, l, Nat.le_of_succ_le_succ hl, hj⟩
  le i j hi := fun ⟨_, _, hsteps⟩ => hstep.steps_le hi hsteps

/-- The number of positions of a set that are no greater than `n`. -/
def count (n : Nat) (s : Positions) : Nat :=
  ((Finset.range (n + 1)).filter fun i => s.testBit i = true).card

/-- A set with `n + 1` positions up to `n` has all of them. -/
theorem testBit_of_count {s : Positions} (hs : n + 1 ≤ count n s) {j : Nat} (hj : j ≤ n) :
    s.testBit j = true := by
  have hall : (Finset.range (n + 1)).filter (fun i => s.testBit i = true) = Finset.range (n + 1) :=
    Finset.eq_of_subset_of_card_le (Finset.filter_subset _ _) (by simpa [count] using hs)
  have hmem : j ∈ Finset.range (n + 1) := Finset.mem_range.mpr (by omega)
  rw [← hall] at hmem
  exact (Finset.mem_filter.mp hmem).2

/-- A set that grows has more positions. -/
theorem count_lt_count_or {s t : Positions} (hs : Within n (s ||| t)) (hne : s ||| t ≠ s) :
    count n s < count n (s ||| t) := by
  obtain ⟨i, hi⟩ : ∃ i, (s ||| t).testBit i ≠ s.testBit i := by
    by_contra hsame
    push Not at hsame
    exact hne (Nat.eq_of_testBit_eq hsame)
  have hbits : (s ||| t).testBit i = true ∧ s.testBit i = false := by
    rw [Nat.testBit_or] at hi ⊢
    rcases hsi : s.testBit i with _ | _ <;> simp [hsi] at hi ⊢
    exact hi
  refine Finset.card_lt_card (Finset.ssubset_iff_of_subset ?_ |>.mpr ⟨i, ?_, ?_⟩)
  · refine Finset.monotone_filter_right _ fun j _ hj => ?_
    rw [Nat.testBit_or, hj, Bool.true_or]
  · exact Finset.mem_filter.mpr ⟨Finset.mem_range.mpr (Nat.lt_succ_of_le (hs i hbits.1)), hbits.1⟩
  · simp [hbits.2]

/-- A step that is applied as often as there are positions leads to no new position any more. -/
theorem Follows.testBit_closure (hstep : Follows n step p) {fuel : Nat} {s : Positions}
    (hs : Within n s) (hfuel : n + 1 ≤ fuel + count n s) (j : Nat) :
    (closure step fuel s).testBit j = true ↔ ∃ i, s.testBit i = true ∧ ∃ m, Steps p m i j := by
  induction fuel generalizing s with
  | zero =>
    -- No round is left, but the set has grown in every round so far and holds every position.
    rw [closure]
    constructor
    · exact fun hj => ⟨j, hj, 0, rfl⟩
    · rintro ⟨i, hi, m, hsteps⟩
      exact testBit_of_count (by omega) (hstep.steps_le (hs i hi) hsteps)
  | succ fuel ih =>
    have hor : ∀ i, (s ||| step s).testBit i = true ↔
        s.testBit i = true ∨ ∃ k, s.testBit k = true ∧ p k i := by
      intro i
      rw [Nat.testBit_or, Bool.or_eq_true, hstep.testBit_iff s hs]
    rw [closure]
    split
    · -- The set is closed, so no number of steps leads out of it.
      rename_i hclosed
      rw [hclosed] at hor
      constructor
      · exact fun hj => ⟨j, hj, 0, rfl⟩
      · rintro ⟨i, hi, m, hsteps⟩
        exact hsteps.keeps (fun k l hk hl => (hor l).mpr (Or.inr ⟨k, hk, hl⟩)) hi
    · rename_i hgrows
      have hwithin : Within n (s ||| step s) := by
        intro i hi
        rw [Nat.testBit_or, Bool.or_eq_true] at hi
        exact hi.elim (hs i) (hstep.within hs i)
      have hmore := count_lt_count_or hwithin hgrows
      rw [ih hwithin (by omega)]
      constructor
      · rintro ⟨i, hi, m, hsteps⟩
        rcases (hor i).mp hi with hi | ⟨k, hk, hki⟩
        · exact ⟨i, hi, m, hsteps⟩
        · exact ⟨k, hk, m + 1, i, hki, hsteps⟩
      · rintro ⟨i, hi, m, hsteps⟩
        exact ⟨i, (hor i).mpr (Or.inl hi), m, hsteps⟩

/-- With as many rounds as there are positions, it follows any number of steps. -/
theorem Follows.closure (hstep : Follows n step p) :
    Follows n (closure step (n + 1)) fun i j => ∃ m, Steps p m i j where
  testBit_iff _ hs j := hstep.testBit_closure hs (Nat.le_add_right _ _) j
  le _ _ hi := fun ⟨_, hsteps⟩ => hstep.steps_le hi hsteps

/-! ## Combinations of steps -/

/-- To stay is to follow equality. -/
theorem Follows.id : Follows n (fun s => s) fun i j => i ≤ n ∧ i = j where
  testBit_iff s hs j := by
    constructor
    · exact fun hj => ⟨j, hj, hs j hj, rfl⟩
    · rintro ⟨i, hi, -, rfl⟩
      exact hi
  le i j hi := fun ⟨_, hij⟩ => hij ▸ hi

variable {step' : Positions → Positions} {p' q : Nat → Nat → Prop}

theorem Follows.congr (hstep : Follows n step p) (hpq : ∀ i j, i ≤ n → (p i j ↔ q i j)) :
    Follows n step q where
  testBit_iff s hs j := by
    rw [hstep.testBit_iff s hs]
    exact exists_congr fun i => and_congr_right fun hi => hpq i j (hs i hi)
  le i j hi hq := hstep.le i j hi ((hpq i j hi).mpr hq)

/-- One step after another follows the composition of their relations. -/
theorem Follows.comp (hstep : Follows n step p) (hstep' : Follows n step' p') :
    Follows n (fun s => step' (step s)) fun i j => ∃ m, p i m ∧ p' m j where
  testBit_iff s hs j := by
    rw [hstep'.testBit_iff _ (hstep.within hs)]
    simp only [hstep.testBit_iff s hs]
    constructor
    · rintro ⟨m, ⟨i, hi, hm⟩, hj⟩
      exact ⟨i, hi, m, hm, hj⟩
    · rintro ⟨i, hi, m, hm, hj⟩
      exact ⟨m, ⟨i, hi, hm⟩, hj⟩
  le i j hi := fun ⟨m, hm, hj⟩ => hstep'.le m j (hstep.le i m hi hm) hj

/-- Two steps at once follow either of their relations. -/
theorem Follows.or (hstep : Follows n step p) (hstep' : Follows n step' p') :
    Follows n (fun s => step s ||| step' s) fun i j => p i j ∨ p' i j where
  testBit_iff s hs j := by
    rw [Nat.testBit_or, Bool.or_eq_true, hstep.testBit_iff s hs, hstep'.testBit_iff s hs]
    simp only [and_or_left, exists_or]
  le i j hi := fun hj => hj.elim (hstep.le i j hi) (hstep'.le i j hi)

/-- From no position nothing can be reached, so that need not be computed. -/
theorem Follows.guarded (hstep : Follows n step p) :
    Follows n (fun s => if s = 0 then 0 else step s) p where
  testBit_iff s hs j := by
    rcases eq_or_ne s 0 with rfl | hne
    · simp
    · rw [if_neg hne, hstep.testBit_iff s hs]
  le := hstep.le

/-- What leads nowhere. -/
theorem Follows.none : Follows n (fun _ => 0) fun _ _ => False where
  testBit_iff := by simp
  le := by simp

end Follows

end Positions

end PathWatch.Pattern
