import Mathlib
import PathWatch.Proofs.Regex.Items
/-!
# How far classes are read

A step of the reader of a class may look into a text behind. But a class has to end, and where the
text behind has no closing bracket, it can only do so before that text. Then no step up to the
end has looked further.
-/

namespace PathWatch.Regex

variable {verbose : Bool} {c : Char} {s u r : List Char}

/-! ## Openings of classes -/

namespace ClassLevel

/-- What opens a class leaves an end of the text. -/
theorem openBehind_suffix {negated : Bool} {hyphens : List ClassSet} {l : ClassLevel}
    (h : openBehind verbose negated hyphens s = .ok (l, r)) : r <:+ s := by
  rw [openBehind.eq_def] at h
  split at h
  · cases h
  · next d rest =>
    split_ifs at h
    · split at h
      · cases h
      · cases h
        exact (skip_suffix verbose rest).trans (List.suffix_cons d rest)
    · cases h
      exact List.suffix_refl _

/-- A closing bracket that comes first in a class stands for itself; whether it is first is seen
without the text behind, unless the text ends there. -/
theorem openBehind_append (negated : Bool) (hyphens : List ClassSet) (s : List Char) (c : Char)
    (u : List Char) :
    Reaches (c :: u) (openBehind verbose negated hyphens (s ++ c :: u))
      (openBehind verbose negated hyphens s) := by
  intro l r h
  rcases s with _ | ⟨d, s⟩
  · exact Or.inr (openBehind_suffix h)
  · rw [List.cons_append, openBehind] at h
    rw [openBehind]
    split_ifs at h ⊢
    · rcases skip_append verbose s c u with hsame | hrest
      · rw [hsame] at h
        cases hskip : skip verbose s with
        | nil =>
          rw [hskip] at h
          cases h
          exact Or.inr (List.suffix_refl _)
        | cons e w =>
          rw [hskip] at h
          cases h
          exact Or.inl ⟨e :: w, rfl, rfl⟩
      · split at h
        · cases h
        · cases h
          exact Or.inr (hrest.trans (List.suffix_cons c u))
    · cases h
      exact Or.inl ⟨d :: s, rfl, rfl⟩

theorem openAt_suffix {negated : Bool} {l : ClassLevel}
    (h : openAt verbose negated s = .ok (l, r)) : r <:+ s :=
  (openBehind_suffix h).trans (takeSigns_suffix verbose _ false s)

/-- The hyphens at the beginning of a class stand for themselves, and the text behind may bring more
of them. -/
theorem openAt_append (negated : Bool) (s : List Char) (c : Char) (u : List Char) :
    Reaches (c :: u) (openAt verbose negated (s ++ c :: u)) (openAt verbose negated s) := by
  intro l r h
  rw [openAt] at h ⊢
  rcases takeSigns_append verbose (· = '-') false s c u with hsame | hrest
  · rw [hsame] at h
    exact openBehind_append negated _ _ c u l r h
  · exact Or.inr (((openBehind_suffix h).trans hrest).trans (List.suffix_cons c u))

/-- Without a caret a class is not negated. -/
theorem openedAt_of_ne (hs : ∀ t, s ≠ '^' :: t) : openedAt verbose s = openAt verbose false s := by
  rw [openedAt]
  exact hs

theorem openedAt_suffix {l : ClassLevel} (h : openedAt verbose s = .ok (l, r)) : r <:+ s := by
  by_cases hcaret : ∃ t, s = '^' :: t
  · obtain ⟨t, rfl⟩ := hcaret
    exact ((openAt_suffix h).trans (skip_suffix verbose t)).trans (List.suffix_cons _ t)
  · rw [openedAt_of_ne fun t ht => hcaret ⟨t, ht⟩] at h
    exact openAt_suffix h

/-- The opening of a class, behind blanks, is read as it is without the text behind, unless it
reaches into that text. -/
theorem openedAt_append (s : List Char) (c : Char) (u : List Char) :
    Reaches (c :: u) (openedAt verbose (s ++ c :: u)) (openedAt verbose s) := by
  intro l r h
  rcases s with _ | ⟨d, s⟩
  · exact Or.inr (openedAt_suffix h)
  · by_cases hcaret : d = '^'
    · subst hcaret
      exact Reaches.skip (openAt_append true · c u) (fun _ _ _ => openAt_suffix) s l r h
    · rw [List.cons_append, openedAt_of_ne (cons_ne_cons_of_ne hcaret _)] at h
      rw [openedAt_of_ne (cons_ne_cons_of_ne hcaret _)]
      exact openAt_append false (d :: s) c u l r h

theorem opened_suffix {l : ClassLevel} (h : opened verbose s = .ok (l, r)) : r <:+ s :=
  (openedAt_suffix h).trans (skip_suffix verbose s)

/-- A whole opening may reach into the text behind, but then it leaves no more than that text. -/
theorem opened_append (s : List Char) (c : Char) (u : List Char) :
    Reaches (c :: u) (opened verbose (s ++ c :: u)) (opened verbose s) :=
  Reaches.skip (openedAt_append · c u) (fun _ _ _ => openedAt_suffix) s

/-! ## Parts of a step -/

/-- An operation takes its two signs. -/
theorem readOperation?_suffix {op : SetOperation} (h : readOperation? s = some (op, r)) :
    r <:+ s.tail := by
  rw [readOperation?.eq_def] at h
  split at h
  · split_ifs at h
    obtain ⟨_, -, ⟨⟩⟩ := Option.map_eq_some_iff.mp h
    exact List.suffix_cons _ _
  · cases h

/-- Two signs are enough to see an operation. -/
theorem readOperation?_append (d e : Char) (s t : List Char) :
    readOperation? (d :: e :: (s ++ t)) =
      (readOperation? (d :: e :: s)).map fun (op, r) => (op, r ++ t) := by
  rw [readOperation?, readOperation?]
  split_ifs
  · rw [Option.map_map]
    rfl
  · rfl

/-- An operation, an item or a range takes at least one character. -/
theorem extend_suffix {l l' : ClassLevel} (h : extend verbose l s = .ok (l', r)) :
    r <:+ s.tail := by
  rw [extend] at h
  split at h
  · next hop =>
    cases h
    exact readOperation?_suffix hop
  · obtain ⟨_, hrange, ⟨⟩⟩ := map_eq_ok.mp h
    exact readRange_suffix hrange

/-- A class is extended by the same operation, item or range as without an inert text behind, unless
it takes from that text. -/
theorem extend_append (hc : Inert c) (l : ClassLevel) (s u : List Char) :
    Reaches (c :: u) (extend verbose l (s ++ c :: u)) (extend verbose l s) := by
  intro l' r h
  rcases s with _ | ⟨d, _ | ⟨e, s⟩⟩
  · exact Or.inr ((extend_suffix h).trans (List.tail_suffix _))
  · exact Or.inr (extend_suffix h)
  · rw [extend, List.cons_append, List.cons_append, readOperation?_append] at h
    rw [extend]
    cases hop : readOperation? (d :: e :: s) with
    | some p =>
      rw [hop] at h
      cases h
      exact Or.inl ⟨p.2, rfl, rfl⟩
    | none =>
      rw [hop] at h
      obtain ⟨⟨item, _⟩, hrange, ⟨⟩⟩ := map_eq_ok.mp h
      refine (readRange_append hc (d :: e :: s) u item r hrange).imp_left ?_
      rintro ⟨r₀, hr, hpart⟩
      exact ⟨r₀, hr, by rw [hpart]; rfl⟩

theorem enter_suffix {l : ClassLevel} {around : List ClassLevel} {turn : Turn}
    (h : enter verbose l around s = .ok (turn, r)) : r <:+ s := by
  rw [enter] at h
  split at h
  · next hset =>
    cases h
    exact readAsciiSet?_suffix hset
  · obtain ⟨_, hopened, ⟨⟩⟩ := map_eq_ok.mp h
    exact opened_suffix hopened

/-- An opening bracket does not end a class. -/
theorem enter_ne_ended {l l' : ClassLevel} {around : List ClassLevel} :
    enter verbose l around s ≠ .ok (.ended l', r) := by
  intro h
  rw [enter] at h
  split at h
  · cases h
  · obtain ⟨_, -, ⟨⟩⟩ := map_eq_ok.mp h

/-- Behind an opening bracket there is a set with a name or an inner class, and which of them does
not depend on a text behind that has no colon. -/
theorem enter_append (hbracket : c ≠ ']') (hcolon : ':' ∉ c :: u) (l : ClassLevel)
    (around : List ClassLevel) (s : List Char) :
    Reaches (c :: u) (enter verbose l around (s ++ c :: u)) (enter verbose l around s) := by
  intro turn r h
  rw [enter, readAsciiSet?_append hbracket hcolon] at h
  rw [enter]
  cases hset : readAsciiSet? s with
  | some p =>
    rw [hset] at h
    cases h
    exact Or.inl ⟨p.2, rfl, rfl⟩
  | none =>
    rw [hset] at h
    obtain ⟨⟨inner, _⟩, hopened, ⟨⟩⟩ := map_eq_ok.mp h
    refine (opened_append s c u inner r hopened).imp_left ?_
    rintro ⟨r₀, hr, hpart⟩
    exact ⟨r₀, hr, by rw [hpart]; rfl⟩

/-! ## Steps and runs -/

/-- A sign that is no bracket extends the class. -/
theorem stepAt_of_ne {l : ClassLevel} {around : List ClassLevel} {d : Char} (hopen : d ≠ '[')
    (hclose : d ≠ ']') (s : List Char) :
    stepAt verbose l around (d :: s) =
      (extend verbose l (d :: s)).map fun (l, s) => (.inside l around, s) := by
  rw [stepAt]
  · rintro ⟨⟩
  · exact cons_ne_cons_of_ne hopen _
  · exact cons_ne_cons_of_ne hclose _

/-- A step takes the sign it begins with. -/
theorem stepAt_suffix {l : ClassLevel} {around : List ClassLevel} {turn : Turn}
    (h : stepAt verbose l around s = .ok (turn, r)) : r <:+ s.tail := by
  rcases s with _ | ⟨d, s⟩
  · cases h
  · by_cases hopen : d = '['
    · subst hopen
      exact enter_suffix h
    by_cases hclose : d = ']'
    · subst hclose
      cases h
      exact List.suffix_refl _
    rw [stepAt_of_ne hopen hclose] at h
    obtain ⟨_, hextend, ⟨⟩⟩ := map_eq_ok.mp h
    exact extend_suffix hextend

/-- A step is the same with an inert text without colons behind, unless it reaches into it. -/
theorem stepAt_append (hc : Inert c) (hcolon : ':' ∉ c :: u) (l : ClassLevel)
    (around : List ClassLevel) (s : List Char) :
    Reaches (c :: u) (stepAt verbose l around (s ++ c :: u)) (stepAt verbose l around s) := by
  intro turn r h
  rcases s with _ | ⟨d, s⟩
  · exact Or.inr ((stepAt_suffix h).trans (List.tail_suffix _))
  · by_cases hopen : d = '['
    · subst hopen
      exact enter_append hc.notBracket hcolon l around s turn r h
    by_cases hclose : d = ']'
    · subst hclose
      cases h
      exact Or.inl ⟨s, rfl, rfl⟩
    rw [List.cons_append, stepAt_of_ne hopen hclose] at h
    obtain ⟨⟨l', _⟩, hextend, ⟨⟩⟩ := map_eq_ok.mp h
    refine (extend_append hc l (d :: s) u l' r hextend).imp_left ?_
    rintro ⟨r₀, hr, hpart⟩
    exact ⟨r₀, hr, by rw [stepAt_of_ne hopen hclose, hpart]; rfl⟩

/-- So is a step with blanks in front of it. -/
theorem step_append (hc : Inert c) (hcolon : ':' ∉ c :: u) (l : ClassLevel)
    (around : List ClassLevel) (s : List Char) :
    Reaches (c :: u) (step verbose l around (s ++ c :: u)) (step verbose l around s) :=
  Reaches.skip (stepAt_append hc hcolon l around)
    (fun s _ _ h => (stepAt_suffix h).trans (List.tail_suffix s)) s

theorem step_suffix {l : ClassLevel} {around : List ClassLevel} {turn : Turn}
    (h : step verbose l around s = .ok (turn, r)) : r <:+ s :=
  ((stepAt_suffix h).trans (List.tail_suffix _)).trans (skip_suffix verbose s)

/-- A step takes at least one character. -/
theorem step_length {l : ClassLevel} {around : List ClassLevel} {turn : Turn}
    (h : step verbose l around s = .ok (turn, r)) : r.length < s.length := by
  have htail := (stepAt_suffix h).length_le
  have hskip := (skip_suffix verbose s).length_le
  have hne : skip verbose s ≠ [] := by
    intro hnil
    rw [step, hnil] at h
    cases h
  have := List.length_pos_iff.mpr hne
  rw [List.length_tail] at htail
  omega

/-- Only a closing bracket ends a class, and only if there is no class around it. -/
theorem stepAt_ended {l l' : ClassLevel} {around : List ClassLevel}
    (h : stepAt verbose l around s = .ok (.ended l', r)) :
    s = ']' :: r ∧ around = [] ∧ l = l' := by
  rcases s with _ | ⟨d, s⟩
  · cases h
  · by_cases hopen : d = '['
    · subst hopen
      exact absurd h enter_ne_ended
    by_cases hclose : d = ']'
    · subst hclose
      cases around with
      | nil =>
        cases h
        exact ⟨rfl, rfl, rfl⟩
      | cons outer around => cases h
    rw [stepAt_of_ne hopen hclose] at h
    obtain ⟨_, -, ⟨⟩⟩ := map_eq_ok.mp h

/-- A class that is inside of no other one ends at a closing bracket. -/
theorem step_ended {l l' : ClassLevel} {around : List ClassLevel} :
    step verbose l around s = .ok (.ended l', r) ↔
      skip verbose s = ']' :: r ∧ around = [] ∧ l = l' := by
  refine ⟨stepAt_ended, ?_⟩
  rintro ⟨hskip, rfl, rfl⟩
  rw [step, hskip]
  rfl

/-- A class does not end in a text that has no closing bracket. -/
theorem step_ended_append {l l' : ClassLevel} {around : List ClassLevel} {r' : List Char}
    (hbracket : ']' ∉ c :: u)
    (h : step verbose l around (s ++ c :: u) = .ok (.ended l', r')) :
    ∃ r, r' = r ++ c :: u ∧ step verbose l around s = .ok (.ended l', r) := by
  obtain ⟨hskip, haround, hl⟩ := step_ended.mp h
  rcases skip_append verbose s c u with hsame | hrest
  · rw [hsame] at hskip
    cases hs : skip verbose s with
    | nil =>
      rw [hs, List.nil_append] at hskip
      exact absurd (hskip ▸ List.mem_cons_self) hbracket
    | cons d r =>
      rw [hs, List.cons_append] at hskip
      obtain ⟨rfl, hr⟩ := List.cons.inj hskip
      exact ⟨r, hr.symm, step_ended.mpr ⟨hs, haround, hl⟩⟩
  · rw [hskip] at hrest
    exact absurd (List.mem_cons_of_mem c (hrest.subset List.mem_cons_self)) hbracket

/-- A class that ends has a closing bracket in its text. -/
theorem mem_of_run {l l' : ClassLevel} {around : List ClassLevel} {n : Nat}
    (h : run verbose l around n s = .ok (l', r)) : ']' ∈ s := by
  induction n generalizing l around s with
  | zero => cases h
  | succ n ih =>
    rw [run] at h
    split at h
    · cases h
    · next hstep =>
      cases h
      rw [step_ended] at hstep
      exact (skip_suffix verbose s).subset (hstep.1 ▸ List.mem_cons_self)
    · next hstep => exact (step_suffix hstep).subset (ih h)

/-- A class leaves an end of the text. -/
theorem run_suffix {l l' : ClassLevel} {around : List ClassLevel} {n : Nat}
    (h : run verbose l around n s = .ok (l', r)) : r <:+ s := by
  induction n generalizing l around s with
  | zero => cases h
  | succ n ih =>
    rw [run] at h
    split at h
    · cases h
    · next hstep =>
      cases h
      exact step_suffix hstep
    · next hstep => exact (ih h).trans (step_suffix hstep)

/-- With a text behind that has no closing bracket, a class is read as it is without that text. The
bounds of both runs do not matter, as long as they suffice. -/
theorem run_append (hc : Inert c) (hcolon : ':' ∉ c :: u) (hbracket : ']' ∉ c :: u)
    {l l' : ClassLevel} {around : List ClassLevel} {n m : Nat} {r' : List Char}
    (hm : s.length < m) (h : run verbose l around n (s ++ c :: u) = .ok (l', r')) :
    ∃ r, r' = r ++ c :: u ∧ run verbose l around m s = .ok (l', r) := by
  induction n generalizing l around s m with
  | zero => cases h
  | succ n ih =>
    obtain ⟨m, rfl⟩ := Nat.exists_eq_add_one_of_ne_zero (Nat.ne_zero_of_lt hm)
    rw [run] at h
    split at h
    · cases h
    · next hstep =>
      cases h
      obtain ⟨r, hr, hpart⟩ := step_ended_append hbracket hstep
      exact ⟨r, hr, by rw [run, hpart]⟩
    · next hstep =>
      rcases step_append hc hcolon l around s _ _ hstep with ⟨r₀, rfl, hpart⟩ | hrest
      · obtain ⟨r, hr, hrun⟩ := ih (m := m) (by have := step_length hpart; omega) h
        exact ⟨r, hr, by rw [run, hpart]; exact hrun⟩
      · -- the step has left nothing but text without a closing bracket
        exact absurd (hrest.subset (mem_of_run h)) hbracket

end ClassLevel

/-! ## Classes -/

/-- A class is read by its opening and a run up to its end. -/
theorem readClass_ok {node : Node} :
    readClass verbose s = .ok (node, r) ↔
      ∃ l rest l', ClassLevel.opened verbose s = .ok (l, rest) ∧
        l.run verbose [] (s.length + 1) rest = .ok (l', r) ∧
        node = .bracketed l'.negated l'.set := by
  rw [readClass]
  rcases ClassLevel.opened verbose s with e | ⟨l, rest⟩
  · simp
  · dsimp only
    rcases hrun : l.run verbose [] (s.length + 1) rest with e | ⟨l', r'⟩
    · simp [hrun]
    · constructor
      · rintro ⟨⟩
        exact ⟨l, rest, l', rfl, hrun, rfl⟩
      · rintro ⟨_, _, _, ⟨⟩, hrun', rfl⟩
        rw [hrun] at hrun'
        cases hrun'
        rfl

theorem readClass_suffix {node : Node} (h : readClass verbose s = .ok (node, r)) : r <:+ s := by
  obtain ⟨l, rest, l', hopened, hrun, -⟩ := readClass_ok.mp h
  exact (ClassLevel.run_suffix hrun).trans (ClassLevel.opened_suffix hopened)

/-- With a text behind that could not be a part of it, a class is read as it is without. -/
theorem readClass_append (hc : Inert c) (hcolon : ':' ∉ c :: u) (hbracket : ']' ∉ c :: u)
    {node : Node} (h : readClass verbose (s ++ c :: u) = .ok (node, r)) :
    ∃ r₀, r = r₀ ++ c :: u ∧ readClass verbose s = .ok (node, r₀) := by
  obtain ⟨l, rest, l', hopened, hrun, hnode⟩ := readClass_ok.mp h
  rcases ClassLevel.opened_append s c u l rest hopened with ⟨rest₀, rfl, hpart⟩ | hrest
  · have hm : rest₀.length < s.length + 1 := by
      have := (ClassLevel.opened_suffix hpart).length_le
      omega
    obtain ⟨r₀, hr, hrun₀⟩ := ClassLevel.run_append hc hcolon hbracket hm hrun
    exact ⟨r₀, hr, readClass_ok.mpr ⟨l, rest₀, l', hpart, hrun₀, hnode⟩⟩
  · exact absurd (hrest.subset (ClassLevel.mem_of_run hrun)) hbracket

end PathWatch.Regex
