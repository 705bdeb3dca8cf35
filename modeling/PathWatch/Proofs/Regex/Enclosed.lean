import Mathlib
import PathWatch.Proofs.Regex.Classes
import PathWatch.Regex.Parser
/-!
# Reading inside of a group more

A regular expression that is put into a group is read as it is without that group, as long as it
does not close the group itself. At its end the reader is in no other group than that one; or the
group is never closed, since some part has taken the parenthesis that was to close it.
-/

namespace PathWatch.Regex.Reader

open Reading (Local)

variable {r r' : Reader} {f : Frame} {s u rest : List Char} {c d : Char}

/-- The reader as it is inside of a group more. -/
def within (r : Reader) (f : Frame) : Reader :=
  { r with frames := r.frames ++ [f] }

@[simp] theorem within_verbose (r : Reader) (f : Frame) : (r.within f).verbose = r.verbose := rfl

@[simp] theorem within_parts (r : Reader) (f : Frame) : (r.within f).parts = r.parts := rfl

/-- Inside of a group there is a group around. -/
theorem within_frames_ne_nil (r : Reader) (f : Frame) : (r.within f).frames ≠ [] :=
  List.append_ne_nil_of_right_ne_nil _ (List.cons_ne_nil f [])

/-! ## A group more -/

/-- What a parenthesis begins does not depend on the groups around. -/
theorem begin_within (r : Reader) (f : Frame) (o : Opening) :
    (r.within f).begin o = (r.begin o).map (within · f) := by
  cases o with
  | group change => rfl
  | named name =>
    rw [begin, begin]
    change (if r.names.contains name then _ else _) = _
    split_ifs <;> rfl
  | flags change => rfl

/-- A group is closed where it is the innermost, whatever is around it. -/
theorem closeGroup_within (f : Frame) (hr : r.frames ≠ []) :
    (r.within f).closeGroup = r.closeGroup.map (within · f) := by
  obtain ⟨g, frames, hframes⟩ := List.exists_cons_of_ne_nil hr
  rw [closeGroup, closeGroup, hframes, within, hframes]
  rfl

/-- What is repeated is in the innermost group. -/
theorem popOperand_within (r : Reader) (f : Frame) :
    (r.within f).popOperand = r.popOperand.map fun p => (p.1, p.2.within f) := by
  rw [popOperand, popOperand, within_parts]
  cases r.parts with
  | nil => rfl
  | cons node parts =>
    dsimp only
    split_ifs <;> rfl

/-- A sign of repetition does the same inside of a group more. -/
theorem repeatLast_within (r : Reader) (f : Frame) (least : Nat) (most : Option Nat)
    (s : List Char) :
    (r.within f).repeatLast least most s =
      (r.repeatLast least most s).map fun p => (p.1.within f, p.2) := by
  rw [repeatLast, repeatLast, popOperand_within]
  rcases r.popOperand with e | ⟨node, r₁⟩ <;> rfl

/-- To take away the last node does not change the mode. -/
theorem popOperand_verbose {node : Node} (h : r.popOperand = .ok (node, r')) :
    r'.verbose = r.verbose := by
  rw [popOperand] at h
  split at h
  · cases h
  · split_ifs at h
    cases h
    rfl

/-- Bounds in braces do the same inside of a group more. -/
theorem repeatBounded_within (r : Reader) (f : Frame) (s : List Char) :
    (r.within f).repeatBounded s = (r.repeatBounded s).map fun p => (p.1.within f, p.2) := by
  rw [repeatBounded, repeatBounded, popOperand_within]
  rcases r.popOperand with e | ⟨node, r₁⟩
  · rfl
  · simp only [Except.map, within_verbose]
    rcases readBounds r₁.verbose s with e | ⟨⟨least, most⟩, rest⟩ <;> rfl

/-- A step inside of a group more that does not close that group is the step without it. -/
theorem step_within (f : Frame) (s : List Char) (hclose : c = ')' → r.frames ≠ []) :
    (r.within f).step c s = (r.step c s).map fun p => (p.1.within f, p.2) := by
  rw [step.eq_def, step.eq_def]
  split
  · rw [within_verbose]
    rcases readOpening r.verbose s with e | ⟨o, rest⟩
    · rfl
    · dsimp only
      rw [begin_within]
      cases r.begin o <;> rfl
  · rw [closeGroup_within f (hclose rfl)]
    cases r.closeGroup <;> rfl
  · rfl
  · rw [within_verbose]
    rcases readClass r.verbose s with e | ⟨node, rest⟩ <;> rfl
  · exact repeatLast_within r f 0 (some 1) s
  · exact repeatLast_within r f 0 none s
  · exact repeatLast_within r f 1 none s
  · exact repeatBounded_within r f s
  · rw [within_verbose]
    rcases readEscape r.verbose s with e | ⟨p, rest⟩ <;> rfl
  all_goals rfl

/-! ## A text behind -/

/-- A sign of repetition looks at most at the mark behind it. -/
theorem local_repeatLast (r : Reader) (least : Nat) (most : Option Nat) :
    Local (r.repeatLast least most) := by
  have hread : ∀ s, r.repeatLast least most s = r.popOperand.bind fun p =>
      .ok (p.2.push (.repetition p.1 least most), dropLazyMark s) := by
    intro s
    rw [repeatLast]
    cases r.popOperand <;> rfl
  cases hpop : r.popOperand with
  | error e => exact (Local.error e).congr fun s => by rw [hread, hpop]; rfl
  | ok p => exact (local_dropLazyMark.map fun _ => _).congr fun s => by rw [hread, hpop]; rfl

/-- Bounds in braces look no further than their closing brace and the mark behind it. -/
theorem local_repeatBounded (r : Reader) : Local r.repeatBounded := by
  cases hpop : r.popOperand with
  | error e => exact (Local.error e).congr fun s => by rw [repeatBounded, hpop]
  | ok p =>
    refine ((local_readBounds p.2.verbose).map fun b =>
      p.2.push (.repetition p.1 b.1 b.2)).congr fun s => ?_
    rw [repeatBounded, hpop]
    dsimp only
    rcases readBounds p.2.verbose s with e | ⟨⟨least, most⟩, rest⟩ <;> rfl

/-- Apart from classes and escapes, a step looks no further than it needs. -/
theorem local_step (r : Reader) (hclass : c ≠ '[') (hescape : c ≠ '\\') : Local (r.step c) := by
  simp only [funext fun s => step.eq_def r c s]
  split
  · exact ((local_readOpening r.verbose).ask r.begin).congr fun s => by
      cases readOpening r.verbose s <;> rfl
  · cases r.closeGroup with
    | error e => exact Local.error e
    | ok r => exact Local.pure r
  · exact Local.pure _
  · exact absurd rfl hclass
  · exact local_repeatLast r 0 (some 1)
  · exact local_repeatLast r 0 none
  · exact local_repeatLast r 1 none
  · exact local_repeatBounded r
  · exact absurd rfl hescape
  all_goals exact Local.pure _

/-- A step at an opening bracket reads a class and adds it. -/
theorem step_class_ok :
    r.step '[' s = .ok (r', rest) ↔
      ∃ node, readClass r.verbose s = .ok (node, rest) ∧ r.push node = r' := by
  simp only [step]
  rcases readClass r.verbose s with e | ⟨node, w⟩ <;> simp [and_comm]

/-- A step at a backslash reads an escape and adds it. -/
theorem step_escape_ok :
    r.step '\\' s = .ok (r', rest) ↔
      ∃ p, readEscape r.verbose s = .ok (p, rest) ∧ r.push (.primitive p) = r' := by
  simp only [step]
  rcases readEscape r.verbose s with e | ⟨p, w⟩ <;> simp [and_comm]

/-- A step leaves an end of what is behind its sign. -/
theorem step_suffix (h : r.step c s = .ok (r', rest)) : rest <:+ s := by
  by_cases hclass : c = '['
  · subst hclass
    obtain ⟨node, hread, -⟩ := step_class_ok.mp h
    exact readClass_suffix hread
  by_cases hescape : c = '\\'
  · subst hescape
    obtain ⟨p, hread, -⟩ := step_escape_ok.mp h
    exact (readEscape_suffix hread).trans (List.tail_suffix s)
  exact (local_step r hclass hescape).suffix h

/-- A text that can be behind a part of a regular expression, but not be a part of a class. -/
structure Outside (c : Char) (u : List Char) : Prop where
  inert : Inert c
  colon : ':' ∉ c :: u
  bracket : ']' ∉ c :: u

/-- With a text behind, a step does the same and leaves that text unread, or it reads into that
text; or it has read a word boundary with an opening brace at the end of the text. -/
theorem step_append (hout : Outside d u) (h : r.step c (s ++ d :: u) = .ok (r', rest)) :
    (∃ s₀, rest = s₀ ++ d :: u ∧ r.step c s = .ok (r', s₀)) ∨ rest <:+ u ∨
      (r'.verbose = r.verbose ∧
        ∃ inner, rest = '{' :: (inner ++ d :: u) ∧ skip r.verbose inner = []) := by
  by_cases hclass : c = '['
  · subst hclass
    obtain ⟨node, hread, hpush⟩ := step_class_ok.mp h
    obtain ⟨s₀, hrest, hpart⟩ := readClass_append hout.inert hout.colon hout.bracket hread
    exact Or.inl ⟨s₀, hrest, step_class_ok.mpr ⟨node, hpart, hpush⟩⟩
  by_cases hescape : c = '\\'
  · subst hescape
    obtain ⟨p, hread, hpush⟩ := step_escape_ok.mp h
    rcases readEscape_append hread with ⟨s₀, hrest, hpart⟩ | hrest | ⟨-, inner, -, hrest, hinner⟩
    · exact Or.inl ⟨s₀, hrest, step_escape_ok.mpr ⟨p, hpart, hpush⟩⟩
    · exact Or.inr (Or.inl hrest)
    · exact Or.inr (Or.inr ⟨by rw [← hpush]; rfl, inner, hrest, hinner⟩)
  exact ((local_step r hclass hescape).keeps s d u r' rest h).imp_right Or.inl

/-! ## The end of the group -/

/-- The text that closes the group, with a condition on the end of the line behind it. -/
def closing : List Char := [')', '$']

/-- The closing text is no part of a class. -/
theorem outside_closing : Outside ')' ['$'] where
  inert := ⟨by decide, by decide, by decide, by decide⟩
  colon := by decide
  bracket := by decide

theorem skip_dollar (verbose : Bool) : skip verbose ['$'] = ['$'] := by
  cases verbose <;> decide

theorem skip_brace (verbose : Bool) (s : List Char) : skip verbose ('{' :: s) = '{' :: s := by
  cases verbose with
  | false => rfl
  | true =>
    have hblank : isBlank '{' = false := by decide
    simp [skip, skipIgnored, hblank]

theorem run_nil (r : Reader) (n : Nat) : r.run n [] = .ok r := by
  cases n with
  | zero => rfl
  | succ n => rw [run, skip_nil]

/-- A run is a step at the next sign and a run behind it. -/
theorem run_of_skip (hs : skip r.verbose s = d :: u) (n : Nat) :
    r.run (n + 1) s = (r.step d u).bind fun p => p.1.run n p.2 := by
  rw [run, hs]
  dsimp only
  cases r.step d u <;> rfl

theorem run_of_skip_ok {n : Nat} (hs : skip r.verbose s = d :: u) :
    r.run (n + 1) s = .ok r' ↔
      ∃ r₁ rest, r.step d u = .ok (r₁, rest) ∧ r₁.run n rest = .ok r' := by
  rw [run_of_skip hs, bind_eq_ok, Prod.exists]

/-- Behind the closing parenthesis no group is opened or closed. -/
theorem run_dollar {n : Nat} (hs : skip r.verbose s <:+ ['$']) (h : r.run n s = .ok r') :
    r'.frames = r.frames := by
  cases n with
  | zero =>
    cases h
    rfl
  | succ n =>
    rw [run] at h
    rcases List.suffix_cons_iff.mp hs with hskip | hskip
    · rw [hskip] at h
      simp only [step, run_nil] at h
      cases h
      rfl
    · rw [List.suffix_nil.mp hskip] at h
      cases h
      rfl

/-- No bounds begin with the closing text. -/
theorem readBounds_closing {verbose : Bool} (hs : skip verbose s = [])
    (p : (Nat × Option Nat) × List Char) : readBounds verbose (s ++ closing) ≠ .ok p := by
  rw [readBounds]
  rcases skip_append verbose s ')' ['$'] with hskip | hskip
  · rw [closing, hskip, hs]
    cases verbose <;> rintro ⟨⟩
  · rcases List.suffix_cons_iff.mp hskip with hskip | hskip
    · rw [closing, hskip]
      cases verbose <;> rintro ⟨⟩
    · rw [closing, List.suffix_nil.mp hskip]
      rintro ⟨⟩

/-- Bounds in braces that are accepted have been read as bounds. -/
theorem repeatBounded_ok (h : r.repeatBounded s = .ok (r', rest)) :
    ∃ b, readBounds r.verbose s = .ok (b, rest) := by
  rw [repeatBounded] at h
  split at h
  · cases h
  · next hpop =>
    split at h
    · cases h
    · next hread =>
      cases h
      rw [popOperand_verbose hpop] at hread
      exact ⟨_, hread⟩

/-- The brace behind a word boundary at the end of the group stands for nothing. -/
theorem run_brace {n : Nat} (hs : skip r.verbose s = []) :
    r.run (n + 1) ('{' :: (s ++ closing)) ≠ .ok r' := by
  intro h
  obtain ⟨r₁, rest, hstep, -⟩ := (run_of_skip_ok (skip_brace r.verbose _)).mp h
  obtain ⟨b, hread⟩ := repeatBounded_ok hstep
  exact readBounds_closing hs _ hread

/-- The reader behind the closing text, if it was in no other group than that around it. -/
def closedWith (r : Reader) (f : Frame) : Reader where
  parts := .primitive (.assertion .lineEnd) :: .group f.change r.body :: f.before
  done := f.done
  frames := []
  names := r.names
  verbose := f.verbose

/-- At the end of its text a reader inside of a group is in another group, or the closing text
closes that group. -/
theorem run_closing (f : Frame) {n : Nat} (hs : skip r.verbose s = [])
    (h : (r.within f).run (n + 2) (s ++ closing) = .ok r') :
    r'.frames ≠ [] ∨ r.frames = [] ∧ r' = r.closedWith f := by
  rcases skip_append r.verbose s ')' ['$'] with hskip | hskip
  · rw [hs, List.nil_append] at hskip
    obtain ⟨q, rest, hstep, hrun⟩ := (run_of_skip_ok (r := r.within f) hskip).mp h
    obtain ⟨q', hclosed, ⟨⟩⟩ := map_eq_ok.mp hstep
    by_cases hframes : r.frames = []
    · rw [closeGroup, within, hframes] at hclosed
      cases hclosed
      obtain ⟨_, _, ⟨⟩, hend⟩ := (run_of_skip_ok (skip_dollar _)).mp hrun
      rw [run_nil] at hend
      cases hend
      exact Or.inr ⟨hframes, rfl⟩
    · rw [closeGroup_within f hframes] at hclosed
      obtain ⟨r₁, -, rfl⟩ := map_eq_ok.mp hclosed
      rw [run_dollar (skip_suffix _ _) hrun]
      exact Or.inl (within_frames_ne_nil r₁ f)
  · rw [run_dollar (r := r.within f) hskip h]
    exact Or.inl (within_frames_ne_nil r f)

/-- What comes of reading a text inside of a group: the text closes the group itself, or the group
is never closed, or all of the text is read and the closing text closes the group. -/
theorem run_within (f : Frame) {n m : Nat} (hn : s.length + 2 < n) (hm : s.length < m)
    (h : (r.within f).run n (s ++ closing) = .ok r') :
    r.run m s = .error .groupUnopened ∨ r'.frames ≠ [] ∨
      ∃ r₁, r.run m s = .ok r₁ ∧ r₁.frames = [] ∧ r' = r₁.closedWith f := by
  induction n generalizing r s m with
  | zero => omega
  | succ n ih =>
    obtain ⟨m, rfl⟩ := Nat.exists_eq_add_one_of_ne_zero (Nat.ne_zero_of_lt hm)
    obtain ⟨n, rfl⟩ : ∃ k, n = k + 1 := ⟨n - 1, by omega⟩
    cases hskip : skip r.verbose s with
    | nil =>
      have hrun : r.run (m + 1) s = .ok r := by rw [run, hskip]
      exact Or.inr ((run_closing f hskip h).imp_right fun ⟨hframes, hr'⟩ =>
        ⟨r, hrun, hframes, hr'⟩)
    | cons d s₁ =>
      have hlength : s₁.length < s.length := by
        have := (skip_suffix r.verbose s).length_le
        rw [hskip, List.length_cons] at this
        omega
      by_cases hclose : d = ')' → r.frames ≠ []
      · obtain ⟨q, rest, hstep, hrun⟩ :=
          (run_of_skip_ok (r := r.within f) (skip_append_of_cons hskip closing)).mp h
        rw [step_within f _ hclose] at hstep
        obtain ⟨⟨r₁, _⟩, hstep₁, ⟨⟩⟩ := map_eq_ok.mp hstep
        rcases step_append outside_closing hstep₁ with ⟨s₀, rfl, hpart⟩ | hrest |
          ⟨hverbose, inner, rfl, hinner⟩
        · -- the same step is taken without the group and the text behind it
          have hs₀ := (step_suffix hpart).length_le
          rw [run_of_skip hskip, hpart]
          exact ih (s := s₀) (m := m) (by omega) (by omega) hrun
        · -- the parenthesis that closes the group was read as something else
          rw [run_dollar ((skip_suffix _ _).trans hrest) hrun]
          exact Or.inr (Or.inl (within_frames_ne_nil r₁ f))
        · -- the brace behind a word boundary is left for bounds, and there are none
          rw [← hverbose] at hinner
          exact absurd hrun (run_brace (r := r₁.within f) hinner)
      · obtain ⟨rfl, hframes⟩ : d = ')' ∧ r.frames = [] := by
          simpa using hclose
        -- the text closes the group, and without that group it closes what was never opened
        left
        rw [run_of_skip hskip]
        simp only [step, closeGroup, hframes]
        rfl

end PathWatch.Regex.Reader
