import Mathlib
import PathWatch.Regex.Blank
import PathWatch.Regex.Error
/-!
# Reading with a text behind

A reader of a part of a regular expression looks at no more than it needs. With another text behind,
it comes to the same result and leaves that text unread, or it reads into that text. In particular
such a reader leaves an end of what it was given. Here are the rules by which this is seen, and
what they are built on: to pass over blanks, and to take signs.
-/

namespace PathWatch.Regex

variable {α β : Type}

/-! ## Readers that look no further -/

/-- Texts that begin with different characters are different. -/
theorem cons_ne_cons_of_ne {c d : Char} (h : c ≠ d) (s t : List Char) : c :: s ≠ d :: t :=
  fun ht => h (List.cons.inj ht).1

theorem map_eq_ok {x : Except Cause α} {f : α → β} {y : β} :
    x.map f = .ok y ↔ ∃ a, x = .ok a ∧ f a = y := by
  cases x <;> simp [Except.map]

theorem bind_eq_ok {x : Except Cause α} {f : α → Except Cause β} {y : β} :
    x.bind f = .ok y ↔ ∃ a, x = .ok a ∧ f a = .ok y := by
  cases x <;> simp [Except.bind]

/-- What a reader makes of a text: a result and the rest of the text, or a failure. -/
abbrev Reading (α : Type) := List Char → Except Cause (α × List Char)

/-- `whole` is what comes of reading a text with `c` and `u` behind it, and `part` what comes of
reading the text alone. If the former succeeds, it has left `c` and `u` unread, and the latter
succeeds with the same result; or it has read `c` and leaves an end of `u`. -/
def Keeps (c : Char) (u : List Char) (whole part : Except Cause (α × List Char)) : Prop :=
  ∀ x r, whole = .ok (x, r) →
    (∃ r₀, r = r₀ ++ c :: u ∧ part = .ok (x, r₀)) ∨ r <:+ u

/-- It does not matter what is made of the result. -/
theorem Keeps.map {c : Char} {u : List Char} {whole part : Except Cause (α × List Char)}
    (h : Keeps c u whole part) (f : α → β) :
    Keeps c u (whole.map fun p => (f p.1, p.2)) (part.map fun p => (f p.1, p.2)) := by
  rcases whole with e | ⟨x, r⟩
  · rintro _ _ ⟨⟩
  · rintro _ _ ⟨⟩
    rcases h x r rfl with ⟨r₀, rfl, rfl⟩ | hr
    · exact Or.inl ⟨r₀, rfl, rfl⟩
    · exact Or.inr hr

/-- With a text behind, the reader gives the same result and leaves that text unread, unless it
reads into that text. At the end of the text there is nothing to leave. -/
structure Reading.Local (read : Reading α) : Prop where
  keeps : ∀ s c u, Keeps c u (read (s ++ c :: u)) (read s)
  atEnd : ∀ x r, read [] = .ok (x, r) → r = []

namespace Reading.Local

variable {read : Reading α}

/-- A reader leaves an end of what it was given: it reads the text as one that is behind nothing. -/
theorem suffix (h : Local read) {s r : List Char} {x : α} (hread : read s = .ok (x, r)) :
    r <:+ s := by
  cases s with
  | nil => rw [h.atEnd x r hread]
  | cons c u =>
    rcases h.keeps [] c u x r hread with ⟨r₀, rfl, hpart⟩ | hr
    · rw [h.atEnd x r₀ hpart, List.nil_append]
    · exact hr.trans (List.suffix_cons c u)

/-- A reader that finds nothing at the end of a text takes at least one character. -/
theorem suffix_tail (h : Local read) (hnil : ∀ p, read [] ≠ .ok p) {c : Char} {u r : List Char}
    {x : α} (hread : read (c :: u) = .ok (x, r)) : r <:+ u := by
  rcases h.keeps [] c u x r hread with ⟨r₀, -, hpart⟩ | hr
  · exact absurd hpart (hnil _)
  · exact hr

/-- Readers that do the same are both local or both not. -/
theorem congr {read' : Reading α} (h : Local read) (heq : ∀ s, read' s = read s) :
    Local read' := by
  rwa [funext heq]

/-- A reader that reads nothing. -/
theorem pure (x : α) : Local fun s => .ok (x, s) where
  keeps := by
    rintro s c u _ _ ⟨⟩
    exact Or.inl ⟨s, rfl, rfl⟩
  atEnd := by
    rintro _ _ ⟨⟩
    rfl

/-- A reader that always fails. -/
theorem error (e : Cause) : Local fun _ => (.error e : Except Cause (α × List Char)) where
  keeps := by rintro s c u _ _ ⟨⟩
  atEnd := by rintro _ _ ⟨⟩

/-- One reader behind another one. -/
theorem bind (h : Local read) (next : α → Reading β) (hnext : ∀ x, Local (next x)) :
    Local fun s => (read s).bind fun p => next p.1 p.2 where
  keeps := by
    intro s c u y r hwhole
    obtain ⟨⟨x, r₁⟩, hread, hy⟩ := bind_eq_ok.mp hwhole
    rcases h.keeps s c u x r₁ hread with ⟨r₀, rfl, hpart⟩ | hr₁
    · rw [hpart]
      exact (hnext x).keeps r₀ c u y r hy
    · exact Or.inr (((hnext x).suffix hy).trans hr₁)
  atEnd := by
    intro y r hwhole
    obtain ⟨⟨x, r₁⟩, hread, hy⟩ := bind_eq_ok.mp hwhole
    obtain rfl := h.atEnd x r₁ hread
    exact (hnext x).atEnd y r hy

theorem map (h : Local read) (f : α → β) : Local fun s => (read s).map fun p => (f p.1, p.2) :=
  (h.bind (fun x s => .ok (f x, s)) fun x => pure (f x)).congr fun s => by cases read s <;> rfl

/-- A reader whose result is asked for something that it may not have. -/
theorem ask (h : Local read) (g : α → Except Cause β) :
    Local fun s => (read s).bind fun p => (g p.1).map fun y => (y, p.2) := by
  refine h.bind (fun x s => (g x).map fun y => (y, s)) fun x => ?_
  cases g x with
  | error e => exact error e
  | ok y => exact pure y

/-- A reader behind the signs that another one takes in any case. -/
theorem after {take : List Char → α × List Char} {next : α → Reading β}
    (htake : Local fun s => .ok (take s)) (hnext : ∀ x, Local (next x)) :
    Local fun s => next (take s).1 (take s).2 :=
  (htake.bind next hnext).congr fun _ => rfl

/-- A reader that takes a character and goes on from there. -/
theorem cons {e : Cause} (hnil : read [] = .error e) (hcons : ∀ d, Local fun s => read (d :: s)) :
    Local read where
  keeps := by
    intro s c u x r hwhole
    cases s with
    | nil => exact Or.inr ((hcons c).suffix hwhole)
    | cons d s => exact (hcons d).keeps s c u x r hwhole
  atEnd := by
    intro x r hread
    rw [hnil] at hread
    cases hread

/-- A reader that takes a mark if there is one, and otherwise nothing. -/
theorem mark (m : Char) {x : α} (hmark : Local fun s => read (m :: s))
    (hother : ∀ s, (∀ t, s ≠ m :: t) → read s = .ok (x, s)) : Local read where
  keeps := by
    intro s c u y r hwhole
    cases s with
    | nil =>
      by_cases hc : c = m
      · subst hc
        exact Or.inr (hmark.suffix hwhole)
      · rw [List.nil_append, hother (c :: u) (cons_ne_cons_of_ne hc _)] at hwhole
        cases hwhole
        exact Or.inl ⟨[], rfl, hother [] fun t h => by cases h⟩
    | cons d s =>
      by_cases hd : d = m
      · subst hd
        exact hmark.keeps s c u y r hwhole
      · rw [List.cons_append, hother (d :: (s ++ c :: u)) (cons_ne_cons_of_ne hd _)] at hwhole
        cases hwhole
        exact Or.inl ⟨d :: s, rfl, hother (d :: s) (cons_ne_cons_of_ne hd _)⟩
  atEnd := by
    intro y r hread
    rw [hother [] fun t h => by cases h] at hread
    cases hread
    rfl

/-- What a reader does behind a character that it needs. -/
theorem behind (h : Local read) (hnil : ∀ p, read [] ≠ .ok p) (d : Char) :
    Local fun s => read (d :: s) where
  keeps s c u := h.keeps (d :: s) c u
  atEnd _ _ hread := List.suffix_nil.mp (h.suffix_tail hnil hread)

section Loop

variable {σ : Type} (read : σ → Reading α) {e : Cause} (hnil : ∀ t, read t [] = .error e)
  (hcons : ∀ t d, (Local fun s => read t (d :: s)) ∨
    ∃ (t' : σ) (f : α → α), ∀ s, read t (d :: s) = (read t' s).map fun p => (f p.1, p.2))
include hnil hcons

/-- A reader that takes characters one by one takes the first one at least. -/
theorem loop_suffix {s : List Char} {t : σ} {d : Char} {x : α} {r : List Char}
    (hread : read t (d :: s) = .ok (x, r)) : r <:+ s := by
  induction s generalizing t d x with
  | nil =>
    rcases hcons t d with hdone | ⟨t', f, hmore⟩
    · exact hdone.suffix hread
    · rw [hmore, hnil] at hread
      cases hread
  | cons d' s ih =>
    rcases hcons t d with hdone | ⟨t', f, hmore⟩
    · exact hdone.suffix hread
    · rw [hmore] at hread
      obtain ⟨_, hrest, ⟨⟩⟩ := map_eq_ok.mp hread
      exact (ih hrest).trans (List.suffix_cons d' s)

/-- A reader that takes characters one by one, with a state of its own, until it is done. -/
theorem loop (t : σ) : Local (read t) where
  keeps := by
    intro s
    induction s generalizing t with
    | nil =>
      -- what begins at the end of the text takes all that it takes from the text behind
      intro c u x r hwhole
      exact Or.inr (loop_suffix read hnil hcons hwhole)
    | cons d s ih =>
      intro c u
      rcases hcons t d with hdone | ⟨t', f, hmore⟩
      · exact hdone.keeps s c u
      · rw [List.cons_append, hmore, hmore]
        exact (ih t' c u).map f
  atEnd := by
    intro x r hread
    rw [hnil] at hread
    cases hread

end Loop

end Reading.Local

open Reading (Local)

/-! ## Blanks and signs -/

theorem skipIgnored_suffix (inComment : Bool) (s : List Char) : skipIgnored inComment s <:+ s := by
  induction s generalizing inComment with
  | nil => exact List.suffix_refl _
  | cons d s ih =>
    rw [skipIgnored]
    split_ifs
    · exact (ih _).trans (List.suffix_cons d s)
    · exact (ih _).trans (List.suffix_cons d s)
    · exact (ih _).trans (List.suffix_cons d s)
    · exact List.suffix_refl _

/-- Blanks and comments end in the text, or they run on into the text behind and take its first sign
at least. -/
theorem skipIgnored_append (inComment : Bool) (s : List Char) (c : Char) (u : List Char) :
    skipIgnored inComment (s ++ c :: u) = skipIgnored inComment s ++ c :: u ∨
      skipIgnored inComment (s ++ c :: u) <:+ u := by
  induction s generalizing inComment with
  | nil =>
    simp only [List.nil_append, skipIgnored]
    split_ifs
    · exact Or.inr (skipIgnored_suffix _ u)
    · exact Or.inr (skipIgnored_suffix _ u)
    · exact Or.inr (skipIgnored_suffix _ u)
    · exact Or.inl rfl
  | cons d s ih =>
    rw [List.cons_append, skipIgnored, skipIgnored]
    split_ifs
    · exact ih _
    · exact ih _
    · exact ih _
    · exact Or.inl rfl

theorem skip_append (verbose : Bool) (s : List Char) (c : Char) (u : List Char) :
    skip verbose (s ++ c :: u) = skip verbose s ++ c :: u ∨ skip verbose (s ++ c :: u) <:+ u := by
  cases verbose with
  | false => exact Or.inl rfl
  | true => exact skipIgnored_append false s c u

@[simp] theorem skip_nil (verbose : Bool) : skip verbose [] = [] := by
  cases verbose <;> rfl

/-- A sign that ends the blanks ends them with any text behind. -/
theorem skipIgnored_append_of_cons {inComment : Bool} {s r : List Char} {d : Char}
    (h : skipIgnored inComment s = d :: r) (t : List Char) :
    skipIgnored inComment (s ++ t) = d :: (r ++ t) := by
  induction s generalizing inComment with
  | nil => cases h
  | cons e s ih =>
    rw [List.cons_append, skipIgnored]
    rw [skipIgnored] at h
    split_ifs at h ⊢
    · exact ih h
    · exact ih h
    · exact ih h
    · cases h
      rfl

theorem skip_append_of_cons {verbose : Bool} {s r : List Char} {d : Char}
    (h : skip verbose s = d :: r) (t : List Char) :
    skip verbose (s ++ t) = d :: (r ++ t) := by
  cases verbose with
  | false =>
    rw [skip_false] at h
    rw [skip_false, h, List.cons_append]
  | true => exact skipIgnored_append_of_cons h t

/-- To pass over blanks and comments is local. -/
theorem local_skip (verbose : Bool) : Local fun s => .ok ((), skip verbose s) where
  keeps := by
    rintro s c u _ _ ⟨⟩
    exact (skip_append verbose s c u).imp_left fun h => ⟨_, h, rfl⟩
  atEnd := by
    rintro _ _ ⟨⟩
    exact skip_nil verbose

theorem skip_suffix (verbose : Bool) (s : List Char) : skip verbose s <:+ s :=
  (local_skip verbose).suffix rfl

/-- Signs of one kind end in the text, or they run on into the text behind. -/
theorem dropWhile_append_cons (p : Char → Bool) (s : List Char) (c : Char) (u : List Char) :
    (s ++ c :: u).dropWhile p = s.dropWhile p ++ c :: u ∨ (s ++ c :: u).dropWhile p <:+ u := by
  induction s with
  | nil =>
    rw [List.nil_append, List.dropWhile_cons]
    split
    · exact Or.inr (List.dropWhile_suffix p)
    · exact Or.inl rfl
  | cons d s ih =>
    rw [List.cons_append, List.dropWhile_cons, List.dropWhile_cons]
    split
    · exact ih
    · exact Or.inl rfl

theorem local_dropWhile (p : Char → Bool) : Local fun s => .ok ((), s.dropWhile p) where
  keeps := by
    rintro s c u _ _ ⟨⟩
    exact (dropWhile_append_cons p s c u).imp_left fun h => ⟨_, h, rfl⟩
  atEnd := by
    rintro _ _ ⟨⟩
    rfl

section TakeSigns

variable (verbose : Bool) (accepts : Char → Bool)

theorem takeSigns_suffix (inComment : Bool) (s : List Char) :
    (takeSigns verbose accepts inComment s).2 <:+ s := by
  induction s generalizing inComment with
  | nil => exact List.suffix_refl _
  | cons d s ih =>
    rw [takeSigns]
    split_ifs
    · exact (ih _).trans (List.suffix_cons d s)
    · exact (ih _).trans (List.suffix_cons d s)
    · exact (ih _).trans (List.suffix_cons d s)
    · exact (ih _).trans (List.suffix_cons d s)
    · exact List.suffix_refl _

/-- Signs are taken up to one that is not accepted, which is in the text, or else some of the text
behind are taken, too. -/
theorem takeSigns_append (inComment : Bool) (s : List Char) (c : Char) (u : List Char) :
    takeSigns verbose accepts inComment (s ++ c :: u) =
        ((takeSigns verbose accepts inComment s).1,
          (takeSigns verbose accepts inComment s).2 ++ c :: u) ∨
      (takeSigns verbose accepts inComment (s ++ c :: u)).2 <:+ u := by
  induction s generalizing inComment with
  | nil =>
    simp only [List.nil_append, takeSigns]
    split_ifs
    · exact Or.inr (takeSigns_suffix ..)
    · exact Or.inr (takeSigns_suffix ..)
    · exact Or.inr (takeSigns_suffix ..)
    · exact Or.inr (takeSigns_suffix verbose accepts false u)
    · exact Or.inl rfl
  | cons d s ih =>
    rw [List.cons_append, takeSigns, takeSigns]
    split_ifs
    · exact ih _
    · exact ih _
    · exact ih _
    · rcases ih false with hsame | hr
      · exact Or.inl (by rw [hsame])
      · exact Or.inr hr
    · exact Or.inl rfl

/-- To take signs is local. -/
theorem local_takeSigns (inComment : Bool) :
    Local fun s => .ok (takeSigns verbose accepts inComment s) where
  keeps := by
    intro s c u x r hwhole
    have htaken : takeSigns verbose accepts inComment (s ++ c :: u) = (x, r) :=
      Except.ok.inj hwhole
    rcases takeSigns_append verbose accepts inComment s c u with hsame | hr
    · obtain ⟨rfl, rfl⟩ := Prod.mk.inj (hsame.symm.trans htaken)
      exact Or.inl ⟨_, rfl, rfl⟩
    · rw [htaken] at hr
      exact Or.inr hr
  atEnd := by
    rintro _ _ ⟨⟩
    rfl

end TakeSigns

end PathWatch.Regex
