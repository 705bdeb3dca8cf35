import Mathlib
import PathWatch.Proofs.Regex.Parts
import PathWatch.Regex.Class
/-!
# How far the items of classes are read

Inside of a class much depends on the signs to come: whether a bracket begins a set with a name, and
whether a hyphen makes a range. With another text behind, the reader of an item may look into it.
But if it does, it leaves no more than that text, provided that the text begins with none of the
signs that are looked for.
-/

namespace PathWatch.Regex

variable {α : Type} {verbose : Bool} {c : Char} {s t u r : List Char}

/-- With a text behind, a reader gives the same result and leaves that text unread, or it leaves no
more than that text. -/
def Reaches (t : List Char) (whole part : Except Cause (α × List Char)) : Prop :=
  ∀ x r, whole = .ok (x, r) → (∃ r₀, r = r₀ ++ t ∧ part = .ok (x, r₀)) ∨ r <:+ t

/-- A reader may pass over blanks first. If they end in the text behind, it leaves no more than that
text. -/
theorem Reaches.skip {body : Reading α}
    (hbody : ∀ s, Reaches (c :: u) (body (s ++ c :: u)) (body s))
    (hsuffix : ∀ s x r, body s = .ok (x, r) → r <:+ s) (s : List Char) :
    Reaches (c :: u) (body (skip verbose (s ++ c :: u))) (body (skip verbose s)) := by
  intro x r h
  rcases skip_append verbose s c u with hsame | hrest
  · rw [hsame] at h
    exact hbody _ x r h
  · exact Or.inr (((hsuffix _ x r h).trans hrest).trans (List.suffix_cons c u))

/-! ## The sign to come -/

/-- A character that no reader of a class looks for behind a sign, and that is not passed over. -/
structure Inert (c : Char) : Prop where
  notBlank : isBlank c = false
  notMark : c ≠ '#'
  notHyphen : c ≠ '-'
  notBracket : c ≠ ']'

/-- An inert character ends the blanks in front of it, and is no mark of a comment. -/
theorem pastMark_append (hc : Inert c) (s u : List Char) :
    pastMark ((s ++ c :: u).dropWhile isBlank) = pastMark (s.dropWhile isBlank) ++ c :: u := by
  have hdrop : (c :: u).dropWhile isBlank = c :: u :=
    List.dropWhile_cons_of_neg (by simp [hc.notBlank])
  have hnone : pastMark (c :: u) = c :: u := by
    rw [pastMark]
    exact cons_ne_cons_of_ne hc.notMark _
  rw [List.dropWhile_append, hdrop]
  cases hs : s.dropWhile isBlank with
  | nil => exact hnone
  | cons d s' =>
    by_cases hmark : d = '#'
    · subst hmark
      simp only [List.isEmpty_cons, Bool.false_eq_true, if_false, List.cons_append, pastMark]
      rw [List.dropWhile_append, hdrop]
      cases hs' : s'.dropWhile isBlank <;> simp
    · have hd : ∀ w, pastMark (d :: w) = d :: w := fun w => by
        rw [pastMark]
        exact cons_ne_cons_of_ne hmark _
      simp [hd]

/-- A text of which nothing is left behind blanks and a mark begins with no other sign. -/
theorem head_of_pastMark_nil (h : pastMark (s.dropWhile isBlank) = []) {p : Char}
    (hblank : isBlank p = false) (hmark : p ≠ '#') : s.head? ≠ some p := by
  rintro hp
  obtain ⟨s', rfl⟩ : ∃ s', s = p :: s' := by
    cases s with
    | nil => cases hp
    | cons d s' => exact ⟨s', by rw [Option.some.inj hp]⟩
  rw [List.dropWhile_cons_of_neg (by simp [hblank]), pastMark] at h
  · cases h
  · exact cons_ne_cons_of_ne hmark _

/-- A sign that is looked for is seen before an inert character only if it is there. -/
theorem peek_append (hc : Inert c) {p : Char} (hblank : isBlank p = false) (hmark : p ≠ '#')
    (hne : c ≠ p) (s u : List Char) :
    peek verbose (s ++ c :: u) = some p ↔ peek verbose s = some p := by
  cases verbose with
  | false =>
    cases s with
    | nil => simp [peek, hne]
    | cons d s => simp [peek]
  | true =>
    simp only [peek, pastMark_append hc, Bool.not_true, Bool.false_eq_true, if_false]
    cases hsigns : pastMark (s.dropWhile isBlank) with
    | nil => simp [hne, head_of_pastMark_nil hsigns hblank hmark]
    | cons d w => simp

/-! ## Items and ranges -/

/-- An item takes at least one character. -/
theorem readItem_suffix {p : Primitive} (h : readItem verbose s = .ok (p, r)) : r <:+ s.tail := by
  rw [readItem.eq_def] at h
  split at h
  · cases h
  · exact (readEscape_suffix h).trans (List.tail_suffix _)
  · cases h
    exact List.suffix_refl _

/-- An item looks no further than it needs, unless it is no item of a class. -/
theorem readItem_append {p : Primitive} (h : readItem verbose (s ++ c :: u) = .ok (p, r)) :
    (∃ r₀, r = r₀ ++ c :: u ∧ readItem verbose s = .ok (p, r₀)) ∨ r <:+ c :: u ∨
      ∃ a, p = .assertion a := by
  rcases s with _ | ⟨d, s⟩
  · exact Or.inr (Or.inl ((readItem_suffix h).trans (List.tail_suffix _)))
  · by_cases hescape : d = '\\'
    · subst hescape
      rcases readEscape_append h with hsame | hr | ⟨side, -, hp, -⟩
      · exact Or.inl hsame
      · exact Or.inr (Or.inl (hr.trans (List.suffix_cons c u)))
      · exact Or.inr (Or.inr ⟨_, hp⟩)
    · have hread : ∀ w, readItem verbose (d :: w) = .ok (.literal { char := d }, w) := fun w => by
        rw [readItem]
        exact fun hd => hescape hd
      rw [List.cons_append, hread] at h
      cases h
      exact Or.inl ⟨s, rfl, hread s⟩

/-- No range ends in a condition on a place. -/
theorem rangeBetween_assertion (first : Primitive) (a : Assertion) (item : ClassSet) :
    rangeBetween first (.assertion a) ≠ .ok item := by
  rw [rangeBetween]
  cases first.toEnd with
  | error e => rintro ⟨⟩
  | ok l => rintro ⟨⟩

/-- A range is read if its last item is, and if the two items make a range. -/
theorem readRangeEnd_ok {first : Primitive} {item : ClassSet} :
    readRangeEnd verbose first s = .ok (item, r) ↔
      ∃ last, readItem verbose s = .ok (last, r) ∧ rangeBetween first last = .ok item := by
  rw [readRangeEnd]
  rcases readItem verbose s with e | ⟨last, rest⟩
  · simp
  · simp [map_eq_ok, and_comm]

theorem readRangeEnd_suffix {first : Primitive} {item : ClassSet}
    (h : readRangeEnd verbose first s = .ok (item, r)) : r <:+ s := by
  obtain ⟨last, hlast, -⟩ := readRangeEnd_ok.mp h
  exact (readItem_suffix hlast).trans (List.tail_suffix s)

/-- The end of a range may look into the text behind only as an item that is a condition, and then
there is no range. -/
theorem readRangeEnd_append (first : Primitive) (s : List Char) (c : Char) (u : List Char) :
    Reaches (c :: u) (readRangeEnd verbose first (s ++ c :: u)) (readRangeEnd verbose first s) := by
  intro item r h
  obtain ⟨last, hlast, hitem⟩ := readRangeEnd_ok.mp h
  rcases readItem_append hlast with ⟨r₀, hr, hpart⟩ | hr | ⟨a, rfl⟩
  · exact Or.inl ⟨r₀, hr, readRangeEnd_ok.mpr ⟨last, hpart, hitem⟩⟩
  · exact Or.inr hr
  · exact absurd hitem (rangeBetween_assertion first a item)

/-- What stands for itself behind an item: the end of the class, another sign, or a hyphen that
makes no range. -/
def EndsItem (verbose : Bool) (d : Char) (rest : List Char) : Prop :=
  d ≠ '-' ∨ peek verbose rest = some ']' ∨ peek verbose rest = some '-'

/-- An item behind which nothing continues it stands for itself. -/
theorem readRangeFrom_of_endsItem {first : Primitive} {d : Char} (h : EndsItem verbose d s) :
    readRangeFrom verbose first (d :: s) = first.toItem.map fun item => (item, d :: s) := by
  rw [readRangeFrom, if_pos]
  simpa [EndsItem, or_assoc] using h

/-- A hyphen that is followed by another item makes a range. -/
theorem readRangeFrom_of_not_endsItem {first : Primitive} {d : Char} (h : ¬ EndsItem verbose d s) :
    readRangeFrom verbose first (d :: s) = readRangeEnd verbose first (skip verbose s) := by
  rw [readRangeFrom, if_neg]
  simpa [EndsItem, or_assoc] using h

/-- Whether an item is continued does not depend on an inert text behind, since neither of the two
signs that are looked for begins it. -/
theorem endsItem_append (hc : Inert c) (d : Char) (s u : List Char) :
    EndsItem verbose d (s ++ c :: u) ↔ EndsItem verbose d s := by
  rw [EndsItem, EndsItem,
    peek_append hc (by decide) (by decide) hc.notBracket,
    peek_append hc (by decide) (by decide) hc.notHyphen]

theorem readRangeFrom_suffix {first : Primitive} {item : ClassSet}
    (h : readRangeFrom verbose first s = .ok (item, r)) : r <:+ s := by
  rcases s with _ | ⟨d, s⟩
  · cases h
  · by_cases hends : EndsItem verbose d s
    · rw [readRangeFrom_of_endsItem hends] at h
      obtain ⟨_, -, ⟨⟩⟩ := map_eq_ok.mp h
      exact List.suffix_refl _
    · rw [readRangeFrom_of_not_endsItem hends] at h
      exact ((readRangeEnd_suffix h).trans (skip_suffix verbose s)).trans (List.suffix_cons d s)

/-- With an inert text behind, the rest of an item or of a range is read as it is without that text,
unless it reaches into that text. -/
theorem readRangeFrom_append (hc : Inert c) (first : Primitive) (s u : List Char) :
    Reaches (c :: u) (readRangeFrom verbose first (s ++ c :: u))
      (readRangeFrom verbose first s) := by
  intro item r h
  rcases s with _ | ⟨d, s⟩
  · exact Or.inr (readRangeFrom_suffix h)
  · by_cases hends : EndsItem verbose d s
    · rw [List.cons_append, readRangeFrom_of_endsItem ((endsItem_append hc d s u).mpr hends)] at h
      obtain ⟨_, hitem, ⟨⟩⟩ := map_eq_ok.mp h
      refine Or.inl ⟨d :: s, rfl, ?_⟩
      rw [readRangeFrom_of_endsItem hends, hitem]
      rfl
    · rw [List.cons_append,
        readRangeFrom_of_not_endsItem fun hw => hends ((endsItem_append hc d s u).mp hw)] at h
      rw [readRangeFrom_of_not_endsItem hends]
      exact Reaches.skip (readRangeEnd_append first · c u) (fun _ _ _ => readRangeEnd_suffix) s
        item r h

/-- A condition on a place is no item of a class and begins no range. -/
theorem readRangeFrom_assertion {a : Assertion} {item : ClassSet} :
    readRangeFrom verbose (.assertion a) s ≠ .ok (item, r) := by
  intro h
  rcases s with _ | ⟨d, s⟩
  · cases h
  · by_cases hends : EndsItem verbose d s
    · rw [readRangeFrom_of_endsItem hends] at h
      cases h
    · rw [readRangeFrom_of_not_endsItem hends] at h
      obtain ⟨_, -, ⟨⟩⟩ := readRangeEnd_ok.mp h

/-- An item or a range is an item and what makes of it the signs behind. -/
theorem readRange_ok {item : ClassSet} :
    readRange verbose s = .ok (item, r) ↔
      ∃ first rest, readItem verbose s = .ok (first, rest) ∧
        readRangeFrom verbose first (skip verbose rest) = .ok (item, r) := by
  rw [readRange]
  rcases readItem verbose s with e | ⟨first, rest⟩ <;> simp

/-- An item or a range takes at least one character. -/
theorem readRange_suffix {item : ClassSet} (h : readRange verbose s = .ok (item, r)) :
    r <:+ s.tail := by
  obtain ⟨first, rest, hfirst, hitem⟩ := readRange_ok.mp h
  exact ((readRangeFrom_suffix hitem).trans (skip_suffix verbose rest)).trans
    (readItem_suffix hfirst)

/-- With an inert text behind, an item or a range is read as it is without that text, unless it
reaches into that text. -/
theorem readRange_append (hc : Inert c) (s u : List Char) :
    Reaches (c :: u) (readRange verbose (s ++ c :: u)) (readRange verbose s) := by
  intro item r h
  obtain ⟨first, rest, hfirst, hitem⟩ := readRange_ok.mp h
  -- A word boundary may look further, but it is no item of a class.
  rcases readItem_append hfirst with ⟨r₀, rfl, hpart⟩ | hrest | ⟨a, rfl⟩
  · have hreaches := Reaches.skip (readRangeFrom_append hc first · u)
      (fun _ _ _ => readRangeFrom_suffix) r₀ item r hitem
    exact hreaches.imp_left fun ⟨r₁, hr, hsame⟩ =>
      ⟨r₁, hr, readRange_ok.mpr ⟨first, r₀, hpart, hsame⟩⟩
  · exact Or.inr (((readRangeFrom_suffix hitem).trans (skip_suffix verbose rest)).trans hrest)
  · exact absurd hitem readRangeFrom_assertion

/-! ## Sets with a name -/

/-- Without a colon no name ends. -/
theorem readAsciiName?_of_not_mem (negated : Bool) (hs : ':' ∉ s) :
    readAsciiName? negated s = none := by
  have hdrop : s.dropWhile (· ≠ ':') = [] := by
    rw [List.dropWhile_eq_nil_iff]
    exact fun d hd => by simpa using fun h : d = ':' => hs (h ▸ hd)
  rw [readAsciiName?, hdrop]

theorem readAsciiAt?_of_ne (hs : ∀ t, s ≠ '^' :: t) : readAsciiAt? s = readAsciiName? false s := by
  rw [readAsciiAt?]
  exact hs

theorem readAsciiSet?_of_ne (hs : ∀ t, s ≠ ':' :: t) : readAsciiSet? s = none := by
  rw [readAsciiSet?.eq_def]
  split
  · next t => exact absurd rfl (hs t)
  · rfl

/-- A name that ends in a colon and a bracket is looked up. -/
theorem readAsciiName?_bracket (negated : Bool) {name : List Char} (hname : ':' ∉ name)
    (rest : List Char) :
    readAsciiName? negated (name ++ ':' :: ']' :: rest) =
      (AsciiSet.ofName? name).map fun set => (.ascii negated set, rest) := by
  have hsigns : ∀ d ∈ name, decide (d ≠ ':') = true :=
    fun d hd => by simpa using fun h : d = ':' => hname (h ▸ hd)
  rw [readAsciiName?, List.dropWhile_append_of_pos hsigns, List.takeWhile_append_of_pos hsigns]
  simp

/-- A colon without a bracket behind it ends no name. -/
theorem readAsciiName?_of_no_bracket (negated : Bool) {name : List Char} (hname : ':' ∉ name)
    {w : List Char} (hw : ∀ rest, w ≠ ']' :: rest) :
    readAsciiName? negated (name ++ ':' :: w) = none := by
  have hsigns : ∀ d ∈ name, decide (d ≠ ':') = true :=
    fun d hd => by simpa using fun h : d = ':' => hname (h ▸ hd)
  rw [readAsciiName?, List.dropWhile_append_of_pos hsigns, List.dropWhile_cons_of_neg (by simp)]
  split
  · next rest hdrop => exact absurd (List.cons.inj hdrop).2 (hw rest)
  · rfl

/-- The name of a set in ASCII ends at a colon, so none ends in a text that has no colon. -/
theorem readAsciiName?_append (hbracket : c ≠ ']') (hcolon : ':' ∉ c :: u) (negated : Bool)
    (s : List Char) :
    readAsciiName? negated (s ++ c :: u) =
      (readAsciiName? negated s).map fun (item, r) => (item, r ++ c :: u) := by
  by_cases hs : ':' ∈ s
  · obtain ⟨name, w, rfl, hname⟩ := List.eq_append_cons_of_mem hs
    rw [List.append_assoc, List.cons_append]
    by_cases hw : ∃ rest, w = ']' :: rest
    · obtain ⟨rest, rfl⟩ := hw
      rw [List.cons_append, readAsciiName?_bracket negated hname,
        readAsciiName?_bracket negated hname, Option.map_map]
      rfl
    · rw [readAsciiName?_of_no_bracket negated hname fun rest h => hw ⟨rest, h⟩,
        readAsciiName?_of_no_bracket negated hname fun rest h => ?_]
      · rfl
      · cases w with
        | nil => exact cons_ne_cons_of_ne hbracket _ _ h
        | cons d w =>
          obtain rfl : d = ']' := (List.cons.inj h).1
          exact hw ⟨w, rfl⟩
  · rw [readAsciiName?_of_not_mem negated hs, readAsciiName?_of_not_mem negated]
    · rfl
    · rw [List.mem_append]
      exact not_or.mpr ⟨hs, hcolon⟩

/-- The name may be negated by a caret in front of it, which is in the text itself or nowhere. -/
theorem readAsciiAt?_append (hbracket : c ≠ ']') (hcolon : ':' ∉ c :: u) (s : List Char) :
    readAsciiAt? (s ++ c :: u) = (readAsciiAt? s).map fun (item, r) => (item, r ++ c :: u) := by
  rcases s with _ | ⟨d, s⟩
  · rw [readAsciiAt?_of_ne (s := []) (by simp), readAsciiName?_of_not_mem false (by simp),
      List.nil_append, Option.map_none]
    by_cases hcaret : c = '^'
    · subst hcaret
      exact readAsciiName?_of_not_mem true fun h => hcolon (List.mem_cons_of_mem _ h)
    · rw [readAsciiAt?_of_ne (cons_ne_cons_of_ne hcaret _)]
      exact readAsciiName?_of_not_mem false hcolon
  · by_cases hcaret : d = '^'
    · subst hcaret
      exact readAsciiName?_append hbracket hcolon true s
    · rw [List.cons_append, readAsciiAt?_of_ne (cons_ne_cons_of_ne hcaret _),
        readAsciiAt?_of_ne (cons_ne_cons_of_ne hcaret _)]
      exact readAsciiName?_append hbracket hcolon false (d :: s)

/-- A set with a name is read as it is without a text behind that has no colon, or is not there. -/
theorem readAsciiSet?_append (hbracket : c ≠ ']') (hcolon : ':' ∉ c :: u) (s : List Char) :
    readAsciiSet? (s ++ c :: u) = (readAsciiSet? s).map fun (item, r) => (item, r ++ c :: u) := by
  rcases s with _ | ⟨d, s⟩
  · have hc : c ≠ ':' := by
      rintro rfl
      exact hcolon List.mem_cons_self
    exact readAsciiSet?_of_ne (cons_ne_cons_of_ne hc _)
  · by_cases hd : d = ':'
    · subst hd
      exact readAsciiAt?_append hbracket hcolon s
    · rw [List.cons_append, readAsciiSet?_of_ne (cons_ne_cons_of_ne hd _),
        readAsciiSet?_of_ne (cons_ne_cons_of_ne hd _)]
      rfl

/-- A name takes an end of the text away. -/
theorem readAsciiName?_suffix {negated : Bool} {item : ClassSet}
    (h : readAsciiName? negated s = some (item, r)) : r <:+ s := by
  rw [readAsciiName?] at h
  split at h
  · next hdrop =>
    obtain ⟨_, -, ⟨⟩⟩ := Option.map_eq_some_iff.mp h
    have hsuffix : ':' :: ']' :: r <:+ s := by
      rw [← hdrop]
      exact List.dropWhile_suffix _
    exact ((List.suffix_cons _ _).trans (List.suffix_cons _ _)).trans hsuffix
  · cases h

theorem readAsciiSet?_suffix {item : ClassSet} (h : readAsciiSet? s = some (item, r)) :
    r <:+ s := by
  rw [readAsciiSet?.eq_def] at h
  split at h
  · rw [readAsciiAt?.eq_def] at h
    split at h
    · exact ((readAsciiName?_suffix h).trans (List.suffix_cons _ _)).trans (List.suffix_cons _ _)
    · exact (readAsciiName?_suffix h).trans (List.suffix_cons _ _)
  · cases h

end PathWatch.Regex
