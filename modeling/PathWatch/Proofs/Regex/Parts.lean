import Mathlib
import PathWatch.Proofs.Regex.Reading
import PathWatch.Regex.Bounds
import PathWatch.Regex.Escape
import PathWatch.Regex.Opening
/-!
# How far escapes, openings and bounds are read

The readers of openings, of bounds, and of nearly all escapes look no further than they need. The
one exception is a word boundary with an opening brace at the end of the text: what the brace begins
depends on the text behind.
-/

namespace PathWatch.Regex

open Reading (Local)

/-! ## Escapes -/

/-- A reader of a fixed number of hexadecimal digits, with blanks between them. -/
theorem local_readHexDigits (verbose : Bool) (n value : Nat) :
    Local (readHexDigits verbose n value) := by
  induction n generalizing value with
  | zero => exact (Local.pure value).congr fun s => by cases s <;> rfl
  | succ n ih =>
    refine Local.cons rfl fun d => ?_
    simp only [readHexDigits]
    cases Text.hexValue? d with
    | none => exact Local.error _
    | some v => exact (local_skip verbose).after fun _ => ih (value * 16 + v)

/-- The closing brace behind hexadecimal digits, of which there must be some. -/
theorem local_closeHexBraces (verbose : Bool) (digits : List Char) :
    Local (closeHexBraces verbose digits) := by
  refine Local.cons rfl fun d => ?_
  simp only [closeHexBraces]
  split_ifs
  · exact Local.error _
  · exact Local.error _
  · exact (local_skip verbose).after fun _ => Local.pure _

/-- Hexadecimal digits between braces. -/
theorem local_readHexBraces (verbose : Bool) : Local (readHexBraces verbose) :=
  ((local_takeSigns verbose _ false).after (local_closeHexBraces verbose)).congr fun _ => rfl

/-- The reader needs a digit where there is no brace. -/
theorem local_readHexNumber (verbose : Bool) (n : Nat) : Local (readHexNumber verbose (n + 1)) := by
  refine Local.cons rfl fun d => ?_
  by_cases hbrace : d = '{'
  · subst hbrace
    exact ((local_readHexBraces verbose).map fun n => (n, false)).congr fun _ => rfl
  · refine (((local_readHexDigits verbose (n + 1) 0).behind (by rintro _ ⟨⟩) d).map
      fun v => (v, decide (n + 1 = 2))).congr fun s => ?_
    rw [readHexNumber]
    · rintro ⟨⟩
    · exact cons_ne_cons_of_ne hbrace _

/-- What stands behind the letter of an escape by number, in either form. -/
theorem local_readHex (verbose : Bool) (n : Nat) : Local (readHex verbose (n + 1)) := by
  have hnumber := (local_skip verbose).after fun _ => local_readHexNumber verbose n
  refine (hnumber.ask fun v => (charOfNumber v.1).map fun c =>
    .literal { char := c, isByte := v.2 }).congr fun s => ?_
  dsimp only [readHex]
  rcases readHexNumber verbose (n + 1) (skip verbose s) with e | ⟨⟨v, isByte⟩, rest⟩
  · rfl
  · simp only [Except.bind]
    cases charOfNumber v <;> rfl

/-- The closing brace behind the name of a property. -/
theorem local_closeProperty (negated : Bool) (inner : List Char) :
    Local (closeProperty negated inner) :=
  Local.cons rfl fun _ => Local.pure _

/-- The name of a property, in braces or as a single letter. -/
theorem local_readPropertyName (verbose negated : Bool) :
    Local (readPropertyName verbose negated) := by
  refine Local.cons rfl fun d => ?_
  by_cases hbrace : d = '{'
  · subst hbrace
    exact ((local_takeSigns verbose _ false).after (local_closeProperty negated)).congr fun _ => rfl
  · simp only [readPropertyName]
    split_ifs
    · exact Local.error _
    · exact (local_skip verbose).after fun _ => Local.pure _

theorem local_readProperty (verbose negated : Bool) : Local (readProperty verbose negated) :=
  (local_skip verbose).after fun _ => local_readPropertyName verbose negated

/-! ## Sides of words and escapes -/

/-- The closing brace behind the name of a side of a word. -/
theorem local_closeSide (name : List Char) : Local (closeSide name) := by
  refine Local.cons rfl fun d => ?_
  by_cases hbrace : d = '}'
  · subst hbrace
    simp only [closeSide]
    cases sideNamed name with
    | none => exact Local.error _
    | some side => exact Local.pure side
  · refine (Local.error .wordSideUnclosed).congr fun s => ?_
    rw [closeSide]
    exact cons_ne_cons_of_ne hbrace _

theorem local_readSideName (verbose : Bool) : Local (readSideName verbose) :=
  (local_takeSigns verbose isSideLetter false).after fun name => local_closeSide name

/-- Where no brace follows, a word boundary is of either side and nothing more is read. -/
theorem readSide_of_ne {verbose : Bool} {s : List Char} (hs : ∀ t, s ≠ '{' :: t) :
    readSide verbose s = .ok (.boundary, s) := by
  rw [readSide]
  exact hs

/-- Behind a word boundary with a brace, all of the brace is left, or the brace and at least one
sign of its inside have been read. -/
theorem readSide_brace {verbose : Bool} {s r : List Char} {side : Pattern.WordSide}
    (h : readSide verbose ('{' :: s) = .ok (side, r)) :
    (side = .boundary ∧ r = '{' :: s) ∨ r <:+ (skip verbose s).tail := by
  rw [readSide] at h
  split at h
  · cases h
  · next d t hskip =>
    split_ifs at h
    · cases h
      exact Or.inl ⟨rfl, rfl⟩
    · rw [hskip]
      exact Or.inr ((local_readSideName verbose).suffix_tail (by rintro _ ⟨⟩) h)

/-- The reader of sides leaves an end of what it was given. -/
theorem readSide_suffix {verbose : Bool} {s r : List Char} {side : Pattern.WordSide}
    (h : readSide verbose s = .ok (side, r)) : r <:+ s := by
  by_cases hbrace : ∃ t, s = '{' :: t
  · obtain ⟨t, rfl⟩ := hbrace
    rcases readSide_brace h with ⟨-, rfl⟩ | hr
    · exact List.suffix_refl _
    · exact ((hr.trans (List.tail_suffix _)).trans (skip_suffix verbose t)).trans
        (List.suffix_cons _ t)
  · rw [readSide_of_ne fun t ht => hbrace ⟨t, ht⟩] at h
    cases h
    exact List.suffix_refl _

/-- Where nothing is left of a text but blanks, the first sign behind them is in the text behind. -/
theorem skip_append_tail_suffix {verbose : Bool} {s : List Char} (hs : skip verbose s = [])
    (c : Char) (u : List Char) : (skip verbose (s ++ c :: u)).tail <:+ u := by
  rcases skip_append verbose s c u with hsame | hr
  · rw [hsame, hs, List.nil_append, List.tail_cons]
  · exact (List.tail_suffix _).trans hr

/-- What is in the braces behind a word boundary is seen from their first sign. If that is not in
the text, but in the text behind, the braces may be left for the bounds of a repetition. -/
theorem readSide_append {verbose : Bool} {s u r : List Char} {c : Char} {side : Pattern.WordSide}
    (h : readSide verbose (s ++ c :: u) = .ok (side, r)) :
    (∃ r₀, r = r₀ ++ c :: u ∧ readSide verbose s = .ok (side, r₀)) ∨ r <:+ u ∨
      ∃ inner, r = '{' :: (inner ++ c :: u) ∧ skip verbose inner = [] := by
  rcases s with _ | ⟨d, s⟩
  · by_cases hbrace : c = '{'
    · subst hbrace
      rcases readSide_brace h with ⟨rfl, rfl⟩ | hr
      · exact Or.inl ⟨[], rfl, rfl⟩
      · exact Or.inr (Or.inl ((hr.trans (List.tail_suffix _)).trans (skip_suffix verbose u)))
    · rw [List.nil_append, readSide_of_ne (cons_ne_cons_of_ne hbrace _)] at h
      cases h
      exact Or.inl ⟨[], rfl, rfl⟩
  · by_cases hbrace : d = '{'
    · subst hbrace
      cases hskip : skip verbose s with
      | nil =>
        -- the sign that decides is the first one of the text behind
        rcases readSide_brace h with ⟨-, rfl⟩ | hr
        · exact Or.inr (Or.inr ⟨s, rfl, hskip⟩)
        · exact Or.inr (Or.inl (hr.trans (skip_append_tail_suffix hskip c u)))
      | cons e t =>
        rw [List.cons_append, readSide, skip_append_of_cons hskip] at h
        rw [readSide, hskip]
        dsimp only at h ⊢
        split_ifs at h ⊢
        · cases h
          exact Or.inl ⟨'{' :: s, rfl, rfl⟩
        · exact ((local_readSideName verbose).keeps (e :: t) c u side r h).imp_right Or.inl
    · rw [List.cons_append, readSide_of_ne (cons_ne_cons_of_ne hbrace _)] at h
      cases h
      exact Or.inl ⟨d :: s, rfl, readSide_of_ne (cons_ne_cons_of_ne hbrace _)⟩

/-- An escape by `b` is a word boundary, and all that can follow is its side. -/
theorem readEscape_boundary (verbose : Bool) (s : List Char) :
    readEscape verbose ('b' :: s) =
      (readSide verbose s).map fun p => (.assertion (.word p.1), p.2) := by
  have hescapable : isEscapable 'b' = false := by decide
  have hdigit : Text.isDigit 'b' = false := by decide
  simp only [readEscape, hescapable, hdigit]
  cases readSide verbose s <;> rfl

/-- Behind every letter but one an escape looks no further than it needs. -/
theorem local_readEscape (verbose : Bool) {d : Char} (hd : d ≠ 'b') :
    Local fun s => readEscape verbose (d :: s) := by
  simp only [readEscape]
  split_ifs
  · exact Local.pure _
  · exact Local.error _
  split
  · exact local_readHex verbose 1
  · exact local_readHex verbose 3
  · exact local_readHex verbose 7
  · exact local_readProperty verbose false
  · exact local_readProperty verbose true
  all_goals first
    | exact Local.pure _
    | exact Local.error _
    | exact absurd rfl hd

/-- An escape takes its letter at least. -/
theorem readEscape_suffix {verbose : Bool} {s r : List Char} {p : Primitive}
    (h : readEscape verbose s = .ok (p, r)) : r <:+ s.tail := by
  rcases s with _ | ⟨d, s⟩
  · cases h
  · by_cases hd : d = 'b'
    · subst hd
      rw [readEscape_boundary] at h
      obtain ⟨_, hside, ⟨⟩⟩ := map_eq_ok.mp h
      exact readSide_suffix hside
    · exact (local_readEscape verbose hd).suffix h

/-- An escape looks no further than it needs, unless it is a word boundary with an opening brace at
the end of the text. -/
theorem readEscape_append {verbose : Bool} {s u r : List Char} {c : Char} {p : Primitive}
    (h : readEscape verbose (s ++ c :: u) = .ok (p, r)) :
    (∃ r₀, r = r₀ ++ c :: u ∧ readEscape verbose s = .ok (p, r₀)) ∨ r <:+ u ∨
      ∃ side inner, p = .assertion (.word side) ∧ r = '{' :: (inner ++ c :: u) ∧
        skip verbose inner = [] := by
  rcases s with _ | ⟨d, s⟩
  · exact Or.inr (Or.inl (readEscape_suffix h))
  · by_cases hd : d = 'b'
    · subst hd
      rw [List.cons_append, readEscape_boundary] at h
      obtain ⟨_, hside, ⟨⟩⟩ := map_eq_ok.mp h
      rcases readSide_append hside with ⟨r₀, hr, hpart⟩ | hr | ⟨inner, hr, hinner⟩
      · exact Or.inl ⟨r₀, hr, by rw [readEscape_boundary, hpart]; rfl⟩
      · exact Or.inr (Or.inl hr)
      · exact Or.inr (Or.inr ⟨_, inner, rfl, hr, hinner⟩)
    · exact ((local_readEscape verbose hd).keeps s c u p r h).imp_right Or.inl

/-! ## Openings -/

/-- Names are read sign by sign up to an angle bracket. -/
theorem local_readNameRest : Local readNameRest := by
  refine Local.loop (fun _ : Unit => readNameRest) (fun _ => rfl) (fun _ d => ?_) ()
  by_cases hend : d = '>'
  · subst hend
    exact Or.inl (Local.pure [])
  · simp only [readNameRest]
    cases continuesName d with
    | false => exact Or.inl (Local.error _)
    | true => exact Or.inr ⟨(), (d :: ·), fun _ => rfl⟩

theorem local_readName : Local readName := by
  refine Local.cons rfl fun d => ?_
  by_cases hend : d = '>'
  · subst hend
    exact Local.error _
  · simp only [readName]
    cases startsName d with
    | false => exact Local.error _
    | true => exact (local_readNameRest.map (d :: ·)).congr fun _ => rfl

/-- Flags are read letter by letter up to a colon or a parenthesis; the state of the loop is what
has been switched on and off. -/
theorem local_readFlags (on : List Flag) (off : Option (List Flag)) : Local (readFlags on off) := by
  refine Local.loop (fun t : List Flag × Option (List Flag) => readFlags t.1 t.2)
    (fun _ => rfl) (fun ⟨on, off⟩ d => ?_) (on, off)
  have hmap : ∀ x : Except Cause ((FlagChange × Bool) × List Char),
      x = x.map fun p => (id p.1, p.2) := by
    rintro (e | p) <;> rfl
  simp only [readFlags]
  split_ifs
  · exact Or.inl (Local.error _)
  · exact Or.inl (Local.pure _)
  · exact Or.inl (Local.error _)
  · exact Or.inr ⟨(on, some []), id, fun s => hmap _⟩
  · cases Flag.ofChar? d with
    | none => exact Or.inl (Local.error _)
    | some flag =>
      dsimp only
      split_ifs
      · exact Or.inl (Local.error _)
      · cases off with
        | none => exact Or.inr ⟨(on ++ [flag], none), id, fun s => hmap _⟩
        | some flags => exact Or.inr ⟨(on, some (flags ++ [flag])), id, fun s => hmap _⟩

theorem local_readFlagOpening : Local readFlagOpening :=
  ((local_readFlags [] none).ask fun p => Opening.ofFlags p.1 p.2).congr fun s => by
    rw [readFlagOpening]
    rcases readFlags [] none s with e | ⟨⟨change, isGroup⟩, rest⟩ <;> rfl

theorem local_readNameOpening : Local readNameOpening :=
  (local_readName.map Opening.named).congr fun _ => rfl

/-- A name behind an angle bracket, unless a sign says that it is a condition on the text before. -/
theorem local_readAngled : Local readAngled := by
  refine Local.cons rfl fun d => ?_
  by_cases heq : d = '='
  · subst heq
    exact Local.error _
  by_cases hne : d = '!'
  · subst hne
    exact Local.error _
  refine (local_readNameOpening.behind (by rintro _ ⟨⟩) d).congr fun s => ?_
  rw [readAngled]
  · exact cons_ne_cons_of_ne heq _
  · exact cons_ne_cons_of_ne hne _

/-- No flag is written `P`. -/
theorem local_readMarked_named : Local fun s => readMarked ('P' :: s) := by
  refine Local.cons rfl fun d => ?_
  by_cases hangle : d = '<'
  · subst hangle
    exact local_readNameOpening
  · refine (Local.error .flagUnknown).congr fun s => ?_
    rw [readMarked]
    · rfl
    all_goals simp [hangle]

/-- What begins behind a question mark: a condition, a name, or flags. -/
theorem local_readMarked : Local readMarked := by
  refine Local.cons rfl fun d => ?_
  by_cases heq : d = '='
  · subst heq
    exact Local.error _
  by_cases hne : d = '!'
  · subst hne
    exact Local.error _
  by_cases hangle : d = '<'
  · subst hangle
    exact local_readAngled
  by_cases hnamed : d = 'P'
  · subst hnamed
    exact local_readMarked_named
  refine (local_readFlagOpening.behind (by rintro _ ⟨⟩) d).congr fun s => ?_
  rw [readMarked]
  all_goals simp [heq, hne, hangle, hnamed]

theorem local_readOpeningAt : Local readOpeningAt :=
  Local.mark '?' local_readMarked fun s hs => by rw [readOpeningAt]; exact hs

/-- The whole of an opening, which is all that is read behind a parenthesis. -/
theorem local_readOpening (verbose : Bool) : Local (readOpening verbose) :=
  (local_skip verbose).after fun _ => local_readOpeningAt

/-! ## Bounds -/

/-- A bound is read with the blanks around it, and need not be there at all. -/
theorem local_readBound (verbose : Bool) : Local fun s => .ok (readBound verbose s) := by
  have hdigits := (local_dropWhile isBlank).after fun _ =>
    local_takeSigns verbose Text.isDigit false
  have hblanks := hdigits.bind (fun digits rest => .ok (digits, rest.dropWhile isBlank))
    fun digits => (local_dropWhile isBlank).map fun _ => digits
  exact (hblanks.map boundOf).congr fun _ => rfl

/-- A repetition may be marked as taking as little as it can. -/
theorem local_dropLazyMark : Local fun s => .ok ((), dropLazyMark s) :=
  Local.mark '?' (Local.pure ()) fun s hs => by rw [dropLazyMark]; exact hs

/-- The closing brace behind bounds, which must be in order. -/
theorem local_closeBounds (verbose : Bool) (least : Nat) (most : Option Nat) :
    Local (closeBounds verbose least most) := by
  refine Local.cons rfl fun d => ?_
  by_cases hbrace : d = '}'
  · subst hbrace
    have hmark := (local_skip verbose).after fun _ => local_dropLazyMark
    cases most with
    | none => exact hmark.map fun _ => (least, none)
    | some m =>
      simp only [closeBounds]
      split_ifs
      · exact hmark.map fun _ => (least, some m)
      · exact Local.error _
  · refine (Local.error .boundsUnclosed).congr fun s => ?_
    rw [closeBounds]
    exact cons_ne_cons_of_ne hbrace _

/-- The end of bounds that are numbers, if they are. -/
theorem local_closeNumbered (verbose : Bool) (least most : Except Cause Nat) :
    Local (closeNumbered verbose least most) := by
  cases least with
  | error e => exact Local.error e
  | ok n =>
    cases most with
    | error e => exact Local.error e
    | ok m => exact local_closeBounds verbose n (some m)

theorem local_readNumbered (verbose : Bool) (least : Except Cause Nat) :
    Local (readNumbered verbose least) :=
  (local_readBound verbose).after fun most => local_closeNumbered verbose least most

/-- Bounds do not end at the end of the text. -/
theorem closeNumbered_nil (verbose : Bool) (least most : Except Cause Nat)
    (p : (Nat × Option Nat) × List Char) : closeNumbered verbose least most [] ≠ .ok p := by
  rcases least with e | n
  · rintro ⟨⟩
  · rcases most with e | m
    · rintro ⟨⟩
    · rintro ⟨⟩

/-- The greatest number of times, from behind the comma. -/
theorem local_readGreatest (verbose : Bool) (least : Except Cause Nat) :
    Local (readGreatest verbose least) := by
  refine Local.cons rfl fun d => ?_
  cases least with
  | error e => exact Local.error e
  | ok n =>
    simp only [readGreatest]
    split_ifs
    · exact (local_closeBounds verbose n none).behind (by rintro _ ⟨⟩) d
    · exact (local_readNumbered verbose (.ok n)).behind (by rintro _ ⟨⟩) d

/-- The rest of the bounds behind the least number of times. -/
theorem local_finishBounds (verbose : Bool) (least : Except Cause Nat) :
    Local (finishBounds verbose least) := by
  refine Local.cons rfl fun d => ?_
  by_cases hcomma : d = ','
  · subst hcomma
    exact (local_skip verbose).after fun _ => local_readGreatest verbose least
  · refine ((local_closeNumbered verbose least least).behind (closeNumbered_nil verbose _ _)
      d).congr fun s => ?_
    rw [finishBounds]
    · rintro ⟨⟩
    · exact cons_ne_cons_of_ne hcomma _

theorem local_readBoundsAt (verbose : Bool) : Local (readBoundsAt verbose) := by
  refine Local.cons rfl fun d => ?_
  refine (((local_readBound verbose).after fun least =>
    local_finishBounds verbose least).behind (by rintro _ ⟨⟩) d).congr fun s => ?_
  rw [readBoundsAt]
  rintro ⟨⟩

/-- The whole of the bounds of a repetition from behind the brace. -/
theorem local_readBounds (verbose : Bool) : Local (readBounds verbose) :=
  (local_skip verbose).after fun _ => local_readBoundsAt verbose

end PathWatch.Regex
