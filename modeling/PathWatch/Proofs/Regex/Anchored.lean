import Mathlib
import PathWatch.Proofs.Pattern.Pieces
import PathWatch.Proofs.Pattern.Spans
import PathWatch.Proofs.Regex.Enclosed
import PathWatch.Regex.Matcher
/-!
# Regular expressions for whole paths

A regular expression is compiled in a group between anchors, to which it is put as text. If it does
not close that group itself, it is a regular expression of its own, and the matcher accepts the
paths that it matches from the first character to the last. If it does, it is none, and the anchors
are bound to its two ends apart.

How large a compiled expression may be is left to the check that the matcher is given.
-/

namespace PathWatch

/-! ## Reading between the anchors -/

namespace Regex

/-- What is read where a regular expression is put between the anchors. -/
def anchoredNode (body : Node) : Node :=
  .concat [.primitive (.assertion .lineStart), .group {} body, .primitive (.assertion .lineEnd)]

/-- The group around a regular expression between the anchors. -/
def anchorFrame : Frame where
  change := {}
  before := [.primitive (.assertion .lineStart)]
  done := []
  verbose := false

/-- The anchors are read in two steps, and the pattern is read in the group that they open. -/
theorem run_anchored (text : List Char) (n : Nat) :
    ({} : Reader).run (n + 2) (RegexMatcher.anchored text) =
      (({} : Reader).within anchorFrame).run n (text ++ Reader.closing) := rfl

theorem body_closedWith (r : Reader) :
    (r.closedWith anchorFrame).body = anchoredNode r.body := rfl

theorem depth_anchoredNode (body : Node) : body.depth ≤ (anchoredNode body).depth := by
  simp only [anchoredNode, Node.depth, Node.depths]
  omega

/-- A text is parsed if the reader comes to its end, with no group open and with nothing nested
too deep. -/
theorem parse_ok {text : List Char} {node : Node} :
    parse text = .ok node ↔
      ∃ r, ({} : Reader).run (text.length + 1) text = .ok r ∧ r.frames = [] ∧
        r.body.depth ≤ nestLimit ∧ r.body = node := by
  rw [parse]
  cases hrun : ({} : Reader).run (text.length + 1) text with
  | error e => simp
  | ok r =>
    dsimp only
    constructor
    · intro h
      split_ifs at h with hframes hdepth
      cases h
      exact ⟨r, rfl, by simpa using hframes, Nat.not_lt.mp hdepth, rfl⟩
    · rintro ⟨_, ⟨⟩, hframes, hdepth, rfl⟩
      rw [if_neg (by simp [hframes]), if_neg (Nat.not_lt.mpr hdepth)]

/-- A regular expression between the anchors that does not close the group around it is read as it
is alone. -/
theorem parse_anchored {text : List Char} {node : Node}
    (h : parse (RegexMatcher.anchored text) = .ok node)
    (htext : parse text ≠ .error .groupUnopened) :
    ∃ body, parse text = .ok body ∧ node = anchoredNode body := by
  obtain ⟨r, hrun, hframes, hdepth, rfl⟩ := parse_ok.mp h
  have hlength : (RegexMatcher.anchored text).length + 1 = (text.length + 5) + 2 := by
    simp [RegexMatcher.anchored]
  rw [hlength, run_anchored] at hrun
  rcases Reader.run_within anchorFrame (by omega) (Nat.lt_succ_self text.length) hrun with
    hopened | hne | ⟨r₁, hrun₁, hframes₁, rfl⟩
  · refine absurd ?_ htext
    rw [parse, hopened]
  · exact absurd hframes hne
  · rw [body_closedWith] at hdepth
    exact ⟨r₁.body, parse_ok.mpr ⟨r₁, hrun₁, hframes₁, (depth_anchoredNode _).trans hdepth, rfl⟩,
      body_closedWith r₁⟩

/-! ## The meaning of the anchors -/

open Pattern

/-- The expression between conditions on the ends of the text. -/
def anchoredExpr (x : Expr) : Expr :=
  .concat (.look .textStart) (.concat x (.look .textEnd))

/-- The expression between the anchors is that of the pattern. -/
theorem toExpr_anchored {body : Node} {x : Expr} {g : Settings}
    (h : (anchoredNode body).toExpr {} = .ok (x, g)) :
    ∃ y g', body.toExpr {} = .ok (y, g') ∧ x = anchoredExpr y := by
  have hgroup : ({} : Settings).change {} = {} := rfl
  simp only [anchoredNode, Node.toExpr, exprsOfNodes, Primitive.toExpr, hgroup] at h
  rcases hbody : body.toExpr {} with e | ⟨y, g'⟩
  · rw [hbody] at h
    cases h
  · rw [hbody] at h
    cases h
    exact ⟨y, g', rfl, rfl⟩

/-- The anchors take no code. -/
theorem leastLength_anchoredExpr (x : Expr) : (anchoredExpr x).leastLength = x.leastLength := by
  simp only [anchoredExpr, Expr.leastLength, Nat.zero_add, Nat.add_zero]

theorem expression_ok {text : List Char} {x : Expr} :
    expression text = .ok x ↔
      ∃ node g, parse text = .ok node ∧ node.toExpr {} = .ok (x, g) := by
  rw [expression]
  constructor
  · intro h
    split at h
    · cases h
    · next node hparse =>
      split at h
      · cases h
      · next y g hnode =>
        cases h
        exact ⟨node, g, hparse, hnode⟩
  · rintro ⟨node, g, hparse, hnode⟩
    simp only [hparse, hnode]

/-- A regular expression between the anchors that does not close the group around it has the
expression that it has alone, between the anchors. -/
theorem expression_anchored {text : List Char} {y : Expr}
    (h : expression (RegexMatcher.anchored text) = .ok y)
    (htext : parse text ≠ .error .groupUnopened) :
    ∃ x, expression text = .ok x ∧ y = anchoredExpr x := by
  obtain ⟨node, g, hparse, hnode⟩ := expression_ok.mp h
  obtain ⟨body, hbody, rfl⟩ := parse_anchored hparse htext
  obtain ⟨x, g', hx, rfl⟩ := toExpr_anchored hnode
  exact ⟨x, expression_ok.mpr ⟨body, g', hbody, hx⟩, rfl⟩

/-- Between conditions on the ends of the text, an expression matches some piece only if that is the
whole text. -/
theorem matchesSome_anchoredExpr (x : Expr) (text : List Nat) :
    (anchoredExpr x).MatchesSome text ↔ x.MatchesAll text := by
  constructor
  · rintro ⟨before, _, behind, rfl, _, _, rfl, ⟨rfl, hstart⟩, piece, _, rfl, hpiece, rfl, hend⟩
    obtain rfl : before = [] := by
      simpa [Look.holds] using hstart
    obtain rfl : behind = [] := by
      simpa [Look.holds] using hend
    simpa [Expr.MatchesAll] using hpiece
  · intro h
    exact ⟨[], text, [], by simp, [], text, rfl, ⟨rfl, rfl⟩, text, [], by simp,
      by simpa [Expr.MatchesAll] using h, rfl, rfl⟩

end Regex

/-! ## Matchers -/

namespace RegexMatcher

open Regex

/-- The expression of a text is given out if there is one and the check lets the text pass. -/
theorem toExpr_ok {fits : SizeCheck} {text : List Char} {x : Pattern.Expr} :
    toExpr fits text = .ok x ↔ expression text = .ok x ∧ fits text = true := by
  rw [toExpr]
  cases expression text with
  | error cause => simp
  | ok y =>
    by_cases hfits : fits text = true <;> simp [hfits]

/-- A matcher is made from the expression of the pattern between the anchors. -/
theorem compile_ok {fits : SizeCheck} {pattern : String} {m : RegexMatcher} :
    compile pattern fits = .ok m ↔
      ∃ x, toExpr fits (anchored pattern.toList) = .ok x ∧ m = { pattern, expr := x } := by
  rw [compile]
  cases toExpr fits (anchored pattern.toList) <;> simp [eq_comm]

/-! ## Sizes -/

/-- A regular expression that is within the limit between the anchors is so without them. -/
def SizeCheck.RespectsAnchors (fits : SizeCheck) : Prop :=
  ∀ text x, expression text = .ok x → fits (anchored text) = true → fits text = true

theorem mayFit_iff {text : List Char} :
    mayFit text = true ↔
      ∃ x, expression text = .ok x ∧ x.leastLength * stateSize ≤ sizeLimit := by
  rw [mayFit]
  cases expression text <;> simp

/-- The anchors add nothing to what is counted when no other check is given. -/
theorem mayFit_respectsAnchors : SizeCheck.RespectsAnchors mayFit := by
  intro text x hx hfits
  obtain ⟨y, hy, hsize⟩ := mayFit_iff.mp hfits
  have hopened : parse text ≠ .error .groupUnopened := by
    obtain ⟨node, -, hparse, -⟩ := expression_ok.mp hx
    simp [hparse]
  obtain ⟨x', hx', rfl⟩ := expression_anchored hy hopened
  rw [leastLength_anchoredExpr] at hsize
  exact mayFit_iff.mpr ⟨x', hx', hsize⟩

/-- What is refused when no other check is given matches only texts that have more characters than
there may be states. -/
theorem lt_length_of_tooLarge {pattern : String}
    (hlarge : compile pattern = .error (.tooLarge sizeLimit)) :
    ∃ x, expression (anchored pattern.toList) = .ok x ∧
      ∀ text, x.MatchesSome text → sizeLimit < text.length * stateSize := by
  rw [compile, toExpr] at hlarge
  cases hx : expression (anchored pattern.toList) with
  | error cause => simp [hx] at hlarge
  | ok x =>
    refine ⟨x, rfl, ?_⟩
    rintro text ⟨before, piece, behind, rfl, hmatch⟩
    have hfits : ¬ mayFit (anchored pattern.toList) = true := by
      intro hfits
      simp [hx, hfits] at hlarge
    have hsize : sizeLimit < x.leastLength * stateSize := by
      by_contra hle
      exact hfits (mayFit_iff.mpr ⟨x, hx, Nat.not_lt.mp hle⟩)
    have hlength : x.leastLength ≤ (before ++ piece ++ behind).length := by
      have hpiece := Pattern.Expr.leastLength_le_length hmatch
      simp only [List.length_append]
      omega
    exact hsize.trans_le (Nat.mul_le_mul_right _ hlength)

/-! ## Whole paths -/

/-- A regular expression that does not close the group into which it is put is one by itself, and
its matcher accepts the paths that it matches from the first character to the last. If anchors bring
nothing within the limit that is not so without them, it is within the limit by itself, too. -/
theorem accepts_whole_paths {fits : SizeCheck} {pattern : String} {m : RegexMatcher}
    (hcompile : compile pattern fits = .ok m)
    (hopened : parse pattern.toList ≠ .error .groupUnopened) :
    ∃ x, expression pattern.toList = .ok x ∧
      (∀ path : String, m.isMatch path = true ↔ x.MatchesAll (path.toList.map Char.toNat)) ∧
      (fits.RespectsAnchors → toExpr fits pattern.toList = .ok x) := by
  obtain ⟨_, hexpr, rfl⟩ := compile_ok.mp hcompile
  obtain ⟨hanchored, hfits⟩ := toExpr_ok.mp hexpr
  obtain ⟨x, hx, rfl⟩ := expression_anchored hanchored hopened
  refine ⟨x, hx, fun path => ?_, fun hrespects => toExpr_ok.mpr ⟨hx, hrespects _ x hx hfits⟩⟩
  rw [isMatch, Pattern.Expr.matchesSome_iff, matchesSome_anchoredExpr]

theorem accepts_whole_paths_of_lines :
    ∃ m, compile "(?m)^a$|[b-d]+" = .ok m ∧
      parse "(?m)^a$|[b-d]+".toList ≠ .error .groupUnopened ∧
      ∃ x, toExpr mayFit "(?m)^a$|[b-d]+".toList = .ok x ∧
        ∀ path : String, m.isMatch path = true ↔ x.MatchesAll (path.toList.map Char.toNat) := by
  have hcompile : compile "(?m)^a$|[b-d]+" = .ok _ := rfl
  have hopened : parse "(?m)^a$|[b-d]+".toList ≠ .error .groupUnopened := by rintro ⟨⟩
  obtain ⟨x, -, hmatch, hexpr⟩ := accepts_whole_paths hcompile hopened
  exact ⟨_, hcompile, hopened, x, hexpr mayFit_respectsAnchors, hmatch⟩

/-- Where the text closes the group into which it is put, it need be no regular expression, and a
path is accepted for what it begins with. -/
theorem accepts_beginning_of_path :
    ∃ m, compile "a)|(?:b" = .ok m ∧ m.isMatch "ax" = true ∧
      expression "a)|(?:b".toList = .error .groupUnopened :=
  ⟨_, rfl, rfl, rfl⟩

end RegexMatcher

end PathWatch
