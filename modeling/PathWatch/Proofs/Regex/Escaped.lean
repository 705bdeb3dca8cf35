import Mathlib
import PathWatch.Proofs.Pattern.Pieces
import PathWatch.Proofs.Regex.Anchored
/-!
# Escaped texts

A text with a backslash in front of every sign that means something is read as the row of its own
characters. So it is a regular expression for that text and no other, unless it is refused for the
size that it has when it is compiled.
-/

namespace PathWatch

namespace Regex

/-! ## Escaping -/

/-- The signs that are written behind a backslash. -/
def escapedSigns : List Char :=
  ['\\', '.', '+', '*', '?', '(', ')', '|', '[', ']', '{', '}', '^', '$', '#', '&', '-', '~']

/-- Characters with a backslash in front of every sign that needs one. -/
def escapeChars (s : List Char) : List Char :=
  s.flatMap fun c => if c ∈ escapedSigns then ['\\', c] else [c]

/-- A text with a backslash in front of every sign that needs one. -/
def escape (s : String) : String :=
  String.ofList (escapeChars s.toList)

theorem length_le_length_escapeChars (s : List Char) : s.length ≤ (escapeChars s).length := by
  induction s with
  | nil => exact Nat.le_refl 0
  | cons c s ih =>
    rw [escapeChars, List.flatMap_cons, ← escapeChars, List.length_append, List.length_cons]
    split_ifs <;> simp only [List.length_cons, List.length_nil] <;> omega

/-! ## Reading -/

/-- The node of a character that stands for itself. -/
def literalNode (c : Char) : Node :=
  .primitive (.literal { char := c })

namespace Reader

/-- A sign behind a backslash is read as itself. -/
theorem step_escaped (r : Reader) {c : Char} (hc : c ∈ escapedSigns) (rest : List Char) :
    r.step '\\' (c :: rest) = .ok (r.push (literalNode c), rest) := by
  have hmeta : isMeta c = true := List.contains_iff_mem.mpr hc
  have hescapable : isEscapable c = true := by rw [isEscapable, hmeta, Bool.true_or]
  simp only [step, readEscape, hescapable, if_true]
  rfl

/-- A sign that needs no backslash is read as itself. -/
theorem step_plain (r : Reader) {c : Char} (hc : c ∉ escapedSigns) (rest : List Char) :
    r.step c rest = .ok (r.push (literalNode c), rest) := by
  simp only [escapedSigns, List.mem_cons, List.not_mem_nil, or_false, not_or] at hc
  rw [step.eq_def]
  -- Every branch but the last one asks for one of the signs.
  split
  all_goals first | rfl | simp_all

/-- An escaped text is read character by character, and every character is a node. -/
theorem run_escapeChars {r : Reader} (hr : r.verbose = false) (n : Nat) (s rest : List Char) :
    r.run (n + s.length) (escapeChars s ++ rest) =
      ({ r with parts := (s.map literalNode).reverse ++ r.parts } : Reader).run n rest := by
  -- Each character takes one unit of fuel, with its backslash or without.
  induction s generalizing r with
  | nil => rfl
  | cons c s ih =>
    have hstep : r.run (n + s.length + 1) (escapeChars (c :: s) ++ rest) =
        (r.push (literalNode c)).run (n + s.length) (escapeChars s ++ rest) := by
      have hskip : ∀ u, skip r.verbose u = u := fun u => by rw [hr, skip_false]
      rw [escapeChars, List.flatMap_cons, ← escapeChars, List.append_assoc]
      split_ifs with hc
      · rw [List.cons_append, List.singleton_append, run_of_skip (hskip _), step_escaped r hc]
        rfl
      · rw [List.singleton_append, run_of_skip (hskip _), step_plain r hc]
        rfl
    rw [List.length_cons, ← Nat.add_assoc, hstep, ih (r := r.push (literalNode c)) hr]
    simp [push]

end Reader

/-- The node of a row of characters. -/
def literalsNode (s : List Char) : Node :=
  .ofParts (s.map literalNode)

/-- A reader that has read a row of characters. -/
def readerOf (s : List Char) : Reader where
  parts := (s.map literalNode).reverse

theorem body_readerOf (s : List Char) : (readerOf s).body = literalsNode s := by
  rw [Reader.body, Reader.alternative, readerOf, List.reverse_reverse]
  rfl

/-- The closing text ends the group around the characters, and the reader comes to the end. -/
theorem run_escaped_anchored (s : List Char) :
    ({} : Reader).run ((RegexMatcher.anchored (escapeChars s)).length + 1)
        (RegexMatcher.anchored (escapeChars s)) =
      .ok ((readerOf s).closedWith anchorFrame) := by
  have hle := length_le_length_escapeChars s
  -- The fuel is measured by signs, of which there are no fewer than characters.
  obtain ⟨k, hk⟩ : ∃ k, (RegexMatcher.anchored (escapeChars s)).length + 1 =
      (k + 2 + s.length) + 2 :=
    ⟨(escapeChars s).length - s.length + 3, by simp [RegexMatcher.anchored]; omega⟩
  have hparts : (s.map literalNode).reverse ++ (({} : Reader).within anchorFrame).parts =
      (readerOf s).parts := List.append_nil _
  rw [hk, run_anchored, Reader.run_escapeChars rfl, hparts]
  exact Reader.run_nil ((readerOf s).closedWith anchorFrame) k

theorem depths_literals (s : List Char) : Node.depths (s.map literalNode) = 0 := by
  induction s with
  | nil => rfl
  | cons c s ih =>
    rw [List.map_cons, Node.depths, ih]
    rfl

theorem depth_literalsNode_le (s : List Char) : (literalsNode s).depth ≤ 1 := by
  rcases s with _ | ⟨c, _ | ⟨d, s⟩⟩
  · exact Nat.zero_le 1
  · exact Nat.zero_le 1
  · have hdepth : (literalsNode (c :: d :: s)).depth =
        Node.depths ((c :: d :: s).map literalNode) + 1 := rfl
    rw [hdepth, depths_literals]

/-- An escaped text between the anchors is the row of its characters between the anchors. -/
theorem parse_escaped (s : List Char) :
    parse (RegexMatcher.anchored (escapeChars s)) = .ok (anchoredNode (literalsNode s)) := by
  have hbody : ((readerOf s).closedWith anchorFrame).body = anchoredNode (literalsNode s) := by
    rw [body_closedWith, body_readerOf]
  have hdepth : (anchoredNode (literalsNode s)).depth ≤ nestLimit := by
    have hle := depth_literalsNode_le s
    simp only [anchoredNode, Node.depth, Node.depths, nestLimit]
    omega
  exact parse_ok.mpr ⟨_, run_escaped_anchored s, rfl, hbody ▸ hdepth, hbody⟩

/-! ## Meaning -/

open Pattern

/-- The code points of a row of characters. -/
def codesOf (s : List Char) : List Nat :=
  s.map Char.toNat

theorem exprsOfNodes_literals (s : List Char) :
    exprsOfNodes {} (s.map literalNode) = .ok ((codesOf s).map Expr.code, {}) := by
  induction s with
  | nil => rfl
  | cons c s ih =>
    have hnode : (literalNode c).toExpr {} = .ok (Expr.code c.toNat, {}) := rfl
    rw [List.map_cons, exprsOfNodes, hnode]
    dsimp only
    rw [ih]
    rfl

/-- Literals become the sequence of their codes. -/
theorem toExpr_literalsNode (s : List Char) :
    (literalsNode s).toExpr {} = .ok (.sequence ((codesOf s).map Expr.code), {}) := by
  rcases s with _ | ⟨c, _ | ⟨d, s⟩⟩
  · rfl
  · rfl
  · have hconcat : literalsNode (c :: d :: s) = .concat ((c :: d :: s).map literalNode) := rfl
    rw [hconcat, Node.toExpr, exprsOfNodes_literals]

theorem toExpr_escaped (s : List Char) :
    (anchoredNode (literalsNode s)).toExpr {} =
      .ok (anchoredExpr (.sequence ((codesOf s).map Expr.code)), {}) := by
  have hgroup : ({} : Settings).change {} = {} := rfl
  simp only [anchoredNode, Node.toExpr, exprsOfNodes, Primitive.toExpr, hgroup,
    toExpr_literalsNode]
  rfl

/-- The expression of an escaped text between the anchors. -/
theorem expression_escaped (s : List Char) :
    expression (RegexMatcher.anchored (escapeChars s)) =
      .ok (anchoredExpr (.sequence ((codesOf s).map Expr.code))) :=
  expression_ok.mpr ⟨_, _, parse_escaped s, toExpr_escaped s⟩

/-- Texts of the same code points are the same. -/
theorem codesOf_injective : Function.Injective codesOf :=
  List.map_injective_iff.mpr fun c d h => by
    rw [← Char.ofNat_toNat c, h, Char.ofNat_toNat]

end Regex

/-! ## Matchers -/

namespace RegexMatcher

open Regex Pattern

/-- The matcher of an escaped text, unless it is refused for its size. -/
theorem compile_escape (fits : SizeCheck) (s : String) :
    compile (escape s) fits =
      if fits (anchored (escape s).toList) then
        .ok ⟨escape s, anchoredExpr (.sequence ((codesOf s.toList).map Expr.code))⟩
      else .error (.tooLarge sizeLimit) := by
  have hexpr : expression (anchored (escape s).toList) =
      .ok (anchoredExpr (.sequence ((codesOf s.toList).map Expr.code))) := by
    rw [escape, String.toList_ofList, expression_escaped]
  rw [compile, toExpr, hexpr]
  dsimp only
  split_ifs <;> rfl

/-- An escaped text that is within the limit is a regular expression for itself: its matcher accepts
that text and no other path. -/
theorem accepts_escaped_text {fits : SizeCheck} (s : String)
    (hfits : fits (anchored (escape s).toList) = true) :
    ∃ m, compile (escape s) fits = .ok m ∧ m.pattern = escape s ∧
      ∀ path : String, m.isMatch path = true ↔ path = s := by
  rw [compile_escape, if_pos hfits]
  refine ⟨_, rfl, rfl, fun path => ?_⟩
  rw [isMatch, Expr.matchesSome_iff, matchesSome_anchoredExpr, Expr.MatchesAll,
    Expr.matches_sequence_code, ← String.toList_inj]
  exact codesOf_injective.eq_iff

/-- A dot, a line feed, a parenthesis and a character of two bytes. -/
theorem accepts_escaped_text_of_line :
    mayFit (anchored (escape "a.\n(é").toList) = true ∧
      ∃ m, compile "a\\.\n\\(é" = .ok m ∧ m.isMatch "a.\n(é" = true ∧
        m.isMatch "ab\n(é" = false := by
  have hescape : escape "a.\n(é" = "a\\.\n\\(é" := by rfl
  have hfits : mayFit (anchored (escape "a.\n(é").toList) = true := by decide
  obtain ⟨m, hm, -, hmatch⟩ := accepts_escaped_text "a.\n(é" hfits
  refine ⟨hfits, m, hescape ▸ hm, (hmatch _).mpr rfl, ?_⟩
  by_contra hother
  exact absurd ((hmatch _).mp (by simpa using hother)) (by decide)

end RegexMatcher

end PathWatch
