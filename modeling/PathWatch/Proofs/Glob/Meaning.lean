import Mathlib
import PathWatch.Glob.Matcher
import PathWatch.Proofs.Pattern.Pieces
import PathWatch.Proofs.Pattern.Spans
import PathWatch.Proofs.Text.Bytes
/-!
# What the tokens of a glob take

Each token takes pieces of bytes that can be told without an expression: a literal its own bytes, a
wildcard bytes other than a slash, a double star anything that its slashes allow. A row of tokens
takes one piece after another.
-/

namespace PathWatch.Glob

open Pattern
open Text (charBytes)

variable {before piece behind : List Nat}

/-! ## Single tokens -/

theorem contains_exceptSlash {b : Nat} (hb : b < 256) :
    exceptSlash.contains b = true ↔ b ≠ slash := by
  simp [exceptSlash, anyByte, CodeSet.single, slash]
  omega

/-- A literal takes exactly the bytes of its character. -/
theorem matches_literal (c : Char) :
    (Token.literal c).toExpr.Matches before piece behind ↔ piece = charBytes c :=
  Expr.matches_sequence_code (charBytes c)

/-- A question mark takes one byte, whatever it is but a slash. -/
theorem matches_any (hbytes : ∀ b ∈ piece, b < 256) :
    Token.any.toExpr.Matches before piece behind ↔ ∃ b, piece = [b] ∧ b ≠ slash := by
  refine exists_congr fun b => and_congr_right ?_
  rintro rfl
  exact contains_exceptSlash (hbytes b (List.mem_singleton_self b))

/-- A single star takes any bytes among which there is no slash. -/
theorem matches_zeroOrMore (hbytes : ∀ b ∈ piece, b < 256) :
    Token.zeroOrMore.toExpr.Matches before piece behind ↔ slash ∉ piece := by
  rw [Token.toExpr, Expr.matches_star_symbol]
  constructor
  · intro hall hslash
    exact (contains_exceptSlash (hbytes _ hslash)).mp (hall _ hslash) rfl
  · intro hslash b hb
    exact (contains_exceptSlash (hbytes b hb)).mpr fun heq => hslash (heq ▸ hb)

/-! ## Double stars -/

/-- What a double star stands for takes any bytes, slashes too. -/
theorem matches_anything (hbytes : ∀ b ∈ piece, b < 256) :
    anything.Matches before piece behind := by
  rw [anything, Expr.matches_star_symbol]
  intro b hb
  have hlt := hbytes b hb
  simp [anyByte]
  omega

/-- Anything and a slash behind it. -/
theorem matches_anything_slash (hbytes : ∀ b ∈ piece, b < 256) :
    (Expr.concat anything (.code slash)).Matches before piece behind ↔
      ∃ x, piece = x ++ [slash] := by
  simp only [Expr.Matches, Expr.matches_code]
  constructor
  · rintro ⟨x, _, rfl, -, rfl⟩
    exact ⟨x, rfl⟩
  · rintro ⟨x, rfl⟩
    exact ⟨x, [slash], rfl, matches_anything (List.forall_mem_append.mp hbytes).1, rfl⟩

/-- A double star at the start takes nothing, or anything that ends in a slash. -/
theorem matches_recursivePrefix (hbytes : ∀ b ∈ piece, b < 256) :
    Token.recursivePrefix.toExpr.Matches before piece behind ↔
      piece = [] ∨ ∃ x, piece = x ++ [slash] := by
  rw [Token.toExpr, Expr.Matches, matches_anything_slash hbytes, Expr.matches_optional_code]
  constructor
  · rintro ((rfl | rfl) | hslash)
    · exact Or.inl rfl
    · exact Or.inr ⟨[], rfl⟩
    · exact Or.inr hslash
  · rintro (rfl | hslash)
    · exact Or.inl (Or.inl rfl)
    · exact Or.inr hslash

/-- A double star at the end takes a slash and anything behind it. -/
theorem matches_recursiveSuffix (hbytes : ∀ b ∈ piece, b < 256) :
    Token.recursiveSuffix.toExpr.Matches before piece behind ↔ ∃ x, piece = slash :: x := by
  simp only [Token.toExpr, Expr.Matches, Expr.matches_code]
  constructor
  · rintro ⟨_, x, rfl, rfl, -⟩
    exact ⟨x, rfl⟩
  · rintro ⟨x, rfl⟩
    exact ⟨[slash], x, rfl, rfl, matches_anything (List.forall_mem_cons.mp hbytes).2⟩

/-- A double star between slashes takes one slash for both of them, or both and anything between. -/
theorem matches_recursiveZeroOrMore (hbytes : ∀ b ∈ piece, b < 256) :
    Token.recursiveZeroOrMore.toExpr.Matches before piece behind ↔
      piece = [slash] ∨ ∃ x, piece = slash :: (x ++ [slash]) := by
  rw [Token.toExpr, Expr.Matches, Expr.matches_code]
  refine or_congr_right ?_
  rw [Expr.Matches]
  simp only [Expr.matches_code]
  constructor
  · rintro ⟨_, y, rfl, rfl, hy⟩
    obtain ⟨-, hrest⟩ := List.forall_mem_cons.mp hbytes
    obtain ⟨x, rfl⟩ := (matches_anything_slash hrest).mp hy
    exact ⟨x, rfl⟩
  · rintro ⟨x, rfl⟩
    obtain ⟨-, hrest⟩ := List.forall_mem_cons.mp hbytes
    exact ⟨[slash], x ++ [slash], rfl, rfl, (matches_anything_slash hrest).mpr ⟨x, rfl⟩⟩

/-! ## Rows -/

/-- The first token of a row takes its piece in view of what the rest takes. -/
theorem matches_cons (t : Token) (ts : List Token) :
    (rowToExpr (t :: ts)).Matches before piece behind ↔
      ∃ x y, piece = x ++ y ∧ t.toExpr.Matches before x (y ++ behind) ∧
        (rowToExpr ts).Matches (before ++ x) y behind := Iff.rfl

theorem matches_singleton (t : Token) :
    (rowToExpr [t]).Matches before piece behind ↔ t.toExpr.Matches before piece behind := by
  rw [matches_cons]
  constructor
  · rintro ⟨x, _, rfl, hx, rfl⟩
    simpa using hx
  · intro hpiece
    exact ⟨piece, [], by simp, by simpa using hpiece, rfl⟩

/-- Literals at the beginning of a row take their own bytes, and the rest takes what is left. -/
theorem matches_literals_append (l : List Char) (ts : List Token) :
    (rowToExpr (l.map .literal ++ ts)).Matches before piece behind ↔
      ∃ rest, piece = l.flatMap charBytes ++ rest ∧
        (rowToExpr ts).Matches (before ++ l.flatMap charBytes) rest behind := by
  induction l generalizing before piece with
  | nil => simp
  | cons c l ih =>
    rw [List.map_cons, List.cons_append, matches_cons, List.flatMap_cons]
    simp only [matches_literal, ih]
    constructor
    · rintro ⟨_, _, rfl, rfl, rest, rfl, hrest⟩
      exact ⟨rest, by simp, by simpa using hrest⟩
    · rintro ⟨rest, rfl, hrest⟩
      exact ⟨_, _, by simp, rfl, rest, rfl, by simpa using hrest⟩

theorem matches_literals (l : List Char) :
    (rowToExpr (l.map .literal)).Matches before piece behind ↔ piece = l.flatMap charBytes := by
  rw [← List.append_nil (l.map Token.literal), matches_literals_append]
  simp [rowToExpr, Expr.Matches]

/-! ## Alternatives -/

theorem isVoidRow_literals {l : List Char} (hl : l ≠ []) :
    isVoidRow (l.map .literal) = false := by
  obtain ⟨c, l, rfl⟩ := List.exists_cons_of_ne_nil hl
  rfl

/-- Alternatives that are not empty are all kept, each with its own expression. -/
theorem choicesToExprs_literals {choices : List (List Char)} (hchoices : [] ∉ choices) :
    choicesToExprs (choices.map fun l => l.map .literal) =
      choices.map fun l => rowToExpr (l.map .literal) := by
  induction choices with
  | nil => rfl
  | cons l choices ih =>
    obtain ⟨hl, hrest⟩ := not_or.mp fun h => hchoices (List.mem_cons.mpr h)
    rw [List.map_cons, choicesToExprs, isVoidRow_literals fun h => hl h.symm, ih hrest]
    rfl

/-- A group of literals takes the bytes of one of its alternatives. -/
theorem matches_alternates {choices : List (List Char)} (hne : choices ≠ [])
    (hchoices : [] ∉ choices) :
    (Token.alternates (choices.map fun l => l.map .literal)).toExpr.Matches before piece behind ↔
      ∃ l ∈ choices, piece = l.flatMap charBytes := by
  have hvoid : areVoid (choices.map fun l => l.map .literal) = false := by
    obtain ⟨l, rest, rfl⟩ := List.exists_cons_of_ne_nil hne
    have hl : l ≠ [] := fun h => hchoices (h ▸ List.mem_cons_self)
    rw [List.map_cons, areVoid, isVoidRow_literals hl, Bool.false_and]
  rw [Token.toExpr, hvoid, if_neg Bool.false_ne_true, choicesToExprs_literals hchoices,
    Expr.matches_anyOf]
  simp only [List.mem_map, exists_exists_and_eq_and, matches_literals]

/-! ## Whole globs -/

theorem ne_of_mem {tokens : List Token} {t : Token} (ht : t ∈ tokens)
    (hne : t ≠ .recursivePrefix) : tokens ≠ [.recursivePrefix] := by
  rintro rfl
  exact hne (List.mem_singleton.mp ht)

/-- A double star that is the whole glob is the only row that is not followed token by token. -/
theorem toExpr_of_ne {tokens : List Token} (hne : tokens ≠ [.recursivePrefix]) :
    toExpr tokens = rowToExpr tokens := by
  rw [toExpr]
  exact hne

/-- A glob matches a path if its row of tokens takes all bytes of the path. -/
theorem isMatch_iff {m : GlobMatcher} (hne : m.tokens ≠ [.recursivePrefix]) (path : String) :
    m.isMatch path = true ↔ (rowToExpr m.tokens).Matches [] (Text.bytes path) [] := by
  rw [GlobMatcher.isMatch, Expr.matchesAll_iff, toExpr_of_ne hne]
  rfl

end PathWatch.Glob
