import PathWatch.Unicode.CodeSet
/-!
# Pattern expressions

Globs and regular expressions both come down to expressions over sets of codes, which are bytes for
the ones and code points for the others. An expression matches a piece of a text; what stands before
and behind the piece matters to those parts that look around without taking anything.
-/

namespace PathWatch.Pattern

/-! ## Looking around -/

/-- Where a place in a text stands to the words of the text. -/
inductive WordSide where
  /-- A word starts or ends here. -/
  | boundary
  /-- No word starts or ends here. -/
  | inside
  | start
  | finish
  /-- No word character stands before. -/
  | startHalf
  /-- No word character stands behind. -/
  | finishHalf
  deriving DecidableEq, Repr

/-- A condition on the codes next to a place in a text. -/
inductive Look where
  | textStart
  | textEnd
  | lineStart
  | lineEnd
  /-- Lines may also end in a carriage return, but never between it and a line feed. -/
  | lineStartCrlf
  | lineEndCrlf
  /-- A condition on words, which are made of the codes of a set. -/
  | word (letters : CodeSet) (side : WordSide)
  deriving DecidableEq, Repr

/-- The code of a line feed. -/
def lineFeed : Nat := 0x0A

/-- The code of a carriage return. -/
def carriageReturn : Nat := 0x0D

/-- Whether a code is there and in a set. -/
def isIn (set : CodeSet) : Option Nat → Bool
  | none => false
  | some c => set.contains c

/-- Whether a condition holds at a place, given the code before it and the code behind it. -/
def Look.holds (k : Look) (before behind : Option Nat) : Bool :=
  match k with
  | .textStart => before.isNone
  | .textEnd => behind.isNone
  | .lineStart => before.isNone || before == some lineFeed
  | .lineEnd => behind.isNone || behind == some lineFeed
  | .lineStartCrlf =>
    before.isNone || before == some lineFeed ||
      (before == some carriageReturn && behind != some lineFeed)
  | .lineEndCrlf =>
    behind.isNone || behind == some carriageReturn ||
      (behind == some lineFeed && before != some carriageReturn)
  | .word letters .boundary => isIn letters before != isIn letters behind
  | .word letters .inside => isIn letters before == isIn letters behind
  | .word letters .start => !isIn letters before && isIn letters behind
  | .word letters .finish => isIn letters before && !isIn letters behind
  | .word letters .startHalf => !isIn letters before
  | .word letters .finishHalf => !isIn letters behind

/-! ## Expressions -/

/-- A pattern expression. -/
inductive Expr where
  | empty
  /-- One code of a set. -/
  | symbol (set : CodeSet)
  | look (k : Look)
  | concat (a b : Expr)
  | alternate (a b : Expr)
  /-- At least `least` and at most `most` times the same. -/
  | iterate (a : Expr) (least : Nat) (most : Option Nat)
  deriving DecidableEq, Repr

namespace Expr

/-- One code. -/
def code (c : Nat) : Expr := .symbol (.single c)

/-- Expressions one after another. -/
def sequence : List Expr → Expr
  | [] => .empty
  | [a] => a
  | a :: rest => .concat a (sequence rest)

/-- One of several expressions; of none, what matches nothing. -/
def anyOf : List Expr → Expr
  | [] => .symbol .empty
  | [a] => a
  | a :: rest => .alternate a (anyOf rest)

/-- Any number of times the same. -/
def star (a : Expr) : Expr := .iterate a 0 none

/-- Once or not at all. -/
def optional (a : Expr) : Expr := .iterate a 0 (some 1)

/-! ## Meaning -/

/-- A relation between the text before a piece, the piece, and the text behind it. -/
abbrev Relation := List Nat → List Nat → List Nat → Prop

/-- `n` pieces one after another, each of which satisfies the relation. -/
def Power (p : Relation) : Nat → Relation
  | 0, _, piece, _ => piece = []
  | n + 1, before, piece, behind =>
    ∃ x y, piece = x ++ y ∧ p before x (y ++ behind) ∧ Power p n (before ++ x) y behind

/-- Whether an expression matches the piece between two texts. -/
def Matches : Expr → Relation
  | .empty, _, piece, _ => piece = []
  | .symbol set, _, piece, _ => ∃ c, piece = [c] ∧ set.contains c = true
  | .look k, before, piece, behind => piece = [] ∧ k.holds before.getLast? behind.head? = true
  | .concat a b, before, piece, behind =>
    ∃ x y, piece = x ++ y ∧ a.Matches before x (y ++ behind) ∧ b.Matches (before ++ x) y behind
  | .alternate a b, before, piece, behind =>
    a.Matches before piece behind ∨ b.Matches before piece behind
  | .iterate a least most, before, piece, behind =>
    ∃ n, least ≤ n ∧ (∀ m, most = some m → n ≤ m) ∧ Power a.Matches n before piece behind

/-- The expression matches the whole text. -/
def MatchesAll (e : Expr) (text : List Nat) : Prop :=
  e.Matches [] text []

/-- The expression matches some piece of the text. -/
def MatchesSome (e : Expr) (text : List Nat) : Prop :=
  ∃ before piece behind, text = before ++ piece ++ behind ∧ e.Matches before piece behind

/-! ## Length -/

/-- The least number of codes that a piece has which the expression matches, as far as can be told
without looking at sets and conditions. -/
def leastLength : Expr → Nat
  | .empty => 0
  | .symbol _ => 1
  | .look _ => 0
  | .concat a b => a.leastLength + b.leastLength
  | .alternate a b => min a.leastLength b.leastLength
  | .iterate a least _ => a.leastLength * least

end Expr

end PathWatch.Pattern
