import PathWatch.Pattern.Expr
/-!
# Matching by sets of positions

A text of `n` codes has the positions `0` to `n`. A set of positions is a number whose binary digits
say which positions belong to it. From the positions at which a piece may start, an expression leads
to those at which it may end; sets are followed all at once, so no choice is ever tried twice.
-/

namespace PathWatch.Pattern

/-! ## Sets of positions -/

/-- A set of positions; position `i` belongs to it when binary digit `i` is one. -/
abbrev Positions := Nat

namespace Positions

/-- The set of a position in front of a text, if `here` says so, and of positions of the text. -/
def cons (here : Bool) (others : Positions) : Positions :=
  2 * others + here.toNat

/-- The positions in front of a code of a set. -/
def ofSymbol (set : CodeSet) : List Nat → Positions
  | [] => 0
  | c :: text => cons (set.contains c) (ofSymbol set text)

/-- The positions where a condition holds, of a text behind a given code. -/
def ofLook (k : Look) (before : Option Nat) : List Nat → Positions
  | [] => cons (k.holds before none) 0
  | c :: text => cons (k.holds before (some c)) (ofLook k (some c) text)

/-- All positions of a text of `n` codes. -/
def upTo (n : Nat) : Positions := Nat.pow 2 (n + 1) - 1

/-- Applies a step until it leads to no new position, at most `fuel` times. -/
def closure (step : Positions → Positions) : Nat → Positions → Positions
  | 0, s => s
  | fuel + 1, s =>
    let next := s ||| step s
    if next = s then s else closure step fuel next

/-- Applies a step `n` times. A set that the step does not change stays as it is. -/
def power (step : Positions → Positions) : Nat → Positions → Positions
  | 0, s => s
  | n + 1, s =>
    let next := step s
    if next = s then s else power step n next

/-- Applies a step at most `n` times. A set that the step does not change stays as it is. -/
def atMost (step : Positions → Positions) : Nat → Positions → Positions
  | 0, s => s
  | n + 1, s =>
    let next := step s
    if next = s then s else s ||| atMost step n next

end Positions

/-! ## Following an expression -/

/-- The positions at which a piece can end that the expression matches and that starts at one of the
given positions. -/
def Expr.reach (text : List Nat) : Expr → Positions → Positions
  | .empty, s => s
  | .symbol set, s => (s &&& Positions.ofSymbol set text) <<< 1
  | .look k, s => s &&& Positions.ofLook k none text
  | .concat a b, s => if s = 0 then 0 else b.reach text (a.reach text s)
  | .alternate a b, s => if s = 0 then 0 else a.reach text s ||| b.reach text s
  | .iterate a least most, s =>
    let required := Positions.power (a.reach text) least s
    match most with
    | none => Positions.closure (a.reach text) (text.length + 1) required
    | some m =>
      if m < least then 0 else Positions.atMost (a.reach text) (m - least) required

/-- Whether the expression matches the whole text. -/
def Expr.matchesAll (e : Expr) (text : List Nat) : Bool :=
  (e.reach text 1).testBit text.length

/-- Whether the expression matches some piece of the text. -/
def Expr.matchesSome (e : Expr) (text : List Nat) : Bool :=
  e.reach text (Positions.upTo text.length) ≠ 0

end PathWatch.Pattern
