import PathWatch.Unicode.RangeTable
import PathWatch.Unicode.CaseFold
/-!
# Sets of code points

A set is written as an expression over single spans and tables, and whether a code point belongs to
it is found by evaluating the expression. So every operation on sets is exact, whatever the order
and the overlap of the spans.
-/

namespace PathWatch

/-- A set of code points. -/
inductive CodeSet where
  | empty
  /-- The code points from the first to the last one. -/
  | range (first last : Nat)
  | table (t : Unicode.RangeTable)
  | union (a b : CodeSet)
  | intersection (a b : CodeSet)
  | difference (a b : CodeSet)
  | complement (a : CodeSet)
  /-- The set with every code point that differs from one of its members in case only. -/
  | caseClosure (a : CodeSet)
  /-- The set with both cases of each of its letters from `a` to `z`. -/
  | asciiCaseClosure (a : CodeSet)
  deriving DecidableEq, Repr

namespace CodeSet

/-! ## Membership -/

/-- The other case of a letter from `a` to `z`. -/
def swapAsciiCase (c : Nat) : Nat :=
  if 0x41 ≤ c && c ≤ 0x5A then c + 0x20
  else if 0x61 ≤ c && c ≤ 0x7A then c - 0x20
  else c

/-- Whether a code point belongs to the set. -/
def contains : CodeSet → Nat → Bool
  | .empty, _ => false
  | .range first last, c => first ≤ c && c ≤ last
  | .table t, c => t.contains c
  | .union a b, c => a.contains c || b.contains c
  | .intersection a b, c => a.contains c && b.contains c
  | .difference a b, c => a.contains c && !b.contains c
  | .complement a, c => !a.contains c
  | .caseClosure a, c => (Unicode.caseFamily c).any fun d => a.contains d
  | .asciiCaseClosure a, c => a.contains c || a.contains (swapAsciiCase c)

/-! ## Further sets -/

/-- Every code point. -/
def all : CodeSet := .complement .empty

/-- A single code point. -/
def single (c : Nat) : CodeSet := .range c c

/-- The code points of any of the sets. -/
def unions : List CodeSet → CodeSet
  | [] => .empty
  | [a] => a
  | a :: rest => .union a (unions rest)

/-- The code points of exactly one of two sets. -/
def symmetricDifference (a b : CodeSet) : CodeSet :=
  .difference (.union a b) (.intersection a b)

@[simp] theorem contains_empty (c : Nat) : empty.contains c = false := rfl

@[simp] theorem contains_range (first last c : Nat) :
    (range first last).contains c = (decide (first ≤ c) && decide (c ≤ last)) := rfl

@[simp] theorem contains_union (a b : CodeSet) (c : Nat) :
    (union a b).contains c = (a.contains c || b.contains c) := rfl

@[simp] theorem contains_intersection (a b : CodeSet) (c : Nat) :
    (intersection a b).contains c = (a.contains c && b.contains c) := rfl

@[simp] theorem contains_difference (a b : CodeSet) (c : Nat) :
    (difference a b).contains c = (a.contains c && !b.contains c) := rfl

@[simp] theorem contains_complement (a : CodeSet) (c : Nat) :
    (complement a).contains c = !a.contains c := rfl

@[simp] theorem contains_all (c : Nat) : all.contains c = true := rfl

theorem contains_single (c d : Nat) : (single c).contains d = true ↔ d = c := by
  simp [single]; omega

end CodeSet

end PathWatch
