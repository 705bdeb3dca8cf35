import PathWatch.Pattern.Positions
import PathWatch.Regex.Meaning
import PathWatch.Regex.Parser
/-!
# Regular expression matchers

A matcher for whole paths is compiled from a regular expression that is put into a group between
anchors as text. It decides for each path whether the expression so written matches anywhere.
-/

namespace PathWatch

/-- A compiled regular expression. -/
structure RegexMatcher where
  pattern : String
  expr : Pattern.Expr

/-- The expression of a text that is a regular expression. -/
def Regex.expression (text : List Char) : Except Regex.Cause Pattern.Expr :=
  match Regex.parse text with
  | .error cause => .error cause
  | .ok node =>
    match node.toExpr {} with
    | .error cause => .error cause
    | .ok (x, _) => .ok x

namespace RegexMatcher

/-! ## Sizes -/

/-- The greatest size of a compiled expression in bytes. -/
def sizeLimit : Nat := 10485760

/-- Says of the text of a regular expression whether it is within the limit once it is compiled.
What a compiled expression takes depends on the automata that it is compiled to; they are the
business of the library of regular expressions, and matchers take its answer as it is. -/
abbrev SizeCheck := List Char → Bool

/-- The bytes that a state of an automaton takes. -/
def stateSize : Nat := 32

/-- The check of matchers for which no other one is given. It counts the states that no automaton
can do without, one for each character of the shortest text that is matched. So it passes whatever
is within the limit, but not only that. -/
def mayFit : SizeCheck := fun text =>
  match Regex.expression text with
  | .error _ => false
  | .ok x => x.leastLength * stateSize ≤ sizeLimit

/-! ## Compiling -/

/-- The text of a regular expression as a group between anchors. -/
def anchored (pattern : List Char) : List Char :=
  ['^', '(', '?', ':'] ++ pattern ++ [')', '$']

/-- The expression of a regular expression that is within the limit. -/
def toExpr (fits : SizeCheck) (text : List Char) : Except Regex.Error Pattern.Expr :=
  match Regex.expression text with
  | .error cause => .error (.invalid cause)
  | .ok x => if fits text then .ok x else .error (.tooLarge sizeLimit)

/-- Compiles a regular expression that is within the limit as `fits` says. -/
def compile (pattern : String) (fits : SizeCheck := mayFit) : Except Regex.Error RegexMatcher :=
  match toExpr fits (anchored pattern.toList) with
  | .error e => .error e
  | .ok expr => .ok { pattern, expr }

/-- Whether the regular expression matches a path. -/
def isMatch (m : RegexMatcher) (path : String) : Bool :=
  m.expr.matchesSome (path.toList.map Char.toNat)

end RegexMatcher

end PathWatch
