import PathWatch.Regex.Bounds
import PathWatch.Regex.Class
import PathWatch.Regex.Opening
/-!
# Reading regular expressions

The reader goes through the text once. It keeps the nodes of the alternative it is in, the
alternatives beside it that are complete, and the groups around it. A tree that is nested too deep
is refused when all of it has been read.

The reader is recursive on a bound that is at least the length of the text.
-/

namespace PathWatch.Regex

/-- A group that is being read. -/
structure Frame where
  /-- The flags that the group changes. -/
  change : FlagChange
  /-- The nodes in front of the group, the last one first. -/
  before : List Node
  /-- The alternatives beside those nodes that are complete, the last one first. -/
  done : List Node
  /-- Whether the reader was in verbose mode in front of the group. -/
  verbose : Bool
  deriving Repr

/-- What has been read. -/
structure Reader where
  /-- The nodes of the current alternative, the last one first. -/
  parts : List Node := []
  /-- The alternatives beside it that are complete, the last one first. -/
  done : List Node := []
  /-- The groups around it, the innermost first. -/
  frames : List Frame := []
  /-- The names of the groups that were opened. -/
  names : List (List Char) := []
  verbose : Bool := false
  deriving Repr

namespace Reader

/-- Adds a node. -/
def push (r : Reader) (node : Node) : Reader :=
  { r with parts := node :: r.parts }

/-- The current alternative. -/
def alternative (r : Reader) : Node :=
  .ofParts r.parts.reverse

/-- What was read of the current group. -/
def body (r : Reader) : Node :=
  .ofChoices (r.alternative :: r.done).reverse

/-- Starts the next alternative. -/
def nextAlternative (r : Reader) : Reader :=
  { r with parts := [], done := r.alternative :: r.done }

/-- Opens a group. -/
def openGroup (r : Reader) (change : FlagChange) : Reader :=
  { r with
    parts := []
    done := []
    frames := ⟨change, r.parts, r.done, r.verbose⟩ :: r.frames
    verbose := change.apply .verbose r.verbose }

/-- Closes a group. -/
def closeGroup (r : Reader) : Except Cause Reader :=
  match r.frames with
  | [] => .error .groupUnopened
  | f :: frames =>
    .ok { r with
      parts := .group f.change r.body :: f.before
      done := f.done
      frames
      verbose := f.verbose }

/-- Begins what a parenthesis begins. -/
def begin (r : Reader) (o : Opening) : Except Cause Reader :=
  match o with
  | .group change => .ok (r.openGroup change)
  | .named name =>
    if r.names.contains name then .error .nameRepeated
    else .ok { r.openGroup {} with names := name :: r.names }
  | .flags change =>
    .ok { r.push (.flags change) with verbose := change.apply .verbose r.verbose }

/-- Takes away the last node in order to repeat it. -/
def popOperand (r : Reader) : Except Cause (Node × Reader) :=
  match r.parts with
  | [] => .error .nothingToRepeat
  | node :: parts =>
    if node.isRepeatable then .ok (node, { r with parts }) else .error .nothingToRepeat

/-- Repeats the last node. -/
def repeatLast (r : Reader) (least : Nat) (most : Option Nat) (s : List Char) :
    Except Cause (Reader × List Char) :=
  match r.popOperand with
  | .error e => .error e
  | .ok (node, r) => .ok (r.push (.repetition node least most), dropLazyMark s)

/-- Repeats the last node as often as the braces say. -/
def repeatBounded (r : Reader) (s : List Char) : Except Cause (Reader × List Char) :=
  match r.popOperand with
  | .error e => .error e
  | .ok (node, r) =>
    match readBounds r.verbose s with
    | .error e => .error e
    | .ok ((least, most), rest) => .ok (r.push (.repetition node least most), rest)

/-- Reads what begins with a sign. -/
def step (r : Reader) (c : Char) (s : List Char) : Except Cause (Reader × List Char) :=
  match c with
  | '(' =>
    match readOpening r.verbose s with
    | .error e => .error e
    | .ok (o, rest) => (r.begin o).map fun r => (r, rest)
  | ')' => r.closeGroup.map fun r => (r, s)
  | '|' => .ok (r.nextAlternative, s)
  | '[' =>
    match readClass r.verbose s with
    | .error e => .error e
    | .ok (node, rest) => .ok (r.push node, rest)
  | '?' => r.repeatLast 0 (some 1) s
  | '*' => r.repeatLast 0 none s
  | '+' => r.repeatLast 1 none s
  | '{' => r.repeatBounded s
  | '\\' =>
    match readEscape r.verbose s with
    | .error e => .error e
    | .ok (p, rest) => .ok (r.push (.primitive p), rest)
  | '.' => .ok (r.push (.primitive .dot), s)
  | '^' => .ok (r.push (.primitive (.assertion .lineStart)), s)
  | '$' => .ok (r.push (.primitive (.assertion .lineEnd)), s)
  | c => .ok (r.push (.primitive (.literal { char := c })), s)

/-- Reads the rest of the text. -/
def run : Nat → Reader → List Char → Except Cause Reader
  | 0, r, _ => .ok r
  | fuel + 1, r, s =>
    match skip r.verbose s with
    | [] => .ok r
    | c :: rest =>
      match r.step c rest with
      | .error e => .error e
      | .ok (r, rest) => run fuel r rest

end Reader

/-- How deep nodes may be nested. -/
def nestLimit : Nat := 250

/-- Reads a text as a regular expression. -/
def parse (text : List Char) : Except Cause Node :=
  match ({} : Reader).run (text.length + 1) text with
  | .error e => .error e
  | .ok r =>
    if !r.frames.isEmpty then .error .groupUnclosed
    else if nestLimit < r.body.depth then .error (.nestedTooDeep nestLimit)
    else .ok r.body

end PathWatch.Regex
