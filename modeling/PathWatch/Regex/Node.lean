import PathWatch.Pattern.Expr
/-!
# Regular expressions as they are written

A regular expression is a tree of nodes. The tree keeps what was written apart from what it means:
a property is known by its name only, and a change of flags stands where it was made.
-/

namespace PathWatch.Regex

/-! ## Flags -/

/-- A switch that changes how the text behind it is read or what it means. -/
inductive Flag where
  /-- Both cases of a letter match. -/
  | ignoreCase
  /-- The anchors match at lines and not only at the ends of the text. -/
  | multiLine
  /-- A dot takes a line feed, too. -/
  | dotTakesNewline
  /-- Repetitions take as little as they can, unless told otherwise. -/
  | swapGreed
  /-- Characters are those of the text, and not bytes. -/
  | unicode
  /-- Lines may end in a carriage return. -/
  | crlf
  /-- Blanks and comments in the regular expression are passed over. -/
  | verbose
  deriving DecidableEq, Repr

/-- The flag of a letter. -/
def Flag.ofChar? : Char → Option Flag
  | 'i' => some .ignoreCase
  | 'm' => some .multiLine
  | 's' => some .dotTakesNewline
  | 'U' => some .swapGreed
  | 'u' => some .unicode
  | 'R' => some .crlf
  | 'x' => some .verbose
  | _ => none

/-- The flags that are switched on and those that are switched off. -/
structure FlagChange where
  on : List Flag := []
  off : List Flag := []
  deriving DecidableEq, Repr

/-- The state of a flag after a change, given the one before. -/
def FlagChange.apply (change : FlagChange) (flag : Flag) (before : Bool) : Bool :=
  if change.on.contains flag then true
  else if change.off.contains flag then false
  else before

/-! ## Single characters -/

/-- A character that stands for itself. `isByte` says that it was written as a byte of two
hexadecimal digits. -/
structure Literal where
  char : Char
  isByte : Bool := false
  deriving DecidableEq, Repr

/-- The three sets of characters with an escape of one letter. -/
inductive Shorthand where
  | digit
  | space
  | word
  deriving DecidableEq, Repr

/-- What is asked of a property: to be there, or to have a value. -/
inductive PropertyQuery where
  | name (name : List Char)
  | value (name value : List Char)
  deriving DecidableEq, Repr

/-- A set of characters that is known by a name. -/
inductive NamedSet where
  | shorthand (kind : Shorthand)
  | property (query : PropertyQuery)
  deriving DecidableEq, Repr

/-- A condition on a place in the text. -/
inductive Assertion where
  | lineStart
  | lineEnd
  | textStart
  | textEnd
  | word (side : Pattern.WordSide)
  deriving DecidableEq, Repr

/-- A part that holds no other one. -/
inductive Primitive where
  | literal (l : Literal)
  | dot
  | assertion (a : Assertion)
  | named (negated : Bool) (set : NamedSet)
  deriving DecidableEq, Repr

/-! ## Classes -/

/-- The sets of characters below 128 that have a name of their own in classes. -/
inductive AsciiSet where
  | alnum
  | alpha
  | ascii
  | blank
  | cntrl
  | digit
  | graph
  | lower
  | print
  | punct
  | space
  | upper
  | word
  | xdigit
  deriving DecidableEq, Repr

/-- An operation on two sets. -/
inductive SetOperation where
  | intersection
  | difference
  | symmetricDifference
  deriving DecidableEq, Repr

/-- What stands between the brackets of a class. -/
inductive ClassSet where
  | literal (l : Literal)
  | range (first last : Literal)
  | ascii (negated : Bool) (set : AsciiSet)
  | named (negated : Bool) (set : NamedSet)
  /-- A class inside a class. -/
  | bracketed (negated : Bool) (set : ClassSet)
  | union (items : List ClassSet)
  | operation (op : SetOperation) (left right : ClassSet)
  deriving Repr

namespace ClassSet

/-- Items side by side. A single item stands for itself. -/
def ofItems : List ClassSet → ClassSet
  | [item] => item
  | items => .union items

mutual

/-- How deep classes and their operations are nested. No item at all does not count as a level. -/
def depth : ClassSet → Nat
  | .bracketed _ set => set.depth + 1
  | .union [] => 0
  | .union items => depths items + 1
  | .operation _ left right => max left.depth right.depth + 1
  | _ => 0

/-- The greatest depth of several sets. -/
def depths : List ClassSet → Nat
  | [] => 0
  | set :: rest => max set.depth (depths rest)

end

end ClassSet

/-! ## Nodes -/

/-- A regular expression. -/
inductive Node where
  | empty
  /-- A change of flags for the rest of the group. -/
  | flags (change : FlagChange)
  | primitive (p : Primitive)
  | bracketed (negated : Bool) (set : ClassSet)
  | repetition (body : Node) (least : Nat) (most : Option Nat)
  /-- A group, with the flags that are changed inside of it. -/
  | group (change : FlagChange) (body : Node)
  | alternation (choices : List Node)
  | concat (parts : List Node)
  deriving Repr

namespace Node

/-- Nodes one after another. A single node stands for itself. -/
def ofParts : List Node → Node
  | [] => .empty
  | [part] => part
  | parts => .concat parts

/-- Nodes of which one has to match. A single node stands for itself. -/
def ofChoices : List Node → Node
  | [choice] => choice
  | choices => .alternation choices

/-- Whether a node can be repeated. -/
def isRepeatable : Node → Bool
  | .empty => false
  | .flags _ => false
  | _ => true

mutual

/-- How deep the nodes are nested that hold others. -/
def depth : Node → Nat
  | .bracketed _ set => set.depth + 1
  | .repetition body _ _ => body.depth + 1
  | .group _ body => body.depth + 1
  | .alternation choices => depths choices + 1
  | .concat parts => depths parts + 1
  | _ => 0

/-- The greatest depth of several nodes. -/
def depths : List Node → Nat
  | [] => 0
  | node :: rest => max node.depth (depths rest)

end

end Node

end PathWatch.Regex
