import PathWatch.Pattern.Expr
import PathWatch.Text.Basic
/-!
# Globs

A glob is a row of tokens. Globs are about bytes: a character of several bytes is as many literal
bytes, a class is a set of single bytes, and a wildcard takes one byte after another. Only a class
and a double star can take a slash that is not written out.
-/

namespace PathWatch.Glob

/-! ## Tokens -/

/-- One part of a glob. -/
inductive Token where
  | literal (c : Char)
  /-- One byte other than a slash. -/
  | any
  /-- Any number of bytes other than a slash. -/
  | zeroOrMore
  /-- A double star at the start: nothing, or anything that ends in a slash. -/
  | recursivePrefix
  /-- A double star at the end: a slash and anything. -/
  | recursiveSuffix
  /-- A double star between slashes: a slash, or two with anything between them. -/
  | recursiveZeroOrMore
  /-- One byte of a class, which is given by spans of characters. -/
  | class (negated : Bool) (spans : List (Char × Char))
  /-- One of several alternatives. -/
  | alternates (choices : List (List Token))
  deriving Repr

/-! ## Errors -/

/-- Why a text is not a glob. -/
inductive Cause where
  | unclosedClass
  | invalidRange (first last : Char)
  | unopenedAlternates
  | unclosedAlternates
  | danglingEscape
  deriving DecidableEq, Repr

/-- The words for a cause. -/
def Cause.describe : Cause → String
  | .unclosedClass => "unclosed character class; missing ']'"
  | .invalidRange first last =>
    "invalid range; '" ++ String.ofList [first] ++ "' > '" ++ String.ofList [last] ++ "'"
  | .unopenedAlternates =>
    "unopened alternate group; missing '\x7b' (maybe escape '\x7d' with '[\x7d]'?)"
  | .unclosedAlternates =>
    "unclosed alternate group; missing '\x7d' (maybe escape '\x7b' with '[\x7b]'?)"
  | .danglingEscape => "dangling '\\'"

/-- The failure of reading a glob. -/
structure Error where
  glob : String
  cause : Cause
  deriving DecidableEq, Repr

/-- The message for a text that is not a glob. -/
def Error.message (e : Error) : String :=
  "error parsing glob '" ++ e.glob ++ "': " ++ e.cause.describe

/-! ## Meaning of tokens -/

open Pattern
open Text (charBytes)

/-- The code of a slash. -/
def slash : Nat := 0x2F

/-- Every byte. -/
def anyByte : CodeSet := .range 0 0xFF

/-- Every byte but the slash. -/
def exceptSlash : CodeSet := .difference anyByte (.single slash)

/-- The bytes of the characters at the ends of a span, and those between the last byte of the first
and the first byte of the last character. -/
def spanBytes (first last : Char) : CodeSet :=
  if first = last then .unions ((charBytes first).map .single)
  else
    let low := charBytes first
    let high := charBytes last
    .union (.range (low.getLast?.getD 0) (high.head?.getD 0))
      (.union (.unions (low.dropLast.map .single)) (.unions (high.tail.map .single)))

/-- The bytes of a class. -/
def classBytes (negated : Bool) (spans : List (Char × Char)) : CodeSet :=
  let listed := CodeSet.unions (spans.map fun s => spanBytes s.1 s.2)
  if negated then .difference anyByte listed else listed

/-- Anything at all. -/
def anything : Expr := .star (.symbol anyByte)

mutual

/-- Whether a token stands for no text in the expression of a glob: it is a group without
alternatives. -/
def Token.isVoid : Token → Bool
  | .alternates choices => areVoid choices
  | _ => false

/-- Whether all alternatives are void. -/
def areVoid : List (List Token) → Bool
  | [] => true
  | choice :: rest => isVoidRow choice && areVoid rest

/-- Whether all tokens of a row are void. -/
def isVoidRow : List Token → Bool
  | [] => true
  | t :: rest => t.isVoid && isVoidRow rest

end

mutual

/-- The expression of a token. -/
def Token.toExpr : Token → Expr
  | .literal c => .sequence ((charBytes c).map .code)
  | .any => .symbol exceptSlash
  | .zeroOrMore => .star (.symbol exceptSlash)
  | .recursivePrefix =>
    .alternate (.optional (.code slash)) (.concat anything (.code slash))
  | .recursiveSuffix => .concat (.code slash) anything
  | .recursiveZeroOrMore =>
    .alternate (.code slash) (.concat (.code slash) (.concat anything (.code slash)))
  | .class negated spans => .symbol (classBytes negated spans)
  | .alternates choices =>
    if areVoid choices then .empty else .anyOf (choicesToExprs choices)

/-- The expressions of the alternatives, of which void ones are left out. -/
def choicesToExprs : List (List Token) → List Expr
  | [] => []
  | choice :: rest =>
    if isVoidRow choice then choicesToExprs rest
    else rowToExpr choice :: choicesToExprs rest

/-- The expression of a row of tokens. -/
def rowToExpr : List Token → Expr
  | [] => .empty
  | t :: rest => .concat t.toExpr (rowToExpr rest)

end

/-- The expression of a glob. A double star that is the whole glob matches everything. -/
def toExpr (tokens : List Token) : Expr :=
  match tokens with
  | [.recursivePrefix] => anything
  | _ => rowToExpr tokens

end PathWatch.Glob
