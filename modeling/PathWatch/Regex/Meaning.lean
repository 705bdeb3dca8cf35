import PathWatch.Regex.Error
import PathWatch.Regex.Node
import PathWatch.Unicode.PropertyName
/-!
# What regular expressions mean

A tree of nodes becomes an expression over code points. Flags are followed from left to right: a
change lasts to the end of its group. Where characters are bytes, what could match a
part of a character is refused; so such an expression is about characters, too.
-/

namespace PathWatch.Regex

open Pattern

/-! ## Settings -/

/-- The flags that matter for what is matched. -/
structure Settings where
  ignoreCase : Bool := false
  multiLine : Bool := false
  dotTakesNewline : Bool := false
  unicode : Bool := true
  crlf : Bool := false
  deriving DecidableEq, Repr

/-- The settings after a change of flags. -/
def Settings.change (f : Settings) (c : FlagChange) : Settings where
  ignoreCase := c.apply .ignoreCase f.ignoreCase
  multiLine := c.apply .multiLine f.multiLine
  dotTakesNewline := c.apply .dotTakesNewline f.dotTakesNewline
  unicode := c.apply .unicode f.unicode
  crlf := c.apply .crlf f.crlf

/-- The set with the other cases of its letters, if case does not matter. -/
def Settings.fold (f : Settings) (set : CodeSet) : CodeSet :=
  if !f.ignoreCase then set
  else if f.unicode then .caseClosure set
  else .asciiCaseClosure set

/-- The set or its complement. The complement of a set of bytes has bytes that are only a part of a
character. -/
def Settings.negate (f : Settings) (negated : Bool) (set : CodeSet) : Except Cause CodeSet :=
  if !negated then .ok set
  else if f.unicode then .ok (.complement set)
  else .error .partOfCharacter

/-! ## Sets -/

/-- The digits from `0` to `9`. -/
def asciiDigits : CodeSet := .range 0x30 0x39

/-- The letters from `A` to `Z`. -/
def asciiCapitals : CodeSet := .range 0x41 0x5A

/-- The letters from `a` to `z`. -/
def asciiSmalls : CodeSet := .range 0x61 0x7A

/-- The characters of words in ASCII. -/
def asciiWord : CodeSet := .unions [asciiDigits, asciiCapitals, asciiSmalls, .single 0x5F]

/-- The blanks in ASCII. -/
def asciiSpace : CodeSet := .union (.range 0x09 0x0D) (.single 0x20)

/-- The characters of words. -/
def wordCharacters : CodeSet :=
  .unions
    [Unicode.Property.alphabetic, Unicode.Category.mark, Unicode.Category.decimalNumber,
      Unicode.Category.connectorPunctuation, Unicode.Property.joinControl]

/-- The members of a set with a name in ASCII. -/
def AsciiSet.members : AsciiSet → CodeSet
  | .alnum => .unions [asciiDigits, asciiCapitals, asciiSmalls]
  | .alpha => .union asciiCapitals asciiSmalls
  | .ascii => .range 0x00 0x7F
  | .blank => .union (.single 0x09) (.single 0x20)
  | .cntrl => .union (.range 0x00 0x1F) (.single 0x7F)
  | .digit => asciiDigits
  | .graph => .range 0x21 0x7E
  | .lower => asciiSmalls
  | .print => .range 0x20 0x7E
  | .punct => .unions [.range 0x21 0x2F, .range 0x3A 0x40, .range 0x5B 0x60, .range 0x7B 0x7E]
  | .space => asciiSpace
  | .upper => asciiCapitals
  | .word => asciiWord
  | .xdigit => .unions [asciiDigits, .range 0x41 0x46, .range 0x61 0x66]

/-- The members of a set with an escape of one letter. -/
def Shorthand.members (unicode : Bool) : Shorthand → CodeSet
  | .digit => if unicode then Unicode.Category.decimalNumber else asciiDigits
  | .space => if unicode then Unicode.Property.whiteSpace else asciiSpace
  | .word => if unicode then wordCharacters else asciiWord

/-- The characters that a property is asked for. -/
def PropertyQuery.members (query : PropertyQuery) : Except Cause CodeSet :=
  let answer :=
    match query with
    | .name property => Unicode.charactersNamed property
    | .value property wanted => Unicode.charactersWithValue property wanted
  match answer with
  | .ok set => .ok set
  | .error .propertyUnknown => .error .propertyUnknown
  | .error .valueUnknown => .error .propertyValueUnknown

/-- The members of a set that is known by a name. The sets with an escape of one letter hold both
cases of their letters anyway. -/
def NamedSet.members (f : Settings) (negated : Bool) : NamedSet → Except Cause CodeSet
  | .shorthand kind => f.negate negated (kind.members f.unicode)
  | .property query =>
    if !f.unicode then .error .unicodeNotAllowed
    else
      match query.members with
      | .error e => .error e
      | .ok set => f.negate negated (f.fold set)

/-- The code point of a literal in a class. Where characters are bytes, it has to be below 128. -/
def Literal.code (f : Settings) (l : Literal) : Except Cause Nat :=
  if f.unicode || l.char.toNat < 0x80 then .ok l.char.toNat
  else if l.isByte then .error .partOfCharacter
  else .error .unicodeNotAllowed

/-- The result of an operation on two sets. -/
def SetOperation.apply : SetOperation → CodeSet → CodeSet → CodeSet
  | .intersection, a, b => .intersection a b
  | .difference, a, b => .difference a b
  | .symmetricDifference, a, b => .symmetricDifference a b

mutual

/-- The members of what stands in a class. -/
def ClassSet.members (f : Settings) : ClassSet → Except Cause CodeSet
  | .literal l =>
    match l.code f with
    | .error e => .error e
    | .ok c => .ok (.single c)
  | .range first last =>
    match first.code f with
    | .error e => .error e
    | .ok a =>
      match last.code f with
      | .error e => .error e
      | .ok b => .ok (.range a b)
  | .ascii negated set => f.negate negated (f.fold set.members)
  | .named negated set => set.members f negated
  | .bracketed negated set =>
    match set.members f with
    | .error e => .error e
    | .ok inner => f.negate negated (f.fold inner)
  | .union items =>
    match membersOfItems f items with
    | .error e => .error e
    | .ok sets => .ok (.unions sets)
  | .operation op left right =>
    match left.members f with
    | .error e => .error e
    | .ok a =>
      match right.members f with
      | .error e => .error e
      | .ok b => .ok (op.apply (f.fold a) (f.fold b))

/-- The members of each of several items. -/
def membersOfItems (f : Settings) : List ClassSet → Except Cause (List CodeSet)
  | [] => .ok []
  | item :: rest =>
    match item.members f with
    | .error e => .error e
    | .ok set => (membersOfItems f rest).map (set :: ·)

end

/-! ## Expressions -/

/-- The condition of an assertion. -/
def Assertion.look (f : Settings) : Assertion → Look
  | .lineStart =>
    if !f.multiLine then .textStart else if f.crlf then .lineStartCrlf else .lineStart
  | .lineEnd => if !f.multiLine then .textEnd else if f.crlf then .lineEndCrlf else .lineEnd
  | .textStart => .textStart
  | .textEnd => .textEnd
  | .word side => .word (if f.unicode then wordCharacters else asciiWord) side

/-- What a dot takes. -/
def Settings.dot (f : Settings) : CodeSet :=
  if f.dotTakesNewline then .all
  else if f.crlf then .complement (.union (.single carriageReturn) (.single lineFeed))
  else .complement (.single lineFeed)

/-- The expression of a literal. Where characters are bytes, a byte that is a part of a character is
refused; a whole character still matches itself. -/
def Literal.toExpr (f : Settings) (l : Literal) : Except Cause Expr :=
  if !f.unicode && l.isByte && 0x80 ≤ l.char.toNat then .error .partOfCharacter
  else .ok (.symbol (f.fold (.single l.char.toNat)))

/-- The expression of a part that holds no other one. -/
def Primitive.toExpr (f : Settings) : Primitive → Except Cause Expr
  | .literal l => l.toExpr f
  | .dot => if f.unicode then .ok (.symbol f.dot) else .error .partOfCharacter
  | .assertion a => .ok (.look (a.look f))
  | .named negated set => (set.members f negated).map .symbol

mutual

/-- The expression of a node under given settings, and the settings behind the node. -/
def Node.toExpr (f : Settings) : Node → Except Cause (Expr × Settings)
  | .empty => .ok (.empty, f)
  | .flags change => .ok (.empty, f.change change)
  | .primitive p =>
    match p.toExpr f with
    | .error e => .error e
    | .ok x => .ok (x, f)
  | .bracketed negated set =>
    match (ClassSet.bracketed negated set).members f with
    | .error e => .error e
    | .ok members => .ok (.symbol members, f)
  | .repetition body least most =>
    match body.toExpr f with
    | .error e => .error e
    | .ok (x, f) => .ok (.iterate x least most, f)
  | .group change body =>
    match body.toExpr (f.change change) with
    | .error e => .error e
    | .ok (x, _) => .ok (x, f)
  | .alternation choices =>
    match exprsOfNodes f choices with
    | .error e => .error e
    | .ok (xs, f) => .ok (.anyOf xs, f)
  | .concat parts =>
    match exprsOfNodes f parts with
    | .error e => .error e
    | .ok (xs, f) => .ok (.sequence xs, f)

/-- The expressions of nodes from left to right, and the settings behind the last one. -/
def exprsOfNodes (f : Settings) : List Node → Except Cause (List Expr × Settings)
  | [] => .ok ([], f)
  | node :: rest =>
    match node.toExpr f with
    | .error e => .error e
    | .ok (x, f) =>
      match exprsOfNodes f rest with
      | .error e => .error e
      | .ok (xs, f) => .ok (x :: xs, f)

end

end PathWatch.Regex
