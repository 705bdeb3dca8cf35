import PathWatch.Regex.Blank
import PathWatch.Regex.Error
import PathWatch.Regex.Node
import PathWatch.Text.Basic
/-!
# Escapes

What stands behind a backslash: a sign that stands for itself, a character that is hard to write, a
set of characters, or a condition on a place.
-/

namespace PathWatch.Regex

/-! ## Characters by number -/

/-- The character of a number. -/
def charOfNumber (n : Nat) : Except Cause Char :=
  if n.isValidChar then .ok (Char.ofNat n) else .error .hexNoCharacter

/-- Reads a given number of hexadecimal digits, after those that are worth `value` already. -/
def readHexDigits (verbose : Bool) : Nat → Nat → List Char → Except Cause (Nat × List Char)
  | 0, value, s => .ok (value, s)
  | _ + 1, _, [] => .error .escapeUnfinished
  | n + 1, value, c :: s =>
    match Text.hexValue? c with
    | none => .error .hexInvalidDigit
    | some d => readHexDigits verbose n (value * 16 + d) (skip verbose s)

/-- Reads the closing brace behind hexadecimal digits. -/
def closeHexBraces (verbose : Bool) (digits : List Char) :
    List Char → Except Cause (Nat × List Char)
  | [] => .error .escapeUnfinished
  | c :: rest =>
    if c ≠ '}' then .error .hexInvalidDigit
    else if digits.isEmpty then .error .hexEmpty
    else
      .ok (digits.foldl (fun n d => n * 16 + (Text.hexValue? d).getD 0) 0, skip verbose rest)

/-- Reads hexadecimal digits up to a closing brace, from behind the opening one. -/
def readHexBraces (verbose : Bool) (s : List Char) : Except Cause (Nat × List Char) :=
  let (digits, rest) := takeSigns verbose (fun c => (Text.hexValue? c).isSome) false s
  closeHexBraces verbose digits rest

/-- Reads the number of a character, and whether it is that of a byte. In place of the fixed number
of digits there may be any number of them in braces. -/
def readHexNumber (verbose : Bool) (digits : Nat) :
    List Char → Except Cause ((Nat × Bool) × List Char)
  | [] => .error .escapeUnfinished
  | '{' :: s => (readHexBraces verbose s).map fun (n, rest) => ((n, false), rest)
  | s => (readHexDigits verbose digits 0 s).map fun (n, rest) => ((n, digits = 2), rest)

/-- Reads a character by number, from behind the letter of the escape. -/
def readHex (verbose : Bool) (digits : Nat) (s : List Char) :
    Except Cause (Primitive × List Char) :=
  match readHexNumber verbose digits (skip verbose s) with
  | .error e => .error e
  | .ok ((n, isByte), rest) =>
    match charOfNumber n with
    | .error e => .error e
    | .ok c => .ok (.literal { char := c, isByte }, rest)

/-! ## Properties -/

/-- The texts before and behind the first place where a mark stands. -/
def splitAtMark (mark : List Char) : List Char → Option (List Char × List Char)
  | [] => none
  | c :: s =>
    if mark.isPrefixOf (c :: s) then some ([], (c :: s).drop mark.length)
    else (splitAtMark mark s).map fun (before, behind) => (c :: before, behind)

/-- What is asked by the text in the braces of a property, and whether the answer is turned round:
the mark `!=` asks for the characters with any other value. -/
def PropertyQuery.ofChars (s : List Char) : Bool × PropertyQuery :=
  match splitAtMark ['!', '='] s with
  | some (property, wanted) => (true, .value property wanted)
  | none =>
    match splitAtMark [':'] s <|> splitAtMark ['='] s with
    | some (property, wanted) => (false, .value property wanted)
    | none => (false, .name s)

/-- Reads the closing brace behind the name of a property. -/
def closeProperty (negated : Bool) (inner : List Char) :
    List Char → Except Cause (Primitive × List Char)
  | [] => .error .escapeUnfinished
  | _ :: rest =>
    let (turned, query) := PropertyQuery.ofChars inner
    .ok (.named (negated != turned) (.property query), rest)

/-- Reads the name of a property from its first sign: one letter, or a text in braces. -/
def readPropertyName (verbose negated : Bool) : List Char → Except Cause (Primitive × List Char)
  | [] => .error .escapeUnfinished
  | '{' :: s =>
    let (inner, rest) := takeSigns verbose (· ≠ '}') false s
    closeProperty negated inner rest
  | c :: s =>
    if c = '\\' then .error .propertyEscapeInvalid
    else .ok (.named negated (.property (.name [c])), skip verbose s)

/-- Reads the name of a property, from behind the letter of the escape. -/
def readProperty (verbose negated : Bool) (s : List Char) :
    Except Cause (Primitive × List Char) :=
  readPropertyName verbose negated (skip verbose s)

/-! ## Places in words -/

/-- Letters in the name of a side of a word. -/
def isSideLetter (c : Char) : Bool :=
  ('A' ≤ c && c ≤ 'Z') || ('a' ≤ c && c ≤ 'z') || c = '-'

/-- The side of a word with a name. -/
def sideNamed (name : List Char) : Option Pattern.WordSide :=
  if name = "start".toList then some .start
  else if name = "end".toList then some .finish
  else if name = "start-half".toList then some .startHalf
  else if name = "end-half".toList then some .finishHalf
  else none

/-- Reads the closing brace behind the name of a side. -/
def closeSide (name : List Char) : List Char → Except Cause (Pattern.WordSide × List Char)
  | '}' :: rest =>
    match sideNamed name with
    | some side => .ok (side, rest)
    | none => .error .wordSideUnknown
  | _ => .error .wordSideUnclosed

/-- Reads the name of a side of a word and the closing brace. -/
def readSideName (verbose : Bool) (s : List Char) : Except Cause (Pattern.WordSide × List Char) :=
  let (name, rest) := takeSigns verbose isSideLetter false s
  closeSide name rest

/-- Reads the side of a word that may stand in braces, from behind the letter of the escape. Braces
around something else are left for the bounds of a repetition. -/
def readSide (verbose : Bool) (s : List Char) : Except Cause (Pattern.WordSide × List Char) :=
  match s with
  | '{' :: inner =>
    match skip verbose inner with
    | [] => .error .wordSideOrBoundsUnfinished
    | c :: r => if !isSideLetter c then .ok (.boundary, s) else readSideName verbose (c :: r)
  | _ => .ok (.boundary, s)

/-! ## Escapes -/

/-- The signs that mean something in a regular expression. -/
def isMeta (c : Char) : Bool :=
  ['\\', '.', '+', '*', '?', '(', ')', '|', '[', ']', '{', '}', '^', '$', '#', '&', '-',
    '~'].contains c

/-- Whether a character stands for itself behind a backslash. Letters and digits are kept for other
purposes, and so are the angle brackets. -/
def isEscapable (c : Char) : Bool :=
  isMeta c || (c.toNat < 0x80 && !c.isAlphanum && c ≠ '<' && c ≠ '>')

/-- Reads an escape from behind its backslash. -/
def readEscape (verbose : Bool) : List Char → Except Cause (Primitive × List Char)
  | [] => .error .escapeUnfinished
  | c :: s =>
    let literal (d : Char) : Except Cause (Primitive × List Char) :=
      .ok (.literal { char := d }, s)
    let place (a : Assertion) : Except Cause (Primitive × List Char) := .ok (.assertion a, s)
    let set (negated : Bool) (kind : Shorthand) : Except Cause (Primitive × List Char) :=
      .ok (.named negated (.shorthand kind), s)
    if isEscapable c then literal c
    else if Text.isDigit c then .error .backreference
    else
      match c with
      | 'x' => readHex verbose 2 s
      | 'u' => readHex verbose 4 s
      | 'U' => readHex verbose 8 s
      | 'p' => readProperty verbose false s
      | 'P' => readProperty verbose true s
      | 'd' => set false .digit
      | 'D' => set true .digit
      | 's' => set false .space
      | 'S' => set true .space
      | 'w' => set false .word
      | 'W' => set true .word
      | 'a' => literal '\x07'
      | 'f' => literal '\x0C'
      | 't' => literal '\t'
      | 'n' => literal '\n'
      | 'r' => literal '\r'
      | 'v' => literal '\x0B'
      | 'A' => place .textStart
      | 'z' => place .textEnd
      | 'B' => place (.word .inside)
      | '<' => place (.word .start)
      | '>' => place (.word .finish)
      | 'b' =>
        match readSide verbose s with
        | .error e => .error e
        | .ok (side, rest) => .ok (.assertion (.word side), rest)
      | _ => .error .escapeUnknown

end PathWatch.Regex
