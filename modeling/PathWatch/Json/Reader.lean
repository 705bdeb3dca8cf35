import PathWatch.Json.Error
import PathWatch.Json.Printer
import PathWatch.Text.Basic
import PathWatch.Text.Shortest
/-!
# Reading JSON

Every reader takes the rest of the text and gives back the value it read and the rest after it, or
the first thing that went wrong. Blanks are skipped in front of a value and around the marks of
lists and objects, never inside a word or a number.

The scanners of strings are recursive on a bound that is at least the length of the text.

A context of an event can be of any type that says how it is written and how it is read. Strings and
numbers of 64 bits are the two that occur.
-/

namespace PathWatch.Json

open Text (isDigit digitValue digitsValue hexValue?)

/-! ## Blanks and words -/

/-- The four characters that may stand between tokens. -/
def isBlank (c : Char) : Bool :=
  c = ' ' || c = '\n' || c = '\t' || c = '\r'

/-- The rest of the text from its first token on. -/
def skipBlanks (s : List Char) : List Char :=
  s.dropWhile isBlank

/-- Reads the remaining letters of `null`, `true` or `false`. -/
def readWord : List Char → List Char → Except Error (List Char)
  | [], s => .ok s
  | _ :: _, [] => .error .eofInValue
  | w :: word, c :: s => if c = w then readWord word s else .error .expectedIdent

/-! ## Numbers -/

/-- A number as it was read: a natural number that fits into 64 bits, a negative integer that fits
into 64 bits with its sign, or the text of the double nearest to anything else. -/
inductive Number where
  | natural (value : Nat)
  | negative (magnitude : Nat)
  | float (text : String)
  deriving DecidableEq, Repr

/-- How a double is named in a message. -/
def floatFormat : Text.FloatFormat :=
  { lowest := -5, highest := 15, positiveExponent := "+" }

/-- The largest number of 64 bits. -/
def maxWord : Nat := 18446744073709551615

/-- Takes digits as long as their value fits into 64 bits. Gives the value, the number of digits
taken and the digits left over. -/
def takeWord : Nat → Nat → List Char → Nat × Nat × List Char
  | value, taken, [] => (value, taken, [])
  | value, taken, d :: digits =>
    if value * 10 + digitValue d ≤ maxWord then
      takeWord (value * 10 + digitValue d) (taken + 1) digits
    else (value, taken, d :: digits)

/-- A significand times a power of ten, rounded to a double at each of its two steps. -/
def scale (significand : Float) (exponent : Int) : Nat → Except Error Float
  | 0 => .ok significand
  | fuel + 1 =>
    if exponent.natAbs ≤ 308 then
      let power := Float.ofScientific 1 false exponent.natAbs
      if 0 ≤ exponent then
        let product := significand * power
        if product.isInf then .error .numberOutOfRange else .ok product
      else .ok (significand / power)
    else if significand == 0.0 then .ok significand
    else if 0 ≤ exponent then .error .numberOutOfRange
    else scale (significand / Float.ofScientific 1 false 308) (exponent + 308) fuel

/-- The double of a sign, a significand and a power of ten. -/
def makeFloat (isPositive : Bool) (significand : Nat) (exponent : Int) : Except Error Number := do
  let x ← scale (Float.ofNat significand) exponent 4
  return .float (floatFormat.render (if isPositive then x else -x))

/-- Reads the exponent of a number from behind its letter. -/
def readExponent (isPositive : Bool) (significand : Nat) (start : Int) (s : List Char) :
    Except Error (Number × List Char) :=
  let (up, s) :=
    match s with
    | '+' :: r => (true, r)
    | '-' :: r => (false, r)
    | r => (true, r)
  match s with
  | [] => .error .eofInValue
  | c :: _ =>
    if !isDigit c then .error .invalidNumber
    else do
      let value := digitsValue 0 (s.takeWhile isDigit)
      let rest := s.dropWhile isDigit
      if 2147483648 ≤ value then
        if significand ≠ 0 && up then .error .numberOutOfRange
        else return (.float (if isPositive then "0.0" else "-0.0"), rest)
      else
        let x ← makeFloat isPositive significand (if up then start + value else start - value)
        return (x, rest)

/-- Reads what follows the whole part of a number that is not an integer of 64 bits: an exponent or
nothing. -/
def readScaled (isPositive : Bool) (significand : Nat) (exponent : Int) (s : List Char) :
    Except Error (Number × List Char) :=
  match s with
  | 'e' :: r => readExponent isPositive significand exponent r
  | 'E' :: r => readExponent isPositive significand exponent r
  | r => do
    let x ← makeFloat isPositive significand exponent
    return (x, r)

/-- Reads the fraction of a number from behind its point. Digits that no longer fit into 64 bits
are passed over. -/
def readFraction (isPositive : Bool) (significand : Nat) (exponent : Int) (s : List Char) :
    Except Error (Number × List Char) :=
  let digits := s.takeWhile isDigit
  let rest := s.dropWhile isDigit
  match digits with
  | [] => if rest.isEmpty then .error .eofInValue else .error .invalidNumber
  | _ =>
    let (value, taken, _) := takeWord significand 0 digits
    readScaled isPositive value (exponent - taken) rest

/-- Reads a number whose sign has been read. -/
def readNumber (isPositive : Bool) (s : List Char) : Except Error (Number × List Char) :=
  let digits := s.takeWhile isDigit
  let rest := s.dropWhile isDigit
  match digits with
  | [] => if s.isEmpty then .error .eofInValue else .error .invalidNumber
  | '0' :: _ :: _ => .error .invalidNumber
  | _ =>
    let (value, _, left) := takeWord 0 0 digits
    match rest with
    | '.' :: r => readFraction isPositive value left.length r
    | 'e' :: r => readExponent isPositive value left.length r
    | 'E' :: r => readExponent isPositive value left.length r
    | r =>
      if left.isEmpty && isPositive then .ok (.natural value, r)
      else if left.isEmpty && 1 ≤ value && value ≤ 9223372036854775808 then
        .ok (.negative value, r)
      else do
        let x ← makeFloat isPositive value left.length
        return (x, r)

/-- How a number is named where it is not wanted. -/
def Number.found : Number → Found
  | .natural n => .integer n
  | .negative n => .integer (-n)
  | .float text => .float text

/-! ## Strings -/

/-- The number of bytes of the text in UTF-8. -/
def byteLength (s : List Char) : Nat :=
  s.foldl (fun n c => n + c.utf8Size) 0

/-- Reads the four digits of a `\u` escape. Fewer than four bytes of text are too few. -/
def readHex4 (s : List Char) : Except Error (Nat × List Char) :=
  match s with
  | a :: b :: c :: d :: rest =>
    match hexValue? a, hexValue? b, hexValue? c, hexValue? d with
    | some a, some b, some c, some d => .ok (((a * 16 + b) * 16 + c) * 16 + d, rest)
    | _, _, _, _ => .error .invalidEscape
  | short => if byteLength short < 4 then .error .eofInString else .error .invalidEscape

/-- Reads a `\u` escape from behind its letter: one escape, or two that form a surrogate pair. -/
def readUnicodeEscape (s : List Char) : Except Error (Char × List Char) := do
  let (high, rest) ← readHex4 s
  if 0xDC00 ≤ high && high ≤ 0xDFFF then .error .loneSurrogate
  else if high < 0xD800 || 0xDBFF < high then return (Char.ofNat high, rest)
  else
    match rest with
    | [] => .error .eofInString
    | '\\' :: [] => .error .eofInString
    | '\\' :: 'u' :: rest =>
      let (low, rest) ← readHex4 rest
      if low < 0xDC00 || 0xDFFF < low then .error .loneSurrogate
      else return (Char.ofNat ((high - 0xD800) * 0x400 + (low - 0xDC00) + 0x10000), rest)
    | _ => .error .unfinishedSurrogatePair

/-- Reads an escape from behind its backslash. -/
def readEscape : List Char → Except Error (Char × List Char)
  | [] => .error .eofInString
  | '"' :: s => .ok ('"', s)
  | '\\' :: s => .ok ('\\', s)
  | '/' :: s => .ok ('/', s)
  | 'b' :: s => .ok (Char.ofNat 0x08, s)
  | 'f' :: s => .ok (Char.ofNat 0x0C, s)
  | 'n' :: s => .ok ('\n', s)
  | 'r' :: s => .ok ('\r', s)
  | 't' :: s => .ok ('\t', s)
  | 'u' :: s => readUnicodeEscape s
  | _ => .error .invalidEscape

/-- Reads the characters of a string up to its closing quote. -/
def readCharsWithin : Nat → List Char → Except Error (List Char × List Char)
  | 0, _ => .error .eofInString
  | _ + 1, [] => .error .eofInString
  | fuel + 1, c :: s =>
    if c = '"' then .ok ([], s)
    else if c = '\\' then do
      let (e, s) ← readEscape s
      let (rest, s) ← readCharsWithin fuel s
      return (e :: rest, s)
    else if c.toNat < 0x20 then .error .controlCharacter
    else do
      let (rest, s) ← readCharsWithin fuel s
      return (c :: rest, s)

/-- Reads a string from behind its opening quote. -/
def readStringBody (s : List Char) : Except Error (String × List Char) := do
  let (chars, rest) ← readCharsWithin (s.length + 1) s
  return (String.ofList chars, rest)

/-! ## Values of one type -/

/-- The error for a value that is not of the expected type. The value is read as far as its message
needs it, so a value that is not JSON is reported as that. -/
def unexpected {α : Type} (expected : String) (s : List Char) : Except Error α :=
  match s with
  | 'n' :: r => do
    let _ ← readWord ['u', 'l', 'l'] r
    .error (.invalidType .null expected)
  | 't' :: r => do
    let _ ← readWord ['r', 'u', 'e'] r
    .error (.invalidType (.boolean true) expected)
  | 'f' :: r => do
    let _ ← readWord ['a', 'l', 's', 'e'] r
    .error (.invalidType (.boolean false) expected)
  | '-' :: r => do
    let (n, _) ← readNumber false r
    .error (.invalidType n.found expected)
  | '"' :: r => do
    let (text, _) ← readStringBody r
    .error (.invalidType (.string text) expected)
  | '[' :: _ => .error (.invalidType .sequence expected)
  | '{' :: _ => .error (.invalidType .map expected)
  | c :: _ =>
    if isDigit c then do
      let (n, _) ← readNumber true s
      .error (.invalidType n.found expected)
    else .error .expectedValue
  | [] => .error .expectedValue

/-- Reads a natural number that is at most `limit`. -/
def readNat (limit : Nat) (expected : String) (s : List Char) :
    Except Error (Nat × List Char) :=
  match skipBlanks s with
  | [] => .error .eofInValue
  | '-' :: r => do
    let (n, _) ← readNumber false r
    match n with
    | .negative _ => .error (.invalidValue n.found expected)
    | _ => .error (.invalidType n.found expected)
  | c :: r =>
    if isDigit c then do
      let (n, rest) ← readNumber true (c :: r)
      match n with
      | .natural value =>
        if value ≤ limit then return (value, rest) else .error (.invalidValue n.found expected)
      | _ => .error (.invalidType n.found expected)
    else unexpected expected (c :: r)

/-- Reads a truth value. -/
def readBool (s : List Char) : Except Error (Bool × List Char) :=
  match skipBlanks s with
  | [] => .error .eofInValue
  | 't' :: r => do
    let rest ← readWord ['r', 'u', 'e'] r
    return (true, rest)
  | 'f' :: r => do
    let rest ← readWord ['a', 'l', 's', 'e'] r
    return (false, rest)
  | r => unexpected "a boolean" r

/-- Reads a string. -/
def readString (s : List Char) : Except Error (String × List Char) :=
  match skipBlanks s with
  | [] => .error .eofInValue
  | '"' :: r => readStringBody r
  | r => unexpected "a string" r

/-- Reads the null value. -/
def readNull (s : List Char) : Except Error (Unit × List Char) :=
  match skipBlanks s with
  | [] => .error .eofInValue
  | 'n' :: r => do
    let rest ← readWord ['u', 'l', 'l'] r
    return ((), rest)
  | r => unexpected "unit" r

/-- Reads a value that may also be null. -/
def readOptional {α : Type} (read : List Char → Except Error (α × List Char)) (s : List Char) :
    Except Error (Option α × List Char) :=
  match skipBlanks s with
  | 'n' :: r => do
    let rest ← readWord ['u', 'l', 'l'] r
    return (none, rest)
  | r => do
    let (value, rest) ← read r
    return (some value, rest)

/-! ## Lists and objects -/

/-- Reads the colon behind the key of an object. -/
def readColon (s : List Char) : Except Error (List Char) :=
  match skipBlanks s with
  | [] => .error .eofInObject
  | ':' :: r => .ok r
  | _ => .error .expectedColon

/-- The text of the next element of a list, if there is one. -/
def nextElement? (isFirst : Bool) (s : List Char) : Except Error (Option (List Char)) :=
  match skipBlanks s with
  | [] => .error .eofInList
  | ']' :: _ => .ok none
  | c :: r =>
    if isFirst then .ok (some (c :: r))
    else if c = ',' then
      match skipBlanks r with
      | [] => .error .eofInValue
      | ']' :: _ => .error .trailingComma
      | r => .ok (some r)
    else .error .expectedListCommaOrEnd

/-- Reads the end of a list from which all wanted elements have been taken. -/
def readListEnd (s : List Char) : Except Error (List Char) :=
  match skipBlanks s with
  | [] => .error .eofInList
  | ']' :: r => .ok r
  | ',' :: r =>
    match skipBlanks r with
    | ']' :: _ => .error .trailingComma
    | _ => .error .trailingCharacters
  | _ => .error .trailingCharacters

/-- The text of the next key of an object, from behind its opening quote, or the text behind the
object. -/
inductive NextKey where
  | key (rest : List Char)
  | done (rest : List Char)

/-- Moves to the next key of an object or past its end. -/
def nextKey (isFirst : Bool) (s : List Char) : Except Error NextKey :=
  match skipBlanks s with
  | [] => .error .eofInObject
  | '}' :: r => .ok (.done r)
  | c :: r =>
    if isFirst then
      if c = '"' then .ok (.key r) else .error .keyNotString
    else if c = ',' then
      match skipBlanks r with
      | [] => .error .eofInValue
      | '"' :: r => .ok (.key r)
      | '}' :: _ => .error .trailingComma
      | _ => .error .keyNotString
    else .error .expectedObjectCommaOrEnd

/-- Reads the members of an object one after another into a state. A member is read by `member`,
which gets the key and the text behind it. -/
def readMembersWithin {σ : Type}
    (member : String → σ → List Char → Except Error (σ × List Char)) :
    Nat → Bool → σ → List Char → Except Error (σ × List Char)
  | 0, _, _, _ => .error .eofInObject
  | fuel + 1, isFirst, state, s => do
    match ← nextKey isFirst s with
    | .done rest => return (state, rest)
    | .key rest =>
      let (key, rest) ← readStringBody rest
      let (state, rest) ← member key state rest
      readMembersWithin member fuel false state rest

/-- Reads the members of an object from behind its opening brace. -/
def readMembers {σ : Type} (member : String → σ → List Char → Except Error (σ × List Char))
    (state : σ) (s : List Char) : Except Error (σ × List Char) :=
  readMembersWithin member (s.length + 1) true state s

/-- Reads a whole text, behind which only blanks may stand. -/
def readDocument {α : Type} (read : List Char → Except Error (α × List Char)) (s : List Char) :
    Except Error α := do
  let (value, rest) ← read s
  match skipBlanks rest with
  | [] => return value
  | _ => .error .trailingCharacters

/-! ## Types that are written and read -/

/-- How the values of a type are written and read. -/
class Codec (α : Type) where
  write : α → List Char
  read : List Char → Except Error (α × List Char)

instance : Codec String where
  write := writeString
  read := readString

instance : Codec UInt64 where
  write n := writeNat n.toNat
  read s := do
    let (n, rest) ← readNat maxWord "u64" s
    return (UInt64.ofNat n, rest)

end PathWatch.Json
