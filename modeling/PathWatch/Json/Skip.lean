import PathWatch.Json.Reader
/-!
# Passing over JSON values

A member that nobody asked for is passed over. It has to be JSON, but it is checked for its form
only: a number may be of any size, and half of a surrogate pair may stand alone.
-/

namespace PathWatch.Json

open Text (isDigit)

/-! ## Strings and numbers -/

/-- Passes over an escape from behind its backslash. -/
def skipEscape : List Char → Except Error (List Char)
  | [] => .error .eofInString
  | 'u' :: s => do
    let (_, rest) ← readHex4 s
    return rest
  | c :: s =>
    if c = '"' || c = '\\' || c = '/' || c = 'b' || c = 'f' || c = 'n' || c = 'r' || c = 't' then
      .ok s
    else .error .invalidEscape

/-- Passes over the characters of a string and its closing quote. -/
def skipCharsWithin : Nat → List Char → Except Error (List Char)
  | 0, _ => .error .eofInString
  | _ + 1, [] => .error .eofInString
  | fuel + 1, c :: s =>
    if c = '"' then .ok s
    else if c = '\\' then do
      let s ← skipEscape s
      skipCharsWithin fuel s
    else if c.toNat < 0x20 then .error .controlCharacter
    else skipCharsWithin fuel s

/-- Passes over a string from behind its opening quote. -/
def skipStringBody (s : List Char) : Except Error (List Char) :=
  skipCharsWithin (s.length + 1) s

/-- Passes over an exponent from behind its letter. -/
def skipExponent (s : List Char) : Except Error (List Char) :=
  let s :=
    match s with
    | '+' :: r => r
    | '-' :: r => r
    | r => r
  match s with
  | [] => .error .invalidNumber
  | c :: r => if isDigit c then .ok (r.dropWhile isDigit) else .error .invalidNumber

/-- Passes over a fraction from behind its point. -/
def skipFraction (s : List Char) : Except Error (List Char) :=
  match s with
  | [] => .error .invalidNumber
  | c :: r =>
    if !isDigit c then .error .invalidNumber
    else
      match r.dropWhile isDigit with
      | 'e' :: r => skipExponent r
      | 'E' :: r => skipExponent r
      | r => .ok r

/-- Passes over a number whose sign has been read. -/
def skipNumber (s : List Char) : Except Error (List Char) :=
  let behind :=
    match s.takeWhile isDigit with
    | [] => Except.error Error.invalidNumber
    | '0' :: _ :: _ => .error .invalidNumber
    | _ => .ok (s.dropWhile isDigit)
  match behind with
  | .error e => .error e
  | .ok ('.' :: r) => skipFraction r
  | .ok ('e' :: r) => skipExponent r
  | .ok ('E' :: r) => skipExponent r
  | .ok r => .ok r

/-! ## Values -/

mutual

/-- Passes over one value. -/
def skipValueWithin : Nat → List Char → Except Error (List Char)
  | 0, _ => .error .eofInValue
  | fuel + 1, s =>
    match skipBlanks s with
    | [] => .error .eofInValue
    | 'n' :: r => readWord ['u', 'l', 'l'] r
    | 't' :: r => readWord ['r', 'u', 'e'] r
    | 'f' :: r => readWord ['a', 'l', 's', 'e'] r
    | '-' :: r => skipNumber r
    | '"' :: r => skipStringBody r
    | '[' :: r =>
      match skipBlanks r with
      | [] => .error .eofInList
      | ']' :: r => .ok r
      | r => skipElementsWithin fuel r
    | '{' :: r =>
      match skipBlanks r with
      | [] => .error .eofInObject
      | '}' :: r => .ok r
      | r => skipMembersWithin fuel r
    | c :: r => if isDigit c then skipNumber (c :: r) else .error .expectedValue

/-- Passes over the elements of a list, from one of them on. -/
def skipElementsWithin : Nat → List Char → Except Error (List Char)
  | 0, _ => .error .eofInList
  | fuel + 1, s => do
    let r ← skipValueWithin fuel s
    match skipBlanks r with
    | [] => .error .eofInList
    | ']' :: r => .ok r
    | ',' :: r => skipElementsWithin fuel r
    | _ => .error .expectedListCommaOrEnd

/-- Passes over the members of an object, from one of them on. -/
def skipMembersWithin : Nat → List Char → Except Error (List Char)
  | 0, _ => .error .eofInObject
  | fuel + 1, s => do
    match skipBlanks s with
    | [] => .error .eofInObject
    | '"' :: r =>
      let r ← skipStringBody r
      let r ← readColon r
      let r ← skipValueWithin fuel r
      match skipBlanks r with
      | [] => .error .eofInObject
      | '}' :: r => .ok r
      | ',' :: r => skipMembersWithin fuel r
      | _ => .error .expectedObjectCommaOrEnd
    | _ => .error .keyNotString

end

/-- Passes over one value. Each level of nesting takes at least one character, so the length of the
text bounds the recursion. -/
def skipValue (s : List Char) : Except Error (List Char) :=
  skipValueWithin (s.length + 1) s

end PathWatch.Json
