/-!
# Writing JSON

Values are written without blanks. Inside a string only the quote, the backslash and the characters
below the space are escaped; everything else, of any plane, stands for itself.
-/

namespace PathWatch.Json

/-! ## Strings -/

/-- The lowercase hexadecimal digit of a number below sixteen. -/
def hexDigit (n : Nat) : Char :=
  if n < 10 then Char.ofNat ('0'.toNat + n) else Char.ofNat ('a'.toNat + (n - 10))

/-- The written form of one character inside a string. -/
def escapeChar (c : Char) : List Char :=
  if c = '"' then ['\\', '"']
  else if c = '\\' then ['\\', '\\']
  else if c.toNat = 0x08 then ['\\', 'b']
  else if c = '\t' then ['\\', 't']
  else if c = '\n' then ['\\', 'n']
  else if c.toNat = 0x0C then ['\\', 'f']
  else if c = '\r' then ['\\', 'r']
  else if c.toNat < 0x20 then
    ['\\', 'u', '0', '0', hexDigit (c.toNat / 16), hexDigit (c.toNat % 16)]
  else [c]

/-- The written form of the characters of a string, without its quotes. -/
def escape (s : List Char) : List Char :=
  s.flatMap escapeChar

@[simp] theorem escape_nil : escape [] = [] := rfl

@[simp] theorem escape_cons (c : Char) (s : List Char) :
    escape (c :: s) = escapeChar c ++ escape s := rfl

/-- A string in its quotes. -/
def writeString (s : String) : List Char :=
  '"' :: (escape s.toList ++ ['"'])

/-! ## Other values -/

/-- A natural number in decimal. -/
def writeNat (n : Nat) : List Char :=
  Nat.toDigits 10 n

/-- A truth value. -/
def writeBool (b : Bool) : List Char :=
  if b then ['t', 'r', 'u', 'e'] else ['f', 'a', 'l', 's', 'e']

/-- The null value. -/
def writeNull : List Char := ['n', 'u', 'l', 'l']

/-- Members separated by commas, after the first. -/
def writeMoreMembers : List (String × List Char) → List Char
  | [] => []
  | (key, value) :: rest => ',' :: (writeString key ++ ':' :: value ++ writeMoreMembers rest)

/-- An object of members that are already written. -/
def writeObject : List (String × List Char) → List Char
  | [] => ['{', '}']
  | (key, value) :: rest =>
    '{' :: (writeString key ++ ':' :: value ++ writeMoreMembers rest ++ ['}'])

end PathWatch.Json
