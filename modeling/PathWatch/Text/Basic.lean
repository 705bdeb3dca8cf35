/-!
# Texts

A text has bytes, by which texts are ordered. It can be cut at the first place where a mark stands,
or parted into its words. Rows of digits have values.
-/

namespace PathWatch.Text

/-! ## Bytes -/

/-- The bytes of a character. -/
def charBytes (c : Char) : List Nat :=
  (String.utf8EncodeChar c).map UInt8.toNat

/-- The bytes of a text. -/
def bytes (s : String) : List Nat :=
  s.toList.flatMap charBytes

/-- Whether one text comes before another one in the order of their bytes. -/
def before (a b : String) : Bool :=
  bytes a < bytes b

/-! ## Cutting -/

/-- The part of a text before the first mark, and the part behind it if the mark is there. -/
def cut (mark : Char) (s : List Char) : List Char × Option (List Char) :=
  match s.dropWhile (· ≠ mark) with
  | [] => (s, none)
  | _ :: behind => (s.takeWhile (· ≠ mark), some behind)

/-- The words of a text, in reverse; `word` holds the letters of the word being read, in reverse. -/
def wordsReversed (word : List Char) (done : List (List Char)) : List Char → List (List Char)
  | [] => if word.isEmpty then done else word.reverse :: done
  | c :: s =>
    if c = ' ' || c = '\n' then
      wordsReversed [] (if word.isEmpty then done else word.reverse :: done) s
    else wordsReversed (c :: word) done s

/-- The words of a text that is parted by blanks and line ends. -/
def words (text : String) : List (List Char) :=
  (wordsReversed [] [] text.toList).reverse

/-! ## Digits -/

/-- Whether a character is a decimal digit. -/
def isDigit (c : Char) : Bool :=
  '0' ≤ c && c ≤ '9'

/-- The value of a decimal digit. -/
def digitValue (c : Char) : Nat :=
  c.toNat - '0'.toNat

/-- The value of a row of digits, after those that are worth `n` already. -/
def digitsValue (n : Nat) (digits : List Char) : Nat :=
  digits.foldl (fun n d => n * 10 + digitValue d) n

/-- The value of a hexadecimal digit of either case. -/
def hexValue? (c : Char) : Option Nat :=
  if isDigit c then some (digitValue c)
  else if 'a' ≤ c && c ≤ 'f' then some (c.toNat - 'a'.toNat + 10)
  else if 'A' ≤ c && c ≤ 'F' then some (c.toNat - 'A'.toNat + 10)
  else none

end PathWatch.Text
