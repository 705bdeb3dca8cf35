import PathWatch.Unicode.Property
/-!
# Quoted text

Text is shown between quotes so that every character of it can be seen. What has no shape of its own
is written by its number: controls, blanks other than the space, unassigned code points, fillers,
and marks that would join the character before them.
-/

namespace PathWatch.Text

/-- Marks that join the character before them. The two voicing signs of narrow Katakana are letters
with a place of their own. -/
def joining : CodeSet :=
  .difference Unicode.Recent.graphemeExtend Unicode.Category.modifierLetter

/-- The code points that leave no visible sign, among them the fillers of Hangul syllables. -/
def invisible : CodeSet :=
  .unions
    [Unicode.Category.control, Unicode.Category.format, Unicode.Category.surrogate,
      Unicode.Category.privateUse, Unicode.Recent.unassigned, Unicode.Category.separator,
      Unicode.Property.defaultIgnorableCodePoint]

/-- Whether a character is shown as itself. -/
def isVisible (c : Char) : Bool :=
  if c.toNat < 0x7F then 0x20 ≤ c.toNat
  else !invisible.contains c.toNat && !joining.contains c.toNat

/-- The number of a character in hexadecimal, in braces. -/
def numbered (c : Char) : List Char :=
  ['\\', 'u', '{'] ++ Nat.toDigits 16 c.toNat ++ ['}']

/-- The shown form of one character. -/
def showChar (c : Char) : List Char :=
  if c = '\x00' then ['\\', '0']
  else if c = '\t' then ['\\', 't']
  else if c = '\r' then ['\\', 'r']
  else if c = '\n' then ['\\', 'n']
  else if c = '"' then ['\\', '"']
  else if c = '\\' then ['\\', '\\']
  else if isVisible c then [c]
  else numbered c

/-- A text between quotes. -/
def quote (text : String) : String :=
  String.ofList ('"' :: (text.toList.flatMap showChar ++ ['"']))

end PathWatch.Text
