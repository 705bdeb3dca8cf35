import PathWatch.Unicode.Property
/-!
# Blanks and comments

In verbose mode blanks are passed over between the signs of a regular expression, and so are
comments, which go from a number sign to the end of the line. Otherwise every character counts.
-/

namespace PathWatch.Regex

/-- Characters that are passed over in verbose mode. -/
def isBlank (c : Char) : Bool :=
  Unicode.Property.whiteSpace.contains c.toNat

/-- The text from the first sign on that is not passed over. -/
def skipIgnored (inComment : Bool) : List Char → List Char
  | [] => []
  | c :: s =>
    if inComment then skipIgnored (c ≠ '\n') s
    else if c = '#' then skipIgnored true s
    else if isBlank c then skipIgnored false s
    else c :: s

/-- The text from its next sign on. -/
def skip (verbose : Bool) (s : List Char) : List Char :=
  if verbose then skipIgnored false s else s

/-- The signs as long as they are accepted, and the text behind them. -/
def takeSigns (verbose : Bool) (accepts : Char → Bool) (inComment : Bool) :
    List Char → List Char × List Char
  | [] => ([], [])
  | c :: s =>
    if inComment then takeSigns verbose accepts (c ≠ '\n') s
    else if verbose && c = '#' then takeSigns verbose accepts true s
    else if verbose && isBlank c then takeSigns verbose accepts false s
    else if accepts c then
      let (signs, rest) := takeSigns verbose accepts false s
      (c :: signs, rest)
    else ([], c :: s)

/-- The text behind a number sign and the blanks that follow it, if it begins so. -/
def pastMark : List Char → List Char
  | '#' :: rest => rest.dropWhile isBlank
  | rest => rest

/-- The next sign of a text, for a decision on what stands before it. In verbose mode blanks and one
number sign are passed over; a comment is not followed to its end. -/
def peek (verbose : Bool) (s : List Char) : Option Char :=
  if !verbose then s.head?
  else
    match pastMark (s.dropWhile isBlank) with
    | [] => s.head?
    | c :: _ => some c

@[simp] theorem skip_false (s : List Char) : skip false s = s := rfl

end PathWatch.Regex
