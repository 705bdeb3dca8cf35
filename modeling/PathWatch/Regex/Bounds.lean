import PathWatch.Regex.Blank
import PathWatch.Regex.Error
import PathWatch.Text.Basic
/-!
# Bounds of repetitions

A repetition in braces is given by one number, or by a least number and a comma, with or without a
greatest one behind it.
-/

namespace PathWatch.Regex

/-- The largest number that can be a bound. -/
def maxBound : Nat := 4294967295

/-- The bound that digits stand for. -/
def boundOf (digits : List Char) : Except Cause Nat :=
  let value := Text.digitsValue 0 digits
  if digits.isEmpty then .error .decimalEmpty
  else if maxBound < value then .error .decimalTooLarge
  else .ok value

/-- Reads a number with the blanks around it. A wrong number is reported by the caller, and only
where it is needed; the text behind it is given in any case. -/
def readBound (verbose : Bool) (s : List Char) : Except Cause Nat × List Char :=
  let (digits, rest) := takeSigns verbose Text.isDigit false (s.dropWhile isBlank)
  (boundOf digits, rest.dropWhile isBlank)

/-- The text behind the question mark that may follow an operator. It says that the repetition takes
as little as it can, which does not change what is matched. -/
def dropLazyMark : List Char → List Char
  | '?' :: rest => rest
  | rest => rest

/-- Reads the closing brace of bounds and what may follow it. -/
def closeBounds (verbose : Bool) (least : Nat) (most : Option Nat) :
    List Char → Except Cause ((Nat × Option Nat) × List Char)
  | '}' :: s =>
    let rest := dropLazyMark (skip verbose s)
    match most with
    | none => .ok ((least, none), rest)
    | some m => if least ≤ m then .ok ((least, some m), rest) else .error .boundsReversed
  | _ => .error .boundsUnclosed

/-- Closes bounds of which both numbers were read. Only here it is reported that one of them is
wrong. -/
def closeNumbered (verbose : Bool) (least most : Except Cause Nat) (s : List Char) :
    Except Cause ((Nat × Option Nat) × List Char) :=
  match least with
  | .error e => .error e
  | .ok n =>
    match most with
    | .error e => .error e
    | .ok m => closeBounds verbose n (some m) s

/-- Reads the greatest number and closes the bounds. -/
def readNumbered (verbose : Bool) (least : Except Cause Nat) (s : List Char) :
    Except Cause ((Nat × Option Nat) × List Char) :=
  let (most, rest) := readBound verbose s
  closeNumbered verbose least most rest

/-- Reads what follows the comma, from its first sign. -/
def readGreatest (verbose : Bool) (least : Except Cause Nat) :
    List Char → Except Cause ((Nat × Option Nat) × List Char)
  | [] => .error .boundsUnclosed
  | c :: rest =>
    match least with
    | .error e => .error e
    | .ok n =>
      if c = '}' then closeBounds verbose n none (c :: rest)
      else readNumbered verbose least (c :: rest)

/-- Reads what follows the least number. -/
def finishBounds (verbose : Bool) (least : Except Cause Nat) :
    List Char → Except Cause ((Nat × Option Nat) × List Char)
  | [] => .error .boundsUnclosed
  | ',' :: rest => readGreatest verbose least (skip verbose rest)
  | rest => closeNumbered verbose least least rest

/-- Reads the bounds of a repetition from their first sign. -/
def readBoundsAt (verbose : Bool) : List Char → Except Cause ((Nat × Option Nat) × List Char)
  | [] => .error .boundsUnclosed
  | s =>
    let (least, rest) := readBound verbose s
    finishBounds verbose least rest

/-- Reads the bounds of a repetition, from behind the opening brace. -/
def readBounds (verbose : Bool) (s : List Char) : Except Cause ((Nat × Option Nat) × List Char) :=
  readBoundsAt verbose (skip verbose s)

end PathWatch.Regex
