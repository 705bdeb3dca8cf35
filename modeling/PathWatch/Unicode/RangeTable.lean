import PathWatch.Text.Basic
/-!
# Tables of code points

A property of characters is given by the code points that have it. A table is a row of runs in
rising order; a run takes every `step`-th code point from its first to its last. No run reaches into
the span of another one, so a search by halves finds the only run that can hold a code point.

Tables are written as text: hexadecimal code points and spans, parted by blanks and line ends, with
the step of a span behind a colon where it is not one.
-/

namespace PathWatch.Unicode

/-! ## Runs -/

/-- Every `step`-th code point from `first` to `last`. -/
structure Run where
  first : Nat
  last : Nat
  step : Nat
  deriving DecidableEq, Repr

/-- Whether a code point is one of the run. -/
def Run.contains (r : Run) (c : Nat) : Bool :=
  r.first ≤ c && c ≤ r.last && (c - r.first) % r.step == 0

/-! ## Tables -/

/-- Runs in rising order. -/
structure RangeTable where
  runs : Array Run
  deriving DecidableEq, Repr

/-- Searches the runs from number `low` on and below number `high` for a code point. -/
def RangeTable.search (t : RangeTable) (c : Nat) (low high : Nat) : Nat → Bool
  | 0 => false
  | fuel + 1 =>
    if high ≤ low then false
    else
      let middle := (low + high) / 2
      match t.runs[middle]? with
      | none => false
      | some r =>
        if c < r.first then t.search c low middle fuel
        else if r.last < c then t.search c (middle + 1) high fuel
        else r.contains c

/-- Whether a code point is in the table. -/
def RangeTable.contains (t : RangeTable) (c : Nat) : Bool :=
  t.search c 0 t.runs.size (t.runs.size + 1)

/-! ## Written tables -/

/-- The value of a hexadecimal digit in capitals. -/
def hexDigitValue (c : Char) : Nat :=
  if c ≤ '9' then c.toNat - '0'.toNat else c.toNat - 'A'.toNat + 10

/-- The number written by hexadecimal digits. -/
def hexNumber (digits : List Char) : Nat :=
  digits.foldl (fun n d => n * 16 + hexDigitValue d) 0

/-- Reads a run: a code point, or a span, or a span with a step. -/
def Run.ofChars (s : List Char) : Run :=
  let (span, step) := Text.cut ':' s
  let (first, last) := Text.cut '-' span
  { first := hexNumber first
    last := hexNumber (last.getD first)
    step := (step.map hexNumber).getD 1 }

/-- Reads a table. -/
def RangeTable.ofText (text : String) : RangeTable :=
  ⟨((Text.words text).map Run.ofChars).toArray⟩

end PathWatch.Unicode
