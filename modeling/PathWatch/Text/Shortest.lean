/-!
# Shortest decimal text of a binary floating-point number

A finite double is `m * 2 ^ q`. The real numbers that round to it form an interval around it whose
ends belong to it exactly when `m` is even. Its shortest text has the fewest digits of any decimal
number in that interval, and of those with that many digits it is the nearest.

The search goes up the decimal grids: one digit, two digits, and so on to seventeen. On each grid
only the two neighbours of the number have to be tried.
-/

namespace PathWatch.Text

/-! ## A double taken apart -/

/-- The absolute value of a finite double, as `significand * 2 ^ exponent`. `isLowest` says that the
next smaller double is half as far away as the next larger one. -/
structure BinaryValue where
  significand : Nat
  exponent : Int
  isLowest : Bool
  deriving DecidableEq, Repr

/-- The parts of a finite double, its sign apart. -/
def BinaryValue.ofBits (bits : UInt64) : BinaryValue :=
  let fraction : Nat := bits.toNat % Nat.pow 2 52
  let biased : Nat := bits.toNat / Nat.pow 2 52 % Nat.pow 2 11
  if biased = 0 then ⟨fraction, -1074, false⟩
  else ⟨Nat.pow 2 52 + fraction, Int.ofNat biased - 1075, fraction == 0 && biased != 1⟩

/-! ## Decimal grids -/

/-- The power `base ^ k` as a fraction of two natural numbers. -/
def powerFraction (base : Nat) (k : Int) : Nat × Nat :=
  if 0 ≤ k then (Nat.pow base k.toNat, 1) else (1, Nat.pow base (-k).toNat)

/-- Both `c * 10 ^ k` and `x * 2 ^ q` over one denominator. -/
def onCommonScale (c : Nat) (k : Int) (x : Nat) (q : Int) : Nat × Nat :=
  let ten := powerFraction 10 k
  let two := powerFraction 2 q
  (c * ten.1 * two.2, x * two.1 * ten.2)

/-- Whether `c * 10 ^ k` rounds to the value: it lies between the midpoints to the two neighbouring
doubles, and on a midpoint only if the significand is even. -/
def BinaryValue.readsBack (v : BinaryValue) (c : Nat) (k : Int) : Bool :=
  let lower := if v.isLowest then 4 * v.significand - 1 else 4 * v.significand - 2
  let upper := 4 * v.significand + 2
  let low := onCommonScale c k lower (v.exponent - 2)
  let high := onCommonScale c k upper (v.exponent - 2)
  if v.significand % 2 = 0 then low.2 ≤ low.1 && high.1 ≤ high.2
  else low.2 < low.1 && high.1 < high.2

/-- The largest multiple of `10 ^ k` that does not exceed the value, in units of `10 ^ k`. -/
def BinaryValue.gridFloor (v : BinaryValue) (k : Int) : Nat :=
  let scale := onCommonScale 1 k v.significand v.exponent
  scale.2 / scale.1

/-- The better of the two neighbours on the grid `10 ^ k`, if one of them reads back. The nearer one
wins, and the even one of two that are equally near. -/
def BinaryValue.onGrid? (v : BinaryValue) (k : Int) : Option Nat :=
  let c := v.gridFloor k
  match v.readsBack c k, v.readsBack (c + 1) k with
  | true, false => some c
  | false, true => some (c + 1)
  | false, false => none
  | true, true =>
    let twice := onCommonScale (2 * c + 1) k (2 * v.significand) v.exponent
    if twice.2 < twice.1 then some c
    else if twice.1 < twice.2 then some (c + 1)
    else if c % 2 = 0 then some c else some (c + 1)

/-- The number of digits of `n`, at least one. -/
def digitCount (n : Nat) : Nat :=
  (Nat.toDigits 10 n).length

/-- The exponent of the leading decimal digit of a value that is not zero. -/
def BinaryValue.leadingExponent (v : BinaryValue) : Int :=
  let whole := v.gridFloor 0
  if whole ≠ 0 then (digitCount whole : Int) - 1
  else
    -- the value is at least `10 ^ (-324)`
    let digits := digitCount (v.gridFloor (-340))
    (digits : Int) - 1 - 340

/-- The first grid, from `digits` digits on, that has a decimal number which reads back. -/
def BinaryValue.search (v : BinaryValue) (leading : Int) : Nat → Nat → Nat × Int
  | _, 0 => (v.gridFloor (leading - 16), leading - 16)
  | digits, fuel + 1 =>
    let k := leading - (digits : Int) + 1
    match v.onGrid? k with
    | some c => (c, k)
    | none => v.search leading (digits + 1) fuel

/-- The digits of the shortest decimal number that reads back, and the exponent of the first of
them. Trailing zeros are left out. -/
def BinaryValue.shortest (v : BinaryValue) : List Char × Int :=
  let (c, k) := v.search v.leadingExponent 1 17
  let digits := Nat.toDigits 10 c
  let kept := (digits.reverse.dropWhile (· = '0')).reverse
  (kept, k + (digits.length : Int) - 1)

/-! ## The text -/

/-- How a decimal number is laid out: positional while the exponent of its first digit is within the
limits, with an exponent otherwise. -/
structure FloatFormat where
  /-- The least exponent of the first digit that is written positionally. -/
  lowest : Int
  /-- The greatest exponent of the first digit that is written positionally. -/
  highest : Int
  /-- What stands before an exponent that is not negative. -/
  positiveExponent : String

/-- Digits with a point in their place; a whole number ends in `.0`. -/
def positional (digits : List Char) (exponent : Int) : String :=
  if exponent < 0 then
    "0." ++ String.ofList (List.replicate (-exponent - 1).toNat '0' ++ digits)
  else
    let before := exponent.toNat + 1
    let whole := digits.take before ++ List.replicate (before - digits.length) '0'
    let fraction := digits.drop before
    String.ofList whole ++ "." ++ (if fraction.isEmpty then "0" else String.ofList fraction)

/-- One digit, the others after a point, and the exponent. -/
def FloatFormat.scientific (f : FloatFormat) (digits : List Char) (exponent : Int) : String :=
  let mantissa :=
    match digits with
    | [] => "0"
    | [d] => String.ofList [d]
    | d :: rest => String.ofList (d :: '.' :: rest)
  mantissa ++ "e" ++ (if 0 ≤ exponent then f.positiveExponent ++ toString exponent.toNat
    else "-" ++ toString (-exponent).toNat)

/-- The shortest text of a finite double. -/
def FloatFormat.render (f : FloatFormat) (x : Float) : String :=
  let bits := x.toBits
  let sign := if bits.toNat / Nat.pow 2 63 = 1 then "-" else ""
  let v := BinaryValue.ofBits bits
  if v.significand = 0 then sign ++ "0.0"
  else
    let (digits, exponent) := v.shortest
    if f.lowest ≤ exponent && exponent ≤ f.highest then sign ++ positional digits exponent
    else sign ++ f.scientific digits exponent

end PathWatch.Text
