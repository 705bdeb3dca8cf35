import PathWatch.Regex.Escape
/-!
# Reading classes

A class is read sign by sign. The reader keeps the class it is in and the classes around it; a class
knows what was combined so far and the operation that waits for its second operand. Operations
are grouped from the left.

The reader is recursive on a bound that is at least the length of the text.
-/

namespace PathWatch.Regex

/-! ## Sets with a name in ASCII -/

/-- The set with a name. -/
def AsciiSet.ofName? (name : List Char) : Option AsciiSet :=
  match name with
  | ['a', 'l', 'n', 'u', 'm'] => some .alnum
  | ['a', 'l', 'p', 'h', 'a'] => some .alpha
  | ['a', 's', 'c', 'i', 'i'] => some .ascii
  | ['b', 'l', 'a', 'n', 'k'] => some .blank
  | ['c', 'n', 't', 'r', 'l'] => some .cntrl
  | ['d', 'i', 'g', 'i', 't'] => some .digit
  | ['g', 'r', 'a', 'p', 'h'] => some .graph
  | ['l', 'o', 'w', 'e', 'r'] => some .lower
  | ['p', 'r', 'i', 'n', 't'] => some .print
  | ['p', 'u', 'n', 'c', 't'] => some .punct
  | ['s', 'p', 'a', 'c', 'e'] => some .space
  | ['u', 'p', 'p', 'e', 'r'] => some .upper
  | ['w', 'o', 'r', 'd'] => some .word
  | ['x', 'd', 'i', 'g', 'i', 't'] => some .xdigit
  | _ => none

/-- Reads the name of a set and the colon and the bracket behind it. -/
def readAsciiName? (negated : Bool) (s : List Char) : Option (ClassSet × List Char) :=
  match s.dropWhile (· ≠ ':') with
  | ':' :: ']' :: rest =>
    (AsciiSet.ofName? (s.takeWhile (· ≠ ':'))).map fun set => (.ascii negated set, rest)
  | _ => none

/-- Reads a set by name from behind its first colon. A caret there turns it round. -/
def readAsciiAt? : List Char → Option (ClassSet × List Char)
  | '^' :: s => readAsciiName? true s
  | s => readAsciiName? false s

/-- Reads a set by name with its colons, from behind a bracket. What has another form is no such set
and is left to be read as a class. -/
def readAsciiSet? : List Char → Option (ClassSet × List Char)
  | ':' :: s => readAsciiAt? s
  | _ => none

/-! ## Items -/

/-- Reads one end of a range, or an item that is no range. -/
def readItem (verbose : Bool) : List Char → Except Cause (Primitive × List Char)
  | [] => .error .classUnclosed
  | '\\' :: s => readEscape verbose s
  | c :: s => .ok (.literal { char := c }, s)

/-- A part as an item of a class. -/
def Primitive.toItem : Primitive → Except Cause ClassSet
  | .literal l => .ok (.literal l)
  | .named negated set => .ok (.named negated set)
  | _ => .error .classEscapeInvalid

/-- A part as an end of a range. -/
def Primitive.toEnd : Primitive → Except Cause Literal
  | .literal l => .ok l
  | _ => .error .classRangeNotLiteral

/-- The range between two parts. -/
def rangeBetween (first last : Primitive) : Except Cause ClassSet :=
  match first.toEnd with
  | .error e => .error e
  | .ok a =>
    match last.toEnd with
    | .error e => .error e
    | .ok b =>
      if a.char ≤ b.char then .ok (.range a b) else .error .classRangeReversed

/-- Reads the second end of a range. -/
def readRangeEnd (verbose : Bool) (first : Primitive) (s : List Char) :
    Except Cause (ClassSet × List Char) :=
  match readItem verbose s with
  | .error e => .error e
  | .ok (last, rest) => (rangeBetween first last).map fun item => (item, rest)

/-- Reads what may follow an item to make it a range, from its first sign. A hyphen before the end
of the class or before another hyphen does not make a range. -/
def readRangeFrom (verbose : Bool) (first : Primitive) :
    List Char → Except Cause (ClassSet × List Char)
  | [] => .error .classUnclosed
  | c :: rest =>
    if c ≠ '-' || peek verbose rest = some ']' || peek verbose rest = some '-' then
      first.toItem.map fun item => (item, c :: rest)
    else readRangeEnd verbose first (skip verbose rest)

/-- Reads a range, or an item that is no range. -/
def readRange (verbose : Bool) (s : List Char) : Except Cause (ClassSet × List Char) :=
  match readItem verbose s with
  | .error e => .error e
  | .ok (first, rest) => readRangeFrom verbose first (skip verbose rest)

/-- The operation of a sign that stands twice. -/
def SetOperation.ofSign? : Char → Option SetOperation
  | '&' => some .intersection
  | '-' => some .difference
  | '~' => some .symmetricDifference
  | _ => none

/-- Reads the two signs of an operation. -/
def readOperation? : List Char → Option (SetOperation × List Char)
  | c :: d :: s => if c = d then (SetOperation.ofSign? c).map fun op => (op, s) else none
  | _ => none

/-! ## Classes -/

/-- A class that is being read. -/
structure ClassLevel where
  negated : Bool
  /-- The first operand of the operation that waits for its second one. -/
  left : Option (ClassSet × SetOperation) := none
  /-- The items behind that operation, the last one first. -/
  items : List ClassSet := []
  deriving Repr

namespace ClassLevel

/-- Adds an item. -/
def push (l : ClassLevel) (item : ClassSet) : ClassLevel :=
  { l with items := item :: l.items }

/-- What was read, with the waiting operation done. -/
def set (l : ClassLevel) : ClassSet :=
  let items := ClassSet.ofItems l.items.reverse
  match l.left with
  | none => items
  | some (left, op) => .operation op left items

/-- Starts the second operand of an operation. -/
def operate (l : ClassLevel) (op : SetOperation) : ClassLevel :=
  { l with left := some (l.set, op), items := [] }

/-- A new class with the hyphens at its start, before its next sign. A closing bracket there stands
for itself, unless there are hyphens before it. -/
def openBehind (verbose negated : Bool) (hyphens : List ClassSet) :
    List Char → Except Cause (ClassLevel × List Char)
  | [] => .error .classUnclosed
  | c :: rest =>
    if c = ']' && hyphens.isEmpty then
      match skip verbose rest with
      | [] => .error .classUnclosed
      | s => .ok ({ negated, items := [.literal { char := ']' }] }, s)
    else .ok ({ negated, items := hyphens }, c :: rest)

/-- A new class with the signs at its start that stand for themselves: hyphens, or a closing
bracket. -/
def openAt (verbose negated : Bool) (s : List Char) : Except Cause (ClassLevel × List Char) :=
  let (hyphens, rest) := takeSigns verbose (· = '-') false s
  openBehind verbose negated (hyphens.map fun c => .literal { char := c }) rest

/-- Opens a class, from its first sign. -/
def openedAt (verbose : Bool) : List Char → Except Cause (ClassLevel × List Char)
  | '^' :: s => openAt verbose true (skip verbose s)
  | s => openAt verbose false s

/-- Opens a class, from behind its bracket. -/
def opened (verbose : Bool) (s : List Char) : Except Cause (ClassLevel × List Char) :=
  openedAt verbose (skip verbose s)

/-- What a step of the reader comes to. -/
inductive Turn where
  /-- The class is complete, and there is none around it. -/
  | ended (l : ClassLevel)
  /-- The reader is in a class with others around it, the innermost first. -/
  | inside (l : ClassLevel) (around : List ClassLevel)
  deriving Repr

/-- Begins a class inside, from behind its bracket, if it is no set with a name. -/
def enter (verbose : Bool) (l : ClassLevel) (around : List ClassLevel) (s : List Char) :
    Except Cause (Turn × List Char) :=
  match readAsciiSet? s with
  | some (item, s) => .ok (.inside (l.push item) around, s)
  | none => (opened verbose s).map fun (inner, s) => (.inside inner (l :: around), s)

/-- Ends a class. It becomes an item of the one around it. -/
def leave (l : ClassLevel) : List ClassLevel → Turn
  | [] => .ended l
  | outer :: around => .inside (outer.push (.bracketed l.negated l.set)) around

/-- Reads an operation or an item. -/
def extend (verbose : Bool) (l : ClassLevel) (s : List Char) :
    Except Cause (ClassLevel × List Char) :=
  match readOperation? s with
  | some (op, s) => .ok (l.operate op, s)
  | none => (readRange verbose s).map fun (item, s) => (l.push item, s)

/-- Reads what comes next in a class, from its first sign. -/
def stepAt (verbose : Bool) (l : ClassLevel) (around : List ClassLevel) :
    List Char → Except Cause (Turn × List Char)
  | [] => .error .classUnclosed
  | '[' :: s => enter verbose l around s
  | ']' :: s => .ok (leave l around, s)
  | s => (extend verbose l s).map fun (l, s) => (.inside l around, s)

/-- Reads what comes next in a class. -/
def step (verbose : Bool) (l : ClassLevel) (around : List ClassLevel) (s : List Char) :
    Except Cause (Turn × List Char) :=
  stepAt verbose l around (skip verbose s)

/-- Reads the rest of a class and of those around it, up to the bracket that ends the outermost. -/
def run (verbose : Bool) (l : ClassLevel) (around : List ClassLevel) :
    Nat → List Char → Except Cause (ClassLevel × List Char)
  | 0, _ => .error .classUnclosed
  | fuel + 1, s =>
    match step verbose l around s with
    | .error e => .error e
    | .ok (.ended l, s) => .ok (l, s)
    | .ok (.inside l around, s) => run verbose l around fuel s

end ClassLevel

/-- Reads a class from behind its bracket. -/
def readClass (verbose : Bool) (s : List Char) : Except Cause (Node × List Char) :=
  match ClassLevel.opened verbose s with
  | .error e => .error e
  | .ok (l, rest) =>
    match l.run verbose [] (s.length + 1) rest with
    | .error e => .error e
    | .ok (l, rest) => .ok (.bracketed l.negated l.set, rest)

end PathWatch.Regex
