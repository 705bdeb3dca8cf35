import PathWatch.Regex.Blank
import PathWatch.Regex.Error
import PathWatch.Regex.Node
import PathWatch.Unicode.Property
/-!
# What an opening parenthesis begins

A parenthesis opens a group, which may have a name or change flags inside of it, or it changes flags
for the rest of the group around it.
-/

namespace PathWatch.Regex

/-- What a parenthesis begins. -/
inductive Opening where
  | group (change : FlagChange)
  /-- A group with a name. -/
  | named (name : List Char)
  /-- A change of flags for the rest of the group around it. -/
  | flags (change : FlagChange)
  deriving DecidableEq, Repr

/-! ## Names -/

/-- Whether a character can start the name of a group. -/
def startsName (c : Char) : Bool :=
  c = '_' || Unicode.Recent.alphabetic.contains c.toNat

/-- Whether a character can stand in the name of a group behind the first one. -/
def continuesName (c : Char) : Bool :=
  c = '_' || c = '.' || c = '[' || c = ']' || Unicode.Recent.alphabetic.contains c.toNat ||
    Unicode.Recent.number.contains c.toNat

/-- The rest of a name and what stands behind its end. -/
def readNameRest : List Char → Except Cause (List Char × List Char)
  | [] => .error .nameUnclosed
  | '>' :: s => .ok ([], s)
  | c :: s =>
    if continuesName c then (readNameRest s).map fun (name, rest) => (c :: name, rest)
    else .error .nameInvalid

/-- Reads the name of a group from behind its angle bracket. -/
def readName : List Char → Except Cause (List Char × List Char)
  | [] => .error .nameUnclosed
  | '>' :: _ => .error .nameEmpty
  | c :: s =>
    if startsName c then (readNameRest s).map fun (name, rest) => (c :: name, rest)
    else .error .nameInvalid

/-! ## Flags -/

/-- Reads flags up to a colon or the closing parenthesis. `off` holds the flags behind the minus
sign, once there was one. Gives the change, whether it is for a group, and the text behind. -/
def readFlags (on : List Flag) (off : Option (List Flag)) :
    List Char → Except Cause ((FlagChange × Bool) × List Char)
  | [] => .error .flagsUnfinished
  | c :: s =>
    if c = ':' || c = ')' then
      if off = some [] then .error .flagNegationDangling
      else .ok (({ on, off := off.getD [] }, c = ':'), s)
    else if c = '-' then
      if off.isSome then .error .flagNegationRepeated else readFlags on (some []) s
    else
      match Flag.ofChar? c with
      | none => .error .flagUnknown
      | some flag =>
        if (on ++ off.getD []).contains flag then .error .flagRepeated
        else
          match off with
          | none => readFlags (on ++ [flag]) none s
          | some flags => readFlags on (some (flags ++ [flag])) s

/-! ## Openings -/

/-- What begins with a change of flags, for a group or for the rest of the one around it. -/
def Opening.ofFlags (change : FlagChange) (isGroup : Bool) : Except Cause Opening :=
  if isGroup then .ok (.group change)
  else if change.on.isEmpty && change.off.isEmpty then .error .nothingToRepeat
  else .ok (.flags change)

/-- Reads flags and says what begins with them. -/
def readFlagOpening (s : List Char) : Except Cause (Opening × List Char) :=
  match readFlags [] none s with
  | .error e => .error e
  | .ok ((change, isGroup), rest) => (Opening.ofFlags change isGroup).map fun o => (o, rest)

/-- Reads the name of a group and says that it begins. -/
def readNameOpening (s : List Char) : Except Cause (Opening × List Char) :=
  (readName s).map fun (name, rest) => (.named name, rest)

/-- Reads what begins, from behind an angle bracket. It could be a condition on the text before. -/
def readAngled : List Char → Except Cause (Opening × List Char)
  | '=' :: _ => .error .lookAround
  | '!' :: _ => .error .lookAround
  | s => readNameOpening s

/-- Reads what begins, from behind a question mark. It could be a condition on the text around. -/
def readMarked : List Char → Except Cause (Opening × List Char)
  | [] => .error .groupUnclosed
  | '=' :: _ => .error .lookAround
  | '!' :: _ => .error .lookAround
  | '<' :: s => readAngled s
  | 'P' :: '<' :: s => readNameOpening s
  | s => readFlagOpening s

/-- Reads what begins, from its first sign. -/
def readOpeningAt : List Char → Except Cause (Opening × List Char)
  | '?' :: s => readMarked s
  | s => .ok (.group {}, s)

/-- Reads what begins, from behind the parenthesis. -/
def readOpening (verbose : Bool) (s : List Char) : Except Cause (Opening × List Char) :=
  readOpeningAt (skip verbose s)

end PathWatch.Regex
