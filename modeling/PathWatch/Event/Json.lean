import PathWatch.Event.Describe
import PathWatch.Json.Reader
import PathWatch.Json.Skip
/-!
# Events as JSON

A kind is written as its name, a kind of the producer's own as an object with one member. An event
is an object of its kind, its count and its context, in this order; it is read from an object with
its members in any order and others among them, or from a list of its three parts.
-/

namespace PathWatch

open Json

/-! ## Kinds -/

namespace EventKind

/-- The names that stand for kinds in a text. -/
def choices : List String := ["Create", "Modify", "Delete", "Overflow", "Custom"]

/-- The kind as it is written. -/
def toJson : EventKind → List Char
  | .create => writeString "Create"
  | .modify => writeString "Modify"
  | .delete => writeString "Delete"
  | .overflow => writeString "Overflow"
  | .custom text => writeObject [("Custom", writeString text)]

/-- What a name in a text stands for: a kind without a text, or the beginning of one with a text. -/
inductive Variant where
  | plain (kind : EventKind)
  | custom

/-- The variant of a name. -/
def variant (name : String) : Except Error Variant :=
  match name with
  | "Create" => .ok (.plain .create)
  | "Modify" => .ok (.plain .modify)
  | "Delete" => .ok (.plain .delete)
  | "Overflow" => .ok (.plain .overflow)
  | "Custom" => .ok .custom
  | other => .error (.unknownVariant other choices)

/-- Reads the one member of an object that stands for a kind, from behind the brace. -/
def readMember (s : List Char) : Except Error (EventKind × List Char) := do
  match skipBlanks s with
  | [] => .error .eofInObject
  | '"' :: r =>
    let (name, r) ← readStringBody r
    let v ← variant name
    let r ← readColon r
    match v with
    | .plain kind =>
      let (_, r) ← readNull r
      return (kind, r)
    | .custom =>
      let (text, r) ← readString r
      return (.custom text, r)
  | '}' :: _ => .error .expectedValue
  | _ => .error .keyNotString

/-- Reads a kind: a name, or an object with one member. -/
def readJson (s : List Char) : Except Error (EventKind × List Char) := do
  match skipBlanks s with
  | [] => .error .eofInValue
  | '"' :: r =>
    let (name, r) ← readStringBody r
    match ← variant name with
    | .plain kind => return (kind, r)
    | .custom => .error (.invalidType .unitVariant "newtype variant")
  | '{' :: r =>
    let (kind, r) ← readMember r
    match skipBlanks r with
    | [] => .error .eofInObject
    | '}' :: r => return (kind, r)
    | _ => .error .expectedValue
  | _ => .error .expectedValue

/-- Reads a whole text as a kind. -/
def ofJson (text : String) : Except Error EventKind :=
  readDocument readJson text.toList

instance : Codec EventKind where
  write := toJson
  read := readJson

end EventKind

/-! ## Events -/

namespace ChangeEvent

variable {C : Type} [Codec C]

/-- The event as it is written. -/
def toJson (e : ChangeEvent C) : List Char :=
  writeObject
    [("kind", e.kind.toJson), ("count", writeNat e.count),
     ("context", match e.context with | none => writeNull | some c => Codec.write c)]

/-- What has been read of an event. -/
structure Parts (C : Type) where
  kind : Option EventKind := none
  count : Option Nat := none
  context : Option (Option C) := none

/-- Reads a count. -/
def readCount (s : List Char) : Except Error (Nat × List Char) :=
  readNat maxCount "u32" s

/-- Reads a member of an event from behind its key. Members of other names are passed over. -/
def readMember (key : String) (parts : Parts C) (s : List Char) :
    Except Error (Parts C × List Char) :=
  match key with
  | "kind" =>
    if parts.kind.isSome then .error (.duplicateField key)
    else do
      let s ← readColon s
      let (kind, s) ← EventKind.readJson s
      return ({ parts with kind := some kind }, s)
  | "count" =>
    if parts.count.isSome then .error (.duplicateField key)
    else do
      let s ← readColon s
      let (count, s) ← readCount s
      return ({ parts with count := some count }, s)
  | "context" =>
    if parts.context.isSome then .error (.duplicateField key)
    else do
      let s ← readColon s
      let (context, s) ← readOptional Codec.read s
      return ({ parts with context := some context }, s)
  | _ => do
    let s ← readColon s
    let s ← skipValue s
    return (parts, s)

/-- What an event is called in messages. -/
def expectation : String := "struct RawChangeEvent"

/-- What a list in place of an event should be. -/
def listExpectation : String := expectation ++ " with 3 elements"

/-- Reads the parts of an event from a list, from behind its bracket. -/
def readList (s : List Char) :
    Except Error ((EventKind × Nat × Option C) × List Char) := do
  match ← nextElement? true s with
  | none => .error (.invalidLength 0 listExpectation)
  | some s =>
    let (kind, s) ← EventKind.readJson s
    match ← nextElement? false s with
    | none => .error (.invalidLength 1 listExpectation)
    | some s =>
      let (count, s) ← readCount s
      match ← nextElement? false s with
      | none => .error (.invalidLength 2 listExpectation)
      | some s =>
        let (context, s) ← readOptional Codec.read s
        let s ← readListEnd s
        return ((kind, count, context), s)

/-- Reads the parts of an event from an object, from behind its brace. Only the context may be
missing. -/
def readObject (s : List Char) :
    Except Error ((EventKind × Nat × Option C) × List Char) := do
  let (parts, s) ← readMembers readMember ({} : Parts C) s
  match parts.kind with
  | none => .error (.missingField "kind")
  | some kind =>
    match parts.count with
    | none => .error (.missingField "count")
    | some count => return ((kind, count, parts.context.getD none), s)

/-- Reads the parts of an event from a list or an object. -/
def readParts (s : List Char) : Except Error ((EventKind × Nat × Option C) × List Char) :=
  match skipBlanks s with
  | [] => .error .eofInValue
  | '[' :: r => readList r
  | '{' :: r => readObject r
  | r => unexpected expectation r

/-- Reads an event and checks its count. -/
def readJson (s : List Char) : Except Error (ChangeEvent C × List Char) := do
  let ((kind, count, context), s) ← readParts s
  match checked kind (UInt32.ofNat count) context with
  | .error e => .error (.refused e.message)
  | .ok event => return (event, s)

/-- Reads a whole text as an event. -/
def ofJson (text : String) : Except Error (ChangeEvent C) :=
  readDocument readJson text.toList

end ChangeEvent

end PathWatch
