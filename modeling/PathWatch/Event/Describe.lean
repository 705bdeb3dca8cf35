import PathWatch.Event.Basic
import PathWatch.Text.Quoted
/-!
# Events in words

Kinds have names, by which logs and totals call them, and a count of zero has a message. A
description gives every part of a value by name, texts between quotes.
-/

namespace PathWatch

/-! ## Names and messages -/

/-- The name of a kind; a kind of the producer's own is named by its text. -/
def EventKind.name : EventKind → String
  | .create => "create"
  | .modify => "modify"
  | .delete => "delete"
  | .overflow => "overflow"
  | .custom text => text

/-- The message for a count of zero. -/
def ChangeEvent.InvalidCount.message (e : InvalidCount) : String :=
  "Invalid event count: " ++ toString e.count ++ " (must be >= 1)"

/-! ## Descriptions -/

/-- The description of a kind. -/
def EventKind.describe : EventKind → String
  | .create => "Create"
  | .modify => "Modify"
  | .delete => "Delete"
  | .overflow => "Overflow"
  | .custom text => "Custom(" ++ Text.quote text ++ ")"

/-- The description of a context that may be missing. -/
def describeOptional {C : Type} (describe : C → String) : Option C → String
  | none => "None"
  | some c => "Some(" ++ describe c ++ ")"

/-- The description of an event, whose context `describe` describes. -/
def ChangeEvent.describe {C : Type} (describe : C → String) (e : ChangeEvent C) : String :=
  "ChangeEvent \x7b kind: " ++ e.kind.describe ++ ", count: " ++ toString e.count ++
    ", context: " ++ describeOptional describe e.context ++ " \x7d"

end PathWatch
