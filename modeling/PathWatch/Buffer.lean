import PathWatch.Config
import PathWatch.Event.Basic
/-!
# Event buffers

The buffer of a subscription keeps the order of its events and is bounded. A buffer that holds as
many entries as its capacity grows by one more entry at most, an overflow event that counts what
came too late. Where repeats are coalesced, an event that repeats the last entry is counted there.
-/

namespace PathWatch

/-- The entries of a subscription, oldest first. -/
abbrev Buffer (C : Type) := List (ChangeEvent C)

namespace Buffer

variable {C : Type}

/-! ## The last entry -/

/-- Whether the last entry is an overflow event. -/
def endsInOverflow (buffer : Buffer C) : Bool :=
  match buffer.getLast? with
  | none => false
  | some last => last.isOverflow

/-- Whether an event repeats the last entry: the same kind, in a context that tests equal. Nothing
repeats an overflow event. -/
def repeatsLast [BEq C] (buffer : Buffer C) (e : ChangeEvent C) : Bool :=
  match buffer.getLast? with
  | none => false
  | some last => !last.isOverflow && last.kind == e.kind && last.context == e.context

/-- The buffer with further occurrences counted into its last entry. -/
def countIntoLast (buffer : Buffer C) (count : Nat) : Buffer C :=
  match buffer.getLast? with
  | none => buffer
  | some last => buffer.dropLast ++ [last.absorb count]

/-! ## Posting -/

/-- What becomes of an event that is posted. -/
inductive Placement where
  /-- It is counted into the last entry, which it repeats. -/
  | coalesced
  /-- It is a new entry. -/
  | appended
  /-- It is counted into the overflow event at the end. -/
  | collapsed
  /-- It is counted by a new overflow event. -/
  | overflowed
  deriving DecidableEq, Repr

/-- Where an event goes that is posted into the buffer. -/
def placement [BEq C] (config : WatchConfig) (buffer : Buffer C) (e : ChangeEvent C) :
    Placement :=
  if config.coalesceRepeats && buffer.length ≤ config.capacity && buffer.repeatsLast e then
    .coalesced
  else if buffer.length < config.capacity then .appended
  else if buffer.endsInOverflow then .collapsed
  else .overflowed

/-- The buffer after an event has been posted. -/
def post [BEq C] (config : WatchConfig) (buffer : Buffer C) (e : ChangeEvent C) : Buffer C :=
  match buffer.placement config e with
  | .coalesced => buffer.countIntoLast e.count
  | .appended => buffer ++ [e]
  | .collapsed => buffer.countIntoLast e.count
  | .overflowed => buffer ++ [ChangeEvent.marker e.count]

end Buffer

end PathWatch
