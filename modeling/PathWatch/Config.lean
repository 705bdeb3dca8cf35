import PathWatch.Json.Reader
import PathWatch.Json.Skip
/-!
# Configuration of a service

A service gives every subscription the same capacity and the same rule for repeated events. A
configuration can be read from a file; what the file leaves out is as in the default configuration.
-/

namespace PathWatch

open Json

/-! ## Configurations -/

/-- How the subscriptions of a service buffer their events. -/
structure WatchConfig where
  /-- The number of ordinary entries of a buffer. -/
  capacity : Nat := 512
  /-- Whether an event that repeats the last entry is counted in that entry. -/
  coalesceRepeats : Bool := false
  deriving DecidableEq, Repr

namespace WatchConfig

/-- The configuration that holds where nothing else is said. -/
def standard : WatchConfig := {}

/-- The configuration with the given capacity that keeps repeated events apart. -/
def ofCapacity (capacity : Nat) : WatchConfig := { capacity }

/-- What is wrong with a configuration. -/
inductive Invalid where
  | zeroCapacity
  deriving DecidableEq, Repr

/-- The message for a configuration that no service accepts. -/
def Invalid.message : Invalid → String
  | .zeroCapacity => "Invalid configuration: capacity must be at least 1"

/-- Accepts a configuration whose buffers have room for an event. -/
def validate (config : WatchConfig) : Except Invalid Unit :=
  if config.capacity = 0 then .error .zeroCapacity else .ok ()

/-! ## Text -/

/-- The configuration as it is written. -/
def toJson (config : WatchConfig) : List Char :=
  writeObject
    [("capacity", writeNat config.capacity), ("coalesce_repeats", writeBool config.coalesceRepeats)]

/-- The parts of the configuration by name. -/
def describe (config : WatchConfig) : String :=
  "WatchConfig \x7b capacity: " ++ toString config.capacity ++
    ", coalesce_repeats: " ++ toString config.coalesceRepeats ++ " \x7d"

/-- What has been read of a configuration. -/
structure Parts where
  capacity : Option Nat := none
  coalesceRepeats : Option Bool := none

/-- What has been read, completed by the default configuration. -/
def Parts.complete (parts : Parts) : WatchConfig where
  capacity := parts.capacity.getD standard.capacity
  coalesceRepeats := parts.coalesceRepeats.getD standard.coalesceRepeats

/-- Reads a capacity. -/
def readCapacity (s : List Char) : Except Error (Nat × List Char) :=
  readNat maxWord "usize" s

/-- Reads a member of a configuration from behind its key. Members of other names are passed
over. -/
def readMember (key : String) (parts : Parts) (s : List Char) :
    Except Error (Parts × List Char) :=
  match key with
  | "capacity" =>
    if parts.capacity.isSome then .error (.duplicateField key)
    else do
      let s ← readColon s
      let (capacity, s) ← readCapacity s
      return ({ parts with capacity := some capacity }, s)
  | "coalesce_repeats" =>
    if parts.coalesceRepeats.isSome then .error (.duplicateField key)
    else do
      let s ← readColon s
      let (coalesceRepeats, s) ← readBool s
      return ({ parts with coalesceRepeats := some coalesceRepeats }, s)
  | _ => do
    let s ← readColon s
    let s ← skipValue s
    return (parts, s)

/-- Reads a configuration from a list, from behind its bracket: the capacity and the rule for
repeated events, of which the last ones may be missing. -/
def readList (s : List Char) : Except Error (Parts × List Char) := do
  match ← nextElement? true s with
  | none =>
    let s ← readListEnd s
    return ({}, s)
  | some s =>
    let (capacity, s) ← readCapacity s
    match ← nextElement? false s with
    | none =>
      let s ← readListEnd s
      return ({ capacity := some capacity }, s)
    | some s =>
      let (coalesceRepeats, s) ← readBool s
      let s ← readListEnd s
      return ({ capacity := some capacity, coalesceRepeats := some coalesceRepeats }, s)

/-- Reads a configuration. -/
def readJson (s : List Char) : Except Error (WatchConfig × List Char) := do
  let (parts, s) ←
    match skipBlanks s with
    | [] => .error .eofInValue
    | '[' :: r => readList r
    | '{' :: r => readMembers readMember {} r
    | r => unexpected "struct WatchConfig" r
  return (parts.complete, s)

/-- Reads a whole text as a configuration. -/
def ofJson (text : String) : Except Error WatchConfig :=
  readDocument readJson text.toList

/-! ## Files -/

/-- What reading a file gives: its bytes, or the reason why there are none. -/
inductive FileContent where
  | bytes (content : ByteArray)
  | notFound
  | isDirectory

/-- Why a configuration cannot be loaded. -/
inductive LoadError where
  | notFound
  | isDirectory
  | notText
  | json (cause : Json.Error)
  | invalid (cause : Invalid)
  deriving DecidableEq, Repr

/-- The message for a configuration that cannot be loaded. -/
def LoadError.message : LoadError → String
  | .notFound => "I/O error: No such file or directory (os error 2)"
  | .isDirectory => "I/O error: Is a directory (os error 21)"
  | .notText => "I/O error: stream did not contain valid UTF-8"
  | .json cause => "JSON error: " ++ cause.message
  | .invalid cause => cause.message

/-- The configuration in the text of a file, if a service accepts it. -/
def ofText (text : String) : Except LoadError WatchConfig :=
  match ofJson text with
  | .error e => .error (.json e)
  | .ok config =>
    match config.validate with
    | .error e => .error (.invalid e)
    | .ok () => .ok config

/-- The configuration in a file. -/
def load : FileContent → Except LoadError WatchConfig
  | .notFound => .error .notFound
  | .isDirectory => .error .isDirectory
  | .bytes content =>
    match String.fromUTF8? content with
    | none => .error .notText
    | some text => ofText text

end WatchConfig

end PathWatch
