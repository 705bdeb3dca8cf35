import PathWatch.Drill.Run
import PathWatch.Matcher.Registry
/-!
# The command line

The program is given a selector for the files whose changes are posted and, if wanted, a file with a
configuration. It runs a drill.
-/

namespace PathWatch.Drill

/-- Why the program ends without a drill. -/
inductive Failure where
  | usage
  | selector (cause : MatchError)
  | config (cause : WatchConfig.LoadError)
  | service (cause : WatchConfig.Invalid)
  deriving DecidableEq, Repr

/-- The message for a failure. -/
def Failure.message : Failure → String
  | .usage => "Usage: fsb-watch <syntax:pattern> [config.json]"
  | .selector cause => "Error: " ++ cause.message
  | .config cause => "Error: " ++ cause.message
  | .service cause => "Error: " ++ cause.message

/-- The code with which the program ends when it fails. -/
def failureCode : UInt8 := 1

/-- Runs a drill with a selector and the content of a configuration file, if one was given. The
selector is looked at first. -/
def ofSelector (selector : String) (file : Option WatchConfig.FileContent) :
    Except Failure Stage :=
  match Registry.standard.compile selector with
  | .error e => .error (.selector e)
  | .ok matcher =>
    let loaded : Except WatchConfig.LoadError WatchConfig :=
      match file with
      | none => .ok WatchConfig.standard
      | some content => WatchConfig.load content
    match loaded with
    | .error e => .error (.config e)
    | .ok config =>
      match run config selector matcher with
      | .error e => .error (.service e)
      | .ok stage => .ok stage

/-- Runs the drill that the arguments ask for; `content` tells what the file with a path holds.
Arguments behind the second one are passed over. -/
def ofArguments (content : String → WatchConfig.FileContent) (arguments : List String) :
    Except Failure Stage :=
  match arguments with
  | [] => .error .usage
  | [selector] => ofSelector selector none
  | selector :: path :: _ => ofSelector selector (some (content path))

end PathWatch.Drill
