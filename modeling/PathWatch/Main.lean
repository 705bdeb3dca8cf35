import PathWatch.Drill.Command
/-!
# The program

Reads the arguments and the configuration file, runs the drill, and reports a failure.
-/

open PathWatch

/-- What reading a file gives. A file that cannot be read for another reason counts as missing. -/
def contentOfFile (path : String) : IO WatchConfig.FileContent := do
  try
    return .bytes (← IO.FS.readBinFile path)
  catch e =>
    match e with
    | .inappropriateType .. => return .isDirectory
    | _ => return .notFound

/-- Runs the program. -/
def main (arguments : List String) : IO UInt32 := do
  let content ←
    match arguments with
    | _ :: path :: _ => contentOfFile path
    | _ => pure .notFound
  match Drill.ofArguments (fun _ => content) arguments with
  | .ok _ => return 0
  | .error e =>
    IO.eprintln e.message
    return Drill.failureCode.toUInt32
