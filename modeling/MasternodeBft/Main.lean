import MasternodeBft.CommandLine

/-! The program: it reads the command line of a node, and says what is wrong with it. -/

open MasternodeBft

def fileContents (path : String) : IO (Except FileFault Bytes) := do
  try
    let contents ← IO.FS.readBinFile path
    pure (.ok contents.toList)
  catch
    | .inappropriateType .. => pure (.error .isADirectory)
    | .invalidArgument .. => pure (.error .nameTooLong)
    | _ => pure (.error .missing)

def main (arguments : List String) : IO UInt32 := do
  let contents ← match CommandLine.configPath? arguments with
    | none => pure (.error .missing)
    | some path => fileContents path
  match CommandLine.plan (fun _ => contents) (fun _ => false) arguments with
  | .ok _ => pure 0
  | .error cause =>
    if let some report := cause.report? then IO.eprintln report
    pure cause.exitCode
