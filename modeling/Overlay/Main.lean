/-
The command line: reads the settings file that the arguments name, and prints the answer.
-/
import Overlay.Cli.Run

open Overlay

/-- The settings file at a path: the file itself, or the one in a directory. -/
def settingsFile (path : Option String) : IO (Option ByteArray) := do
  let given := path.getD "."
  let given := if given.isEmpty then "." else given
  let inside := given ++ "/" ++ Settings.fileName
  try
    return some (← IO.FS.readBinFile inside)
  catch _ =>
    try
      return some (← IO.FS.readBinFile given)
    catch _ => return none

def main (args : List String) : IO UInt32 := do
  match Cli.request? args with
  | none => return UInt32.ofNat Cli.misuse.exitCode
  | some request =>
    let config := match request with
      | .resolve _ _ config _ => config
      | _ => none
    match Cli.answer (← settingsFile config) request with
    | .ok out =>
      IO.print out.stdout
      return UInt32.ofNat out.exitCode
    | .error _ => return 1
