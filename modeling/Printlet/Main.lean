/-
Printlet.Main — the command line.

Reads the arguments, the log filter from the environment and the script, and hands them to the command.
-/
import Printlet.Script.Command

namespace Printlet

/-- What a path leads to. -/
def lookAt (path : String) : IO (Option FileEntry) := do
  try
    let contents ← IO.FS.readBinFile path
    return some (.file contents.data.toList)
  catch
    | .noFileOrDirectory _ _ _ => return none
    | _ => return some .directory

/-- The filter that the environment asks for. -/
def environmentFilter : IO LogFilter := do
  match ← IO.getEnv "ALMAZ_LOG" with
  | some text => return LogFilter.parse text
  | none => return LogFilter.fallback

end Printlet

open Printlet in
/-- Runs the script that the arguments name. -/
def main (words : List String) : IO UInt32 := do
  match Arguments.parse words with
  | some ⟨options, some script⟩ =>
    let entry ← lookAt script
    let result := Script.command options (← environmentFilter) script entry
    let stdout ← IO.getStdout
    stdout.write ⟨result.stdout.toArray⟩
    stdout.flush
    IO.eprint result.stderr
    return UInt32.ofNat result.exit
  | _ =>
    IO.eprintln "usage: [-a] [-b] [-u NAME] SCRIPT"
    return 2
