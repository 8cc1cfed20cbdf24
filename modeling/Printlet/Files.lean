/-
Printlet.Files — what a path can lead to, and reading it as text.
-/
import Printlet.Bytes.Basic

namespace Printlet

/-- What a path leads to. -/
inductive FileEntry where
  | directory
  | file (contents : Bytes)
  deriving DecidableEq, Repr

/-- Why something could not be read as a text, or started as a program. -/
inductive FileError where
  | missing
  | isDirectory
  | notText
  deriving DecidableEq, Repr

/-- What the system says about the failure. -/
def FileError.message : FileError → String
  | .missing => "No such file or directory (os error 2)"
  | .isDirectory => "Is a directory (os error 21)"
  | .notText => "stream did not contain valid UTF-8"

/-- The text at a path, given what the path leads to. -/
def FileEntry.readText : Option FileEntry → Except FileError String
  | none => .error .missing
  | some .directory => .error .isDirectory
  | some (.file contents) =>
    match Bytes.toText? contents with
    | some text => .ok text
    | none => .error .notText

/-- What a command leaves behind. -/
structure CommandResult where
  exit : Nat
  stdout : Bytes
  stderr : String
  deriving DecidableEq, Repr

/-- Whether a command says that it succeeded. -/
def CommandResult.succeeded (r : CommandResult) : Bool :=
  r.exit = 0

/-- The complaint with which a command ends, and its cause if it has one. -/
def fatal (message : String) (cause : Option String) : String :=
  match cause with
  | none => s!"Error: {message}\n"
  | some cause => s!"Error: {message}\n\nCaused by:\n    {cause}\n"

end Printlet
