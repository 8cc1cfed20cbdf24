/-
Printlet.Script.Suite — checking a directory of scripts.

The suite builds the interpreter, runs every script in `tests`, in the order of their names, and
compares what it prints with the expected output that stands beside it, under the script's name with
another extension. A script without expected output is meant to fail. Each script is reported on a line
of its own; the command fails if a script does.
-/
import Printlet.Script.Command

namespace Printlet

namespace Suite

/-- What the suite finds: the files by path, the exit code of the build (if there is a build command at
all) and what the build prints, and whether it leaves an interpreter. -/
structure Workspace where
  files : List (String × FileEntry)
  build : Option Nat := some 0
  buildOutput : Bytes := []
  interpreter : Bool := true
  deriving DecidableEq, Repr

/-- Where one more step leads, the latest first. A step that stays does not count, and a step up takes
back the one before. -/
def follow (done : List String) (step : String) : List String :=
  if step = "" || step = "." then done
  else if step = ".." then done.drop 1
  else step :: done

/-- The steps of a path from the working directory. -/
def steps (path : String) : List String :=
  (((path.toList.splitOn '/').map String.ofList).foldl follow []).reverse

/-- What a path leads to. Of two files at the same place the later one counts. A place on the way to a
file is a directory. -/
def Workspace.entry? (w : Workspace) (path : String) : Option FileEntry :=
  match w.files.reverse.find? fun (other, _) => steps other = steps path with
  | some (_, entry) => some entry
  | none =>
    if w.files.any fun (other, _) => (steps path).isPrefixOf (steps other) then some .directory
    else none

/-! ## Scripts -/

/-- The directory that holds the scripts. -/
def directory : String :=
  "tests"

/-- The name of the entry of the scripts' directory that a path leads to or through. -/
def entryName? (path : String) : Option String :=
  match steps path with
  | first :: name :: _ => if first = directory then some name else none
  | _ => none

/-- Whether a name is that of a script. -/
def isScript (name : String) : Bool :=
  ".alm".toList.isSuffixOf name.toList

/-- The names of the scripts, in order and each once. -/
def Workspace.scripts (w : Workspace) : List String :=
  let names := (w.files.filterMap fun (path, _) => entryName? path).filter isScript
  (names.mergeSort (· ≤ ·)).eraseDups

/-- A name with its extension replaced. The extension starts behind the last dot, but a dot at the very
front starts none. Where only two dots are left without the extension, they mean a step up and stay as
they are. -/
def withExtension (name extension : String) : String :=
  match name.toList.reverse.dropWhile (· ≠ '.') with
  | [] => name ++ "." ++ extension
  | [_] => name ++ "." ++ extension
  | ['.', '.'] => ".."
  | _ :: stem => String.ofList stem.reverse ++ "." ++ extension

/-- The path of an entry of the scripts' directory. -/
def pathOf (name : String) : String :=
  directory ++ "/" ++ name

/-! ## Verdicts -/

/-- Why a script does not pass. -/
inductive Failure where
  | notStarted (path : String)
  | shouldFail (stdout : Bytes)
  | noExpectation (path : String) (error : FileError)
  | exited (code : Nat) (stderr : String)
  | differs (stdout : Bytes)
  deriving DecidableEq, Repr

/-- What is said about a script that does not pass. -/
def Failure.message : Failure → Bytes
  | .notStarted path => Bytes.ofText s!"running script {path}: {FileError.missing.message}"
  | .shouldFail stdout => Bytes.ofText "expected the script to fail, actual output:\n" ++ stdout
  | .noExpectation path error =>
    Bytes.ofText s!"loading expected output: {path}: {error.message}"
  | .exited code stderr => Bytes.ofText s!"exited with exit status: {code}, stderr:\n{stderr}"
  | .differs stdout => Bytes.ofText "actual output:\n" ++ stdout

/-- What the interpreter makes of a script. -/
def Workspace.run (w : Workspace) (name : String) : CommandResult :=
  let path := pathOf name
  Script.command {} LogFilter.fallback path (w.entry? path)

/-- Compares the run of a script with what is expected of it. -/
def Workspace.check (w : Workspace) (name : String) : Except Failure Unit :=
  if w.interpreter then
    let result := w.run name
    let expectedPath := pathOf (withExtension name "out")
    match w.entry? expectedPath with
    | none => if result.succeeded then .error (.shouldFail result.stdout) else .ok ()
    | some entry =>
      match FileEntry.readText (some entry) with
      | .error e => .error (.noExpectation expectedPath e)
      | .ok expected =>
        if !result.succeeded then .error (.exited result.exit result.stderr)
        else if result.stdout = Bytes.ofText expected then .ok ()
        else .error (.differs result.stdout)
  else .error (.notStarted (pathOf name))

/-- Whether a script passes. -/
def Workspace.passes (w : Workspace) (name : String) : Bool :=
  match w.check name with
  | .ok () => true
  | .error _ => false

/-- The report on a script. -/
def Workspace.report (w : Workspace) (name : String) : Bytes :=
  match w.check name with
  | .ok () => Bytes.ofText s!"{pathOf name}: passed\n"
  | .error failure =>
    Bytes.ofText s!"{pathOf name}: failed\n" ++ failure.message ++ Bytes.ofText "\n"

/-! ## The command -/

/-- The result of the suite if the build fails for the given cause. -/
def buildFailure (stdout : Bytes) (cause : String) : CommandResult :=
  ⟨1, stdout, fatal "compiling interpreter" (some cause)⟩

/-- Runs all scripts after a successful build. -/
def Workspace.runAll (w : Workspace) : CommandResult :=
  let scripts := w.scripts
  let passed := (scripts.filter w.passes).length
  let failed := scripts.length - passed
  let summary := Bytes.ofText s!"{passed} of {scripts.length} scripts passed\n"
  { exit := if failed = 0 then 0 else 1
    stdout := w.buildOutput ++ scripts.flatMap w.report ++ summary
    stderr := if failed = 0 then "" else fatal s!"{failed} scripts failed" none }

/-- The command. -/
def command (w : Workspace) : CommandResult :=
  match w.build with
  | none => buildFailure [] FileError.missing.message
  | some 0 => w.runAll
  | some _ => buildFailure w.buildOutput "compiling the interpreter failed"

end Suite

end Printlet
