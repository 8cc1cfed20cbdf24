/-
Printlet.Script.Command — running a script file.

The command reads a script and, unless it is asked only to show the program's outline or listing,
compiles and runs it. What the script prints goes to standard output. A complaint ends the command with
exit code 1 and goes to standard error, after the log lines, drawn at the place in the script that it is
about.
-/
import Printlet.Files
import Printlet.CodeUnit.Listing
import Printlet.Script.Arguments
import Printlet.Script.Log
import Printlet.Syntax.Outline

namespace Printlet

namespace Script

/-- What running a script comes to. -/
structure Performance where
  events : List Event := []
  stdout : Bytes := []
  complaint : Option String := none
  deriving DecidableEq, Repr

/-- A complaint drawn at a node of the script, or plain if the node is unknown. -/
def drawAt (source : String) (spans : List Span) (node : Option Nat) (message : String) : String :=
  match node.bind (spans[·]?) with
  | some span => (Diagnostic.mk source (.range span) message).render
  | none => message

/-- Loads and runs a compiled script in a new engine. -/
def invoke (source : String) (spans : List Span) (names : UnitNames) (u : CodeUnit)
    (origins : Origins) (events : List Event) : Performance :=
  let image := u.toImage
  let engine := Engine.new {}
  let events := events ++ (.encoded names.unit image :: Event.ofInvocation engine image names)
  let (result, engine) := engine.loadAndInvoke image names
  let complaint := match result with
    | .ok () => none
    | .error (.call failure) =>
      let node := origins.nodeAt? failure.offset
      some (drawAt source spans node s!"Runtime error: {failure.fault.message}" ++ "\n")
    | .error (.load error) =>
      some (fatal (ExecutionError.load error).message (some error.message))
  { events := events, stdout := engine.sink.contents.toList, complaint := complaint }

/-- Compiles and runs a script that has been read. -/
def perform (options : Options) (source : String) (parsed : Parsed) (events : List Event) :
    Performance :=
  let names : UnitNames := { unit := options.unitName }
  match parsed.program.compile names with
  | .error e =>
    let drawn := drawAt source parsed.spans (some e.node) e.message
    { events := events, complaint := some s!"Compilation error: {drawn}\n" }
  | .ok (u, origins) =>
    let events := events ++ [.compiled parsed.program.statements.length u]
    if options.showCode then { events := events, stdout := Bytes.ofText u.listing }
    else invoke source parsed.spans names u origins events

/-- Runs a script of the given text. -/
def runText (options : Options) (path source : String) : Performance :=
  match Program.parse source with
  | .error e => { complaint := some (fatal (e.diagnostic source).render none) }
  | .ok parsed =>
    let events := [.parsed path parsed.spans.length]
    if options.showTree then
      { events := events, stdout := Bytes.ofText (parsed.program.outline.render ++ "\n") }
    else perform options source parsed events

/-- Runs the script at a path, given what the path leads to. -/
def runFile (options : Options) (path : String) (entry : Option FileEntry) : Performance :=
  match FileEntry.readText entry with
  | .error e => { complaint := some (fatal s!"could not read {path}" (some e.message)) }
  | .ok source => runText options path source

/-- The command: exit code, standard output, and standard error with the log lines that the filter
shows. -/
def command (options : Options) (filter : LogFilter) (path : String) (entry : Option FileEntry) :
    CommandResult :=
  let performance := runFile options path entry
  { exit := if performance.complaint.isSome then 1 else 0
    stdout := performance.stdout
    stderr := filter.lines performance.events ++ performance.complaint.getD "" }

end Script

end Printlet
