/-
Printlet.Engine.Run — from source text to a finished run.

A source is read, compiled, written as an image and run in an engine, each step only if the one before
succeeded.
-/
import Printlet.Compiler.Compile
import Printlet.Engine.Basic
import Printlet.Syntax.Parse

namespace Printlet

/-- Why a source was not run to its end. -/
inductive RunError where
  | syntaxError (source : String) (error : SyntaxError)
  | compile (error : CompileError)
  | execution (error : ExecutionError)
  deriving DecidableEq, Repr

/-- What a complaint about a source says. -/
def RunError.message : RunError → String
  | .syntaxError source error => (error.diagnostic source).render
  | .compile error => s!"compilation failed: {error.message}"
  | .execution error => error.message

/-- Reads and compiles a source. -/
def compileSource (source : String) (names : UnitNames) : Except RunError (CodeUnit × Origins) :=
  match Program.parse source with
  | .error e => .error (.syntaxError source e)
  | .ok parsed =>
    match parsed.program.compile names with
    | .error e => .error (.compile e)
    | .ok result => .ok result

/-- Compiles a source and runs it in an engine. -/
def Engine.runSource (engine : Engine) (source : String) (names : UnitNames) :
    Except RunError Unit × Engine :=
  match compileSource source names with
  | .error e => (.error e, engine)
  | .ok (u, _) =>
    match engine.loadAndInvoke u.toImage names with
    | (.ok (), engine) => (.ok (), engine)
    | (.error e, engine) => (.error (.execution e), engine)

end Printlet
