/-
Printlet.Syntax.Parse — from source text to a numbered program.

`parse` scans a source, reads its lexemes, and numbers the tree. A number that does not fit is looked
for only after the whole text has been read, so a syntax error anywhere wins over it.
-/
import Printlet.Source.Diagnostic
import Printlet.Syntax.Reading

namespace Printlet

/-- Why a source is not a program. -/
inductive SyntaxError where
  /-- Reading stopped at an offset where only the listed items could come. -/
  | unexpected (offset : Nat) (expected : List Expectation)
  /-- The number at a span is too large. -/
  | oversized (span : Span)
  deriving DecidableEq, Repr

namespace SyntaxError

/-- Names in a row: `A`, `A or B`, `A, B, or C`. -/
def joinAlternatives : List String → String
  | [] => ""
  | [a] => a
  | [a, b] => s!"{a} or {b}"
  | names => ", ".intercalate names.dropLast ++ ", or " ++ names.getLastD ""

/-- What a complaint says. -/
def message : SyntaxError → String
  | .unexpected _ [] => "unknown parsing error"
  | .unexpected _ expected => "expected " ++ joinAlternatives (expected.map Expectation.label)
  | .oversized _ => "invalid integer literal: number too large to fit in target type"

/-- Where a complaint points. -/
def place : SyntaxError → Place
  | .unexpected offset _ => .point offset
  | .oversized span => .range span

/-- The complaint about the source in which the error was found. -/
def diagnostic (e : SyntaxError) (source : String) : Diagnostic :=
  ⟨source, e.place, e.message⟩

end SyntaxError

/-- A program whose nodes are numbered, and the span of each node by its number. -/
structure Parsed where
  program : Program Nat
  spans : List Span

/-- The largest number that a literal may denote. -/
def maxLiteral : Nat :=
  9223372036854775807

/-- Whether a token is a number that does not fit. -/
def Token.isOversized : Token → Bool
  | .int value => maxLiteral < value
  | _ => false

/-- The state after all lexemes, or the complaint about the first that may not come. -/
def Reading.run (reading : Reading) : List Lexeme → Except SyntaxError Reading
  | [] => .ok reading
  | lexeme :: rest =>
    match reading.next lexeme with
    | some reading => reading.run rest
    | none =>
      .error (.unexpected (reading.complaintAt lexeme.span.start) reading.expected)

namespace Program

/-- The program that a scanned source spells, labelled with spans. It starts where its first token
does. -/
def ofScan (scan : Scan) : Except SyntaxError (Program Span) := do
  let start := match scan.lexemes with
    | lexeme :: _ => lexeme.span.start
    | [] => scan.stop
  let reading ← (Reading.boundary [] start).run scan.lexemes
  match scan.complete, reading.finish scan.stop with
  | true, some (statements, stop) => .ok ⟨⟨start, stop⟩, statements⟩
  | _, _ => .error (.unexpected (reading.complaintAt scan.stop) reading.expected)

/-- Reads a source. -/
def parse (source : String) : Except SyntaxError Parsed := do
  let scan := Scan.ofSource source
  let tree ← ofScan scan
  match scan.lexemes.find? (·.token.isOversized) with
  | some lexeme => .error (.oversized lexeme.span)
  | none => .ok ⟨tree.number, tree.labels⟩

end Program

end Printlet
