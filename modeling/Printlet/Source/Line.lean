/-
Printlet.Source.Line — lines and columns of a source text.

Only a line feed ends a line. Lines and columns count from one, columns in characters; a carriage
return is a column like any other. The text of a line includes the line feed that ends it.
-/
import Printlet.Source.Span

namespace Printlet

/-- A line and a column, both from one. -/
structure LineCol where
  line : Nat
  column : Nat
  deriving DecidableEq, Repr

namespace LineCol

/-- The place after one more character. -/
def advance (p : LineCol) (c : Char) : LineCol :=
  if c = '\n' then ⟨p.line + 1, 1⟩ else ⟨p.line, p.column + 1⟩

/-- The place reached after the given characters. -/
def ofText (cs : List Char) : LineCol :=
  cs.foldl advance ⟨1, 1⟩

end LineCol

namespace Source

/-- The line and column of a byte offset. -/
def lineCol (source : String) (n : Nat) : LineCol :=
  LineCol.ofText (before n source.toList)

/-- The characters up to and with the first line feed. -/
def firstLine : List Char → List Char
  | [] => []
  | c :: cs => if c = '\n' then [c] else c :: firstLine cs

/-- The text of the line that holds byte offset `n`. -/
def lineAt (source : String) (n : Nat) : List Char :=
  let cs := source.toList
  ((before n cs).reverse.takeWhile (· ≠ '\n')).reverse ++ firstLine (after n cs)

/-- Splits a text after each line feed. -/
def lines : List Char → List (List Char)
  | [] => []
  | c :: cs =>
    if c = '\n' then [c] :: lines cs
    else match lines cs with
      | [] => [[c]]
      | l :: ls => (c :: l) :: ls

/-- The lines that a span touches, from lines of which the first starts at byte `start`. A span
that is empty touches the line it stands in; one at the end of the source touches none. -/
def touchedFrom (span : Span) (start : Nat) : List (List Char) → List (List Char)
  | [] => []
  | l :: ls =>
    let stop := start + byteLength l
    let rest := touchedFrom span stop ls
    if span.start < stop && (start ≤ span.start || start < span.stop) then l :: rest else rest

/-- The texts of the lines that a span touches. -/
def touched (source : String) (span : Span) : List (List Char) :=
  touchedFrom span 0 (lines source.toList)

end Source

end Printlet
