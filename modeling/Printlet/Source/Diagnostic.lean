/-
Printlet.Source.Diagnostic — complaints about a source text, and how they are drawn.

A diagnostic names a point or a span of a source and says what is wrong there. It is drawn as the
line in question under its line number, with carets below the place:

     --> 1:7
      |
    1 | print
      |       ^---
      |
      = expected factor

A point is marked by a caret and a tail. A span is marked by a caret at either end; if it runs over
several lines, the first and the last of them are drawn. Line ends are drawn as symbols where the
place itself is a line end, and left out elsewhere.
-/
import Printlet.Source.Line

namespace Printlet

/-- Where a complaint points. -/
inductive Place where
  | point (offset : Nat)
  | range (span : Span)
  deriving DecidableEq, Repr

/-- A complaint about a place in a source. -/
structure Diagnostic where
  source : String
  place : Place
  message : String
  deriving DecidableEq, Repr

namespace Diagnostic

/-! ## Line ends -/

/-- A character that ends a line or returns the carriage. -/
def isLineEnd (c : Char) : Bool :=
  c = '\n' || c = '\r'

/-- Line ends drawn as symbols. -/
def showLineEnds (cs : List Char) : List Char :=
  cs.map fun c => if c = '\r' then '␍' else if c = '\n' then '␊' else c

/-- Line ends left out. -/
def dropLineEnds (cs : List Char) : List Char :=
  cs.filter fun c => !isLineEnd c

/-! ## Columns -/

/-- Blanks under the characters before column `column` of a line. A tab stays a tab, so that the
mark stands under its place. -/
def indentUnder (line : List Char) (column : Nat) : String :=
  String.ofList ((line.take (column - 1)).map fun c => if c = '\t' then '\t' else ' ')

/-- The line and column at which a span ends. A span that ends at the start of a line is taken to
end after the line feed before it. -/
def endOf (source : String) (stop : Nat) : LineCol :=
  let here := Source.lineCol source stop
  if here.column ≠ 1 then here
  else
    let last := LineCol.ofText (Source.before stop source.toList).dropLast
    ⟨last.line, last.column + 1⟩

/-- The line and column of a diagnostic: one pair for a point, two for a span. -/
def lineCols (d : Diagnostic) : List LineCol :=
  match d.place with
  | .point offset => [Source.lineCol d.source offset]
  | .range span => [Source.lineCol d.source span.start, endOf d.source span.stop]

/-! ## Drawing -/

/-- A text of `n` blanks. -/
def blanks (n : Nat) : String :=
  String.ofList (List.replicate n ' ')

/-- A number set flush right in a column of the given width. -/
def flushRight (width n : Nat) : String :=
  let digits := toString n
  blanks (width - digits.length) ++ digits

/-- The frame around the drawn lines: where the complaint points, the lines, and its message. -/
def frame (margin : String) (pos : LineCol) (drawn : List String) (message : String) : String :=
  let rows :=
    [s!"{margin}--> {pos.line}:{pos.column}", s!"{margin} |"] ++ drawn ++
      [s!"{margin} |", s!"{margin} = {message}"]
  "\n".intercalate rows

/-- A complaint at a point. -/
def renderPoint (d : Diagnostic) (offset : Nat) : String :=
  let pos := Source.lineCol d.source offset
  let margin := blanks (toString pos.line).length
  let text := Source.lineAt d.source offset
  let onLineEnd := match Source.after offset d.source.toList with
    | c :: _ => isLineEnd c
    | [] => false
  let line := if onLineEnd then showLineEnds text else dropLineEnds text
  frame margin pos
    [ s!"{pos.line} | {String.ofList line}"
    , s!"{margin} | {indentUnder line pos.column}^---" ]
    d.message

/-- Whether line ends are drawn as symbols for a span with this text: it starts with one, or has at
least two characters and ends with one. -/
def marksLineEnds : List Char → Bool
  | [] => false
  | c :: cs => isLineEnd c || (match cs.getLast? with | some l => isLineEnd l | none => false)

/-- The marks under a span that runs from column `x` to column `y`. -/
def rangeMarks (x y : Nat) : String :=
  if y - x > 1 then "^" ++ String.ofList (List.replicate (y - x - 2) '-') ++ "^" else "^"

/-- A complaint over a span. -/
def renderRange (d : Diagnostic) (span : Span) : String :=
  let first := Source.lineCol d.source span.start
  let last := endOf d.source span.stop
  let text := Source.before (span.stop - span.start) (Source.after span.start d.source.toList)
  let marked := marksLineEnds text
  let touched := Source.touched d.source span
  let head := touched.headD []
  let line := if marked then showLineEnds head else dropLineEnds head
  let width := (toString (max first.line last.line)).length
  let margin := blanks width
  let rest := match touched.tail.getLast? with
    | none => []
    | some tail =>
      let shown := String.ofList (if marked then tail else showLineEnds tail)
      (if last.line - first.line > 1 then [s!"{margin} | ..."] else []) ++
        [s!"{flushRight width last.line} | {shown}"]
  let number := if touched.tail.isEmpty then toString first.line else flushRight width first.line
  -- A span that ends left of its start, on a later line, is marked from its end to its start.
  let (x, y) :=
    if first.column > last.column then (last.column - 1, first.column + 1)
    else (first.column, last.column)
  frame margin first
    ([s!"{number} | {String.ofList line}"] ++ rest ++
      [s!"{margin} | {indentUnder line x}{rangeMarks x y}"])
    d.message

/-- The drawn form of a diagnostic, without a final line end. -/
def render (d : Diagnostic) : String :=
  match d.place with
  | .point offset => d.renderPoint offset
  | .range span => d.renderRange span

end Diagnostic

end Printlet
