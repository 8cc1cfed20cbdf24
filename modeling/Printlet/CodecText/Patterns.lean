/-
Printlet.CodecText.Patterns — patterns.

In a pattern `&&` is a reference to a reference. Three points, an old way to write a range that includes
its end, are written as `..=`. What is behind `box` is written as it stands.
-/
import Printlet.CodecText.Types

namespace Printlet

namespace CodecText

variable (read : Phrase → Rule)

/-! ## Members -/

/-- The value of a digit. -/
def digitValue (c : Char) : Nat :=
  if c.isDigit then c.toNat - '0'.toNat
  else if c.isLower then c.toNat - 'a'.toNat + 10
  else c.toNat - 'A'.toNat + 10

/-- The number that digits make in a base. -/
def numberIn (base : Nat) (digits : List Char) : Nat :=
  (digits.filter (· ≠ '_')).foldl (fun n c => n * base + digitValue c) 0

/-- The position of a member, written as a plain number. -/
def position (text : String) : String :=
  match text.toList with
  | '0' :: 'x' :: digits => (numberIn 16 digits).repr
  | '0' :: 'o' :: digits => (numberIn 8 digits).repr
  | '0' :: 'b' :: digits => (numberIn 2 digits).repr
  | digits => (numberIn 10 digits).repr

/-- The name or the position of a member. -/
def member (c : Cursor) : Cursor :=
  match c.rest with
  | .literal text :: rest => Cursor.write ⟨rest, c.written⟩ [position text]
  | _ => c.leaf

/-! ## Patterns -/

/-- The end of a range, which may be missing. -/
def rangeEnd (c : Cursor) : Cursor :=
  if c.isLiteral then c.leaf
  else if c.isAt "-" then (c.take "-").leaf
  else if c.isWord "const" then read .block c.leaf
  else if c.isWord "if" || c.isWord "in" then c
  else if c.isAnyWord || c.isAt "::" || c.isAt "<" then read (.path false) c
  else c

/-- The rest of a range, if there is one. -/
def rangeRest (c : Cursor) : Cursor :=
  if c.isAt "..=" then rangeEnd read (c.take "..=")
  else if c.isAt "..." then rangeEnd read ((c.skip 3).write ["..="])
  else c.takeThen ".." (rangeEnd read)

/-- A member of a record and the pattern for it, or the mark that there are more. -/
def memberPattern (c : Cursor) : Cursor :=
  let c := attributes read c
  let c :=
    if c.isAt ".." then c.take ".."
    else (member (c.takeWords ["box", "ref", "mut"])).takeThen ":" (read .patterns)
  c.take ","

/-- A pattern that starts with a path. -/
def pathPattern (c : Cursor) : Cursor :=
  let c := read (.path false) c
  match macroCall? c with
  | some last => last
  | none =>
    if c.isGroup '\x7b' then c.within (Cursor.all (memberPattern read))
    else if c.isGroup '(' then c.within (Cursor.separated (read .patterns))
    else if c.isAt "@" then read .pattern (c.take "@")
    else rangeRest read c

/-- A single pattern. -/
def pattern (c : Cursor) : Cursor :=
  match c.rest with
  | .group _ _ :: _ => c.within (Cursor.separated (read .patterns))
  | .sign '&' _ :: _ => read .pattern ((c.take "&").takeWord "mut")
  | .sign '.' _ :: _ => rangeRest read c
  | .sign '-' _ :: _ => rangeRest read (rangeEnd read c)
  | .literal _ :: _ => rangeRest read c.leaf
  | .word "const" :: _ => rangeRest read (rangeEnd read c)
  | .word "ref" :: _ => (c.takeWords ["ref", "mut"]).leaf.takeThen "@" (read .pattern)
  | .word "mut" :: _ => c.leaf.leaf.takeThen "@" (read .pattern)
  | .word "box" :: _ => Cursor.verbatimSince c (read .pattern c.leaf)
  | .word "_" :: _ => c.leaf
  | .word _ :: _ => pathPattern read c
  | .sign '<' _ :: _ => pathPattern read c
  | .sign ':' _ :: _ => pathPattern read c
  | _ => c

/-- Alternative patterns. -/
def patterns (c : Cursor) : Cursor :=
  let c := read .pattern (c.take "|")
  repeated c.rest.length (fun c => c.isAt "|" && !c.isAt "||" && !c.isAt "|=")
    (fun c => read .pattern (c.take "|")) c

end CodecText

end Printlet
