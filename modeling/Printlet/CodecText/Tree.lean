/-
Printlet.CodecText.Tree — a text as trees of brackets, and tokens as text.

What stands between two brackets is a row of trees of its own, so a reader of one row never sees the
brackets of another. `verbatim` gives the tokens of trees as they were written: signs that were joined
stay together. `spaced` is the text of a row of tokens: single blanks between them, and none on the inner
side of round and square brackets.
-/
import Printlet.CodecText.Atom

namespace Printlet

namespace CodecText

/-- A leaf, or what stands between two brackets. -/
inductive Tree where
  | word (text : String)
  | lifetime (text : String)
  | literal (text : String)
  | sign (c : Char) (joined : Bool)
  | group (bracket : Char) (inner : List Tree)
  deriving Repr

/-- The bracket that closes another one. -/
def closingOf (bracket : Char) : String :=
  match bracket with
  | '(' => ")"
  | '[' => "]"
  | _ => "\x7d"

/-- Closes all brackets that are open. -/
def closeAll (done : List Tree) (outer : List (Char × List Tree)) : List Tree :=
  (outer.foldl (fun inner (c, around) => .group c inner.reverse :: around) done).reverse

/-- The trees of atoms. `done` is what the innermost open bracket holds so far and `outer` what the open
brackets around it hold, with the bracket that comes next; the latest trees come first. -/
def trees : List Atom → (done : List Tree) → (outer : List (Char × List Tree)) → List Tree
  | [], done, outer => closeAll done outer
  | .word text :: rest, done, outer => trees rest (.word text :: done) outer
  | .lifetime text :: rest, done, outer => trees rest (.lifetime text :: done) outer
  | .literal text :: rest, done, outer => trees rest (.literal text :: done) outer
  | .sign c joined :: rest, done, outer => trees rest (.sign c joined :: done) outer
  | .opening c :: rest, done, outer => trees rest [] ((c, done) :: outer)
  | .closing _ :: rest, done, (c, around) :: outer =>
    trees rest (.group c done.reverse :: around) outer
  | .closing _ :: rest, done, [] => trees rest done []

/-- The tokens of trees as they were written. `pending` holds signs that are joined to the first tree. -/
def verbatim (pending : String) : List Tree → List String
  | [] => if pending.isEmpty then [] else [pending]
  | .word text :: rest => (pending ++ text) :: verbatim "" rest
  | .lifetime text :: rest => (pending ++ text) :: verbatim "" rest
  | .literal text :: rest => (pending ++ text) :: verbatim "" rest
  | .sign c true :: rest => verbatim (pending.push c) rest
  | .sign c false :: rest => pending.push c :: verbatim "" rest
  | .group bracket inner :: rest =>
    (pending.push bracket :: verbatim "" inner) ++ closingOf bracket :: verbatim "" rest

/-- The text of a row of tokens. -/
def spaced : List String → String
  | [] => ""
  | [token] => token
  | token :: next :: rest =>
    let hugs := token = "(" || token = "[" || next = ")" || next = "]"
    token ++ (if hugs then "" else " ") ++ spaced (next :: rest)

end CodecText

end Printlet
