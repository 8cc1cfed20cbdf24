/-
Printlet.CodecText.Variant — the variants of an enumeration.

A variant is given as text, in any spacing. Read back it has a plain name and, if it has fields without
names, their types as rows of tokens. What stands in front of a variant or of the type of a field,
attributes and visibility, is left out, and so is a number behind a variant. A text with commas between
variants is as good as several texts.
-/
import Printlet.CodecText.Grammar

namespace Printlet

namespace CodecText

/-- What a variant of an enumeration carries. -/
inductive Payload where
  | nothing
  | unnamed (types : List String)
  | named (fields : String)
  deriving DecidableEq, Repr

/-- A variant of an enumeration. -/
structure Variant where
  name : String
  payload : Payload
  deriving DecidableEq, Repr

/-- The text that declares a variant. -/
def Variant.text (v : Variant) : String :=
  match v.payload with
  | .nothing => v.name
  | .unnamed types => v.name ++ "(" ++ ", ".intercalate types ++ ")"
  | .named fields => v.name ++ " \x7b " ++ fields ++ " \x7d"

/-- The types in a row of fields without names, of which there are at most `count`. -/
def types (read : Phrase → Rule) : (count : Nat) → Cursor → List String
  | 0, _ => []
  | count + 1, c =>
    if c.isDone then []
    else
      let (_, behind) := c.apart fun c => visibility read (attributes read c)
      let (tokens, next) := behind.apart (read (.type true))
      spaced tokens :: types read count (next.take ",")

/-- What the variant at the cursor carries, behind its name. -/
def payloadAt (read : Phrase → Rule) (c : Cursor) : Payload :=
  match c.rest with
  | .group '(' inner :: _ => .unnamed (types read inner.length { rest := inner })
  | .group '\x7b' inner :: _ => .named (spaced (verbatim "" inner))
  | _ => .nothing

/-- The variants in a row, of which there are at most `count`. -/
def variants (read : Phrase → Rule) : (count : Nat) → Cursor → List Variant
  | 0, _ => []
  | count + 1, c =>
    if c.isDone then []
    else
      let (_, behind) := c.apart fun c => visibility read (attributes read c)
      let (name, next) := behind.apart Cursor.leaf
      let (_, last) := next.apart fun c => (fieldList read c).takeThen "=" (read (.value true))
      ⟨spaced name, payloadAt read next⟩ :: variants read count (last.take ",")

/-- A variant as it reads, written evenly. -/
def Variant.even (v : Variant) : List Variant :=
  let text := atoms 0 v.text.toList
  variants (rules text) text.length { rest := trees text [] [] }

/-- The plain name in what names an enumeration. -/
def plainName (text : String) : String :=
  match atoms 0 text.toList with
  | .word name :: _ => name
  | _ => text

end CodecText

end Printlet
