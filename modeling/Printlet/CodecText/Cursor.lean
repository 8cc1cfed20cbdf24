/-
Printlet.CodecText.Cursor — reading trees and writing tokens.

A `Cursor` stands between the trees that are still to be read and the tokens that are written so far. A
`Rule` moves it: it reads the trees of one phrase and writes their tokens. Which signs make up a token is
for the rule to say: `take` writes several signs as one token, `leaf` writes a single sign even if it was
joined to the next one. `within` moves through a pair of brackets; what its rule does not read there is
written as it stands, so nothing is lost.

The kinds of phrase refer to each other. `Phrase` names them, and a rule for one kind is given the rules
for all kinds as a function.
-/
import Printlet.CodecText.Tree

namespace Printlet

namespace CodecText

/-- The trees that are still to be read and the tokens written so far, the latest first. -/
structure Cursor where
  rest : List Tree
  written : List String := []
  deriving Repr

/-- Reads a phrase and writes it. -/
abbrev Rule := Cursor → Cursor

/-- Where an item stands. What it has to have differs from place to place. -/
inductive Place where
  | block
  | implementation
  | trait
  | foreign
  deriving DecidableEq, Repr

/-- The kinds of phrase that refer to each other. A type may have bounds added to it if `plus` holds, and
a value may be a record in braces if `records` holds. A path in a type has its arguments directly behind a
name. -/
inductive Phrase where
  | type (plus : Bool)
  | bounds (plus : Bool)
  | path (inType : Bool)
  | arguments
  | parameters (always : Bool)
  | pattern
  | patterns
  | value (records : Bool)
  | operand (records : Bool)
  | operators (records : Bool)
  | atom (records : Bool)
  | block
  | statement
  | item (place : Place)
  | imports
  deriving DecidableEq, Repr

/-- Whether trees start with signs that spell a token, each joined to the next. -/
def spells : List Char → List Tree → Bool
  | [], _ => true
  | [c], .sign d _ :: _ => c = d
  | c :: cs, .sign d true :: rest => c = d && spells cs rest
  | _, _ => false

/-- Applies a rule again and again while a condition holds and trees are read, at most `bound` times. -/
def repeated : (bound : Nat) → (going : Cursor → Bool) → Rule → Rule
  | 0, _, _, c => c
  | bound + 1, going, rule, c =>
    if going c then
      let next := rule c
      if next.rest.length < c.rest.length then repeated bound going rule next else next
    else c

namespace Cursor

/-! ## Looking ahead -/

/-- Whether nothing is left to read. -/
def isDone (c : Cursor) : Bool :=
  c.rest.isEmpty

/-- Whether a token made of signs comes next. -/
def isAt (c : Cursor) (token : String) : Bool :=
  spells token.toList c.rest

/-- Whether a certain word comes next. -/
def isWord (c : Cursor) (word : String) : Bool :=
  match c.rest with
  | .word text :: _ => text = word
  | _ => false

/-- Whether some word comes next. -/
def isAnyWord (c : Cursor) : Bool :=
  match c.rest with
  | .word _ :: _ => true
  | _ => false

/-- Whether a lifetime comes next. -/
def isLifetime (c : Cursor) : Bool :=
  match c.rest with
  | .lifetime _ :: _ => true
  | _ => false

/-- Whether a literal comes next. -/
def isLiteral (c : Cursor) : Bool :=
  match c.rest with
  | .literal _ :: _ => true
  | _ => false

/-- Whether a certain bracket is opened next. -/
def isGroup (c : Cursor) (bracket : Char) : Bool :=
  match c.rest with
  | .group b _ :: _ => b = bracket
  | _ => false

/-- The cursor without the next trees. -/
def skip (c : Cursor) (count : Nat) : Cursor :=
  { c with rest := c.rest.drop count }

/-! ## Moving -/

/-- Writes tokens. -/
def write (c : Cursor) (tokens : List String) : Cursor :=
  { c with written := tokens.reverse ++ c.written }

/-- Reads the next tree and writes it as it stands, without joining it to what follows. -/
def leaf (c : Cursor) : Cursor :=
  match c.rest with
  | [] => c
  | .sign s _ :: rest => ⟨rest, s.toString :: c.written⟩
  | tree :: rest => write ⟨rest, c.written⟩ (verbatim "" [tree])

/-- Takes a token made of signs if it comes next. -/
def take (c : Cursor) (token : String) : Cursor :=
  if c.isAt token then (c.skip token.length).write [token] else c

/-- Takes a word if it comes next. -/
def takeWord (c : Cursor) (word : String) : Cursor :=
  if c.isWord word then c.leaf else c

/-- Takes words of a list for as long as they come. -/
def takeWords (c : Cursor) (words : List String) : Cursor :=
  repeated c.rest.length (fun c => words.any c.isWord) leaf c

/-- Takes a lifetime if one comes next. -/
def takeLifetime (c : Cursor) : Cursor :=
  if c.isLifetime then c.leaf else c

/-- Takes a token if it comes next, and if so what a rule reads behind it. -/
def takeThen (c : Cursor) (token : String) (rule : Rule) : Cursor :=
  if c.isAt token then rule (c.take token) else c

/-- What a rule writes, and the cursor behind what it reads. -/
def apart (c : Cursor) (rule : Rule) : List String × Cursor :=
  let next := rule { c with written := [] }
  (next.written.reverse, { next with written := c.written })

/-- Moves through the brackets that come next, if any: a rule reads what is in them, and what it leaves
is written as it stands. -/
def within (c : Cursor) (rule : Rule) : Cursor :=
  match c.rest with
  | .group bracket inner :: rest =>
    let last := rule { rest := inner }
    let tokens := last.written.reverse ++ verbatim "" last.rest
    write ⟨rest, c.written⟩ (bracket.toString :: tokens ++ [closingOf bracket])
  | _ => c

/-- Reads phrases to the end. -/
def all (rule : Rule) (c : Cursor) : Cursor :=
  repeated c.rest.length (fun c => !c.isDone) rule c

/-- Reads phrases with commas between them, to the end or to a semicolon. -/
def separated (rule : Rule) (c : Cursor) : Cursor :=
  repeated c.rest.length (fun c => !c.isDone && !c.isAt ";") (fun c => (rule c).take ",") c

/-- Replaces what was written since an earlier place by the trees that were read since then, as they
stand. -/
def verbatimSince (start c : Cursor) : Cursor :=
  let trees := start.rest.take (start.rest.length - c.rest.length)
  write ⟨c.rest, start.written⟩ (verbatim "" trees)

end Cursor

end CodecText

end Printlet
