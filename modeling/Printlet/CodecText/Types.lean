/-
Printlet.CodecText.Types — types, paths and bounds.

In a type every sign is a token of its own, apart from `::`, `->` and `...`: angle brackets come in pairs,
so `>>` closes two of them and `>=` closes one before an equals sign, and `&&` is a reference to a
reference. Lifetimes are written first among arguments in angle brackets. The parameters of an item are
left out if there are none, and so are a colon with no bounds and `where` with no conditions. The
arguments of a macro are written as they stand.
-/
import Printlet.CodecText.Cursor

namespace Printlet

namespace CodecText

variable (read : Phrase → Rule)

/-! ## Attributes -/

/-- Names with `::` between them and no arguments. -/
def plainPath (c : Cursor) : Cursor :=
  let c := (c.take "::").leaf
  repeated c.rest.length (fun c => c.isAt "::" && (c.skip 2).isAnyWord)
    (fun c => (c.take "::").leaf) c

/-- What an attribute says: a path, with arguments that stay as they are or with a value. -/
def attributeBody (c : Cursor) : Cursor :=
  (plainPath c).takeThen "=" (read (.value true))

/-- Attributes in front of something. -/
def attributes (c : Cursor) : Cursor :=
  repeated c.rest.length (·.isAt "#")
    (fun c => ((c.take "#").take "!").within (attributeBody read)) c

/-! ## Paths -/

/-- A path that starts with a type, which may be seen as a trait. -/
def qualified (inType : Bool) (c : Cursor) : Cursor :=
  let c := read (.type true) (c.take "<")
  let c := if c.isWord "as" then read (.path true) c.leaf else c
  read (.path inType) (c.take ">")

/-- The types that a function takes, and the one it gives. -/
def signature (c : Cursor) : Cursor :=
  (c.within (Cursor.separated (read (.type true)))).takeThen "->" (read (.type false))

/-- Names with `::` between them, and arguments behind some of them. -/
def path (inType : Bool) (c : Cursor) : Cursor :=
  if c.isAt "<" then qualified read inType c
  else
    let named := (c.take "::").leaf
    let behind := named.skip 2
    let next :=
      if inType && named.isAt "<" && !named.isAt "<=" then read .arguments named
      else if named.isAt "::" && behind.isAt "<" then read .arguments (named.take "::")
      else if inType && named.isGroup '(' then signature read named
      else if inType && named.isAt "::" && behind.isGroup '(' then signature read behind
      else named
    if next.isAt "::" then read (.path inType) next else next

/-- The rest of the call of a macro, if a path turns out to be its name. -/
def macroCall? (c : Cursor) : Option Cursor :=
  match c.rest with
  | .sign '!' _ :: .group _ _ :: _ => some (c.take "!").leaf
  | _ => none

/-! ## Lists in angle brackets -/

/-- An entry of a list in angle brackets. -/
structure Part where
  isLifetime : Bool
  tokens : List String
  comma : Bool

/-- The tokens of an entry and the comma behind it. -/
def Part.all (part : Part) : List String :=
  if part.comma then part.tokens ++ [","] else part.tokens

/-- Whether an entry is a lifetime, and not a type that starts with one. -/
def startsLifetime (c : Cursor) : Bool :=
  c.isLifetime && !(c.skip 1).isAt "+"

/-- The cursor behind the attributes that come next. -/
def behindAttributes (c : Cursor) : Cursor :=
  repeated c.rest.length (·.isAt "#") (·.skip 2) c

/-- The entries of a list up to the bracket that closes it. -/
def parts (rule : Rule) : (bound : Nat) → Cursor → List Part × Cursor
  | 0, c => ([], c)
  | bound + 1, c =>
    if c.isDone || c.isAt ">" then ([], c)
    else
      let (tokens, next) := c.apart rule
      let comma := next.isAt ","
      let (more, last) := parts rule bound (if comma then next.skip 1 else next)
      (⟨startsLifetime (behindAttributes c), tokens, comma⟩ :: more, last)

/-- The tokens of a list, lifetimes first. A lifetime that was last gets a comma before others. -/
def lifetimesFirst (list : List Part) : List String :=
  let (lifetimes, others) := list.partition (·.isLifetime)
  let between := if !others.isEmpty && lifetimes.getLast?.any (!·.comma) then [","] else []
  lifetimes.flatMap Part.all ++ between ++ others.flatMap Part.all

/-- A number, a text or a block that stands for a constant, if one comes next. -/
def constant? (c : Cursor) : Option Cursor :=
  if c.isLiteral then some c.leaf
  else if c.isAt "-" then some (c.take "-").leaf
  else if c.isGroup '\x7b' then some (read .block c)
  else none

/-- A constant or a type. -/
def constantOrType (c : Cursor) : Cursor :=
  (constant? read c).getD (read (.type true) c)

/-- Whether a bound comes next. -/
def startsBound (c : Cursor) : Bool :=
  c.isLifetime || c.isGroup '(' || c.isGroup '[' || c.isAt "?" || c.isAt "~" || c.isAt "::" || c.isAt "<" ||
  (c.isWord "for" && (c.skip 1).isAt "<") ||
  (c.isAnyWord && !c.isWord "where" && !c.isWord "for")

/-- Bounds, which may be missing. -/
def optionalBounds (c : Cursor) : Cursor :=
  if startsBound c then read (.bounds true) c else c

/-- A colon and bounds; without bounds there is no colon either. -/
def colonBounds (c : Cursor) : Cursor :=
  if c.isAt ":" then
    if startsBound (c.skip 1) then read (.bounds true) (c.take ":") else c.skip 1
  else c

/-- An argument: a lifetime, a constant or a type, or what an associated type is or is bound by. -/
def argument (c : Cursor) : Cursor :=
  if startsLifetime c then c.leaf
  else
    let c := constantOrType read c
    if c.isAt "=" then constantOrType read (c.take "=")
    else c.takeThen ":" (optionalBounds read)

/-- Arguments in angle brackets. -/
def arguments (c : Cursor) : Cursor :=
  let c := c.take "<"
  let (list, last) := parts (argument read) c.rest.length c
  (last.write (lifetimesFirst list)).take ">"

/-- A parameter of an item. -/
def parameter (c : Cursor) : Cursor :=
  let c := attributes read c
  if c.isWord "const" then
    let c := read (.type true) (c.leaf.leaf.take ":")
    c.takeThen "=" (constantOrType read)
  else (colonBounds read c.leaf).takeThen "=" (read (.type true))

/-- Parameters in angle brackets. Unless the brackets are always there, they are left out if there is
nothing in them. -/
def parameters (always : Bool) (c : Cursor) : Cursor :=
  let c := c.skip 1
  let (list, last) := parts (parameter read) c.rest.length c
  let tokens :=
    if list.isEmpty && !always then [] else "<" :: lifetimesFirst list ++ [">"]
  (last.skip 1).write tokens

/-- The parameters of an item, if it has any. -/
def generics (c : Cursor) : Cursor :=
  if c.isAt "<" then read (.parameters false) c else c

/-- The lifetimes for which something holds. -/
def binder (c : Cursor) : Cursor :=
  if c.isWord "for" && (c.skip 1).isAt "<" then read (.parameters true) c.leaf else c

/-! ## Bounds -/

/-- A trait that a type is bound by. With a mark for constants it is written as it stands. -/
def traitBound (c : Cursor) : Cursor :=
  let first := binder read c
  let marked := if first.isGroup '[' then first.leaf else (first.take "~").takeWord "const"
  let last := read (.path true) (binder read ((marked.takeWord "async").take "?"))
  if marked.rest.length < first.rest.length then Cursor.verbatimSince c last else last

/-- A bound: a lifetime or a trait. -/
def bound (c : Cursor) : Cursor :=
  if c.isGroup '(' then c.within (read (.bounds false))
  else if c.isLifetime then c.leaf
  else if c.isWord "use" then read .arguments c.leaf
  else traitBound read c

/-- Further bounds. -/
def moreBounds (plus : Bool) (c : Cursor) : Cursor :=
  repeated c.rest.length (fun c => plus && c.isAt "+")
    (fun c => let c := c.take "+"; if startsBound c then bound read c else c) c

/-- Bounds with plus signs between them. -/
def bounds (plus : Bool) (c : Cursor) : Cursor :=
  moreBounds read plus (bound read c)

/-- A condition on a lifetime or a type. -/
def condition (c : Cursor) : Cursor :=
  let c := if c.isLifetime then c.leaf else read (.type true) (binder read c)
  (c.takeThen ":" (optionalBounds read)).take ","

/-- Whether there are further conditions. -/
def moreConditions (c : Cursor) : Bool :=
  !(c.isDone || c.isGroup '\x7b' || c.isAt ";" || c.isAt "=" || c.isAt ",")

/-- The conditions on the parameters of an item, if there are any. -/
def conditions (c : Cursor) : Cursor :=
  if c.isWord "where" then
    let (tokens, last) :=
      (c.skip 1).apart fun c => repeated c.rest.length moreConditions (condition read) c
    if tokens.isEmpty then last else last.write ("where" :: tokens)
  else c

/-! ## Types -/

/-- What a function pointer takes: a type, which may have a name. -/
def pointerArgument (c : Cursor) : Cursor :=
  let c := attributes read c
  let named := c.isAnyWord && (c.skip 1).isAt ":" && !(c.skip 1).isAt "::"
  let c := if named then c.leaf.take ":" else c
  if c.isAt "..." then c.take "..." else read (.type true) c

/-- A function pointer. -/
def functionPointer (c : Cursor) : Cursor :=
  let c := repeated c.rest.length (fun c => c.isAnyWord || c.isLiteral) Cursor.leaf c
  (c.within (Cursor.separated (pointerArgument read))).takeThen "->" (read (.type false))

/-- Whether a function pointer comes next. -/
def startsFunction (c : Cursor) : Bool :=
  ["fn", "unsafe", "extern"].any c.isWord

/-- A type that starts with a word or with a path. -/
def namedType (plus : Bool) (c : Cursor) : Cursor :=
  if startsFunction c then functionPointer read c
  else if c.isWord "dyn" && (c.skip 1).isAt "*" then
    Cursor.verbatimSince c (read (.bounds plus) (c.leaf.take "*"))
  else if c.isWord "dyn" || c.isWord "impl" then read (.bounds plus) c.leaf
  else if c.isWord "_" then c.leaf
  else if c.isWord "for" then
    let c := binder read c
    if startsFunction c then functionPointer read c else read (.bounds plus) c
  else
    let c := read (.path true) c
    (macroCall? c).getD (moreBounds read plus c)

/-- A type. -/
def type (plus : Bool) (c : Cursor) : Cursor :=
  match c.rest with
  | .group '(' _ :: _ =>
    moreBounds read plus (c.within (Cursor.separated (read (.type true))))
  | .group '[' _ :: _ =>
    c.within fun c => (read (.type true) c).takeThen ";" (read (.value true))
  | .lifetime _ :: _ => read (.bounds plus) c
  | .word _ :: _ => namedType read plus c
  | .sign '*' _ :: _ => read (.type false) ((c.take "*").takeWords ["const", "mut"])
  | .sign '&' _ :: _ => read (.type false) ((c.take "&").takeLifetime.takeWord "mut")
  | .sign '!' _ :: _ => c.take "!"
  | .sign '?' _ :: _ => read (.bounds plus) c
  | .sign '<' _ :: _ => read (.path true) c
  | .sign ':' _ :: _ => namedType read plus c
  | _ => c

end CodecText

end Printlet
