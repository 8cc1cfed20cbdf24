/-
Printlet.CodecText.Items — items, statements and blocks.

Items in a block are functions, declarations of types, implementations and the like. Their parts are
types, patterns, values and further items. An item that lacks a part which it should have is written as it
stands.
-/
import Printlet.CodecText.Values

namespace Printlet

namespace CodecText

variable (read : Phrase → Rule)

/-! ## Visibility -/

/-- Whether brackets behind `pub` say where something can be seen. -/
def isRestriction : List Tree → Bool
  | [.word place] => ["crate", "self", "super"].contains place
  | .word "in" :: _ => true
  | _ => false

/-- Where something can be seen. -/
def visibility (c : Cursor) : Cursor :=
  match c.rest with
  | .word "pub" :: .group '(' inner :: _ =>
    if isRestriction inner then c.leaf.within fun c => read (.path false) (c.takeWord "in")
    else c.leaf
  | .word "pub" :: _ => c.leaf
  | _ => c

/-! ## Looking ahead -/

/-- Words that no path starts with. -/
def isReserved (word : String) : Bool :=
  [ "as", "async", "await", "break", "const", "continue", "dyn", "else", "enum", "extern", "false", "fn"
  , "for", "if", "impl", "in", "let", "loop", "match", "mod", "move", "mut", "pub", "ref", "return"
  , "static", "struct", "trait", "true", "type", "unsafe", "use", "where", "while", "yield", "become"
  , "abstract", "box", "do", "final", "macro", "override", "priv", "typeof", "unsized", "virtual" ]
  |>.contains word

/-- The call of a macro that comes next, read up to its name, if one does. -/
def macroName? (c : Cursor) : Option Cursor :=
  let isPath :=
    match c.rest with
    | .word word :: _ => !isReserved word
    | _ => c.isAt "::"
  if isPath then
    let named := plainPath c
    if named.isAt "!" && !named.isAt "!=" then some named else none
  else none

/-- Whether an item comes next in a block. -/
def startsItem (c : Cursor) : Bool :=
  let next := c.skip 1
  let isOne (words : List String) (c : Cursor) := words.any c.isWord
  match c.rest with
  | .word word :: _ =>
    match word with
    | "crate" => !next.isAt "::"
    | "static" => next.isAnyWord && !isOne ["async", "move"] next
    | "const" =>
      if next.isWord "async" then isOne ["fn", "unsafe", "extern"] (next.skip 1)
      else next.isAnyWord && !isOne ["static", "move"] next
    | "unsafe" => !next.isGroup '\x7b'
    | "async" => isOne ["fn", "unsafe", "extern"] next
    | "union" => next.isAnyWord && !isOne ["as"] next
    | "auto" => next.isWord "trait"
    | "default" => isOne ["unsafe", "impl"] next
    | _ =>
      [ "pub", "extern", "use", "fn", "mod", "type", "struct", "enum", "trait", "impl", "macro" ].contains
        word
  | _ => false

/-! ## Parts of items -/

/-- A parameter of a function. -/
def functionParameter (c : Cursor) : Cursor :=
  let c := attributes read c
  let c :=
    if c.isAt "..." then c
    else if c.isAt "&" then read .pattern ((c.take "&").takeLifetime.takeWord "mut")
    else read .pattern c
  let c := c.takeThen ":" fun c => if c.isAt "..." then c else read (.type true) c
  c.take "..."

/-- A field with a name. -/
def namedField (c : Cursor) : Cursor :=
  read (.type true) ((visibility read (attributes read c)).leaf.take ":")

/-- A field without a name. -/
def unnamedField (c : Cursor) : Cursor :=
  read (.type true) (visibility read (attributes read c))

/-- The fields of a record or a variant. -/
def fieldList (c : Cursor) : Cursor :=
  if c.isGroup '\x7b' then c.within (Cursor.separated (namedField read))
  else if c.isGroup '(' then c.within (Cursor.separated (unnamedField read))
  else c

/-- A variant of an enumeration. -/
def variant (c : Cursor) : Cursor :=
  (fieldList read (visibility read (attributes read c)).leaf).takeThen "=" (read (.value true))

/-- Items to the end. -/
def items (place : Place) (c : Cursor) : Cursor :=
  Cursor.all (fun c =>
    let c := attributes read c
    if c.isAt ";" then c.take ";" else read (.item place) c) c

/-- What stands in front of the word that tells what an item is. -/
def qualifiers (c : Cursor) : Cursor :=
  repeated c.rest.length (fun _ => true) (fun c =>
    let next := c.skip 1
    if c.isWord "async" || c.isWord "unsafe" || (c.isWord "crate" && next.isAnyWord) then c.leaf
    else if ["default", "auto", "safe"].any c.isWord && next.isAnyWord then c.leaf
    else if c.isWord "const" && ["fn", "unsafe", "async", "extern"].any next.isWord then c.leaf
    else if c.isWord "extern" && !next.isWord "crate" then
      if next.isLiteral then c.leaf.leaf else c.leaf
    else c) (visibility read c)

/-! ## Items

Each of these gives the cursor behind an item, and whether the item has all that it should have in its
place and nothing else. -/

/-- A function, which has a body or not. -/
def function (place : Place) (c : Cursor) : Bool × Cursor :=
  let c := (generics read c.leaf.leaf).within (Cursor.separated (functionParameter read))
  let c := conditions read (c.takeThen "->" (read (.type true)))
  if c.isAt ";" then (place = .trait || place = .foreign, c.take ";")
  else (place ≠ .foreign, read .block c)

/-- A record type. -/
def recordType (c : Cursor) : Cursor :=
  let c := fieldList read (conditions read (generics read c.leaf.leaf))
  (conditions read c).take ";"

/-- An enumeration. -/
def enumeration (c : Cursor) : Cursor :=
  (conditions read (generics read c.leaf.leaf)).within (Cursor.separated (variant read))

/-- A name for a type, which has bounds and a type or not. -/
def typeName (place : Place) (c : Cursor) : Bool × Cursor :=
  let named := generics read c.leaf.leaf
  let bounded := conditions read (colonBounds read named)
  let last := (conditions read (bounded.takeThen "=" (read (.type true)))).take ";"
  let complete :=
    match place with
    | .trait => true
    | .foreign => !named.isAt ":" && !bounded.isAt "="
    | _ => !named.isAt ":" && bounded.isAt "="
  (complete, last)

/-- A constant, which has a value or not. -/
def constantItem (place : Place) (c : Cursor) : Bool × Cursor :=
  let named := c.leaf.leaf
  let typed := (generics read named).takeThen ":" (read (.type true))
  let valued := typed.takeThen "=" (read (.value true))
  let plain := !named.isAt "<" && !valued.isWord "where"
  (plain && (typed.isAt "=" || place = .trait), (conditions read valued).take ";")

/-- A place in memory, which has a type and a value or not. -/
def staticItem (place : Place) (c : Cursor) : Bool × Cursor :=
  let named := (c.leaf.takeWord "mut").leaf
  let typed := named.takeThen ":" (read (.type true))
  let last := (typed.takeThen "=" (read (.value true))).take ";"
  (named.isAt ":" && (typed.isAt "=" ↔ place ≠ .foreign), last)

/-- A trait. -/
def traitItem (c : Cursor) : Cursor :=
  let c := colonBounds read (generics read c.leaf.leaf)
  let c := conditions read (c.takeThen "=" (optionalBounds read))
  (c.within fun c => items read .trait (attributes read c)).take ";"

/-- Whether the parameters of an implementation come next, and not a path. -/
def startsParameters (c : Cursor) : Bool :=
  let first := c.skip 1
  let second := c.skip 2
  c.isAt "<" &&
  (first.isAt ">" || first.isAt "#" || first.isWord "const" ||
    ((first.isAnyWord || first.isLifetime) &&
      ((second.isAt ":" && !second.isAt "::") || second.isAt "," || second.isAt ">" ||
        second.isAt "=")))

/-- Whether a type is a plain path. -/
def isPathType (c : Cursor) : Bool :=
  (c.isAnyWord && !startsFunction c && !(["dyn", "impl", "for", "_"].any c.isWord)) || c.isAt "::"

/-- An implementation, which is of a trait or not. -/
def implementation (c : Cursor) : Bool × Cursor :=
  let c := if startsParameters c.leaf then read (.parameters false) c.leaf else c.leaf
  let marked := if (c.skip 1).isWord "const" then (c.take "?").leaf else c.takeWord "const"
  let first := marked.take "!"
  let typed := read (.type true) first
  let last := if typed.isWord "for" then read (.type true) typed.leaf else typed
  let complete := marked.rest.length = c.rest.length && (!typed.isWord "for" || isPathType first)
  (complete, (conditions read last).within fun c => items read .implementation (attributes read c))

/-- Names from elsewhere: a path, and braces for several of them. -/
def imports (c : Cursor) : Cursor :=
  repeated c.rest.length (fun c => !c.isAt "," && !c.isAt ";")
    (fun c =>
      if c.isGroup '\x7b' then c.within (Cursor.separated (read .imports))
      else if c.isAt "::" then c.take "::"
      else c.leaf) c

/-- The call of a macro as an item. -/
def macroItem (c : Cursor) : Cursor :=
  match macroName? c with
  | some named =>
    let c := named.take "!"
    (if c.isAnyWord then c.leaf.leaf else c.leaf).take ";"
  | none => c

/-- An item behind what stands in front of it. -/
def plainItem (place : Place) (c : Cursor) : Bool × Cursor :=
  match c.rest with
  | .group '\x7b' _ :: _ => (true, c.within fun c => items read .foreign (attributes read c))
  | .word "fn" :: _ => function read place c
  | .word "struct" :: _ => (true, recordType read c)
  | .word "enum" :: _ => (true, enumeration read c)
  | .word "type" :: _ => typeName read place c
  | .word "const" :: _ => constantItem read place c
  | .word "static" :: _ => staticItem read place c
  | .word "trait" :: _ => (true, traitItem read c)
  | .word "impl" :: _ => implementation read c
  | .word "mod" :: _ =>
    (true, (c.leaf.leaf.within fun c => items read .block (attributes read c)).take ";")
  | .word "use" :: _ => (true, (read .imports c.leaf).take ";")
  | .word "extern" :: _ => (true, (read .imports c.leaf).take ";")
  | .word "macro" :: _ =>
    (true, repeated c.rest.length (fun c => c.isAnyWord || c.isGroup '(') Cursor.leaf c
      |>.within id)
  | .word "union" :: .word _ :: _ => (true, recordType read c)
  | _ => (true, macroItem c)

/-- Whether words stand in front of an item that do not belong in its place. -/
def isMisplaced (place : Place) (start c : Cursor) : Bool :=
  match place with
  | .trait => start.isWord "pub" || start.isWord "default"
  | _ => start.isWord "pub" && c.isWord "impl"

/-- An item. -/
def item (place : Place) (start : Cursor) : Cursor :=
  let c := qualifiers read start
  let (complete, last) := plainItem read place c
  if complete && !isMisplaced place start c then last else Cursor.verbatimSince start last

/-! ## Statements -/

/-- The introduction of names. -/
def introduction (c : Cursor) : Cursor :=
  let c := (read .pattern c.leaf).takeThen ":" (read (.type true))
  let c := c.takeThen "=" (read (.value true))
  let c := if c.isWord "else" then read .block c.leaf else c
  c.take ";"

/-- A statement. The call of a macro with braces is one, unless a member of its value is taken. -/
def statement (c : Cursor) : Cursor :=
  if c.isAt ";" then c.take ";"
  else
    let c := attributes read c
    if c.isWord "let" then introduction read c
    else if startsItem c then read (.item .block) c
    else
      match macroName? c with
      | some named =>
        let last := (named.take "!").leaf
        if (named.skip 1).isAnyWord then macroItem c
        else if (named.skip 1).isGroup '\x7b' && !startsMember last then last
        else early read c
      | none => early read c

/-- A block. -/
def block (c : Cursor) : Cursor :=
  if c.isGroup '\x7b' then c.within (Cursor.all (read .statement)) else c

end CodecText

end Printlet
