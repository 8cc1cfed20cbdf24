/-
Printlet.CodecText.Values — values.

A value is a row of operands with operators between them. Where an operand is due, `&&` is a reference to
a reference, `||` are the empty parameters of a function and `<` starts a path; behind an operand the same
signs are operators. A condition ends where its block starts, so no record in braces stands there. A
statement that starts with a block ends with it, unless a member of its value is taken. A point and two
positions look like a point and a number with a fraction, and are written as two positions.
-/
import Printlet.CodecText.Patterns

namespace Printlet

namespace CodecText

variable (read : Phrase → Rule)

/-! ## Looking ahead -/

/-- The signs that start an operand, each with the tokens that it may be the start of instead. -/
def operandSigns : List (String × List String) :=
  [ ("!", ["!="]), ("-", ["-=", "->"]), ("*", ["*="]), ("|", ["|="]), ("&", ["&="])
  , ("<", ["<=", "<<="]), ("::", []), ("..", []), ("#", []) ]

/-- Whether a value comes next. -/
def startsValue (records : Bool) (c : Cursor) : Bool :=
  match c.rest with
  | [] => false
  | .group bracket _ :: _ => records || bracket ≠ '\x7b'
  | .word text :: _ => !(["as", "else", "in"].contains text)
  | .sign _ _ :: _ =>
    operandSigns.any fun (sign, longer) => c.isAt sign && !longer.any c.isAt
  | _ => true

/-- Whether a loop over lifetimes, and not over values, comes next. -/
def startsBinder (c : Cursor) : Bool :=
  c.isWord "for" && (c.skip 1).isAt "<" && ((c.skip 2).isLifetime || (c.skip 2).isAt ">")

/-- Whether a value comes next that ends a statement when it ends. -/
def startsBlock (c : Cursor) : Bool :=
  let braces := (c.skip 1).isGroup '\x7b'
  c.isGroup '\x7b' || c.isLifetime || ["if", "while", "loop", "match", "unsafe"].any c.isWord ||
  (c.isWord "for" && !startsBinder c) || ((c.isWord "try" || c.isWord "const") && braces)

/-- Whether a member of a value, or what is in it, is taken next. -/
def startsMember (c : Cursor) : Bool :=
  (c.isAt "." && !c.isAt "..") || c.isAt "?"

/-! ## Operators -/

/-- The operators between two operands, longer ones first. -/
def binaryOperators : List String :=
  [ "<<=", ">>=", "+=", "-=", "*=", "/=", "%=", "^=", "&=", "|=", "&&", "||", "<<", ">>", "==", "<="
  , "!=", ">=", "+", "-", "*", "/", "%", "^", "&", "|", "<", ">" ]

/-- The operator that comes next, if one does. -/
def operator? (c : Cursor) : Option String :=
  if c.isAt "=" && !c.isAt "==" && !c.isAt "=>" then some "=" else binaryOperators.find? c.isAt

/-- The rest of a range behind its points. -/
def valueRange (records : Bool) (c : Cursor) : Cursor :=
  let c := if c.isAt "..=" then c.take "..=" else c.take ".."
  if startsValue records c then read (.operand records) c else c

/-- An operator and the operand behind it. -/
def operation (records : Bool) (c : Cursor) : Cursor :=
  if c.isWord "as" then read (.type false) c.leaf
  else if c.isAt ".." then valueRange read records c
  else
    match operator? c with
    | some token => read (.operand records) (c.take token)
    | none => c

/-- What follows the first operand. -/
def operators (records : Bool) (c : Cursor) : Cursor :=
  repeated c.rest.length (fun _ => true) (operation read records) c

/-! ## Operands -/

/-- The member behind a point. -/
def memberAccess (c : Cursor) : Cursor :=
  match c.rest with
  | .literal text :: rest =>
    let positions := (text.splitOn ".").filter (· ≠ "")
    let c := Cursor.write ⟨rest, c.written⟩ ((positions.map position).intersperse ".")
    if text.endsWith "." then (c.write ["."]).leaf else c
  | _ =>
    let c := c.leaf
    if c.isAt "::" then read .arguments (c.take "::") else c

/-- What is taken from an operand: a call, an entry, a member. -/
def selection (c : Cursor) : Cursor :=
  if c.isGroup '(' then c.within (Cursor.separated (read (.value true)))
  else if c.isGroup '[' then c.within (read (.value true))
  else if c.isAt "?" then c.take "?"
  else if startsMember c then memberAccess read (c.take ".")
  else c

/-- All that is taken from an operand. -/
def selections (c : Cursor) : Cursor :=
  repeated c.rest.length (fun _ => true) (selection read) c

/-- The signs in front of an operand. -/
def operand (records : Bool) (c : Cursor) : Cursor :=
  let c := attributes read c
  match c.rest with
  | .sign '&' _ :: .word "raw" :: .word "const" :: _ =>
    read (.operand records) (c.take "&").leaf.leaf
  | .sign '&' _ :: .word "raw" :: .word "mut" :: _ =>
    read (.operand records) (c.take "&").leaf.leaf
  | .sign '&' _ :: _ => read (.operand records) ((c.take "&").takeWord "mut")
  | .sign '*' _ :: _ => read (.operand records) c.leaf
  | .sign '!' _ :: _ => read (.operand records) c.leaf
  | .sign '-' _ :: _ => read (.operand records) c.leaf
  | _ => selections read (read (.atom records) c)

/-- A value and all that follows it, unless it ends the statement that it starts. -/
def early (c : Cursor) : Cursor :=
  let c := attributes read c
  if startsBlock c then
    let c := read (.atom true) c
    if startsMember c then read (.operators true) (selections read c) else c
  else read (.value true) c

/-! ## Functions, records and choices -/

/-- A parameter of a function without a name. -/
def closureParameter (c : Cursor) : Cursor :=
  ((read .pattern (attributes read c)).takeThen ":" (read (.type true))).take ","

/-- A function without a name. -/
def closure (records : Bool) (c : Cursor) : Cursor :=
  let c := (binder read c).takeWords ["const", "static", "async", "move"]
  let c := c.take "|"
  let c := repeated c.rest.length (fun c => !c.isAt "|") (closureParameter read) c
  let c := c.take "|"
  if c.isAt "->" then read .block (read (.type true) (c.take "->")) else read (.value records) c

/-- A member of a record and its value, or the record from which the others are taken. -/
def memberValue (c : Cursor) : Cursor :=
  let c := attributes read c
  let c :=
    if c.isAt ".." then
      let c := c.take ".."
      if c.isDone then c else read (.value true) c
    else (member c).takeThen ":" (read (.value true))
  c.take ","

/-- A path, the call of a macro or a record. -/
def pathValue (records : Bool) (c : Cursor) : Cursor :=
  let c := read (.path false) c
  match macroCall? c with
  | some last => last
  | none => if records && c.isGroup '\x7b' then c.within (Cursor.all (memberValue read)) else c

/-- A case of a choice. -/
def arm (c : Cursor) : Cursor :=
  let c := read .patterns (attributes read c)
  let c := if c.isWord "if" then read (.value true) c.leaf else c
  (c.takeThen "=>" (early read)).take ","

/-- What is done if a condition does not hold. -/
def otherwise (c : Cursor) : Cursor :=
  if c.isWord "else" then
    let c := c.leaf
    if c.isWord "if" then read (.atom false) c else read .block c
  else c

/-- A value that may be missing. With `records` it can start with a brace. -/
def optionalValue (records : Bool) (c : Cursor) : Cursor :=
  if startsValue records c then read (.value true) c else c

/-- An operand that starts with a word. -/
def wordAtom (records : Bool) (word : String) (c : Cursor) : Cursor :=
  let braces := (c.skip 1).isGroup '\x7b'
  match word with
  | "if" => otherwise read (read .block (read (.value false) c.leaf))
  | "match" =>
    (read (.value false) c.leaf).within fun c => Cursor.all (arm read) (attributes read c)
  | "while" => read .block (read (.value false) c.leaf)
  | "loop" => read .block c.leaf
  | "unsafe" => read .block c.leaf
  | "for" =>
    if startsBinder c then closure read records c
    else read .block (read (.value false) ((read .patterns c.leaf).takeWord "in"))
  | "let" => read (.operand false) ((read .patterns c.leaf).take "=")
  | "try" => if braces then read .block c.leaf else pathValue read records c
  | "const" => if braces then read .block c.leaf else closure read records c
  | "async" =>
    if braces then read .block c.leaf
    else if (c.skip 1).isWord "move" && (c.skip 2).isGroup '\x7b' then read .block c.leaf.leaf
    else closure read records c
  | "move" => closure read records c
  | "static" => closure read records c
  | "continue" => c.leaf.takeLifetime
  | "break" => optionalValue read records c.leaf.takeLifetime
  | "return" => optionalValue read true c.leaf
  | "yield" => optionalValue read true c.leaf
  | "become" => Cursor.verbatimSince c (read (.value true) c.leaf)
  | "_" => c.leaf
  | _ => pathValue read records c

/-- An operand without signs in front and without what is taken from it. -/
def atom (records : Bool) (c : Cursor) : Cursor :=
  match c.rest with
  | .literal _ :: _ => c.leaf
  | .lifetime _ :: _ => read (.atom records) (c.leaf.take ":")
  | .group '(' _ :: _ => c.within (Cursor.separated (read (.value true)))
  | .group '[' _ :: _ =>
    c.within fun c => (Cursor.separated (read (.value true)) c).takeThen ";" (read (.value true))
  | .group _ _ :: _ => read .block c
  | .word word :: _ => wordAtom read records word c
  | .sign '.' _ :: _ => valueRange read records c
  | .sign '|' _ :: _ => closure read records c
  | .sign '<' _ :: _ => pathValue read records c
  | .sign ':' _ :: _ => pathValue read records c
  | _ => c

/-- A value. -/
def value (records : Bool) (c : Cursor) : Cursor :=
  read (.operators records) (read (.operand records) c)

end CodecText

end Printlet
