/-
Printlet.CodecText.Generate — the source text of a codec for an enumeration.

Given the declaration of an enumeration of instructions, this writes the text of its byte codec: a
numbered constant for each variant, in the order of declaration, and functions for the number, the size
and the bytes of an instruction and for reading one back. A variant has no operand or a single one. The
text is a row of tokens with single blanks between them. The constant of a variant has its name in
capitals; a name with the mark of a reserved word cannot be one in capitals.
-/
import Printlet.CodecText.Variant
import Printlet.Text.Quoted
import Printlet.Text.Upper

namespace Printlet

namespace CodecText

/-- Why there is no codec for an enumeration. -/
inductive Refusal where
  | tooManyVariants
  | unsupportedPayload
  | invalidName (name : String)
  deriving DecidableEq, Repr

/-- What a refusal says. -/
def Refusal.message : Refusal → String
  | .tooManyVariants => "Too many variants"
  | .unsupportedPayload => "Only variants with zero or one unnamed field allowed"
  | .invalidName name => s!"{Text.quoted name} is not a valid Ident"

/-- How many variants an enumeration may have. -/
def maxVariants : Nat :=
  65535

/-- A variant with its constant, its number and the type of its operand if it has one. -/
structure Entry where
  name : String
  constant : String
  number : Nat
  operand : Option String
  deriving DecidableEq, Repr

/-- The type of a variant's operand, if it has one. -/
def operandType (payload : Payload) : Except Refusal (Option String) :=
  match payload with
  | .nothing => .ok none
  | .unnamed [type] => .ok (some type)
  | _ => .error .unsupportedPayload

/-- The constant of a variant: its name in capitals, if that is still a name. -/
def constantName (name : String) : Except Refusal String :=
  let constant := Text.upper name
  if constant.toList.contains '#' then .error (.invalidName constant) else .ok constant

/-- The entry of a variant with a given number. -/
def entry (number : Nat) (v : Variant) : Except Refusal Entry := do
  let operand ← operandType v.payload
  let constant ← constantName v.name
  return ⟨v.name, constant, number, operand⟩

/-- The entries of variants in a row, numbered from `number` on. -/
def entries (number : Nat) : List Variant → Except Refusal (List Entry)
  | [] => .ok []
  | v :: vs => do
    let first ← entry number v
    let rest ← entries (number + 1) vs
    return first :: rest

/-! ## One entry in each group -/

namespace Entry

/-- The type of an operand, seen as an operand. -/
def asOperand (type : String) : String :=
  s!"< {type} as crate :: core :: Operand >"

/-- The declaration of the constant. -/
def declaration (e : Entry) : String :=
  s!"pub const {e.constant} : u16 = {e.number}u16 ;"

/-- From a variant to its number. -/
def numberArm (e : Entry) : String :=
  match e.operand with
  | some _ => s!"Self :: {e.name} (_) => Self :: {e.constant} ,"
  | none => s!"Self :: {e.name} => Self :: {e.constant} ,"

/-- From a variant to its size. -/
def sizeArm (e : Entry) : String :=
  match e.operand with
  | some type => s!"Self :: {e.name} (_) => 2 + {asOperand type} :: SIZE ,"
  | none => s!"Self :: {e.name} => 2 ,"

/-- From a number to the size of its variant. -/
def sizeOfArm (e : Entry) : String :=
  match e.operand with
  | some type => s!"Self :: {e.constant} => Some (2 + {asOperand type} :: SIZE) ,"
  | none => s!"Self :: {e.constant} => Some (2) ,"

/-- Writing the operand of a variant. -/
def writeArm (e : Entry) : String :=
  match e.operand with
  | some _ =>
    s!"Self :: {e.name} (operand) => crate :: core :: Operand :: write_to (operand , & mut buf) ,"
  | none => s!"Self :: {e.name} => \x7b \x7d"

/-- Reading a variant back. -/
def readArm (e : Entry) : String :=
  match e.operand with
  | some type =>
    s!"Self :: {e.constant} => {asOperand type} :: read_from (body) . map (Self :: {e.name}) ,"
  | none => s!"Self :: {e.constant} => Some (Self :: {e.name}) ,"

end Entry

/-! ## The whole text -/

/-- The pieces of the codec, in order. -/
def pieces (name : String) (es : List Entry) : List String :=
  [s!"impl {name} \x7b"] ++ es.map Entry.declaration ++
  [ "# [doc = r\" the discriminant that starts the encoded form of this opcode\"]"
  , "pub fn get_id (& self) -> u16 \x7b match self \x7b" ] ++ es.map Entry.numberArm ++
  [ "\x7d \x7d"
  , "# [doc = r\" number of bytes that `to_bytes` produces\"]"
  , "pub fn serialized_size (& self) -> usize \x7b match self \x7b" ] ++ es.map Entry.sizeArm ++
  [ "\x7d \x7d"
  , "# [doc = r\" encoded size of the opcode with the given discriminant, None for unknown ids\"]"
  , "pub fn serialized_size_of (id : u16) -> Option < usize > \x7b match id \x7b" ] ++
    es.map Entry.sizeOfArm ++
  [ "_ => None , \x7d \x7d"
  , "pub fn to_bytes (& self) -> Vec < u8 > \x7b"
  , "let mut buf = Vec :: with_capacity (self . serialized_size ()) ;"
  , "buf . extend_from_slice (& self . get_id () . to_le_bytes ()) ;"
  , "match self \x7b" ] ++ es.map Entry.writeArm ++
  [ "\x7d buf \x7d"
  , "pub fn from_bytes (bytes : & [u8]) -> Option < Self > \x7b"
  , "let id = u16 :: from_le_bytes ([* bytes . first () ? , * bytes . get (1) ?]) ;"
  , "let body = & bytes [2 ..] ;"
  , "match id \x7b" ] ++ es.map Entry.readArm ++
  ["_ => None , \x7d \x7d \x7d"]

/-- The text of the codec for an enumeration. -/
def generate (name : String) (declared : List Variant) : Except Refusal String :=
  let variants := declared.flatMap Variant.even
  if maxVariants < variants.length then .error .tooManyVariants
  else
    match entries 0 variants with
    | .ok es => .ok (" ".intercalate (pieces (plainName name) es))
    | .error refusal => .error refusal

end CodecText

end Printlet
