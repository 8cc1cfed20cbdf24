/-
Printlet.CodeUnit.Image — units as bytes.

The fields of a unit follow each other without tags: the three words of the version, the name of the
unit, the name of the procedure, its stack depth and its number of slots, its code, the constants.
Numbers are varints; texts and lists carry their length in front; each constant carries the tag zero.
A reader takes what it needs from the front and leaves any bytes after that alone.
-/
import Printlet.CodeUnit.Basic
import Printlet.CodeUnit.Varint

namespace Printlet

namespace Image

/-! ## Writing -/

/-- A row of bytes with its length in front. -/
def block (bytes : Bytes) : Bytes :=
  Varint.encode bytes.length ++ bytes

/-- A text with its length in bytes in front. -/
def text (s : String) : Bytes :=
  block (Bytes.ofText s)

/-- A constant: its tag and its text. -/
def constant (s : String) : Bytes :=
  Varint.encode 0 ++ text s

/-- A list of constants with its length in front. -/
def constants (cs : List String) : Bytes :=
  Varint.encode cs.length ++ cs.flatMap constant

/-- The three words of a version. -/
def version (v : Version) : Bytes :=
  Varint.encode v.major.toNat ++ Varint.encode v.minor.toNat ++ Varint.encode v.patch.toNat

/-- A procedure: header, then code. -/
def procedure (p : Procedure) : Bytes :=
  text p.name ++ Varint.encode p.maxStack.toNat ++ Varint.encode p.maxLocals.toNat ++ block p.text

/-! ## Reading -/

/-- Takes something off the front of the bytes. -/
abbrev Reader := StateT Bytes (Except ImageError)

/-- A number of the given width. -/
def readNumber (width : Varint.Width) : Reader Nat :=
  fun bs => Varint.decode width bs

/-- A number of sixteen bits. -/
def readWord : Reader UInt16 := do
  return UInt16.ofNat (← readNumber Varint.word16)

/-- Exactly `n` bytes. -/
def readExactly (n : Nat) : Reader Bytes := fun bs =>
  match Bytes.split? n bs with
  | some parts => .ok parts
  | none => .error .unexpectedEnd

/-- A row of bytes after its length. -/
def readBlock : Reader Bytes := do
  readExactly (← readNumber Varint.word64)

/-- A text after its length. -/
def readText : Reader String := do
  match Bytes.toText? (← readBlock) with
  | some s => return s
  | none => throw .badText

/-- A constant after its tag. -/
def readConstant : Reader String := do
  if (← readNumber Varint.word32) = 0 then readText else throw .badTag

/-- `n` constants in a row. -/
def readConstants : Nat → Reader (List String)
  | 0 => return []
  | n + 1 => do
    let first ← readConstant
    let rest ← readConstants n
    return first :: rest

/-- The three words of a version. -/
def readVersion : Reader Version := do
  let major ← readWord
  let minor ← readWord
  let patch ← readWord
  return ⟨major, minor, patch⟩

/-- A procedure. -/
def readProcedure : Reader Procedure := do
  let name ← readText
  let maxStack ← readWord
  let maxLocals ← readWord
  let text ← readBlock
  return ⟨name, maxStack, maxLocals, text⟩

/-- A unit. -/
def readUnit : Reader CodeUnit := do
  let version ← readVersion
  let name ← readText
  let entry ← readProcedure
  let constants ← readConstants (← readNumber Varint.word64)
  return ⟨version, name, entry, constants⟩

end Image

/-- The bytes of a unit. -/
def CodeUnit.toImage (u : CodeUnit) : Bytes :=
  Image.version u.version ++ Image.text u.name ++ Image.procedure u.entry ++
    Image.constants u.constants

/-- The unit at the front of a row of bytes. -/
def CodeUnit.ofImage (bs : Bytes) : Except ImageError CodeUnit :=
  match Image.readUnit bs with
  | .ok (u, _) => .ok u
  | .error e => .error e

end Printlet
