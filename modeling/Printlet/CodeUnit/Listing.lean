/-
Printlet.CodeUnit.Listing — units as text.

Two header lines name the unit and its procedure; then each instruction stands on a line of its own,
after its byte offset in at least four digits. A constant is shown, quoted, behind the instruction that
uses it. Code that cannot be read shows as the one place where reading it fails.
-/
import Printlet.CodeUnit.Basic
import Printlet.Instruction.Encoding
import Printlet.Text.Quoted

namespace Printlet

namespace Listing

/-- An offset in at least four digits. -/
def offset (n : Nat) : String :=
  let digits := toString n
  String.ofList (List.replicate (4 - digits.length) '0') ++ digits

/-- The remark behind an instruction that uses a constant. -/
def remark (constants : List String) : Instruction → String
  | .pushConst index =>
    match constants[index.toNat]? with
    | some s => "  ; " ++ Text.quoted s
    | none => ""
  | _ => ""

/-- The line of one instruction. -/
def line (constants : List String) (placed : Placed) : String :=
  offset placed.1 ++ "  " ++ placed.2.display ++ remark constants placed.2 ++ "\n"

/-- The two header lines. -/
def header (u : CodeUnit) : String :=
  s!"unit {u.name}\n" ++
    s!"proc {u.entry.name} (max_stack {u.entry.maxStack.toNat}, max_locals {u.entry.maxLocals.toNat})\n"

end Listing

/-- The listing of a unit. -/
def CodeUnit.listing (u : CodeUnit) : String :=
  match Instruction.decodeAll u.entry.text with
  | .ok code => Listing.header u ++ String.join (code.map (Listing.line u.constants))
  | .error stuck => Listing.header u ++ Listing.offset stuck ++ "  <undecodable>\n"

end Printlet
