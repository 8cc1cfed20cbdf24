/-
Printlet.CodeUnit.Check — the check before a procedure is loaded.

Code runs straight through, so one walk over it decides all that does not hang on values: how deep the
stack is before each instruction and which slots have been written. `Check.step` takes in one
instruction and refuses it for the first reason in a fixed order; the walk ends well if the last
instruction returns.
-/
import Printlet.CodeUnit.Basic
import Printlet.Instruction.Encoding

namespace Printlet

/-- Why a procedure is refused. -/
inductive Violation where
  | undecodable
  | stackUnderflow (instruction : Instruction) (needed available : Nat)
  | stackOverflow (depth maxStack : Nat)
  | localOutOfRange (slot maxLocals : Nat)
  | uninitializedLocal (slot : Nat)
  | constantOutOfRange (index count : Nat)
  | residueAtReturn (depth : Nat)
  | codeAfterReturn
  | missingReturn
  deriving DecidableEq, Repr

/-- What a refusal says. -/
def Violation.message : Violation → String
  | .undecodable => "bytes do not form an opcode"
  | .stackUnderflow i needed available =>
    s!"{i.display} needs {needed} stack entries, but only {available} are available"
  | .stackOverflow depth maxStack =>
    s!"stack depth {depth} exceeds the declared maximum of {maxStack}"
  | .localOutOfRange slot maxLocals =>
    s!"local slot {slot} is outside the declared {maxLocals} locals"
  | .uninitializedLocal slot => s!"local slot {slot} is read before it is written"
  | .constantOutOfRange index count =>
    s!"constant {index} is outside the data section of length {count}"
  | .residueAtReturn depth => s!"return with {depth} entries left on the stack"
  | .codeAfterReturn => "code after return"
  | .missingReturn => "the procedure does not end with a return"

/-- A refusal and the byte offset of the instruction that it is about. -/
structure CheckFailure where
  offset : Nat
  violation : Violation
  deriving DecidableEq, Repr

/-- What a refusal says, with its place. -/
def CheckFailure.message (f : CheckFailure) : String :=
  s!"at offset {f.offset}: {f.violation.message}"

/-- What a procedure declares and may use. -/
structure Limits where
  maxStack : Nat
  maxLocals : Nat
  constants : Nat
  deriving DecidableEq, Repr

/-- What the walk knows before an instruction: the depth of the stack, which slots have been
written, and whether the procedure has returned. -/
structure Check where
  depth : Nat
  assigned : Array Bool
  returned : Bool
  deriving DecidableEq, Repr

namespace Check

/-- Before the first instruction the stack is empty and no slot is written. -/
def initial (limits : Limits) : Check :=
  ⟨0, Array.replicate limits.maxLocals false, false⟩

/-- The demands of an instruction on slots and constants, and what it changes, once the stack has the
depth it leaves behind. -/
def operand (limits : Limits) (check : Check) (i : Instruction) : Except Violation Check :=
  match i with
  | .loadLocal slot =>
    if limits.maxLocals ≤ slot.toNat then .error (.localOutOfRange slot.toNat limits.maxLocals)
    else if check.assigned[slot.toNat]?.getD false then .ok check
    else .error (.uninitializedLocal slot.toNat)
  | .storeLocal slot =>
    if limits.maxLocals ≤ slot.toNat then .error (.localOutOfRange slot.toNat limits.maxLocals)
    else .ok { check with assigned := check.assigned.setIfInBounds slot.toNat true }
  | .pushConst index =>
    if limits.constants ≤ index.toNat then .error (.constantOutOfRange index.toNat limits.constants)
    else .ok check
  | .ret =>
    if check.depth ≠ 0 then .error (.residueAtReturn check.depth)
    else .ok { check with returned := true }
  | _ => .ok check

/-- Takes in one instruction. -/
def step (limits : Limits) (check : Check) (i : Instruction) : Except Violation Check :=
  if check.returned then .error .codeAfterReturn
  else if check.depth < i.effect.pops then
    .error (.stackUnderflow i i.effect.pops check.depth)
  else
    let depth := check.depth - i.effect.pops + i.effect.pushes
    if limits.maxStack < depth then .error (.stackOverflow depth limits.maxStack)
    else operand limits { check with depth := depth } i

/-- Takes in code, instruction by instruction. -/
def run (limits : Limits) (check : Check) : List Placed → Except CheckFailure Check
  | [] => .ok check
  | (offset, i) :: rest =>
    match check.step limits i with
    | .ok check => run limits check rest
    | .error violation => .error ⟨offset, violation⟩

end Check

/-- The limits of a procedure whose unit has `constants` constants. -/
def Procedure.limits (p : Procedure) (constants : Nat) : Limits :=
  ⟨p.maxStack.toNat, p.maxLocals.toNat, constants⟩

/-- The code of a procedure with its offsets, if it passes the check. -/
def Procedure.check (p : Procedure) (constants : Nat) : Except CheckFailure (List Placed) :=
  match Instruction.decodeAll p.text with
  | .error stuck => .error ⟨stuck, .undecodable⟩
  | .ok code =>
    let limits := p.limits constants
    match (Check.initial limits).run limits code with
    | .error failure => .error failure
    | .ok check => if check.returned then .ok code else .error ⟨p.text.length, .missingReturn⟩

end Printlet
