/-
Printlet.Machine.Value — what the machine computes with.

Arithmetic works on numbers only. A result is computed in exact integers and must then fit into
sixty-four bits; division goes toward zero.
-/
import Printlet.Instruction.Basic

namespace Printlet

/-- A value on the stack or in a slot. -/
inductive Value where
  | int (value : Int64)
  | text (value : String)
  | stdout
  deriving DecidableEq, Repr

/-- The kinds of values. -/
inductive Kind where
  | int
  | text
  | stream
  deriving DecidableEq, Repr

/-- How messages call a kind. -/
def Kind.label : Kind → String
  | .int => "int"
  | .text => "string"
  | .stream => "output stream"

/-- The kind of a value. -/
def Value.kind : Value → Kind
  | .int _ => .int
  | .text _ => .text
  | .stdout => .stream

/-- A value as it is printed. -/
def Value.display : Value → String
  | .int value => toString value.toInt
  | .text value => value
  | .stdout => "<stdout>"

/-- Why a sink does not take what it is given. -/
inductive SinkError where
  | full
  | flushRefused
  deriving DecidableEq, Repr

/-- What a sink says about itself. -/
def SinkError.message : SinkError → String
  | .full => "sink full"
  | .flushRefused => "flush refused"

/-- Why an instruction cannot be executed. -/
inductive Fault where
  | typeMismatch (op : Arith) (lhs rhs : Kind)
  | divisionByZero
  | overflow (op : Arith)
  | stackEmpty
  | stackOverflow (maxStack : Nat)
  | uninitializedLocal (slot : Nat)
  | noSuchLocal (slot : Nat)
  | output (error : SinkError)
  | noConstant (index : Nat)
  | notAStream (found : Kind)
  | notInstalled (unit : String)
  | ranPastEnd (procedure : String)
  deriving DecidableEq, Repr

/-- What a fault says. -/
def Fault.message : Fault → String
  | .typeMismatch op lhs rhs =>
    s!"TypeError, {op.mnemonic} can't be applied to {lhs.label} and {rhs.label}"
  | .divisionByZero => "division by zero"
  | .overflow op => s!"integer overflow in {op.mnemonic}"
  | .stackEmpty => "The stack was empty unexpectedly: pop from an empty operand stack"
  | .stackOverflow maxStack => s!"the operand stack exceeded its declared size of {maxStack}"
  | .uninitializedLocal slot => s!"local slot {slot} was read before it was written"
  | .noSuchLocal slot => s!"there is no local slot {slot}"
  | .output error => s!"writing output failed: {error.message}"
  | .noConstant index => s!"Runtime error: no constant with index {index}"
  | .notAStream found => s!"Runtime error: println expects an output stream, found {found.label}"
  | .notInstalled unit => s!"Runtime error: unit {unit} is not installed in this engine"
  | .ranPastEnd procedure => s!"Runtime error: procedure {procedure} ran past its end"

namespace Arith

/-- The exact result of an operation. The divisor is not zero. -/
def onInt : Arith → Int → Int → Int
  | .add, a, b => a + b
  | .sub, a, b => a - b
  | .mul, a, b => a * b
  | .div, a, b => Int.tdiv a b

/-- Whether an integer fits into sixty-four bits. -/
def fits (n : Int) : Bool :=
  -9223372036854775808 ≤ n && n ≤ 9223372036854775807

/-- The result of an operation on numbers. -/
def applyInt (op : Arith) (a b : Int64) : Except Fault Int64 :=
  if op = .div && b = 0 then .error .divisionByZero
  else
    let result := op.onInt a.toInt b.toInt
    if fits result then .ok (Int64.ofInt result) else .error (.overflow op)

/-- The result of an operation on values. -/
def apply (op : Arith) (lhs rhs : Value) : Except Fault Value :=
  match lhs, rhs with
  | .int a, .int b => (op.applyInt a b).map .int
  | _, _ => .error (.typeMismatch op lhs.kind rhs.kind)

end Arith

end Printlet
