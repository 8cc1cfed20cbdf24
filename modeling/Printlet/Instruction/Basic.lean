/-
Printlet.Instruction.Basic — what the machine can be told to do.

The machine works on a stack of operands and on numbered local slots. An instruction takes some
operands off the stack and puts some on it; `Instruction.effect` says how many, and both the assembler
and the check before loading go by that table.
-/

namespace Printlet

/-- The four operations of arithmetic. -/
inductive Arith where
  | add
  | sub
  | mul
  | div
  deriving DecidableEq, Repr

/-- How an operation is called in listings and messages. -/
def Arith.mnemonic : Arith → String
  | .add => "add"
  | .sub => "sub"
  | .mul => "mul"
  | .div => "div"

/-- An instruction of the machine. -/
inductive Instruction where
  /-- Puts a number on the stack. -/
  | pushInt (value : Int64)
  /-- Puts a constant of the unit on the stack. -/
  | pushConst (index : UInt32)
  /-- Puts a copy of a local slot on the stack. -/
  | loadLocal (slot : UInt16)
  /-- Moves the top of the stack into a local slot. -/
  | storeLocal (slot : UInt16)
  /-- Replaces two operands by the result of an operation. -/
  | arith (op : Arith)
  /-- Puts the output stream on the stack. -/
  | getStdout
  /-- Writes the top of the stack as a line to the stream below it. -/
  | println
  /-- Ends the procedure. -/
  | ret
  deriving DecidableEq, Repr

/-- How many operands an instruction takes off the stack and puts on it. -/
structure Effect where
  pops : Nat
  pushes : Nat
  deriving DecidableEq, Repr

namespace Instruction

/-- The effect of an instruction on the stack. -/
def effect : Instruction → Effect
  | .pushInt _ => ⟨0, 1⟩
  | .pushConst _ => ⟨0, 1⟩
  | .loadLocal _ => ⟨0, 1⟩
  | .storeLocal _ => ⟨1, 0⟩
  | .arith _ => ⟨2, 1⟩
  | .getStdout => ⟨0, 1⟩
  | .println => ⟨2, 0⟩
  | .ret => ⟨0, 0⟩

/-- How an instruction is called, without its operand. -/
def mnemonic : Instruction → String
  | .pushInt _ => "push_int"
  | .pushConst _ => "push_const"
  | .loadLocal _ => "load_local"
  | .storeLocal _ => "store_local"
  | .arith op => op.mnemonic
  | .getStdout => "get_stdout"
  | .println => "println"
  | .ret => "return"

/-- An instruction as listings and messages show it. -/
def display (i : Instruction) : String :=
  match i with
  | .pushInt value => s!"{i.mnemonic} {value.toInt}"
  | .pushConst index => s!"{i.mnemonic} #{index.toNat}"
  | .loadLocal slot => s!"{i.mnemonic} {slot.toNat}"
  | .storeLocal slot => s!"{i.mnemonic} {slot.toNat}"
  | _ => i.mnemonic

end Instruction

end Printlet
