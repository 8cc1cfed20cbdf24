/-
Printlet.Instruction.Encoding — instructions as bytes.

An instruction is written as its code in two bytes, followed by its operand if it has one: eight bytes
for a number, four for the index of a constant, two for a slot. Code is written one instruction after
the other with nothing between, so an instruction is found by its byte offset.
-/
import Printlet.Bytes.Basic
import Printlet.Instruction.Basic

namespace Printlet

/-- Where an instruction stands in a text, and the instruction. -/
abbrev Placed := Nat × Instruction

namespace Instruction

/-! ## Writing -/

/-- The number that stands for an instruction. -/
def code : Instruction → Nat
  | .pushInt _ => 0
  | .pushConst _ => 1
  | .loadLocal _ => 2
  | .storeLocal _ => 3
  | .arith .add => 4
  | .arith .sub => 5
  | .arith .mul => 6
  | .arith .div => 7
  | .getStdout => 8
  | .println => 9
  | .ret => 10

/-- The operand of an instruction as bytes. -/
def operandBytes : Instruction → Bytes
  | .pushInt value => Bytes.ofNat 8 value.toUInt64.toNat
  | .pushConst index => Bytes.ofNat 4 index.toNat
  | .loadLocal slot => Bytes.ofNat 2 slot.toNat
  | .storeLocal slot => Bytes.ofNat 2 slot.toNat
  | _ => []

/-- An instruction as bytes. -/
def encode (i : Instruction) : Bytes :=
  Bytes.ofNat 2 i.code ++ i.operandBytes

/-- The number of bytes of the instruction that a code stands for. -/
def sizeOfCode? : Nat → Option Nat
  | 0 => some 10
  | 1 => some 6
  | 2 => some 4
  | 3 => some 4
  | 4 => some 2
  | 5 => some 2
  | 6 => some 2
  | 7 => some 2
  | 8 => some 2
  | 9 => some 2
  | 10 => some 2
  | _ => none

/-- The number of bytes of an instruction. -/
def size : Instruction → Nat
  | .pushInt _ => 10
  | .pushConst _ => 6
  | .loadLocal _ => 4
  | .storeLocal _ => 4
  | _ => 2

/-- Code as bytes, one instruction after the other. -/
def encodeAll (code : List Instruction) : Bytes :=
  code.flatMap encode

/-! ## Reading -/

/-- The operand of an instruction with the given code, and the rest of the bytes. -/
def decodeOperand? (code : Nat) (bs : Bytes) : Option (Instruction × Bytes) :=
  match code with
  | 0 => (Bytes.readNat? 8 bs).map fun (n, rest) => (.pushInt (UInt64.ofNat n).toInt64, rest)
  | 1 => (Bytes.readNat? 4 bs).map fun (n, rest) => (.pushConst (UInt32.ofNat n), rest)
  | 2 => (Bytes.readNat? 2 bs).map fun (n, rest) => (.loadLocal (UInt16.ofNat n), rest)
  | 3 => (Bytes.readNat? 2 bs).map fun (n, rest) => (.storeLocal (UInt16.ofNat n), rest)
  | 4 => some (.arith .add, bs)
  | 5 => some (.arith .sub, bs)
  | 6 => some (.arith .mul, bs)
  | 7 => some (.arith .div, bs)
  | 8 => some (.getStdout, bs)
  | 9 => some (.println, bs)
  | 10 => some (.ret, bs)
  | _ => none

/-- The instruction at the front of a row of bytes, and the rest. -/
def decode? (bs : Bytes) : Option (Instruction × Bytes) := do
  let (code, rest) ← Bytes.readNat? 2 bs
  decodeOperand? code rest

/-- Reading an operand never adds bytes. -/
theorem length_of_decodeOperand? {code : Nat} {bs rest : Bytes} {i : Instruction}
    (h : decodeOperand? code bs = some (i, rest)) : rest.length ≤ bs.length := by
  unfold decodeOperand? at h
  split at h
  case h_1 | h_2 | h_3 | h_4 =>
    simp only [Option.map_eq_some_iff] at h
    obtain ⟨⟨n, rest⟩, read, same⟩ := h
    obtain ⟨rfl, rfl⟩ := by simpa using same
    have := Bytes.length_of_readNat? read
    omega
  all_goals simp_all

/-- What follows an instruction is shorter than the bytes it was read from. -/
theorem length_of_decode? {bs rest : Bytes} {i : Instruction}
    (h : decode? bs = some (i, rest)) : rest.length < bs.length := by
  simp only [decode?, Option.bind_eq_bind, Option.bind_eq_some_iff] at h
  obtain ⟨⟨code, body⟩, readCode, readOperand⟩ := h
  have width := Bytes.length_of_readNat? readCode
  have shorter := length_of_decodeOperand? readOperand
  simp only at shorter
  omega

/-- Reads code whose first byte stands at `offset`: the instructions with their offsets, or the
offset of the first bytes that form no instruction. -/
def decodeFrom (offset : Nat) (bs : Bytes) : Except Nat (List Placed) :=
  if bs.isEmpty then .ok []
  else
    match read : decode? bs with
    | none => .error offset
    | some (i, rest) =>
      have : rest.length < bs.length := length_of_decode? read
      match decodeFrom (offset + i.size) rest with
      | .ok placed => .ok ((offset, i) :: placed)
      | .error stuck => .error stuck
termination_by bs.length

/-- Reads a whole text of code. -/
def decodeAll (text : Bytes) : Except Nat (List Placed) :=
  decodeFrom 0 text

end Instruction

end Printlet
