/-
Printlet.Machine.Step — running a procedure.

A machine has a bounded stack of operands, the local slots of the procedure, and the sink it prints to.
An instruction either succeeds or stops the machine with a fault; what a faulting instruction has
already taken off the stack stays off. `Machine.run` executes code from front to back until it returns,
and flushes the sink then. `Machine.trace` lists what a run executes, with the depth of the stack before
each instruction.
-/
import Printlet.Instruction.Encoding
import Printlet.Machine.Sink

namespace Printlet

/-- A procedure in execution. The top of the stack comes first. -/
structure Machine where
  stack : List Value
  locals : Array (Option Value)
  maxStack : Nat
  sink : Sink
  deriving DecidableEq, Repr

/-- What executing one instruction leads to. -/
inductive Outcome where
  | next
  | returned
  deriving DecidableEq, Repr

/-- Something that a machine does: it changes the machine, also if it ends in a fault. -/
abbrev Action := EStateM Fault Machine

namespace Machine

/-- A machine with an empty stack and unset slots. -/
def start (maxStack maxLocals : Nat) (sink : Sink) : Machine :=
  ⟨[], Array.replicate maxLocals none, maxStack, sink⟩

/-! ## Actions -/

/-- Puts a value on the stack. -/
def push (value : Value) : Action Unit
  | ⟨stack, locals, maxStack, sink⟩ =>
    if stack.length < maxStack then .ok () ⟨value :: stack, locals, maxStack, sink⟩
    else .error (.stackOverflow maxStack) ⟨stack, locals, maxStack, sink⟩

/-- Takes a value off the stack. -/
def pop : Action Value
  | ⟨[], locals, maxStack, sink⟩ => .error .stackEmpty ⟨[], locals, maxStack, sink⟩
  | ⟨value :: stack, locals, maxStack, sink⟩ => .ok value ⟨stack, locals, maxStack, sink⟩

/-- The value of a slot. -/
def slotValue (slot : Nat) : Action Value := fun machine =>
  match machine.locals[slot]? with
  | some (some value) => .ok value machine
  | some none => .error (.uninitializedLocal slot) machine
  | none => .error (.noSuchLocal slot) machine

/-- Puts a copy of a slot on the stack. -/
def load (slot : Nat) : Action Unit := do
  let value ← slotValue slot
  push value

/-- Sets a slot. -/
def setSlot (slot : Nat) (value : Value) : Action Unit
  | ⟨stack, locals, maxStack, sink⟩ =>
    if slot < locals.size then
      .ok () ⟨stack, locals.setIfInBounds slot (some value), maxStack, sink⟩
    else .error (.noSuchLocal slot) ⟨stack, locals, maxStack, sink⟩

/-- Moves the top of the stack into a slot. -/
def store (slot : Nat) : Action Unit := do
  let value ← pop
  setSlot slot value

/-- Writes a line to the sink. -/
def writeLine (line : String) : Action Unit
  | ⟨stack, locals, maxStack, sink⟩ =>
    match sink.writeLine line with
    | (.ok (), sink) => .ok () ⟨stack, locals, maxStack, sink⟩
    | (.error e, sink) => .error (.output e) ⟨stack, locals, maxStack, sink⟩

/-- The outcome of something that may be a fault. -/
def check {α : Type} : Except Fault α → Action α
  | .ok a => pure a
  | .error fault => throw fault

/-- The constant with an index. -/
def constant (constants : List String) (index : Nat) : Action String :=
  match constants[index]? with
  | some text => pure text
  | none => throw (.noConstant index)

/-- Refuses to write to anything but a stream. -/
def checkStream (target : Value) : Action Unit :=
  if target = .stdout then pure () else throw (.notAStream target.kind)

/-! ## Instructions -/

/-- Executes one instruction. -/
def step (constants : List String) : Instruction → Action Outcome
  | .pushInt value => do
    push (.int value)
    return .next
  | .pushConst index => do
    let text ← constant constants index.toNat
    push (.text text)
    return .next
  | .loadLocal slot => do
    load slot.toNat
    return .next
  | .storeLocal slot => do
    store slot.toNat
    return .next
  | .arith op => do
    let rhs ← pop
    let lhs ← pop
    let result ← check (op.apply lhs rhs)
    push result
    return .next
  | .getStdout => do
    push .stdout
    return .next
  | .println => do
    let value ← pop
    let target ← pop
    checkStream target
    writeLine value.display
    return .next
  | .ret => return .returned

end Machine

/-- A fault and the byte offset of the instruction that it came from. -/
structure CallFailure where
  offset : Nat
  fault : Fault
  deriving DecidableEq, Repr

namespace Machine

/-- Executes code until it returns. `procedure` is its name, `last` the offset of the instruction
before it. -/
def run (constants : List String) (procedure : String) (last : Nat) :
    List Placed → Machine → Except CallFailure Unit × Sink
  | [], machine => (.error ⟨last, .ranPastEnd procedure⟩, machine.sink)
  | (offset, i) :: rest, machine =>
    match step constants i machine with
    | .ok .next machine => run constants procedure offset rest machine
    | .ok .returned machine =>
      match machine.sink.flush with
      | .ok () => (.ok (), machine.sink)
      | .error e => (.error ⟨offset, .output e⟩, machine.sink)
    | .error fault machine => (.error ⟨offset, fault⟩, machine.sink)

end Machine

/-- An instruction that was executed, with the depth of the stack before it. -/
structure Executed where
  offset : Nat
  instruction : Instruction
  depth : Nat
  deriving DecidableEq, Repr

/-- The instructions that a run executes, in order; the last may be the one at fault. -/
def Machine.trace (constants : List String) : List Placed → Machine → List Executed
  | [], _ => []
  | (offset, i) :: rest, machine =>
    ⟨offset, i, machine.stack.length⟩ ::
      match step constants i machine with
      | .ok .next machine => trace constants rest machine
      | _ => []

end Printlet
