/-
Printlet.Compiler.Assembly — code in the making.

An assembly collects instructions, the node each came from, and the texts they use. It keeps count of
the depth that the stack will have after the code ran and of the greatest depth on the way, so the
finished procedure can declare its exact maximum. An instruction that needs more operands than the code
before it leaves on the stack is refused, and the assembly stays as it was.
-/
import Printlet.CodeUnit.Basic
import Printlet.Instruction.Encoding

namespace Printlet

/-- Why code cannot be assembled. -/
inductive AssemblyError where
  | stackUnderflow (instruction : Instruction) (needed available : Nat)
  | unbalancedStack (depth : Nat)
  | stackTooDeep (depth : Nat)
  | tooManyLocals (locals : Nat)
  | constantsFull
  deriving DecidableEq, Repr

/-- What a complaint about an assembly says. -/
def AssemblyError.message : AssemblyError → String
  | .stackUnderflow i needed available =>
    s!"{i.display} needs {needed} stack entries, but only {available} are available"
  | .unbalancedStack depth => s!"the procedure leaves {depth} entries on the stack"
  | .stackTooDeep depth => s!"the stack depth of {depth} does not fit the procedure header"
  | .tooManyLocals locals =>
    s!"the procedure needs {locals} locals, more than the header can declare"
  | .constantsFull => "the data section is full"

/-- Instructions collected so far, with the nodes they came from and the constants they use. -/
structure Assembly where
  code : Array Instruction
  nodes : Array Nat
  constants : Array String
  depth : Nat
  maxDepth : Nat
  deriving DecidableEq, Repr

/-- Something that is done to an assembly. It leaves an assembly behind, also if it fails. -/
abbrev Assembling := EStateM AssemblyError Assembly

namespace Assembly

/-- No code yet. -/
def empty : Assembly :=
  ⟨#[], #[], #[], 0, 0⟩

/-- Adds an instruction that came from a node. -/
def emit (i : Instruction) (node : Nat) : Assembling Unit
  | ⟨code, nodes, constants, depth, maxDepth⟩ =>
    if depth < i.effect.pops then
      .error (.stackUnderflow i i.effect.pops depth) ⟨code, nodes, constants, depth, maxDepth⟩
    else
      let after := depth - i.effect.pops + i.effect.pushes
      .ok () ⟨code.push i, nodes.push node, constants, after, max maxDepth after⟩

/-- Adds a constant and returns its index. -/
def addConstant (text : String) : Assembling Nat
  | ⟨code, nodes, constants, depth, maxDepth⟩ =>
    let index := constants.size
    if index < 4294967296 then .ok index ⟨code, nodes, constants.push text, depth, maxDepth⟩
    else .error .constantsFull ⟨code, nodes, constants, depth, maxDepth⟩

/-- Adds a constant and the instruction that puts it on the stack. -/
def emitText (text : String) (node : Nat) : Assembling Unit := do
  let index ← addConstant text
  emit (.pushConst (UInt32.ofNat index)) node

/-- The largest number that fits the header of a procedure. -/
def headerMax : Nat :=
  65535

/-- The place of each instruction of some code in its bytes. -/
def index (code : List Instruction) : Std.TreeMap Nat Nat :=
  (code.foldl
    (fun (offset, k, index) i => (offset + i.size, k + 1, index.insert offset k)) (0, 0, ∅)).2.2

/-- The unit and the origins that a finished assembly gives, if they fit the header. -/
def pack (a : Assembly) (names : UnitNames) (locals : Nat) :
    Except AssemblyError (CodeUnit × Origins) :=
  if headerMax < a.maxDepth then .error (.stackTooDeep a.maxDepth)
  else if headerMax < locals then .error (.tooManyLocals locals)
  else
    let code := a.code.toList
    let entry : Procedure :=
      { name := names.entry, maxStack := UInt16.ofNat a.maxDepth, maxLocals := UInt16.ofNat locals
        text := Instruction.encodeAll code }
    .ok (⟨Version.current, names.unit, entry, a.constants.toList⟩, ⟨a.nodes.toList, index code⟩)

/-- Closes the code with a return and makes it the procedure of a unit. -/
def finish (a : Assembly) (names : UnitNames) (locals node : Nat) :
    Except AssemblyError (CodeUnit × Origins) :=
  if a.depth ≠ 0 then .error (.unbalancedStack a.depth)
  else
    match emit .ret node a with
    | .ok () a => a.pack names locals
    | .error e _ => .error e

end Assembly

end Printlet
