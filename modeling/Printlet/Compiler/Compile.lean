/-
Printlet.Compiler.Compile — from numbered programs to code.

The compiler walks the tree from left to right. An operand leaves its value on the stack; an operator
comes after its two operands; `print` puts the output stream below its value and writes; `let` stores
its value in the slot of its name, which is declared only after the value has been compiled, so a
binding cannot mention itself. Every instruction is noted with the node that it came from.

A tree built by hand can be malformed; that is found before any part of the node in question is
compiled.
-/
import Printlet.Compiler.Assembly
import Printlet.Compiler.Scope
import Printlet.Syntax.Tree

namespace Printlet

/-! ## Errors -/

/-- The two kinds of chain in a tree. -/
inductive Chain where
  | expression
  | term
  deriving DecidableEq, Repr

/-- How a complaint calls a chain. -/
def Chain.label : Chain → String
  | .expression => "expression"
  | .term => "term"

/-- What the compiler takes for a mistake of its own. A program read from text is never malformed and its
literals have their quotes, but it can nest so deep that its code needs more stack than there is. -/
inductive Defect where
  | malformed (chain : Chain) (operands operators : Nat)
  | unquoted (literal : String)
  | assembly (error : AssemblyError)
  deriving DecidableEq, Repr

/-- What a complaint about a defect says. -/
def Defect.message : Defect → String
  | .malformed chain operands operators =>
    s!"malformed {chain.label}: {operands} operands joined by {operators} operators"
  | .unquoted literal => s!"string literal without delimiters: {literal}"
  | .assembly error => error.message

/-- Why a program cannot be compiled, with the node it is about. -/
inductive CompileError where
  | undeclared (node : Nat) (name : String)
  | tooManyLocals (node : Nat) (name : String)
  | defect (node : Nat) (cause : Defect)
  deriving DecidableEq, Repr

/-- What a complaint of the compiler says. -/
def CompileError.message : CompileError → String
  | .undeclared _ name => s!"undeclared identifier: {name}"
  | .tooManyLocals _ name => s!"too many local variables, no slot left for {name}"
  | .defect _ cause => s!"A compiler bug was detected: {cause.message}"

/-- The node that a complaint of the compiler is about. -/
def CompileError.node : CompileError → Nat
  | .undeclared node _ => node
  | .tooManyLocals node _ => node
  | .defect node _ => node

/-! ## The compiler -/

/-- The text between the quotes of a literal, if it has them on both sides. -/
def unquote? (literal : String) : Option String :=
  match literal.toList with
  | '"' :: rest =>
    if rest.getLast? = some '"' then some (String.ofList rest.dropLast) else none
  | _ => none

/-- The operation that an operator stands for. -/
def SumOp.arith : SumOp → Arith
  | .add => .add
  | .sub => .sub

/-- The operation that an operator stands for. -/
def ProductOp.arith : ProductOp → Arith
  | .mul => .mul
  | .div => .div

/-- The state of the compiler: the names declared and the code emitted so far. -/
structure Emission where
  scope : Scope
  assembly : Assembly

namespace Emission

/-- Before the first statement. -/
def empty : Emission :=
  ⟨Scope.empty, Assembly.empty⟩

/-- Does something to the assembly for a node; its complaint becomes one about the node. -/
def assemble (action : Assembling Unit) (node : Nat) : Emission → Except CompileError Emission
  | ⟨scope, assembly⟩ =>
    match action assembly with
    | .ok () assembly => .ok ⟨scope, assembly⟩
    | .error e _ => .error (.defect node (.assembly e))

/-- Emits an instruction for a node. -/
def emit (em : Emission) (i : Instruction) (node : Nat) : Except CompileError Emission :=
  em.assemble (Assembly.emit i node) node

/-- Emits a text constant for a node. -/
def emitText (em : Emission) (text : String) (node : Nat) : Except CompileError Emission :=
  em.assemble (Assembly.emitText text node) node

/-- Declares a name for a statement and emits the store into its slot. -/
def store : Emission → String → Nat → Except CompileError Emission
  | ⟨scope, assembly⟩, name, node =>
    match scope.declare name with
    | some (slot, scope) => emit ⟨scope, assembly⟩ (.storeLocal (UInt16.ofNat slot)) node
    | none => .error (.tooManyLocals node name)

/-- Emits the load of a declared name. -/
def load (em : Emission) (name : String) (node : Nat) : Except CompileError Emission :=
  match em.scope.slot? name with
  | some slot => em.emit (.loadLocal (UInt16.ofNat slot)) node
  | none => .error (.undeclared node name)

end Emission

mutual

/-- Emits an expression, which leaves its value on the stack. -/
def Expression.emit : Expression Nat → Emission → Except CompileError Emission
  | .mk node [] ops, _ => .error (.defect node (.malformed .expression 0 ops.length))
  | .mk node (t :: ts) ops, em =>
    if ts.length = ops.length then do
      let em ← t.emit em
      Term.emitRest node ops ts em
    else .error (.defect node (.malformed .expression (ts.length + 1) ops.length))

/-- Emits the further terms of an expression, each followed by its operator. -/
def Term.emitRest (node : Nat) : List SumOp → List (Term Nat) → Emission →
    Except CompileError Emission
  | op :: ops, t :: ts, em => do
    let em ← t.emit em
    let em ← em.emit (.arith op.arith) node
    Term.emitRest node ops ts em
  | _, _, em => .ok em

/-- Emits a term, which leaves its value on the stack. -/
def Term.emit : Term Nat → Emission → Except CompileError Emission
  | .mk node [] ops, _ => .error (.defect node (.malformed .term 0 ops.length))
  | .mk node (f :: fs) ops, em =>
    if fs.length = ops.length then do
      let em ← f.emit em
      Factor.emitRest node ops fs em
    else .error (.defect node (.malformed .term (fs.length + 1) ops.length))

/-- Emits the further factors of a term, each followed by its operator. -/
def Factor.emitRest (node : Nat) : List ProductOp → List (Factor Nat) → Emission →
    Except CompileError Emission
  | op :: ops, f :: fs, em => do
    let em ← f.emit em
    let em ← em.emit (.arith op.arith) node
    Factor.emitRest node ops fs em
  | _, _, em => .ok em

/-- Emits a factor, which leaves its value on the stack. -/
def Factor.emit : Factor Nat → Emission → Except CompileError Emission
  | .group _ e, em => e.emit em
  | .int node value, em => em.emit (.pushInt value) node
  | .text node literal, em =>
    match unquote? literal with
    | some text => em.emitText text node
    | none => .error (.defect node (.unquoted literal))
  | .name node name, em => em.load name node

end

/-- Emits a statement, which leaves the stack as it was. -/
def Statement.emit (em : Emission) : Statement Nat → Except CompileError Emission
  | .print node value => do
    let em ← em.emit .getStdout node
    let em ← value.emit em
    em.emit .println node
  | .bind node name value => do
    let em ← value.emit em
    em.store name node

/-- Emits all statements in order. -/
def Program.emit (p : Program Nat) : Except CompileError Emission :=
  p.statements.foldlM Statement.emit Emission.empty

/-- Compiles a program into a unit with the given names. -/
def Program.compile (names : UnitNames) (p : Program Nat) :
    Except CompileError (CodeUnit × Origins) := do
  let em ← p.emit
  match em.assembly.finish names em.scope.size p.label with
  | .ok result => .ok result
  | .error e => .error (.defect p.label (.assembly e))

end Printlet
