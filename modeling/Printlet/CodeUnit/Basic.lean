/-
Printlet.CodeUnit.Basic — what the compiler makes and the engine loads.

A code unit has a name, the version of the compiler that made it, one procedure, and the texts that
the procedure uses as constants. The procedure's header declares how deep its stack grows and how
many local slots it uses. `Origins` tells from which node of the program each instruction came.
-/
import Std.Data.TreeMap
import Printlet.Bytes.Basic

namespace Printlet

/-- Version of the compiler. -/
structure Version where
  major : UInt16
  minor : UInt16
  patch : UInt16
  deriving DecidableEq, Repr

/-- The version of this compiler and of the engine. -/
def Version.current : Version :=
  ⟨0, 1, 0⟩

/-- A version as messages show it. -/
def Version.display (v : Version) : String :=
  s!"[{v.major.toNat}, {v.minor.toNat}, {v.patch.toNat}]"

/-- A procedure: its header and its code as bytes. -/
structure Procedure where
  name : String
  maxStack : UInt16
  maxLocals : UInt16
  text : Bytes
  deriving DecidableEq, Repr

/-- A compiled unit. -/
structure CodeUnit where
  version : Version
  name : String
  entry : Procedure
  constants : List String
  deriving DecidableEq, Repr

/-- The names under which a program is compiled and run. -/
structure UnitNames where
  unit : String := "Program"
  entry : String := "main"
  deriving DecidableEq, Repr

/-- From which node each instruction came: the node of the `k`-th instruction, and the `k` of the
instruction at each byte offset. -/
structure Origins where
  nodes : List Nat
  index : Std.TreeMap Nat Nat

/-- The node that the instruction at a byte offset came from. -/
def Origins.nodeAt? (origins : Origins) (offset : Nat) : Option Nat := do
  let k ← origins.index[offset]?
  origins.nodes[k]?

end Printlet
