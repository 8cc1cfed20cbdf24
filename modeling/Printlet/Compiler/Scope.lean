/-
Printlet.Compiler.Scope — names and their slots.

A scope gives each name a local slot when the name is first declared: the first name gets slot zero,
the next one slot one, and so on. Declaring a known name again returns the slot it has. A scope holds
as many names as a procedure header can declare slots.
-/
import Std.Data.TreeMap

namespace Printlet

/-- The slots of the names declared so far. -/
structure Scope where
  slots : Std.TreeMap String Nat

namespace Scope

/-- How many names a scope can hold. -/
def capacity : Nat :=
  65535

/-- A scope without names. -/
def empty : Scope :=
  ⟨∅⟩

/-- How many names have been declared. -/
def size (scope : Scope) : Nat :=
  scope.slots.size

/-- The slot of a declared name. -/
def slot? (scope : Scope) (name : String) : Option Nat :=
  scope.slots[name]?

/-- The slot of a name and the scope in which it is declared, if there is room. -/
def declare (scope : Scope) (name : String) : Option (Nat × Scope) :=
  match scope.slot? name with
  | some slot => some (slot, scope)
  | none =>
    if scope.size < capacity then some (scope.size, ⟨scope.slots.insert name scope.size⟩)
    else none

end Scope

end Printlet
