/-
Printlet.Engine.Basic — installed units and calls.

An engine holds units by name and a sink that all calls print to. A unit is installed from its image:
the image must decode, carry the engine's version, have a name that is not taken, and pass the check,
in this order. A call starts a new machine, so calls share nothing but the sink.
-/
import Printlet.CodeUnit.Check
import Printlet.CodeUnit.Image
import Printlet.Machine.Step

namespace Printlet

/-! ## Errors -/

/-- Why a unit cannot be installed, or a procedure found. -/
inductive LoadError where
  | image (error : ImageError)
  | versionMismatch (found expected : Version)
  | duplicateUnit (unit : String)
  | unknownUnit (unit : String)
  | unknownProcedure (unit procedure : String)
  | check (unit procedure : String) (failure : CheckFailure)
  deriving DecidableEq, Repr

/-- What a complaint about loading says. -/
def LoadError.message : LoadError → String
  | .image error => s!"malformed module image: {error.message}"
  | .versionMismatch found expected =>
    s!"module was compiled by version {found.display}, the engine is version {expected.display}"
  | .duplicateUnit unit => s!"a unit named {unit} is already installed"
  | .unknownUnit unit => s!"no unit named {unit} is installed"
  | .unknownProcedure unit procedure => s!"unit {unit} has no procedure named {procedure}"
  | .check unit procedure failure =>
    s!"verification of {unit}.{procedure} failed {failure.message}"

/-- Why loading and running failed. -/
inductive ExecutionError where
  | load (error : LoadError)
  | call (failure : CallFailure)
  deriving DecidableEq, Repr

/-- What a complaint about loading and running says. -/
def ExecutionError.message : ExecutionError → String
  | .load error => s!"loading failed: {error.message}"
  | .call failure => failure.fault.message

/-- The byte offset of the instruction at fault, if the failure came while running. -/
def ExecutionError.offset? : ExecutionError → Option Nat
  | .load _ => none
  | .call failure => some failure.offset

/-! ## Engines -/

/-- An installed unit: its procedure, with the code that passed the check, and its constants. -/
structure Loaded where
  procedure : String
  maxStack : Nat
  maxLocals : Nat
  code : List Placed
  constants : List String
  deriving DecidableEq, Repr

/-- The machine on which a unit starts. -/
def Loaded.machine (loaded : Loaded) (sink : Sink) : Machine :=
  Machine.start loaded.maxStack loaded.maxLocals sink

/-- A unit as an engine holds it, if its procedure passes the check. -/
def CodeUnit.load (u : CodeUnit) : Except LoadError Loaded :=
  match u.entry.check u.constants.length with
  | .ok code =>
    .ok ⟨u.entry.name, u.entry.maxStack.toNat, u.entry.maxLocals.toNat, code, u.constants⟩
  | .error failure => .error (.check u.name u.entry.name failure)

/-- A procedure of a unit, by name. -/
structure EntryPoint where
  unit : String
  procedure : String
  deriving DecidableEq, Repr

/-- Installed units, latest first, and the sink that calls print to. -/
structure Engine where
  units : List (String × Loaded)
  sink : Sink
  deriving DecidableEq, Repr

namespace Engine

/-- An engine without units. -/
def new (sink : Sink) : Engine :=
  ⟨[], sink⟩

/-- The installed unit of a name. -/
def unit? (engine : Engine) (name : String) : Option Loaded :=
  engine.units.lookup name

/-- Whether a unit of this name is installed. -/
def isInstalled (engine : Engine) (name : String) : Bool :=
  (engine.unit? name).isSome

/-- Installs the unit of an image: its name, and the engine that holds it. -/
def install (engine : Engine) (image : Bytes) : Except LoadError (String × Engine) :=
  match CodeUnit.ofImage image with
  | .error e => .error (.image e)
  | .ok u =>
    if u.version ≠ Version.current then .error (.versionMismatch u.version Version.current)
    else if engine.isInstalled u.name then .error (.duplicateUnit u.name)
    else
      match u.load with
      | .error e => .error e
      | .ok loaded => .ok (u.name, { engine with units := (u.name, loaded) :: engine.units })

/-- Finds a procedure of an installed unit. -/
def resolve (engine : Engine) (unit procedure : String) : Except LoadError EntryPoint :=
  match engine.unit? unit with
  | none => .error (.unknownUnit unit)
  | some loaded =>
    if loaded.procedure = procedure then .ok ⟨unit, procedure⟩
    else .error (.unknownProcedure unit procedure)

/-- Runs the procedure of a unit. Only the name of the unit decides which procedure runs. -/
def call (engine : Engine) (entry : EntryPoint) : Except CallFailure Unit × Engine :=
  match engine.unit? entry.unit with
  | none => (.error ⟨0, .notInstalled entry.unit⟩, engine)
  | some loaded =>
    let (result, sink) :=
      Machine.run loaded.constants loaded.procedure 0 loaded.code (loaded.machine engine.sink)
    (result, { engine with sink := sink })

/-- Installs an image and runs the procedure with the given names. What was installed stays
installed, whatever happens then. -/
def loadAndInvoke (engine : Engine) (image : Bytes) (names : UnitNames) :
    Except ExecutionError Unit × Engine :=
  match engine.install image with
  | .error e => (.error (.load e), engine)
  | .ok (_, engine) =>
    match engine.resolve names.unit names.entry with
    | .error e => (.error (.load e), engine)
    | .ok entry =>
      match engine.call entry with
      | (.ok (), engine) => (.ok (), engine)
      | (.error failure, engine) => (.error (.call failure), engine)

end Engine

end Printlet
