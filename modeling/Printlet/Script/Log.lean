/-
Printlet.Script.Log — the events of a run.

An event has a level, the name of the part of the program it comes from, a message and named values.
Those that the filter shows are written one on a line.
-/
import Printlet.Engine.Run
import Printlet.Script.Filter

namespace Printlet

/-- Something that happened in a run. -/
structure Event where
  level : LogLevel
  target : String
  message : String
  values : List (String × String)
  deriving DecidableEq, Repr

/-- Whether a directive goes for an event. The message counts as a value of that name. -/
def Directive.goesFor (d : Directive) (event : Event) : Bool :=
  !d.aboutSpans && d.target.toList.isPrefixOf event.target.toList &&
    d.value.all fun name => name = "message" || event.values.any (·.1 = name)

/-- Whether a directive is at least as specific as another one. -/
def Directive.outranks (d other : Directive) : Bool :=
  other.target.length < d.target.length ||
    (other.target.length = d.target.length && other.value.getD "" ≤ d.value.getD "")

/-- The directive that decides about an event. -/
def LogFilter.deciding (filter : LogFilter) (event : Event) : Option Directive :=
  (filter.filter (·.goesFor event)).foldl
    (fun best d =>
      match best with
      | none => some d
      | some b => if d.outranks b then some d else some b)
    none

/-- Whether an event is shown. -/
def LogFilter.shows (filter : LogFilter) (event : Event) : Bool :=
  match filter.deciding event with
  | some d => event.level.rank ≤ d.level.rank
  | none => false

/-- The line of an event. -/
def Event.line (event : Event) : String :=
  let values := String.join (event.values.map fun (name, value) => s!" {name}={value}")
  s!"{event.level.label} {event.target}: {event.message}{values}\n"

/-- The lines of the events that a filter shows. -/
def LogFilter.lines (filter : LogFilter) (events : List Event) : String :=
  String.join ((events.filter filter.shows).map Event.line)

/-! ## The events of a run -/

namespace Event

/-- A script has been read. -/
def parsed (script : String) (nodes : Nat) : Event :=
  ⟨.debug, "almaz", "parsed script", [("script", script), ("ast_nodes", toString nodes)]⟩

/-- A program has been compiled. -/
def compiled (statements : Nat) (u : CodeUnit) : Event :=
  ⟨.debug, "almaz_lib::compiler", "compiled program",
    [ ("unit", u.name), ("statements", toString statements)
    , ("max_stack", toString u.entry.maxStack.toNat)
    , ("max_locals", toString u.entry.maxLocals.toNat)
    , ("text_bytes", toString u.entry.text.length) ]⟩

/-- A unit has been written as bytes. -/
def encoded (unit : String) (image : Bytes) : Event :=
  ⟨.debug, "almaz", "encoded module image",
    [("unit", unit), ("image_bytes", toString image.length)]⟩

/-- A unit has been installed. -/
def installed (unit : String) (loaded : Loaded) : Event :=
  ⟨.debug, "almaz_lib::vm", "installed unit",
    [ ("unit", unit), ("entry", loaded.procedure), ("opcodes", toString loaded.code.length)
    , ("constants", toString loaded.constants.length) ]⟩

/-- A procedure is about to be run. -/
def invoking (entry : EntryPoint) : Event :=
  ⟨.debug, "almaz_lib::loader", "invoking",
    [("unit", entry.unit), ("procedure", entry.procedure)]⟩

/-- A procedure is being called. -/
def calling (unit : String) (loaded : Loaded) : Event :=
  ⟨.debug, "almaz_lib::vm", "calling", [("unit", unit), ("procedure", loaded.procedure)]⟩

/-- An instruction is about to be executed. -/
def executing (e : Executed) : Event :=
  ⟨.trace, "almaz_lib::vm", "exec",
    [ ("offset", toString e.offset), ("opcode", e.instruction.display)
    , ("depth", toString e.depth) ]⟩

/-- The events of a call. -/
def ofCall (engine : Engine) (unit : String) : List Event :=
  match engine.unit? unit with
  | none => []
  | some loaded =>
    calling unit loaded ::
      (Machine.trace loaded.constants loaded.code (loaded.machine engine.sink)).map executing

/-- The events of loading an image and running it. -/
def ofInvocation (engine : Engine) (image : Bytes) (names : UnitNames) : List Event :=
  match engine.install image with
  | .error _ => []
  | .ok (unit, engine) =>
    ((engine.unit? unit).map (installed unit)).toList ++
      match engine.resolve names.unit names.entry with
      | .error _ => []
      | .ok entry => invoking entry :: ofCall engine entry.unit

end Event

end Printlet
