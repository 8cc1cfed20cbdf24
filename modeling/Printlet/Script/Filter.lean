/-
Printlet.Script.Filter — which events a log shows.

A filter is a list of directives separated by commas. A directive is a level, which goes for all events;
or a target, which goes for the events whose own target starts with it, and a level after an equals
sign. Without a level it shows everything. In square brackets after the target, or alone, it can ask
for more: a name asks for events inside a span of that name, and a name in braces for events that carry
a value of that name, or with an equals sign for spans that carry that very value.

A directive that goes only for what happens inside spans is read and has no say, since runs open no
spans. Of the others the most specific one decides about an event: the one with the longest target, then
one that asks for a value, and of two that ask for the same the later.
-/
import Printlet.Script.ValuePattern
import Printlet.Text.Blank

namespace Printlet

/-- How much is shown, from nothing to everything. -/
inductive LogLevel where
  | off
  | error
  | warn
  | info
  | debug
  | trace
  deriving DecidableEq, Repr

namespace LogLevel

/-- The place of a level in the order from nothing to everything. -/
def rank : LogLevel → Nat
  | .off => 0
  | .error => 1
  | .warn => 2
  | .info => 3
  | .debug => 4
  | .trace => 5

/-- How a level is written. -/
def label : LogLevel → String
  | .off => "OFF"
  | .error => "ERROR"
  | .warn => "WARN"
  | .info => "INFO"
  | .debug => "DEBUG"
  | .trace => "TRACE"

/-- The number that decimal digits denote. -/
def digits? (cs : List Char) : Option Nat :=
  if cs ≠ [] && cs.all Char.isDigit then
    some (cs.foldl (fun n c => 10 * n + (c.toNat - '0'.toNat)) 0)
  else none

/-- The number that decimal digits denote, with or without a plus sign in front. -/
def number? : List Char → Option Nat
  | '+' :: cs => digits? cs
  | cs => digits? cs

/-- The level that a word names, in letters of either case or by its rank. -/
def ofWord? (word : String) : Option LogLevel :=
  [off, error, warn, info, debug, trace].find? fun level =>
    level.label = word.toUpper || number? word.toList = some level.rank

end LogLevel

/-- Which events a level goes for: those from a target, if they carry a value of the given name. A
directive about spans goes for nothing outside them. -/
structure Directive where
  target : String := ""
  value : Option String := none
  aboutSpans : Bool := false
  level : LogLevel := .trace
  deriving DecidableEq, Repr

namespace Directive

/-- Whether a directive can start with a character, if not with a bracket. -/
def startsTarget (c : Char) : Bool :=
  Text.isAlphanumeric c || c = '-' || c = ':' || c = '_'

/-- Whether a target goes on with a character. -/
def inTarget (c : Char) : Bool :=
  c ≠ '=' && c ≠ '['

/-- A directive that is a single word: a level, or else a target. -/
def ofWord (word : String) : Directive :=
  match LogLevel.ofWord? word with
  | some level => { level := level }
  | none => { target := word }

/-- Gives a directive the level that stands behind its equals sign. Nothing there means everything. -/
def withLevel (d : Directive) (word : List Char) : Option Directive :=
  if word = [] then some d
  else (LogLevel.ofWord? (String.ofList word)).map fun level => { d with level := level }

/-- Asks for a value. Asking for the value itself is a matter of spans, and needs a pattern for it. -/
def askFor (d : Directive) (value : List Char) : Option Directive :=
  let name := value.takeWhile (· ≠ '=')
  let asking := { d with value := some (String.ofList name) }
  match value.drop name.length with
  | [] => some asking
  | _ :: rest =>
    if ValuePattern.isValid (rest.takeWhile (· ≠ '=')) then some { asking with aboutSpans := true }
    else none

/-- Reads what stands in brackets, behind the opening one: the directive, and what follows. -/
def readBrackets (d : Directive) (cs : List Char) : Option (Directive × List Char) :=
  let span := cs.takeWhile fun c => c ≠ ']' && c ≠ '\x7b'
  match cs.dropWhile fun c => c ≠ ']' && c ≠ '\x7b' with
  | ']' :: rest => some ({ d with aboutSpans := true }, rest)
  | '\x7b' :: rest =>
    match rest.takeWhile (· ≠ '\x7d'), rest.dropWhile (· ≠ '\x7d') with
    | c :: value, '\x7d' :: ']' :: rest =>
      (askFor { d with aboutSpans := !span.isEmpty } (c :: value)).map fun d => (d, rest)
    | _, _ => none
  | _ => none

/-- Reads a directive. Blanks in front of it are part of its target, so that it goes for no event. With
blanks around it a word is no level, and a level behind an equals sign cannot be read. -/
def parse (word : String) : Option Directive :=
  let cs := word.toList
  let front := cs.takeWhile Text.isBlank
  let body := ((cs.dropWhile Text.isBlank).reverse.dropWhile Text.isBlank).reverse
  let target := body.takeWhile inTarget
  let d : Directive := { target := String.ofList (front ++ target) }
  let levelled (d : Directive) (level : List Char) :=
    if body = cs then d.withLevel level else none
  match target.head?.map startsTarget, body.dropWhile inTarget with
  | some true, [] => some (ofWord word)
  | some true, '=' :: level => levelled d level
  | some false, _ => none
  | _, '[' :: rest =>
    match d.readBrackets rest with
    | some (d, []) => some d
    | some (d, '=' :: level) => levelled d level
    | _ => none
  | _, _ => none

end Directive

/-- A list of directives. -/
abbrev LogFilter := List Directive

namespace LogFilter

/-- The filter in force where none is given, or none that can be read. -/
def fallback : LogFilter :=
  [{ level := .warn }]

/-- Reads a filter. -/
def parse (text : String) : LogFilter :=
  match ((text.splitOn ",").filter (· ≠ "")).mapM Directive.parse with
  | some filter => filter
  | none => fallback

end LogFilter

end Printlet
