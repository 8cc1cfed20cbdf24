/-
Printlet.Machine.Sink — where output goes.

A sink keeps the bytes written to it, up to a limit if it has one. Of a line that does not fit it keeps
what fits, and the write fails. A sink may refuse to be flushed.
-/
import Printlet.Bytes.Basic
import Printlet.Machine.Value

namespace Printlet

/-- A place for output and what it holds so far. -/
structure Sink where
  contents : Array UInt8 := #[]
  limit : Option Nat := none
  flushFails : Bool := false
  deriving DecidableEq, Repr

namespace Sink

/-- How many of `n` more bytes a sink takes. -/
def room (sink : Sink) (n : Nat) : Nat :=
  match sink.limit with
  | none => n
  | some limit => min n (limit - sink.contents.size)

/-- A sink with more bytes written to it, as far as they fit. -/
def append (sink : Sink) (bytes : Bytes) : Sink :=
  { sink with contents := sink.contents ++ bytes }

/-- Writes a line: the sink afterwards, and whether the line fitted. -/
def writeLine (sink : Sink) (line : String) : Except SinkError Unit × Sink :=
  let bytes := Bytes.ofText (line ++ "\n")
  let room := sink.room bytes.length
  if room < bytes.length then (.error .full, sink.append (bytes.take room))
  else (.ok (), sink.append bytes)

/-- Asks a sink to pass on what it holds. -/
def flush (sink : Sink) : Except SinkError Unit :=
  if sink.flushFails then .error .flushRefused else .ok ()

end Sink

end Printlet
