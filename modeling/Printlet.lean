import Printlet.Bytes.Basic
import Printlet.CodeUnit.Basic
import Printlet.CodeUnit.Check
import Printlet.CodeUnit.Image
import Printlet.CodeUnit.Listing
import Printlet.CodeUnit.Varint
import Printlet.CodecText.Atom
import Printlet.CodecText.Cursor
import Printlet.CodecText.Generate
import Printlet.CodecText.Grammar
import Printlet.CodecText.Items
import Printlet.CodecText.Patterns
import Printlet.CodecText.Tree
import Printlet.CodecText.Types
import Printlet.CodecText.Values
import Printlet.CodecText.Variant
import Printlet.Compiler.Assembly
import Printlet.Compiler.Compile
import Printlet.Compiler.Scope
import Printlet.Engine.Basic
import Printlet.Engine.Run
import Printlet.Files
import Printlet.Instruction.Basic
import Printlet.Instruction.Encoding
import Printlet.Machine.Sink
import Printlet.Machine.Step
import Printlet.Machine.Value
import Printlet.Main
import Printlet.Proofs.CheckSound
import Printlet.Proofs.CodeRoundTrip
import Printlet.Proofs.Emission
import Printlet.Proofs.EngineSteps
import Printlet.Proofs.Evaluation
import Printlet.Proofs.ImageRoundTrip
import Printlet.Proofs.Invocation
import Printlet.Proofs.Loading
import Printlet.Proofs.MachineStep
import Printlet.Proofs.Postfix
import Printlet.Proofs.Scope
import Printlet.Proofs.Simulation
import Printlet.Script.Arguments
import Printlet.Script.Command
import Printlet.Script.Filter
import Printlet.Script.Log
import Printlet.Script.Suite
import Printlet.Script.ValuePattern
import Printlet.Source.Diagnostic
import Printlet.Source.Line
import Printlet.Source.Span
import Printlet.Syntax.Outline
import Printlet.Syntax.Parse
import Printlet.Syntax.Reading
import Printlet.Syntax.Token
import Printlet.Syntax.Tree
import Printlet.Text.Alphanumeric
import Printlet.Text.Blank
import Printlet.Text.Quoted
import Printlet.Text.Ranges
import Printlet.Text.Upper
import Printlet.Text.Visible
import Printlet.Proofs.Transcript
import Printlet.Proofs.MachineTranscript
import Printlet.Proofs.LoadFailure
import Printlet.Proofs.History
import Printlet.Proofs.Isolation
import Printlet.Proofs.RunOutcome
import Printlet.Proofs.Lexing
import Printlet.Proofs.Labels
import Printlet.Proofs.Grammar
import Printlet.Proofs.Parsing
import Printlet.Proofs.Blame
import Printlet.Proofs.ReadingSteps
import Printlet.Proofs.Rows
import Printlet.Proofs.Demands
import Printlet.Proofs.Sites
import Printlet.Proofs.Defects
import Printlet.Proofs.Bounds
import Printlet.Proofs.Agreement
import Printlet.Proofs.CheckExact
import Printlet.Proofs.Nodes
import Printlet.Proofs.Layout
import Printlet.Proofs.Extents
import Printlet.Proofs.Nesting
import Printlet.Proofs.Oversized
import Printlet.Proofs.Truncation
import Printlet.Proofs.Paraphrase
import Printlet.Proofs.Appending
import Printlet.Proofs.Limited
import Printlet.Proofs.Balance
import Printlet.Proofs.Tables
import Printlet.Proofs.Listings
import Printlet.Proofs.Footprint
import Printlet.Proofs.ByteOrder
import Printlet.Proofs.Verdict
