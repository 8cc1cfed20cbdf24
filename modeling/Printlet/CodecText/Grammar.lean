/-
Printlet.CodecText.Grammar — the rules for all kinds of phrase, tied together.

The rules for the kinds of phrase refer to each other through `phrase`, which is bounded by the number of
phrases that may be nested. Fewer than `nesting` of them start between one tree and the next, so a bound
that grows with the text is never reached.
-/
import Printlet.CodecText.Items

namespace Printlet

namespace CodecText

/-- The rule for each kind of phrase, if no more than `bound` phrases are nested. -/
def phrase : (bound : Nat) → Phrase → Rule
  | 0, _, c => c
  | bound + 1, kind, c =>
    let read := phrase bound
    match kind with
    | .type plus => type read plus c
    | .bounds plus => bounds read plus c
    | .path inType => path read inType c
    | .arguments => arguments read c
    | .parameters always => parameters read always c
    | .pattern => pattern read c
    | .patterns => patterns read c
    | .value records => value read records c
    | .operand records => operand read records c
    | .operators records => operators read records c
    | .atom records => atom read records c
    | .block => block read c
    | .statement => statement read c
    | .item place => item read place c
    | .imports => imports read c

/-- More than the number of phrases that start between one tree and the next. -/
def nesting : Nat :=
  16

/-- The rules for a text of some atoms. -/
def rules (text : List Atom) : Phrase → Rule :=
  phrase (nesting * (text.length + 1))

end CodecText

end Printlet
