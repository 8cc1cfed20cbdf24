/-
Printlet.Proofs.Evaluation — what a program means, without code.

The evaluator walks the tree and keeps an environment from names to data; it
knows neither stack nor slots nor constants. Statements are evaluated in
order. A chain is the left fold of its operands: both operands of an operator
are evaluated before it is applied. Numbers are exact integers, and an
operation whose result leaves the range of sixty-four bits is at fault.

An evaluation is the lines that it prints, each with the node that printed it,
and how it ended. `Stop.fault` is a fault of the program; `Stop.stuck` is a
node that means nothing (a malformed chain, a literal without quotes, a name
that is not bound), at which no code is ever made.
-/
import Mathlib.Algebra.Group.Int.Defs
import Printlet.Proofs.Transcript
import Printlet.Syntax.Tree

namespace Printlet

/-! ## Data -/

/-- What an expression can denote. -/
inductive Datum where
  | int (value : Int)
  | text (value : String)
  deriving DecidableEq, Repr

namespace Datum

/-- The kind of a datum, as messages name it. -/
def kind : Datum → Kind
  | .int _ => .int
  | .text _ => .text

/-- A datum as it is printed: a number in decimal, a text as it stands. -/
def line : Datum → String
  | .int value => toString value
  | .text value => value

/-- Applies an operation that needs two numbers; `exact` is its result before
the range is looked at. -/
def combine (op : Arith) (exact : Int → Int → Int) : Datum → Datum → Except Fault Datum
  | .int a, .int b =>
    if -2 ^ 63 ≤ exact a b ∧ exact a b < 2 ^ 63 then .ok (.int (exact a b))
    else .error (.overflow op)
  | lhs, rhs => .error (.typeMismatch op lhs.kind rhs.kind)

end Datum

/-- The meaning of `+` and `-`. -/
def SumOp.apply : SumOp → Datum → Datum → Except Fault Datum
  | .add, lhs, rhs => Datum.combine .add (fun a b => a + b) lhs rhs
  | .sub, lhs, rhs => Datum.combine .sub (fun a b => a - b) lhs rhs

/-- The meaning of `*` and `/`. Only a number can be found to be divided by
zero. -/
def ProductOp.apply : ProductOp → Datum → Datum → Except Fault Datum
  | .mul, lhs, rhs => Datum.combine .mul (fun a b => a * b) lhs rhs
  | .div, .int _, .int 0 => .error .divisionByZero
  | .div, lhs, rhs => Datum.combine .div Int.tdiv lhs rhs

/-- The text between the quotes of a literal. -/
def literalText? (literal : String) : Option String :=
  match literal.toList with
  | '"' :: rest =>
    match rest.reverse with
    | '"' :: inner => some (String.ofList inner.reverse)
    | _ => none
  | _ => none

/-! ## Environments -/

/-- The data that names are bound to. -/
abbrev Env := String → Option Datum

namespace Env

/-- Nothing is bound. -/
def empty : Env :=
  fun _ => none

/-- Binds a name, also one that is bound already. -/
def bind (env : Env) (name : String) (datum : Datum) : Env :=
  fun other => if other = name then some datum else env other

end Env

/-! ## Expressions -/

/-- Why an evaluation ends early. -/
inductive Stop (α : Type) where
  /-- What a node does is at fault. -/
  | fault (node : α) (cause : Fault)
  /-- A node means nothing. -/
  | stuck (node : α)
  deriving DecidableEq, Repr

variable {α : Type}

/-- The outcome of an operation, with the node it belongs to. -/
def Stop.at {β : Type} (node : α) : Except Fault β → Except (Stop α) β
  | .ok b => .ok b
  | .error cause => .error (.fault node cause)

mutual

/-- The datum of an expression. -/
def Expression.eval (env : Env) : Expression α → Except (Stop α) Datum
  | .mk node [] _ => .error (.stuck node)
  | .mk node (t :: ts) ops =>
    if ts.length = ops.length then do
      let first ← t.eval env
      Term.evalRest env node first ops ts
    else .error (.stuck node)

/-- Folds the further terms of an expression into the datum so far. -/
def Term.evalRest (env : Env) (node : α) (sofar : Datum) :
    List SumOp → List (Term α) → Except (Stop α) Datum
  | op :: ops, t :: ts => do
    let datum ← t.eval env
    let sofar ← Stop.at node (op.apply sofar datum)
    Term.evalRest env node sofar ops ts
  | _, _ => .ok sofar

/-- The datum of a term. -/
def Term.eval (env : Env) : Term α → Except (Stop α) Datum
  | .mk node [] _ => .error (.stuck node)
  | .mk node (f :: fs) ops =>
    if fs.length = ops.length then do
      let first ← f.eval env
      Factor.evalRest env node first ops fs
    else .error (.stuck node)

/-- Folds the further factors of a term into the datum so far. -/
def Factor.evalRest (env : Env) (node : α) (sofar : Datum) :
    List ProductOp → List (Factor α) → Except (Stop α) Datum
  | op :: ops, f :: fs => do
    let datum ← f.eval env
    let sofar ← Stop.at node (op.apply sofar datum)
    Factor.evalRest env node sofar ops fs
  | _, _ => .ok sofar

/-- The datum of a factor. -/
def Factor.eval (env : Env) : Factor α → Except (Stop α) Datum
  | .group _ inner => inner.eval env
  | .int _ value => .ok (.int value.toInt)
  | .text node literal =>
    match literalText? literal with
    | some text => .ok (.text text)
    | none => .error (.stuck node)
  | .name node name =>
    match env name with
    | some datum => .ok datum
    | none => .error (.stuck node)

end

/-! ## Programs -/

/-- What a program prints, line by line with the nodes that print, and how it
ends. -/
structure Evaluation (α : Type) where
  lines : List (α × String)
  ending : Except (Stop α) Unit

namespace Evaluation

/-- Ends here, well or not. -/
def done (ending : Except (Stop α) Unit) : Evaluation α :=
  ⟨[], ending⟩

/-- Prints a line first. -/
def after (node : α) (line : String) (later : Evaluation α) : Evaluation α :=
  { later with lines := (node, line) :: later.lines }

/-- The bytes of all lines, each with a line feed after it. -/
def output (evaluation : Evaluation α) : Bytes :=
  Transcript.spell evaluation.lines

end Evaluation

/-- Evaluates statements in order. A name is bound after its value has been
evaluated. -/
def Statement.evalAll (env : Env) : List (Statement α) → Evaluation α
  | [] => .done (.ok ())
  | .print node value :: rest =>
    match value.eval env with
    | .ok datum => .after node datum.line (evalAll env rest)
    | .error stop => .done (.error stop)
  | .bind _ name value :: rest =>
    match value.eval env with
    | .ok datum => evalAll (env.bind name datum) rest
    | .error stop => .done (.error stop)

/-- Evaluates a program. -/
def Program.eval (p : Program α) : Evaluation α :=
  Statement.evalAll Env.empty p.statements

/-! ## Sinks -/

namespace Evaluation

/-- An evaluation as a transcript. If it ends well the sink is flushed, for which
`root` answers. -/
def transcript (evaluation : Evaluation α) (root : α) : Transcript α (Stop α) :=
  ⟨evaluation.lines, evaluation.ending.map fun () => root⟩

theorem transcript_after (node : α) (line : String) (later : Evaluation α) (root : α) :
    (after node line later).transcript root = (later.transcript root).note node (some line) := rfl

theorem ending_transcript_eq_error_iff {evaluation : Evaluation α} {root : α} {stop : Stop α} :
    (evaluation.transcript root).ending = .error stop ↔ evaluation.ending = .error stop := by
  cases h : evaluation.ending <;> simp [transcript, Except.map, h]

theorem eq_root_of_ending_transcript {evaluation : Evaluation α} {root node : α}
    (h : (evaluation.transcript root).ending = .ok node) : node = root := by
  rw [transcript] at h
  cases hending : evaluation.ending with
  | ok u =>
    rw [hending] at h
    cases h
    rfl
  | error stop =>
    rw [hending] at h
    cases h

/-- What an evaluation comes to if its lines go to a sink. A refused line ends it
there. -/
def onto (evaluation : Evaluation α) (root : α) (sink : Sink) : Except (Stop α) Unit × Sink :=
  (evaluation.transcript root).onto .fault sink

end Evaluation

end Printlet
