/-
Printlet.Syntax.Tree — programs as trees.

A program is a list of statements, a statement prints an expression or binds a name to one. An
expression is a chain of terms joined by `+` and `-`, a term a chain of factors joined by `*` and `/`.
Operands and operators stand in two lists. A tree that was read from text has one operand more than
operators in every chain; a tree built by hand need not, and the compiler says so.

Every node carries a label. Reading labels nodes with their spans; `Program.number` replaces the
labels by numbers in pre-order (a node before its parts, the parts from left to right), and
`Program.labels` lists them in the same order. So the label that stood on node `k` is the `k`-th of
the list.
-/

namespace Printlet

/-- The operators of an expression. -/
inductive SumOp where
  | add
  | sub
  deriving DecidableEq, Repr

/-- The operators of a term. -/
inductive ProductOp where
  | mul
  | div
  deriving DecidableEq, Repr

mutual

/-- Terms joined by `+` and `-`. -/
inductive Expression (α : Type) where
  | mk (label : α) (terms : List (Term α)) (operators : List SumOp)

/-- Factors joined by `*` and `/`. -/
inductive Term (α : Type) where
  | mk (label : α) (factors : List (Factor α)) (operators : List ProductOp)

/-- An operand: an expression in parentheses, a literal or a name. A text literal is kept with its
quotes. -/
inductive Factor (α : Type) where
  | group (label : α) (inner : Expression α)
  | int (label : α) (value : Int64)
  | text (label : α) (literal : String)
  | name (label : α) (name : String)

end

/-- What a program does, one line at a time. -/
inductive Statement (α : Type) where
  | print (label : α) (value : Expression α)
  | bind (label : α) (name : String) (value : Expression α)

/-- A whole script. -/
structure Program (α : Type) where
  label : α
  statements : List (Statement α)

variable {α : Type}

/-- The expression of a statement. -/
def Statement.value : Statement α → Expression α
  | .print _ value => value
  | .bind _ _ value => value

/-! ## Labels -/

/-- The label of an expression itself. -/
def Expression.label : Expression α → α
  | .mk l _ _ => l

/-- The label of a term itself. -/
def Term.label : Term α → α
  | .mk l _ _ => l

/-- The label of a factor itself. -/
def Factor.label : Factor α → α
  | .group l _ => l
  | .int l _ => l
  | .text l _ => l
  | .name l _ => l

/-- The label of a statement itself. -/
def Statement.label : Statement α → α
  | .print l _ => l
  | .bind l _ _ => l

mutual

/-- The labels of an expression and all its parts, in pre-order. -/
def Expression.labels : Expression α → List α
  | .mk l ts _ => l :: Term.labelsOfAll ts

/-- The labels of a term and all its parts, in pre-order. -/
def Term.labels : Term α → List α
  | .mk l fs _ => l :: Factor.labelsOfAll fs

/-- The labels of a factor and all its parts, in pre-order. -/
def Factor.labels : Factor α → List α
  | .group l e => l :: e.labels
  | .int l _ => [l]
  | .text l _ => [l]
  | .name l _ => [l]

/-- The labels of a row of terms, from left to right. -/
def Term.labelsOfAll : List (Term α) → List α
  | [] => []
  | t :: ts => t.labels ++ Term.labelsOfAll ts

/-- The labels of a row of factors, from left to right. -/
def Factor.labelsOfAll : List (Factor α) → List α
  | [] => []
  | f :: fs => f.labels ++ Factor.labelsOfAll fs

end

/-- The labels of a statement and all its parts, in pre-order. -/
def Statement.labels : Statement α → List α
  | .print l e => l :: e.labels
  | .bind l _ e => l :: e.labels

/-- The labels of a program and all its parts, in pre-order. -/
def Program.labels (p : Program α) : List α :=
  p.label :: p.statements.flatMap Statement.labels

/-! ## Numbering

Each function takes the first free number and returns the numbered tree with the next free one. -/

mutual

/-- Numbers an expression and its parts in pre-order. -/
def Expression.number (n : Nat) : Expression α → Expression Nat × Nat
  | .mk _ ts ops =>
    let (ts, next) := Term.numberAll (n + 1) ts
    (.mk n ts ops, next)

/-- Numbers a term and its parts in pre-order. -/
def Term.number (n : Nat) : Term α → Term Nat × Nat
  | .mk _ fs ops =>
    let (fs, next) := Factor.numberAll (n + 1) fs
    (.mk n fs ops, next)

/-- Numbers a factor and its parts in pre-order. -/
def Factor.number (n : Nat) : Factor α → Factor Nat × Nat
  | .group _ e =>
    let (e, next) := e.number (n + 1)
    (.group n e, next)
  | .int _ v => (.int n v, n + 1)
  | .text _ s => (.text n s, n + 1)
  | .name _ s => (.name n s, n + 1)

/-- Numbers a row of terms from left to right. -/
def Term.numberAll (n : Nat) : List (Term α) → List (Term Nat) × Nat
  | [] => ([], n)
  | t :: ts =>
    let (t, next) := t.number n
    let (ts, next) := Term.numberAll next ts
    (t :: ts, next)

/-- Numbers a row of factors from left to right. -/
def Factor.numberAll (n : Nat) : List (Factor α) → List (Factor Nat) × Nat
  | [] => ([], n)
  | f :: fs =>
    let (f, next) := f.number n
    let (fs, next) := Factor.numberAll next fs
    (f :: fs, next)

end

/-- Numbers a statement and its parts in pre-order. -/
def Statement.number (n : Nat) : Statement α → Statement Nat × Nat
  | .print _ e =>
    let (e, next) := e.number (n + 1)
    (.print n e, next)
  | .bind _ name e =>
    let (e, next) := e.number (n + 1)
    (.bind n name e, next)

/-- Numbers a row of statements from left to right. -/
def Statement.numberAll (n : Nat) : List (Statement α) → List (Statement Nat)
  | [] => []
  | s :: ss =>
    let (s, next) := s.number n
    s :: Statement.numberAll next ss

/-- The program with its nodes numbered in pre-order from zero. -/
def Program.number (p : Program α) : Program Nat :=
  ⟨0, Statement.numberAll 1 p.statements⟩

end Printlet
