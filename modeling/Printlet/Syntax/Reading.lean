/-
Printlet.Syntax.Reading — reading a program token by token.

The grammar can be read with one token of foresight, so reading is a walk over the lexemes: a
`Reading` is all that is known between two of them, and `Reading.next` takes in one more. Trees are
labelled with their spans on the way.

    program     statement*
    statement   (`print` expression | `let` name `=` expression) `;`?
    expression  term ((`+` | `-`) term)*
    term        factor ((`*` | `/`) factor)*
    factor      `(` expression `)` | number | text | name

A factor, and a chain of two parts or more, ends where its last part ends. A chain of a single part
also covers the trivia after it, up to the next token. A statement ends with its expression; its
semicolon belongs to the program only.

Where reading gets stuck the state says what could have come. One state says it of an earlier place:
after `let` and a name only `=` can come, and a missing `=` is reported at the `let`, as a statement
that could not be read.
-/
import Printlet.Syntax.Token

namespace Printlet

/-! ## What can be expected -/

/-- An item of the grammar that a complaint can ask for. -/
inductive Expectation where
  | endOfInput
  | letStatement
  | sumOp
  | productOp
  | factor
  | printWord
  | letWord
  | name
  deriving DecidableEq, Repr

/-- How a complaint calls an item. -/
def Expectation.label : Expectation → String
  | .endOfInput => "EOI"
  | .letStatement => "let_stmt"
  | .sumOp => "add_op"
  | .productOp => "mul_op"
  | .factor => "factor"
  | .printWord => "kw_print"
  | .letWord => "kw_let"
  | .name => "ident"

/-! ## Trees in the making -/

/-- What stands left of the operand that comes next in an expression, latest first: the finished
terms and the factors of the term in the making, each with the operator after it. -/
structure LeftPart where
  terms : List (Term Span × SumOp)
  factors : List (Factor Span × ProductOp)

namespace LeftPart

/-- Nothing stands left of the first operand. -/
def empty : LeftPart :=
  ⟨[], []⟩

/-- The term that ends with the factor `last`, where the next token starts at `next`. -/
def closeTerm (left : LeftPart) (last : Factor Span) (next : Nat) : Term Span :=
  let first := match left.factors.getLast? with
    | some (factor, _) => factor
    | none => last
  let stop := if left.factors.isEmpty then next else last.label.stop
  .mk ⟨first.label.start, stop⟩
    ((last :: left.factors.map Prod.fst).reverse) ((left.factors.map Prod.snd).reverse)

/-- The expression that ends with the factor `last`, where the next token starts at `next`. -/
def close (left : LeftPart) (last : Factor Span) (next : Nat) : Expression Span :=
  let term := left.closeTerm last next
  let first := match left.terms.getLast? with
    | some (term, _) => term
    | none => term
  let stop := if left.terms.isEmpty then next else term.label.stop
  .mk ⟨first.label.start, stop⟩
    ((term :: left.terms.map Prod.fst).reverse) ((left.terms.map Prod.snd).reverse)

end LeftPart

/-- The part of a statement before its expression, with the offset of its first word. -/
inductive Head where
  | print (start : Nat)
  | bind (start : Nat) (name : String)
  deriving DecidableEq, Repr

/-- The statement with this head and this expression. -/
def Head.close (head : Head) (value : Expression Span) : Statement Span :=
  match head with
  | .print start => .print ⟨start, value.label.stop⟩ value
  | .bind start name => .bind ⟨start, value.label.stop⟩ name value

/-- A statement in the making, after the statements before it (latest first). `groups` holds the open
parentheses, innermost first, each with what stands left of it. -/
structure Draft where
  done : List (Statement Span)
  head : Head
  groups : List (Nat × LeftPart)
  left : LeftPart

/-- A statement whose expression is about to start. -/
def Draft.start (done : List (Statement Span)) (head : Head) : Draft :=
  ⟨done, head, [], LeftPart.empty⟩

/-- All statements, the one in the making closed after the factor `last`. -/
def Draft.close (draft : Draft) (last : Factor Span) (next : Nat) : List (Statement Span) :=
  draft.head.close (draft.left.close last next) :: draft.done

/-! ## States and steps -/

/-- What is known between two tokens. -/
inductive Reading where
  /-- A statement can start; the program, so far, ends at `stop`. -/
  | boundary (done : List (Statement Span)) (stop : Nat)
  /-- After the word `let` at `start`. `unclosed` tells that the statement before has no semicolon. -/
  | binding (done : List (Statement Span)) (start : Nat) (unclosed : Bool)
  /-- After the word `let` and a name. -/
  | bound (done : List (Statement Span)) (start : Nat) (unclosed : Bool) (name : String)
  /-- An operand must come. -/
  | operand (draft : Draft)
  /-- After the operand `last`. -/
  | operator (draft : Draft) (last : Factor Span)

namespace Reading

/-- The state after the first word of a statement. -/
def startStatement (done : List (Statement Span)) (unclosed : Bool) (lexeme : Lexeme) : Option Reading :=
  match lexeme.token with
  | .printWord => some (.operand (Draft.start done (.print lexeme.span.start)))
  | .letWord => some (.binding done lexeme.span.start unclosed)
  | _ => none

/-- The state after an operand, or after the parenthesis that opens one. -/
def takeOperand (draft : Draft) (lexeme : Lexeme) : Option Reading :=
  match lexeme.token with
  | .int value => some (.operator draft (.int lexeme.span (Int64.ofNat value)))
  | .text literal => some (.operator draft (.text lexeme.span literal))
  | .name name => some (.operator draft (.name lexeme.span name))
  | .openParen =>
    some (.operand
      { draft with groups := (lexeme.span.start, draft.left) :: draft.groups, left := LeftPart.empty })
  | _ => none

/-- The state after the token that follows an operand. -/
def takeOperator (draft : Draft) (last : Factor Span) (lexeme : Lexeme) : Option Reading :=
  let next := lexeme.span.start
  match lexeme.token, draft.groups with
  | .product op, _ =>
    some (.operand { draft with left := ⟨draft.left.terms, (last, op) :: draft.left.factors⟩ })
  | .sum op, _ =>
    some (.operand
      { draft with left := ⟨(draft.left.closeTerm last next, op) :: draft.left.terms, []⟩ })
  | .closeParen, (start, outer) :: groups =>
    let group := .group ⟨start, lexeme.span.stop⟩ (draft.left.close last next)
    some (.operator { draft with groups := groups, left := outer } group)
  | .semicolon, [] => some (.boundary (draft.close last next) lexeme.span.stop)
  | .printWord, [] => startStatement (draft.close last next) true lexeme
  | .letWord, [] => startStatement (draft.close last next) true lexeme
  | _, _ => none

/-- The state after one more token, if it may come here. -/
def next (reading : Reading) (lexeme : Lexeme) : Option Reading :=
  match reading with
  | .boundary done _ => startStatement done false lexeme
  | .binding done start unclosed =>
    match lexeme.token with
    | .name name => some (.bound done start unclosed name)
    | _ => none
  | .bound done start _ name =>
    match lexeme.token with
    | .assign => some (.operand (Draft.start done (.bind start name)))
    | _ => none
  | .operand draft => takeOperand draft lexeme
  | .operator draft last => takeOperator draft last lexeme

/-- The statements and the end of the program, if the text may end here, at offset `stop`. -/
def finish (reading : Reading) (stop : Nat) : Option (List (Statement Span) × Nat) :=
  match reading with
  | .boundary done last => some (done.reverse, last)
  | .operator draft last =>
    if draft.groups.isEmpty then some ((draft.close last stop).reverse, stop) else none
  | _ => none

/-- What could come next, in the order in which complaints list it. -/
def expected : Reading → List Expectation
  | .boundary _ _ => [.endOfInput, .printWord, .letWord]
  | .binding _ _ _ => [.name]
  | .bound _ _ unclosed _ =>
    [.endOfInput, .letStatement] ++ (if unclosed then [.sumOp, .productOp] else []) ++ [.printWord]
  | .operand _ => [.factor]
  | .operator draft _ =>
    if draft.groups.isEmpty then [.endOfInput, .sumOp, .productOp, .printWord, .letWord]
    else [.sumOp, .productOp]

/-- Where a complaint points if reading gets stuck before offset `stuck`. -/
def complaintAt (reading : Reading) (stuck : Nat) : Nat :=
  match reading with
  | .bound _ start _ _ => start
  | _ => stuck

end Reading

end Printlet
