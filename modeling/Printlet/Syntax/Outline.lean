/-
Printlet.Syntax.Outline — programs as indented outlines.

An outline shows a tree with one item to a line: a node's name, then its parts one level deeper, each
followed by a comma. It is built in two steps, from the tree to an `Outline`, which knows nothing of
programs, and from there to lines.
-/
import Printlet.Syntax.Tree
import Printlet.Text.Quoted

namespace Printlet

/-- Something that can be shown as an outline. -/
inductive Outline where
  /-- A single word or number. -/
  | atom (text : String)
  /-- Items in brackets. -/
  | list (items : List Outline)
  /-- Items in parentheses after a name. -/
  | tuple (name : String) (items : List Outline)
  /-- Labelled items in braces after a name. -/
  | record (name : String) (items : List (String × Outline))

namespace Outline

/-! ## Lines -/

/-- A line one level deeper. -/
def indent (line : String) : String :=
  "    " ++ line

/-- The lines of an item inside another: one level deeper, with a comma after the last. -/
def nested : List String → List String
  | [] => []
  | [line] => [indent line ++ ","]
  | line :: rest => indent line :: nested rest

/-- Lines with a label before the first. -/
def labelled (label : String) : List String → List String
  | [] => []
  | line :: rest => (label ++ ": " ++ line) :: rest

mutual

/-- The lines of an outline. -/
def lines : Outline → List String
  | .atom text => [text]
  | .list [] => ["[]"]
  | .list (item :: items) => "[" :: (nested item.lines ++ linesOfAll items ++ ["]"])
  | .tuple name items => (name ++ "(") :: (linesOfAll items ++ [")"])
  | .record name items => (name ++ " \x7b") :: (linesOfRecord items ++ ["\x7d"])

/-- The lines of items in a row, one level deeper. -/
def linesOfAll : List Outline → List String
  | [] => []
  | item :: items => nested item.lines ++ linesOfAll items

/-- The lines of labelled items in a row, one level deeper. -/
def linesOfRecord : List (String × Outline) → List String
  | [] => []
  | (label, item) :: items => nested (labelled label item.lines) ++ linesOfRecord items

end

/-- The text of an outline, without a final line end. -/
def render (outline : Outline) : String :=
  "\n".intercalate outline.lines

/-- A number as an item. -/
def nat (n : Nat) : Outline :=
  .atom (toString n)

/-- A quoted text as an item. -/
def text (s : String) : Outline :=
  .atom (Text.quoted s)

end Outline

/-! ## Programs -/

/-- An operator as an item. -/
def SumOp.outline : SumOp → Outline
  | .add => .atom "Add"
  | .sub => .atom "Sub"

/-- An operator as an item. -/
def ProductOp.outline : ProductOp → Outline
  | .mul => .atom "Mul"
  | .div => .atom "Div"

mutual

/-- The outline of an expression. -/
def Expression.outline : Expression Nat → Outline
  | .mk node ts ops =>
    .record "Expression"
      [ ("id", .nat node), ("terms", .list (Term.outlineOfAll ts))
      , ("operators", .list (ops.map SumOp.outline)) ]

/-- The outline of a term. -/
def Term.outline : Term Nat → Outline
  | .mk node fs ops =>
    .record "Term"
      [ ("id", .nat node), ("factors", .list (Factor.outlineOfAll fs))
      , ("operators", .list (ops.map ProductOp.outline)) ]

/-- The outline of a factor. -/
def Factor.outline : Factor Nat → Outline
  | .group node e => .tuple "SubExpr" [.nat node, e.outline]
  | .int node value => .tuple "IntLit" [.nat node, .atom (toString value.toInt)]
  | .text node literal => .tuple "StrLit" [.nat node, .text literal]
  | .name node name => .tuple "Symbol" [.nat node, .text name]

/-- The outlines of terms in a row. -/
def Term.outlineOfAll : List (Term Nat) → List Outline
  | [] => []
  | t :: ts => t.outline :: Term.outlineOfAll ts

/-- The outlines of factors in a row. -/
def Factor.outlineOfAll : List (Factor Nat) → List Outline
  | [] => []
  | f :: fs => f.outline :: Factor.outlineOfAll fs

end

/-- The outline of a statement. -/
def Statement.outline : Statement Nat → Outline
  | .print node value => .tuple "Print" [.nat node, value.outline]
  | .bind node name value =>
    .record "Let"
      [("id", .nat node), ("symbol_name", .text name), ("value_expr", value.outline)]

/-- The outline of a program. -/
def Program.outline (p : Program Nat) : Outline :=
  .tuple "Program" [.nat p.label, .list (p.statements.map Statement.outline)]

end Printlet
