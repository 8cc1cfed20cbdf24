/-
Printlet.Proofs.Postfix — trees as rows of moves.

`Program.moves` lists what a program asks for in the order in which the
compiler gets to it: operands before their operator, the output stream before
the value that is printed, a value before its name. A malformed chain is a
move of its own, which stands where the chain would.

Two functions on trees are then functions on rows, and every later proof is an
induction on a row:

* `Program.emit_eq_moves` — the compiler emits move by move;
* `Program.eval_eq_moves` — the evaluator performs move by move, on a desk
  that holds operands and an environment.
-/
import Printlet.Compiler.Compile
import Printlet.Proofs.Evaluation

namespace Printlet

/-- One thing that a program asks for. -/
inductive Move (α : Type) where
  /-- A number comes. -/
  | int (node : α) (value : Int64)
  /-- A text comes. -/
  | text (node : α) (literal : String)
  /-- The datum of a name comes. -/
  | name (node : α) (name : String)
  /-- Two terms are joined. -/
  | sum (node : α) (op : SumOp)
  /-- Two factors are joined. -/
  | product (node : α) (op : ProductOp)
  /-- The output stream comes. -/
  | stream (node : α)
  /-- A line is printed. -/
  | print (node : α)
  /-- A name is bound. -/
  | bind (node : α) (name : String)
  /-- A chain does not have one operand more than operators. -/
  | malformed (node : α) (chain : Chain) (operands operators : Nat)

variable {α : Type}

/-- The node that a move came from. -/
def Move.node : Move α → α
  | .int node _ => node
  | .text node _ => node
  | .name node _ => node
  | .sum node _ => node
  | .product node _ => node
  | .stream node => node
  | .print node => node
  | .bind node _ => node
  | .malformed node _ _ _ => node

/-! ## From trees to rows -/

mutual

/-- The moves of an expression. -/
def Expression.moves : Expression α → List (Move α)
  | .mk node [] ops => [.malformed node .expression 0 ops.length]
  | .mk node (t :: ts) ops =>
    if ts.length = ops.length then t.moves ++ Term.movesRest node ops ts
    else [.malformed node .expression (ts.length + 1) ops.length]

/-- The moves of the further terms of an expression. -/
def Term.movesRest (node : α) : List SumOp → List (Term α) → List (Move α)
  | op :: ops, t :: ts => t.moves ++ .sum node op :: Term.movesRest node ops ts
  | _, _ => []

/-- The moves of a term. -/
def Term.moves : Term α → List (Move α)
  | .mk node [] ops => [.malformed node .term 0 ops.length]
  | .mk node (f :: fs) ops =>
    if fs.length = ops.length then f.moves ++ Factor.movesRest node ops fs
    else [.malformed node .term (fs.length + 1) ops.length]

/-- The moves of the further factors of a term. -/
def Factor.movesRest (node : α) : List ProductOp → List (Factor α) → List (Move α)
  | op :: ops, f :: fs => f.moves ++ .product node op :: Factor.movesRest node ops fs
  | _, _ => []

/-- The moves of a factor. -/
def Factor.moves : Factor α → List (Move α)
  | .group _ inner => inner.moves
  | .int node value => [.int node value]
  | .text node literal => [.text node literal]
  | .name node name => [.name node name]

end

/-- The moves of a statement. -/
def Statement.moves : Statement α → List (Move α)
  | .print node value => .stream node :: (value.moves ++ [.print node])
  | .bind node name value => value.moves ++ [.bind node name]

/-- The moves of a program. -/
def Program.moves (p : Program α) : List (Move α) :=
  p.statements.flatMap Statement.moves

/-! ## The compiler, move by move -/

/-- Emits what one move asks for. -/
def Move.emit (em : Emission) : Move Nat → Except CompileError Emission
  | .int node value => em.emit (.pushInt value) node
  | .text node literal =>
    match unquote? literal with
    | some inner => em.emitText inner node
    | none => .error (.defect node (.unquoted literal))
  | .name node known => em.load known node
  | .sum node op => em.emit (.arith op.arith) node
  | .product node op => em.emit (.arith op.arith) node
  | .stream node => em.emit .getStdout node
  | .print node => em.emit .println node
  | .bind node fresh => em.store fresh node
  | .malformed node chain operands operators =>
    .error (.defect node (.malformed chain operands operators))

mutual

theorem Expression.emit_eq_moves (em : Emission) :
    ∀ e : Expression Nat, e.emit em = e.moves.foldlM Move.emit em
  | .mk node [] ops => by simp [Expression.emit, Expression.moves, Move.emit]
  | .mk node (t :: ts) ops => by
      rw [Expression.emit, Expression.moves]
      by_cases h : ts.length = ops.length
      · rw [if_pos h, if_pos h, List.foldlM_append, Term.emit_eq_moves em t]
        exact bind_congr fun em' => Term.emitRest_eq_moves node em' ops ts
      · rw [if_neg h, if_neg h]
        simp [Move.emit]

theorem Term.emitRest_eq_moves (node : Nat) (em : Emission) :
    ∀ (ops : List SumOp) (ts : List (Term Nat)),
      Term.emitRest node ops ts em = (Term.movesRest node ops ts).foldlM Move.emit em
  | [], _ => by simp [Term.emitRest, Term.movesRest]; rfl
  | _ :: _, [] => by simp [Term.emitRest, Term.movesRest]; rfl
  | op :: ops, t :: ts => by
      rw [Term.emitRest, Term.movesRest, List.foldlM_append, Term.emit_eq_moves em t]
      refine bind_congr fun em' => ?_
      rw [List.foldlM_cons]
      exact bind_congr fun em'' => Term.emitRest_eq_moves node em'' ops ts

theorem Term.emit_eq_moves (em : Emission) :
    ∀ t : Term Nat, t.emit em = t.moves.foldlM Move.emit em
  | .mk node [] ops => by simp [Term.emit, Term.moves, Move.emit]
  | .mk node (f :: fs) ops => by
      rw [Term.emit, Term.moves]
      by_cases h : fs.length = ops.length
      · rw [if_pos h, if_pos h, List.foldlM_append, Factor.emit_eq_moves em f]
        exact bind_congr fun em' => Factor.emitRest_eq_moves node em' ops fs
      · rw [if_neg h, if_neg h]
        simp [Move.emit]

theorem Factor.emitRest_eq_moves (node : Nat) (em : Emission) :
    ∀ (ops : List ProductOp) (fs : List (Factor Nat)),
      Factor.emitRest node ops fs em = (Factor.movesRest node ops fs).foldlM Move.emit em
  | [], _ => by simp [Factor.emitRest, Factor.movesRest]; rfl
  | _ :: _, [] => by simp [Factor.emitRest, Factor.movesRest]; rfl
  | op :: ops, f :: fs => by
      rw [Factor.emitRest, Factor.movesRest, List.foldlM_append, Factor.emit_eq_moves em f]
      refine bind_congr fun em' => ?_
      rw [List.foldlM_cons]
      exact bind_congr fun em'' => Factor.emitRest_eq_moves node em'' ops fs

theorem Factor.emit_eq_moves (em : Emission) :
    ∀ f : Factor Nat, f.emit em = f.moves.foldlM Move.emit em
  | .group _ inner => by rw [Factor.emit, Factor.moves, Expression.emit_eq_moves em inner]
  | .int node value => by simp [Factor.emit, Factor.moves, Move.emit]
  | .text node literal => by
      cases hq : unquote? literal <;>
        simp only [Factor.emit, Factor.moves, Move.emit, List.foldlM_cons, List.foldlM_nil,
          bind_pure, hq]
  | .name node name => by simp [Factor.emit, Factor.moves, Move.emit]

end

theorem Statement.emit_eq_moves (em : Emission) (s : Statement Nat) :
    s.emit em = s.moves.foldlM Move.emit em := by
  cases s with
  | print node value =>
    rw [Statement.emit, Statement.moves, List.foldlM_cons]
    refine bind_congr fun em' => ?_
    rw [List.foldlM_append, Expression.emit_eq_moves em' value]
    exact bind_congr fun em'' => by simp [Move.emit]
  | bind node name value =>
    rw [Statement.emit, Statement.moves, List.foldlM_append, Expression.emit_eq_moves em value]
    exact bind_congr fun em' => by simp [Move.emit]

/-- The compiler emits a program move by move. -/
theorem Program.emit_eq_moves (p : Program Nat) :
    p.emit = p.moves.foldlM Move.emit Emission.empty := by
  have hrow : ∀ (ss : List (Statement Nat)) (em : Emission),
      ss.foldlM Statement.emit em = (ss.flatMap Statement.moves).foldlM Move.emit em := by
    intro ss
    induction ss with
    | nil => intro em; rfl
    | cons s ss ih =>
      intro em
      rw [List.foldlM_cons, List.flatMap_cons, List.foldlM_append, Statement.emit_eq_moves em s]
      exact bind_congr ih
  exact hrow p.statements Emission.empty

/-! ## The evaluator, move by move -/

/-- What can lie on a desk. -/
inductive Item where
  | stream
  | datum (datum : Datum)

namespace Item

/-- The kind of an item. -/
def kind : Item → Kind
  | .stream => .stream
  | .datum d => d.kind

/-- An item as it is printed. -/
def line : Item → String
  | .stream => "<stdout>"
  | .datum d => d.line

/-- Joins two items; only data can be joined. -/
def join (op : Arith) (apply : Datum → Datum → Except Fault Datum) :
    Item → Item → Except Fault Item
  | .datum lhs, .datum rhs => (apply lhs rhs).map .datum
  | lhs, rhs => .error (.typeMismatch op lhs.kind rhs.kind)

end Item

/-- The items in use, the latest first, and those that names are bound to. No
tree leads to a stream in the wrong place, but a row of moves may. -/
structure Desk where
  items : List Item
  env : String → Option Item

namespace Desk

/-- Puts an item on the desk. -/
def put (desk : Desk) (item : Item) : Desk :=
  { desk with items := item :: desk.items }

/-- Takes an item off the desk and binds a name to it. -/
def bind (desk : Desk) (node : α) (name : String) : Except (Stop α) Desk :=
  match desk.items with
  | item :: items => .ok ⟨items, fun other => if other = name then some item else desk.env other⟩
  | [] => .error (.stuck node)

/-- Joins the two items that came last. -/
def join (desk : Desk) (node : α) (op : Arith) (apply : Datum → Datum → Except Fault Datum) :
    Except (Stop α) Desk :=
  match desk.items with
  | rhs :: lhs :: items =>
    match lhs.join op apply rhs with
    | .ok item => .ok ⟨item :: items, desk.env⟩
    | .error cause => .error (.fault node cause)
  | _ => .error (.stuck node)

/-- Takes two items off the desk, of which the lower is the stream, and prints
the other. -/
def print (desk : Desk) (node : α) : Except (Stop α) (String × Desk) :=
  match desk.items with
  | item :: .stream :: items => .ok (item.line, ⟨items, desk.env⟩)
  | _ :: target :: _ => .error (.fault node (.notAStream target.kind))
  | _ => .error (.stuck node)

end Desk

/-- The data of an environment, as items. -/
def Env.items (env : Env) : String → Option Item :=
  fun name => (env name).map .datum

theorem Env.items_bind (env : Env) (name : String) (datum : Datum) :
    (env.bind name datum).items =
      fun other => if other = name then some (.datum datum) else env.items other := by
  funext other
  by_cases h : other = name
  · simp [Env.items, Env.bind, h]
  · simp [Env.items, Env.bind, h]

/-- Performs one move: the line that it prints, if any, and the desk after it. -/
def Move.perform (desk : Desk) : Move α → Except (Stop α) (Option String × Desk)
  | .int _ value => .ok (none, desk.put (.datum (.int value.toInt)))
  | .text node literal =>
    match literalText? literal with
    | some inner => .ok (none, desk.put (.datum (.text inner)))
    | none => .error (.stuck node)
  | .name node known =>
    match desk.env known with
    | some item => .ok (none, desk.put item)
    | none => .error (.stuck node)
  | .sum node op => (desk.join node op.arith op.apply).map fun desk => (none, desk)
  | .product node op => (desk.join node op.arith op.apply).map fun desk => (none, desk)
  | .stream _ => .ok (none, desk.put .stream)
  | .print node => (desk.print node).map fun (line, desk) => (some line, desk)
  | .bind node fresh => (desk.bind node fresh).map fun desk => (none, desk)
  | .malformed node _ _ _ => .error (.stuck node)

/-- Performs moves in order. -/
def Move.evalAll : List (Move α) → Desk → Evaluation α
  | [], _ => .done (.ok ())
  | move :: moves, desk =>
    match move.perform desk with
    | .ok (none, desk) => evalAll moves desk
    | .ok (some line, desk) => .after move.node line (evalAll moves desk)
    | .error stop => .done (.error stop)

/-- Goes on with a datum, if there is one. -/
def Evaluation.from (datum : Except (Stop α) Datum) (next : Datum → Evaluation α) :
    Evaluation α :=
  match datum with
  | .ok datum => next datum
  | .error stop => .done (.error stop)

theorem Evaluation.from_bind (first : Except (Stop α) Datum)
    (second : Datum → Except (Stop α) Datum) (next : Datum → Evaluation α) :
    Evaluation.from (first >>= second) next =
      Evaluation.from first fun datum => Evaluation.from (second datum) next := by
  cases first <;> rfl

/-- Joining two data is one move. -/
theorem Move.evalAll_join {op : Arith} {apply : Datum → Datum → Except Fault Datum}
    {move : Move α} {node : α} (items : List Item) (env : String → Option Item)
    (lhs rhs : Datum) (moves : List (Move α))
    (h : ∀ desk, move.perform desk = (desk.join node op apply).map fun desk => (none, desk)) :
    Move.evalAll (move :: moves) ⟨.datum rhs :: .datum lhs :: items, env⟩ =
      Evaluation.from (Stop.at node (apply lhs rhs)) fun datum =>
        Move.evalAll moves ⟨.datum datum :: items, env⟩ := by
  rw [Move.evalAll, h, Desk.join]
  dsimp only
  rw [Item.join]
  cases apply lhs rhs <;> rfl

mutual

theorem Expression.evalAll_moves (items : List Item) (env : Env) (rest : List (Move α)) :
    ∀ e : Expression α, Move.evalAll (e.moves ++ rest) ⟨items, env.items⟩ =
      Evaluation.from (e.eval env) fun datum => Move.evalAll rest ⟨.datum datum :: items, env.items⟩
  | .mk node [] ops => by rw [Expression.moves, Expression.eval]; rfl
  | .mk node (t :: ts) ops => by
      rw [Expression.moves, Expression.eval]
      by_cases h : ts.length = ops.length
      · rw [if_pos h, if_pos h, List.append_assoc, Term.evalAll_moves items env _ t,
            Evaluation.from_bind]
        exact congrArg _ (funext fun first =>
          Term.evalAll_movesRest node items env rest first ops ts)
      · rw [if_neg h, if_neg h]; rfl

theorem Term.evalAll_movesRest (node : α) (items : List Item) (env : Env)
    (rest : List (Move α)) (sofar : Datum) :
    ∀ (ops : List SumOp) (ts : List (Term α)),
      Move.evalAll (Term.movesRest node ops ts ++ rest) ⟨.datum sofar :: items, env.items⟩ =
        Evaluation.from (Term.evalRest env node sofar ops ts) fun datum =>
          Move.evalAll rest ⟨.datum datum :: items, env.items⟩
  | [], _ => by simp [Term.movesRest, Term.evalRest, Evaluation.from]
  | _ :: _, [] => by simp [Term.movesRest, Term.evalRest, Evaluation.from]
  | op :: ops, t :: ts => by
      rw [Term.movesRest, Term.evalRest, List.append_assoc, List.cons_append,
          Term.evalAll_moves (.datum sofar :: items) env _ t, Evaluation.from_bind]
      refine congrArg _ (funext fun datum => ?_)
      rw [Move.evalAll_join items env.items sofar datum _ fun _ => rfl, Evaluation.from_bind]
      exact congrArg _ (funext fun sofar' =>
        Term.evalAll_movesRest node items env rest sofar' ops ts)

theorem Term.evalAll_moves (items : List Item) (env : Env) (rest : List (Move α)) :
    ∀ t : Term α, Move.evalAll (t.moves ++ rest) ⟨items, env.items⟩ =
      Evaluation.from (t.eval env) fun datum => Move.evalAll rest ⟨.datum datum :: items, env.items⟩
  | .mk node [] ops => by rw [Term.moves, Term.eval]; rfl
  | .mk node (f :: fs) ops => by
      rw [Term.moves, Term.eval]
      by_cases h : fs.length = ops.length
      · rw [if_pos h, if_pos h, List.append_assoc, Factor.evalAll_moves items env _ f,
            Evaluation.from_bind]
        exact congrArg _ (funext fun first =>
          Factor.evalAll_movesRest node items env rest first ops fs)
      · rw [if_neg h, if_neg h]; rfl

theorem Factor.evalAll_movesRest (node : α) (items : List Item) (env : Env)
    (rest : List (Move α)) (sofar : Datum) :
    ∀ (ops : List ProductOp) (fs : List (Factor α)),
      Move.evalAll (Factor.movesRest node ops fs ++ rest) ⟨.datum sofar :: items, env.items⟩ =
        Evaluation.from (Factor.evalRest env node sofar ops fs) fun datum =>
          Move.evalAll rest ⟨.datum datum :: items, env.items⟩
  | [], _ => by simp [Factor.movesRest, Factor.evalRest, Evaluation.from]
  | _ :: _, [] => by simp [Factor.movesRest, Factor.evalRest, Evaluation.from]
  | op :: ops, f :: fs => by
      rw [Factor.movesRest, Factor.evalRest, List.append_assoc, List.cons_append,
          Factor.evalAll_moves (.datum sofar :: items) env _ f, Evaluation.from_bind]
      refine congrArg _ (funext fun datum => ?_)
      rw [Move.evalAll_join items env.items sofar datum _ fun _ => rfl, Evaluation.from_bind]
      exact congrArg _ (funext fun sofar' =>
        Factor.evalAll_movesRest node items env rest sofar' ops fs)

theorem Factor.evalAll_moves (items : List Item) (env : Env) (rest : List (Move α)) :
    ∀ f : Factor α, Move.evalAll (f.moves ++ rest) ⟨items, env.items⟩ =
      Evaluation.from (f.eval env) fun datum => Move.evalAll rest ⟨.datum datum :: items, env.items⟩
  | .group _ inner => by
      rw [Factor.moves, Factor.eval]
      exact Expression.evalAll_moves items env rest inner
  | .int node value => by rw [Factor.moves, Factor.eval]; rfl
  | .text node literal => by
      simp only [Factor.moves, Factor.eval, List.singleton_append, Move.evalAll, Move.perform]
      cases literalText? literal <;> rfl
  | .name node known => by
      simp only [Factor.moves, Factor.eval, List.singleton_append, Move.evalAll, Move.perform,
        Env.items]
      cases env known <;> rfl

end

theorem Statement.evalAll_eq_moves (env : Env) (ss : List (Statement α)) :
    Statement.evalAll env ss = Move.evalAll (ss.flatMap Statement.moves) ⟨[], env.items⟩ := by
  induction ss generalizing env with
  | nil => rfl
  | cons s ss ih =>
    rw [List.flatMap_cons]
    cases s with
    | print node value =>
      rw [Statement.moves, List.cons_append, List.append_assoc]
      -- the stream lies on the desk while the value is evaluated
      have hstream : ∀ moves : List (Move α), Move.evalAll (.stream node :: moves) ⟨[], env.items⟩ =
          Move.evalAll moves ⟨[.stream], env.items⟩ := fun _ => rfl
      rw [hstream, Expression.evalAll_moves, Statement.evalAll]
      cases value.eval env with
      | error stop => rfl
      | ok datum => exact congrArg (Evaluation.after node datum.line) (ih env)
    | bind node name value =>
      rw [Statement.moves, List.append_assoc, Expression.evalAll_moves, Statement.evalAll]
      cases value.eval env with
      | error stop => rfl
      | ok datum =>
        have hnext := ih (env.bind name datum)
        rw [Env.items_bind] at hnext
        exact hnext

/-- The evaluator performs a program move by move. -/
theorem Program.eval_eq_moves (p : Program α) :
    p.eval = Move.evalAll p.moves ⟨[], Env.empty.items⟩ :=
  Statement.evalAll_eq_moves Env.empty p.statements

end Printlet
