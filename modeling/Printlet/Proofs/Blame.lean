/-
Printlet.Proofs.Blame — failures point at the right node.

Four maps lie between a failure and the place that is drawn: nodes have numbers
and numbers have spans, instructions have nodes and offsets have instructions.
Here they are followed in both cases.

* A complaint of the compiler is about the node of a move or about the program
  (`Program.compile_error`), and an undeclared name about the name itself.
* A run fails at an instruction that came from the node at which the evaluation
  fails (`Program.Compiled.run?_eq`), and that is the node which is found under
  the offset (`Origins.nodeAt?_of_mem_places`). `Program.AnswersFor` says what
  kind of node it is: a chain with the operator at fault, a statement that
  prints, or the program.

Every such number has a span (`Program.span_of_move`), so no complaint about a
source that can be read is left without a place.
-/
import Printlet.Proofs.Parsing
import Printlet.Proofs.RunOutcome
import Printlet.Proofs.Simulation
import Printlet.Script.Command

namespace Printlet

variable {α : Type}

/-! ## 1. Who answers for a fault -/

mutual

/-- An expression of the tree that has the label and joins terms by the
operation, or a term that does so with factors. -/
inductive Expression.Joins (node : α) (op : Arith) : Expression α → Prop
  | here {ts : List (Term α)} {ops : List SumOp} {o : SumOp} (h : o ∈ ops) (hop : o.arith = op) :
      Expression.Joins node op (.mk node ts ops)
  | inside {l : α} {ts : List (Term α)} {ops : List SumOp} {t : Term α} (h : t ∈ ts)
      (inner : Term.Joins node op t) : Expression.Joins node op (.mk l ts ops)

/-- The same in a term. -/
inductive Term.Joins (node : α) (op : Arith) : Term α → Prop
  | here {fs : List (Factor α)} {ops : List ProductOp} {o : ProductOp} (h : o ∈ ops)
      (hop : o.arith = op) : Term.Joins node op (.mk node fs ops)
  | inside {l : α} {fs : List (Factor α)} {ops : List ProductOp} {f : Factor α} (h : f ∈ fs)
      (inner : Factor.Joins node op f) : Term.Joins node op (.mk l fs ops)

/-- The same in a factor: only a group has parts. -/
inductive Factor.Joins (node : α) (op : Arith) : Factor α → Prop
  | group {l : α} {inner : Expression α} (h : Expression.Joins node op inner) :
      Factor.Joins node op (.group l inner)

end

/-- The node joins by the operation somewhere in the program. -/
def Program.Joins (p : Program α) (node : α) (op : Arith) : Prop :=
  ∃ s ∈ p.statements, s.value.Joins node op

/-- The node to which a fault belongs: the expression of a failed `+` or `-` and
the term of a failed `*` or `/`, the statement whose line could not be written,
the program if it could not be flushed. There is no other fault. -/
def Program.AnswersFor (p : Program α) (node : α) : Fault → Prop
  | .typeMismatch op _ _ => p.Joins node op
  | .overflow op => p.Joins node op
  | .divisionByZero => p.Joins node .div
  | .output .full => ∃ value, .print node value ∈ p.statements
  | .output .flushRefused => node = p.label
  | _ => False

/-- The fault of an operation. -/
def Fault.IsOf (op : Arith) : Fault → Prop
  | .typeMismatch op' _ _ => op' = op
  | .overflow op' => op' = op
  | .divisionByZero => op = .div
  | _ => False

theorem Datum.isOf_of_combine {op : Arith} {exact : Int → Int → Int} {x y : Datum} {cause : Fault}
    (h : Datum.combine op exact x y = .error cause) : cause.IsOf op := by
  unfold Datum.combine at h
  split at h
  · split at h
    · cases h
    · cases h
      exact rfl
  · cases h
    exact rfl

theorem SumOp.isOf_of_apply {op : SumOp} {x y : Datum} {cause : Fault}
    (h : op.apply x y = .error cause) : cause.IsOf op.arith := by
  cases op <;> exact Datum.isOf_of_combine h

theorem ProductOp.isOf_of_apply {op : ProductOp} {x y : Datum} {cause : Fault}
    (h : op.apply x y = .error cause) : cause.IsOf op.arith := by
  unfold ProductOp.apply at h
  split at h
  · exact Datum.isOf_of_combine h
  · cases h
    exact rfl
  · exact Datum.isOf_of_combine h

theorem Stop.of_at {β : Type} {node at' : α} {cause : Fault} {outcome : Except Fault β}
    (h : Stop.at node outcome = .error (.fault at' cause)) : at' = node ∧ outcome = .error cause := by
  cases outcome with
  | ok b => cases h
  | error cause' =>
    cases h
    exact ⟨rfl, rfl⟩

/-- Of two computations in a row one failed. -/
theorem bind_eq_error {ε β γ : Type} {first : Except ε β} {next : β → Except ε γ} {e : ε}
    (h : first >>= next = .error e) :
    first = .error e ∨ ∃ b, first = .ok b ∧ next b = .error e := by
  cases first with
  | error e' =>
    cases h
    exact .inl rfl
  | ok b => exact .inr ⟨b, rfl, h⟩

section Eval

variable {env : Env} {node : α} {cause : Fault}

mutual

theorem Expression.joins_of_eval :
    ∀ e : Expression α, e.eval env = .error (.fault node cause) →
      ∃ op, cause.IsOf op ∧ e.Joins node op
  | .mk l [] ops, h => by
      rw [Expression.eval] at h
      cases h
  | .mk l (t :: ts) ops, h => by
      rw [Expression.eval] at h
      split at h
      · rcases bind_eq_error h with hfirst | ⟨first, -, hrest⟩
        · obtain ⟨op, hop, hjoins⟩ := Term.joins_of_eval t hfirst
          exact ⟨op, hop, .inside List.mem_cons_self hjoins⟩
        · rcases Term.joins_of_evalRest l first ops ts hrest with ⟨o, ho, rfl, hop⟩ | hlater
          · exact ⟨o.arith, hop, .here ho rfl⟩
          · obtain ⟨u, hu, op, hop, hjoins⟩ := hlater
            exact ⟨op, hop, .inside (List.mem_cons_of_mem t hu) hjoins⟩
      · cases h

theorem Term.joins_of_evalRest (l : α) (sofar : Datum) :
    ∀ (ops : List SumOp) (ts : List (Term α)),
      Term.evalRest env l sofar ops ts = .error (.fault node cause) →
        (∃ o ∈ ops, node = l ∧ cause.IsOf o.arith) ∨
          ∃ t ∈ ts, ∃ op, cause.IsOf op ∧ t.Joins node op
  | [], _, h => by simp [Term.evalRest] at h
  | _ :: _, [], h => by simp [Term.evalRest] at h
  | o :: ops, t :: ts, h => by
      rw [Term.evalRest] at h
      rcases bind_eq_error h with hfirst | ⟨datum, -, h⟩
      · obtain ⟨op, hop, hjoins⟩ := Term.joins_of_eval t hfirst
        exact .inr ⟨t, List.mem_cons_self, op, hop, hjoins⟩
      · rcases bind_eq_error h with happly | ⟨sofar', -, hrest⟩
        · obtain ⟨rfl, hcause⟩ := Stop.of_at happly
          exact .inl ⟨o, List.mem_cons_self, rfl, SumOp.isOf_of_apply hcause⟩
        · rcases Term.joins_of_evalRest l sofar' ops ts hrest with ⟨o', ho', hl⟩ | ⟨u, hu, hlater⟩
          · exact .inl ⟨o', List.mem_cons_of_mem o ho', hl⟩
          · exact .inr ⟨u, List.mem_cons_of_mem t hu, hlater⟩

theorem Term.joins_of_eval :
    ∀ t : Term α, t.eval env = .error (.fault node cause) →
      ∃ op, cause.IsOf op ∧ t.Joins node op
  | .mk l [] ops, h => by
      rw [Term.eval] at h
      cases h
  | .mk l (f :: fs) ops, h => by
      rw [Term.eval] at h
      split at h
      · rcases bind_eq_error h with hfirst | ⟨first, -, hrest⟩
        · obtain ⟨op, hop, hjoins⟩ := Factor.joins_of_eval f hfirst
          exact ⟨op, hop, .inside List.mem_cons_self hjoins⟩
        · rcases Factor.joins_of_evalRest l first ops fs hrest with ⟨o, ho, rfl, hop⟩ | hlater
          · exact ⟨o.arith, hop, .here ho rfl⟩
          · obtain ⟨x, hx, op, hop, hjoins⟩ := hlater
            exact ⟨op, hop, .inside (List.mem_cons_of_mem f hx) hjoins⟩
      · cases h

theorem Factor.joins_of_evalRest (l : α) (sofar : Datum) :
    ∀ (ops : List ProductOp) (fs : List (Factor α)),
      Factor.evalRest env l sofar ops fs = .error (.fault node cause) →
        (∃ o ∈ ops, node = l ∧ cause.IsOf o.arith) ∨
          ∃ f ∈ fs, ∃ op, cause.IsOf op ∧ f.Joins node op
  | [], _, h => by simp [Factor.evalRest] at h
  | _ :: _, [], h => by simp [Factor.evalRest] at h
  | o :: ops, f :: fs, h => by
      rw [Factor.evalRest] at h
      rcases bind_eq_error h with hfirst | ⟨datum, -, h⟩
      · obtain ⟨op, hop, hjoins⟩ := Factor.joins_of_eval f hfirst
        exact .inr ⟨f, List.mem_cons_self, op, hop, hjoins⟩
      · rcases bind_eq_error h with happly | ⟨sofar', -, hrest⟩
        · obtain ⟨rfl, hcause⟩ := Stop.of_at happly
          exact .inl ⟨o, List.mem_cons_self, rfl, ProductOp.isOf_of_apply hcause⟩
        · rcases Factor.joins_of_evalRest l sofar' ops fs hrest with
            ⟨o', ho', hl⟩ | ⟨x, hx, hlater⟩
          · exact .inl ⟨o', List.mem_cons_of_mem o ho', hl⟩
          · exact .inr ⟨x, List.mem_cons_of_mem f hx, hlater⟩

theorem Factor.joins_of_eval :
    ∀ f : Factor α, f.eval env = .error (.fault node cause) →
      ∃ op, cause.IsOf op ∧ f.Joins node op
  | .group _ inner, h => by
      rw [Factor.eval] at h
      obtain ⟨op, hop, hjoins⟩ := Expression.joins_of_eval inner h
      exact ⟨op, hop, .group hjoins⟩
  | .int _ _, h => by simp [Factor.eval] at h
  | .text _ literal, h => by
      rw [Factor.eval] at h
      split at h <;> cases h
  | .name _ name, h => by
      rw [Factor.eval] at h
      split at h <;> cases h

end

/-- The lines of a row of statements come from those that print, and its fault
from one of its expressions. -/
theorem Statement.evalAll_blames (env : Env) (ss : List (Statement α)) :
    (∀ entry ∈ (Statement.evalAll env ss).lines, ∃ value, .print entry.1 value ∈ ss) ∧
      ∀ node cause, (Statement.evalAll env ss).ending = .error (.fault node cause) →
        ∃ op, cause.IsOf op ∧ ∃ s ∈ ss, s.value.Joins node op := by
  induction ss generalizing env with
  | nil =>
    refine ⟨fun entry h => absurd h List.not_mem_nil, fun node cause h => ?_⟩
    cases h
  | cons s ss ih =>
    -- what is found in the later statements is found in all
    have hlater : ∀ env',
        (∀ entry ∈ (Statement.evalAll env' ss).lines, ∃ value, .print entry.1 value ∈ s :: ss) ∧
          ∀ node cause, (Statement.evalAll env' ss).ending = .error (.fault node cause) →
            ∃ op, cause.IsOf op ∧ ∃ s' ∈ s :: ss, s'.value.Joins node op := by
      intro env'
      refine ⟨fun entry h => ?_, fun node cause h => ?_⟩
      · obtain ⟨value, hvalue⟩ := (ih env').1 entry h
        exact ⟨value, List.mem_cons_of_mem s hvalue⟩
      · obtain ⟨op, hop, s', hs', hjoins⟩ := (ih env').2 node cause h
        exact ⟨op, hop, s', List.mem_cons_of_mem s hs', hjoins⟩
    have hhere : ∀ node cause, s.value.eval env = .error (.fault node cause) →
        ∃ op, cause.IsOf op ∧ ∃ s' ∈ s :: ss, s'.value.Joins node op := by
      intro node cause h
      obtain ⟨op, hop, hjoins⟩ := s.value.joins_of_eval h
      exact ⟨op, hop, s, List.mem_cons_self, hjoins⟩
    cases s with
    | print l value =>
      rw [Statement.evalAll]
      split
      next datum _ =>
        refine ⟨List.forall_mem_cons.mpr ⟨⟨value, List.mem_cons_self⟩, (hlater env).1⟩,
          (hlater env).2⟩
      next stop hstop =>
        refine ⟨fun entry h => absurd h List.not_mem_nil, fun node cause h => ?_⟩
        cases h
        exact hhere node cause hstop
    | bind l name value =>
      rw [Statement.evalAll]
      split
      next datum _ => exact hlater (env.bind name datum)
      next stop hstop =>
        refine ⟨fun entry h => absurd h List.not_mem_nil, fun node cause h => ?_⟩
        cases h
        exact hhere node cause hstop

end Eval

namespace Evaluation

/-- A fault comes from a line, from the evaluation, or from the flush at the end. -/
theorem blames_of_onto {evaluation : Evaluation α} {root node : α} {sink : Sink} {cause : Fault}
    (h : (evaluation.onto root sink).1 = .error (.fault node cause)) :
    ((∃ line, (node, line) ∈ evaluation.lines) ∧ cause = .output .full) ∨
      evaluation.ending = .error (.fault node cause) ∨
      node = root ∧ cause = .output .flushRefused := by
  rcases Transcript.blame_of_onto h with ⟨_, line, hmem, hfault⟩ | hends | ⟨_, hends, hfault⟩
  · cases hfault
    exact .inl ⟨⟨line, hmem⟩, rfl⟩
  · exact .inr (.inl (ending_transcript_eq_error_iff.mp hends))
  · cases hfault
    exact .inr (.inr ⟨eq_root_of_ending_transcript hends, rfl⟩)

end Evaluation

/-- **Faults of an evaluation** belong to nodes of their kind. -/
theorem Program.answersFor_of_onto {p : Program α} {sink : Sink} {node : α} {cause : Fault}
    (h : (p.eval.onto p.label sink).1 = .error (.fault node cause)) : p.AnswersFor node cause := by
  obtain ⟨hlines, hending⟩ := Statement.evalAll_blames Env.empty p.statements
  rcases Evaluation.blames_of_onto h with ⟨⟨line, hline⟩, rfl⟩ | hfault | ⟨rfl, rfl⟩
  · exact hlines _ hline
  · obtain ⟨op, hop, hjoins⟩ := hending node cause hfault
    cases cause with
    | typeMismatch op' lhs rhs =>
      obtain rfl : op' = op := hop
      exact hjoins
    | overflow op' =>
      obtain rfl : op' = op := hop
      exact hjoins
    | divisionByZero =>
      obtain rfl : op = .div := hop
      exact hjoins
    | _ => cases hop
  · rfl

/-! ## 2. Complaints of the compiler -/

theorem Emission.assemble_error {em : Emission} {action : Assembling Unit} {node : Nat}
    {e : CompileError} (h : em.assemble action node = .error e) :
    ∃ cause, e = .defect node cause := by
  obtain ⟨scope, assembly⟩ := em
  simp only [Emission.assemble] at h
  split at h
  · cases h
  · cases h
    exact ⟨_, rfl⟩

/-- What a move can be refused for. -/
theorem Move.emit_error {em : Emission} {move : Move Nat} {e : CompileError}
    (h : move.emit em = .error e) :
    (∃ cause, e = .defect move.node cause) ∨
      (∃ name, move = .name e.node name ∧ e = .undeclared e.node name) ∨
      ∃ name, move = .bind e.node name ∧ e = .tooManyLocals e.node name := by
  cases move with
  | int node value | sum node op | product node op | stream node | print node =>
    simp only [Move.emit] at h
    exact .inl (Emission.assemble_error h)
  | text node literal =>
    simp only [Move.emit] at h
    split at h
    · exact .inl (Emission.assemble_error h)
    · cases h
      exact .inl ⟨_, rfl⟩
  | name node name =>
    simp only [Move.emit, Emission.load] at h
    split at h
    · exact .inl (Emission.assemble_error h)
    · cases h
      exact .inr (.inl ⟨name, rfl, rfl⟩)
  | bind node name =>
    simp only [Move.emit, Emission.store] at h
    split at h
    · exact .inl (Emission.assemble_error h)
    · cases h
      exact .inr (.inr ⟨name, rfl, rfl⟩)
  | malformed node chain operands operators =>
    cases h
    exact .inl ⟨_, rfl⟩

theorem Move.foldlM_emit_error {em : Emission} {moves : List (Move Nat)} {e : CompileError}
    (h : moves.foldlM Move.emit em = .error e) :
    ∃ move ∈ moves, ∃ em', move.emit em' = .error e := by
  induction moves generalizing em with
  | nil => cases h
  | cons move moves ih =>
    rw [List.foldlM_cons] at h
    rcases bind_eq_error h with hfirst | ⟨em', -, hrest⟩
    · exact ⟨move, List.mem_cons_self, em, hfirst⟩
    · obtain ⟨move', hmem, herror⟩ := ih hrest
      exact ⟨move', List.mem_cons_of_mem move hmem, herror⟩

/-- A complaint is about the program or the node of a move, one about an
undeclared name about the node of that name. -/
theorem Program.compile_error {p : Program Nat} {names : UnitNames} {e : CompileError}
    (h : p.compile names = .error e) :
    (e.node = p.label ∨ ∃ move ∈ p.moves, move.node = e.node) ∧
      ∀ node name, e = .undeclared node name → .name node name ∈ p.moves := by
  rcases bind_eq_error h with hemit | ⟨em, -, hfinish⟩
  · rw [Program.emit_eq_moves] at hemit
    obtain ⟨move, hmem, em, herror⟩ := Move.foldlM_emit_error hemit
    rcases Move.emit_error herror with ⟨cause, rfl⟩ | ⟨name, rfl, he⟩ | ⟨name, rfl, he⟩
    · refine ⟨.inr ⟨move, hmem, rfl⟩, fun node name heq => ?_⟩
      cases heq
    · refine ⟨.inr ⟨_, hmem, rfl⟩, fun node name' heq => ?_⟩
      subst heq
      cases he
      exact hmem
    · refine ⟨.inr ⟨_, hmem, rfl⟩, fun node name' heq => ?_⟩
      subst heq
      cases he
  · split at hfinish
    · cases hfinish
    · cases hfinish
      refine ⟨.inl rfl, fun node name heq => ?_⟩
      cases heq

/-! ## 3. Offsets and nodes -/

theorem Instruction.size_pos (i : Instruction) : 0 < i.size := by
  cases i <;> exact Nat.zero_lt_succ _

/-- One instruction more in the index: the next offset and the next number. -/
def Assembly.indexNext (state : Nat × Nat × Std.TreeMap Nat Nat) (i : Instruction) :
    Nat × Nat × Std.TreeMap Nat Nat :=
  (state.1 + i.size, state.2.1 + 1, state.2.2.insert state.1 state.2.1)

theorem Assembly.index_eq_foldl (code : List Instruction) :
    Assembly.index code = (code.foldl Assembly.indexNext (0, 0, ∅)).2.2 := rfl

/-- What the index holds before an offset stays, and from there on each
instruction is found under its own offset. -/
theorem Assembly.getElem?_foldl_indexNext (code : List Instruction) (offset k : Nat)
    (index : Std.TreeMap Nat Nat) :
    (∀ place < offset, (code.foldl indexNext (offset, k, index)).2.2[place]? = index[place]?) ∧
      ∀ j < code.length, (code.foldl indexNext (offset, k, index)).2.2[offset +
        Instruction.sizeAll (code.take j)]? = some (k + j) := by
  induction code generalizing offset k index with
  | nil => exact ⟨fun _ _ => rfl, fun j hj => absurd hj (Nat.not_lt_zero j)⟩
  | cons i code ih =>
    obtain ⟨hkept, hfound⟩ := ih (offset + i.size) (k + 1) (index.insert offset k)
    have hpos := i.size_pos
    simp only [List.foldl_cons, indexNext]
    refine ⟨fun place hplace => ?_, fun j hj => ?_⟩
    · have hne : offset ≠ place := by omega
      rw [hkept place (by omega), Std.TreeMap.getElem?_insert,
        if_neg (by rwa [Std.LawfulEqCmp.compare_eq_iff_eq])]
    · cases j with
      | zero =>
        show (code.foldl indexNext (offset + i.size, k + 1, index.insert offset k)).2.2[offset]? =
          some k
        rw [hkept offset (by omega), Std.TreeMap.getElem?_insert_self]
      | succ j =>
        have hj' : j < code.length := Nat.lt_of_succ_lt_succ hj
        rw [List.take_succ_cons, Instruction.sizeAll, ← Nat.add_assoc, hfound j hj']
        congr 1
        omega

/-- The node of an instruction is found under its offset. -/
theorem Origins.nodeAt?_of_mem_places {code : List Instruction} {nodes : List Nat}
    {offset node : Nat} (h : (offset, node) ∈ placesFrom 0 code nodes) :
    Origins.nodeAt? ⟨nodes, Assembly.index code⟩ offset = some node := by
  obtain ⟨k, hk⟩ := List.mem_iff_getElem?.mp h
  obtain ⟨hplace, hnode⟩ := List.getElem?_zip_eq_some.mp hk
  rw [List.getElem?_map, Instruction.getElem?_placeFrom, Option.map_map] at hplace
  obtain ⟨i, hi, rfl⟩ := Option.map_eq_some_iff.mp hplace
  have hlt : k < code.length := (List.getElem?_eq_some_iff.mp hi).1
  have hfound := (Assembly.getElem?_foldl_indexNext code 0 0 ∅).2 k hlt
  rw [← Assembly.index_eq_foldl, Nat.zero_add k] at hfound
  show (Assembly.index code)[0 + Instruction.sizeAll (code.take k)]?.bind (nodes[·]?) = some node
  rw [hfound]
  exact hnode

/-- **Runs that fail** do so at an instruction whose node is the one at which the
evaluation fails, for the same cause. -/
theorem Program.nodeAt?_of_run? {p : Program Nat} {names : UnitNames} {u : CodeUnit}
    {origins : Origins} (h : p.compile names = .ok (u, origins)) {sink sink' : Sink}
    {failure : CallFailure} (hrun : u.run? sink = some (.error failure, sink')) :
    ∃ node ∈ p.moves.map Move.node ++ [p.label],
      origins.nodeAt? failure.offset = some node ∧
        (p.eval.onto p.label sink).1 = .error (.fault node failure.fault) := by
  obtain ⟨em, code, hcompiled, rfl⟩ := Program.compiled_origins_of_compile h
  obtain ⟨run, hrun', -, hends⟩ := hcompiled.run?_eq sink
  obtain rfl : run = (.error failure, sink') := Option.some.inj (hrun'.symm.trans hrun)
  generalize (p.eval.onto p.label sink).1 = ending at hends ⊢
  cases hends with
  | @fault offset node cause hmem =>
    exact ⟨node, (List.of_mem_zip hmem).2, Origins.nodeAt?_of_mem_places hmem, rfl⟩

/-! ## 4. Nodes and spans -/

/-- A name covers itself. -/
theorem Lexeme.text_of_name {lexeme : Lexeme} {source name : String}
    (h : lexeme.LiesIn 0 source.toList) (hname : lexeme.token = .name name) :
    lexeme.span.text source = name := by
  obtain ⟨front, word, rest, hsource, hwritten, -, hspan⟩ := h
  rw [hname] at hwritten
  have hword : word = name.toList := hwritten
  rw [Span.text, hspan, hsource]
  simp only [Nat.zero_add, Nat.add_sub_cancel_left]
  rw [Source.after_byteLength, Source.before_byteLength, hword, String.ofList_toList]

namespace Program

/-- The node of a move has a span. -/
theorem span_of_move {tree : Program α} {move : Move Nat} (h : move ∈ tree.number.moves) :
    ∃ label, tree.labels[move.node]? = some label := by
  obtain ⟨original, -, heq⟩ := exists_move_of_number h
  have hnode := congrArg Move.node heq
  rw [Move.node_relabel, Move.node_relabel] at hnode
  exact ⟨original.node, hnode.symm⟩

/-- The program itself has a span, the first. -/
theorem span_of_label (tree : Program α) : tree.labels[tree.number.label]? = some tree.label := rfl

/-- The span of a name that a source looks up has the name as its text. -/
theorem text_of_name_move {source : String} {tree : Program Span}
    (hscan : ofScan (Scan.ofSource source) = .ok tree) {node : Nat} {name : String}
    (h : .name node name ∈ tree.number.moves) :
    ∃ span, tree.labels[node]? = some span ∧ span.text source = name := by
  obtain ⟨original, hmem, heq⟩ := exists_move_of_number h
  cases original with
  | name span name' =>
    obtain ⟨hspan, rfl⟩ := Move.name.inj heq
    refine ⟨span, hspan.symm, ?_⟩
    have hwell : ∀ s ∈ tree.statements, s.WellFormed fun factor =>
        ∃ lexeme ∈ (Scan.ofSource source).lexemes, lexeme.leaf? = some factor :=
      wellFormed_of_ofScan hscan fun lexeme hlexeme factor hfactor => ⟨lexeme, hlexeme, hfactor⟩
    obtain ⟨lexeme, hlexeme, hleaf⟩ := leaf_of_name_move hwell hmem
    unfold Lexeme.leaf? at hleaf
    split at hleaf
    next => cases hleaf
    next => cases hleaf
    next token =>
      cases hleaf
      exact Lexeme.text_of_name (Scan.liesIn 0 source.toList lexeme hlexeme) token
    next => cases hleaf
  | _ => cases heq

end Program

/-! ## 5. Sources -/

section Parsed

variable {source : String} {parsed : Parsed} (hparse : Program.parse source = .ok parsed)

include hparse

theorem Parsed.span_of_compile_error {names : UnitNames} {e : CompileError}
    (h : parsed.program.compile names = .error e) :
    ∃ span, parsed.spans[e.node]? = some span ∧
      ∀ node name, e = .undeclared node name → span.text source = name := by
  obtain ⟨tree, hscan, -, rfl⟩ := Program.parse_eq_ok_iff.mp hparse
  obtain ⟨hnode, hname⟩ := Program.compile_error h
  obtain ⟨span, hspan⟩ : ∃ span, tree.labels[e.node]? = some span := by
    rcases hnode with hlabel | ⟨move, hmove, hnode⟩
    · rw [hlabel]
      exact ⟨tree.label, tree.span_of_label⟩
    · rw [← hnode]
      exact Program.span_of_move hmove
  refine ⟨span, hspan, ?_⟩
  rintro node name rfl
  obtain ⟨span', hspan', htext⟩ := Program.text_of_name_move hscan (hname node name rfl)
  obtain rfl : span = span' := Option.some.inj (hspan.symm.trans hspan')
  exact htext

theorem Parsed.span_of_run? {names : UnitNames} {u : CodeUnit} {origins : Origins}
    (h : parsed.program.compile names = .ok (u, origins)) {sink sink' : Sink}
    {failure : CallFailure} (hrun : u.run? sink = some (.error failure, sink')) :
    ∃ node span, origins.nodeAt? failure.offset = some node ∧ parsed.spans[node]? = some span ∧
      (parsed.program.eval.onto parsed.program.label sink).1 =
        .error (.fault node failure.fault) := by
  obtain ⟨tree, -, -, rfl⟩ := Program.parse_eq_ok_iff.mp hparse
  obtain ⟨node, hmem, hnode, heval⟩ := Program.nodeAt?_of_run? h hrun
  rcases List.mem_append.mp hmem with hnodes | hroot
  · obtain ⟨move, hmove, rfl⟩ := List.mem_map.mp hnodes
    obtain ⟨span, hspan⟩ := Program.span_of_move hmove
    exact ⟨move.node, span, hnode, hspan, heval⟩
  · obtain rfl : node = tree.number.label := List.mem_singleton.mp hroot
    exact ⟨_, tree.label, hnode, tree.span_of_label, heval⟩

end Parsed

namespace Script

theorem drawAt_of_span {source message : String} {spans : List Span} {node : Nat} {span : Span}
    (h : spans[node]? = some span) :
    drawAt source spans (some node) message = (Diagnostic.mk source (.range span) message).render := by
  simp only [drawAt, Option.bind_some, h]

/-- The complaint is drawn at one of the spans. -/
def Drawn (source : String) (spans : List Span) (complaint : String) : Prop :=
  ∃ span ∈ spans, ∃ message,
    complaint = "Compilation error: " ++ (Diagnostic.mk source (.range span) message).render ++ "\n" ∨
      complaint =
        (Diagnostic.mk source (.range span) ("Runtime error: " ++ message)).render ++ "\n"

/-- A compiled script that fails is drawn where it fails. -/
theorem drawn_of_invoke {source : String} {parsed : Parsed}
    (hparse : Program.parse source = .ok parsed) {names : UnitNames} {u : CodeUnit}
    {origins : Origins} (hcompile : parsed.program.compile names = .ok (u, origins))
    (hsized : u.Sized) {events : List Event} {complaint : String}
    (h : (invoke source parsed.spans names u origins events).complaint = some complaint) :
    Drawn source parsed.spans complaint := by
  obtain ⟨em, code, hcompiled⟩ := Program.compiled_of_compile hcompile
  have hfree : (Engine.new {}).isInstalled names.unit = false := rfl
  obtain ⟨loaded, hload, hinvoke⟩ :=
    Engine.loadAndInvoke_of_compiled_free hcompiled hsized hfree
  have hrun := Loaded.run_of_load hload (Engine.new {}).sink
  simp only [invoke, hinvoke] at h
  rcases hresult : loaded.run (Engine.new {}).sink with ⟨result, sink⟩
  rw [hresult] at h hrun
  cases result with
  | ok v => cases h
  | error failure =>
    obtain ⟨node, span, hnode, hspan, -⟩ := Parsed.span_of_run? hparse hcompile hrun
    have hcomplaint : drawAt source parsed.spans (origins.nodeAt? failure.offset)
        ("Runtime error: " ++ failure.fault.message) ++ "\n" = complaint := Option.some.inj h
    rw [hnode, drawAt_of_span hspan] at hcomplaint
    exact ⟨span, List.mem_of_getElem? hspan, failure.fault.message, .inr hcomplaint.symm⟩

theorem drawn_of_perform {source : String} {parsed : Parsed}
    (hparse : Program.parse source = .ok parsed) {options : Options}
    (hsized : ∀ u origins,
      parsed.program.compile { unit := options.unitName } = .ok (u, origins) → u.Sized)
    {events : List Event} {complaint : String}
    (h : (perform options source parsed events).complaint = some complaint) :
    Drawn source parsed.spans complaint := by
  simp only [perform] at h
  split at h
  next e hcompile =>
    obtain ⟨span, hspan, -⟩ := Parsed.span_of_compile_error hparse hcompile
    have hcomplaint : "Compilation error: " ++
        drawAt source parsed.spans (some e.node) e.message ++ "\n" = complaint := Option.some.inj h
    rw [drawAt_of_span hspan] at hcomplaint
    exact ⟨span, List.mem_of_getElem? hspan, e.message, .inl hcomplaint.symm⟩
  next u origins hcompile =>
    split at h
    · cases h
    · exact drawn_of_invoke hparse hcompile (hsized u origins hcompile) h

end Script

/-- **Failures point at the right node.** For a source that can be read:

* a complaint of the compiler is about a node that has a span, and an undeclared
  name has the name itself as its text;
* a run that fails, on any sink, does so at an offset that leads to a node with a
  span, the node at which evaluation from left to right fails, for the same
  cause, and which is of the kind that can fail so;
* all that the command has to say about the source is drawn at one of its spans
  (the unit must be one that can be written as an image). -/
theorem parse_failures_located {source : String} {parsed : Parsed}
    (hparse : Program.parse source = .ok parsed) :
    (∀ names e, parsed.program.compile names = .error e →
      ∃ span, parsed.spans[e.node]? = some span ∧
        ∀ node name, e = .undeclared node name → span.text source = name) ∧
    (∀ names u origins, parsed.program.compile names = .ok (u, origins) →
      ∀ sink failure sink', u.run? sink = some (.error failure, sink') →
        ∃ node span, origins.nodeAt? failure.offset = some node ∧
          parsed.spans[node]? = some span ∧
          (parsed.program.eval.onto parsed.program.label sink).1 =
            .error (.fault node failure.fault) ∧
          parsed.program.AnswersFor node failure.fault) ∧
    ∀ (options : Options) (path complaint : String),
      (∀ u origins, parsed.program.compile { unit := options.unitName } = .ok (u, origins) →
        u.Sized) →
      (Script.runText options path source).complaint = some complaint →
        Script.Drawn source parsed.spans complaint := by
  refine ⟨?_, ?_, ?_⟩
  · intro names e hcompile
    exact Parsed.span_of_compile_error hparse hcompile
  · intro names u origins hcompile sink failure sink' hrun
    obtain ⟨node, span, hnode, hspan, heval⟩ := Parsed.span_of_run? hparse hcompile hrun
    exact ⟨node, span, hnode, hspan, heval, Program.answersFor_of_onto heval⟩
  · intro options path complaint hsized h
    simp only [Script.runText, hparse] at h
    split at h
    · cases h
    · exact Script.drawn_of_perform hparse hsized h

/-- The source `print 1 + bc` as it is read. -/
def Parsed.naming : Parsed :=
  ⟨⟨0, [.print 1 (.mk 2 [.mk 3 [.int 4 1] [], .mk 5 [.name 6 "bc"] []] [.add])]⟩,
   [⟨0, 12⟩, ⟨0, 12⟩, ⟨6, 12⟩, ⟨6, 8⟩, ⟨6, 7⟩, ⟨10, 12⟩, ⟨10, 12⟩]⟩

theorem Parsed.parse_naming : Program.parse "print 1 + bc" = .ok naming := by
  have hscan : Scan.ofSource "print 1 + bc" =
      ⟨[⟨.printWord, ⟨0, 5⟩⟩, ⟨.int 1, ⟨6, 7⟩⟩, ⟨.sum .add, ⟨8, 9⟩⟩, ⟨.name "bc", ⟨10, 12⟩⟩],
        12, true⟩ := by
    decide +kernel
  rw [Program.parse, hscan]
  rfl

theorem parse_failures_located_examples :
    (∃ span, Parsed.naming.program.compile {} = .error (.undeclared 6 "bc") ∧
      Parsed.naming.spans[6]? = some span ∧ span.text "print 1 + bc" = "bc") ∧
    ∃ u origins failure sink', Parsed.dividing.program.compile {} = .ok (u, origins) ∧
      u.run? {} = some (.error failure, sink') ∧
      failure.fault = .divisionByZero ∧ origins.nodeAt? failure.offset = some 7 ∧
      Parsed.dividing.program.AnswersFor 7 .divisionByZero ∧
      Span.text ⟨20, 31⟩ "print 2 // é\nprint 6 / (3 - 3)" = "6 / (3 - 3)" := by
  constructor
  · have hcompile : Parsed.naming.program.compile {} = .error (.undeclared 6 "bc") := rfl
    obtain ⟨span, hspan, htext⟩ := (parse_failures_located Parsed.parse_naming).1 {} _ hcompile
    exact ⟨span, hcompile, hspan, htext 6 "bc" rfl⟩
  · obtain ⟨u, origins, hcompile⟩ :
        ∃ u origins, Parsed.dividing.program.compile {} = .ok (u, origins) := ⟨_, _, rfl⟩
    obtain ⟨em, code, hcompiled⟩ := Program.compiled_of_compile hcompile
    obtain ⟨⟨result, sink'⟩, hrun, -, hends⟩ := hcompiled.run?_eq {}
    have heval : (Parsed.dividing.program.eval.onto Parsed.dividing.program.label {}).1 =
        .error (.fault 7 .divisionByZero) := rfl
    rw [heval] at hends
    cases hends with
    | @fault offset _ _ _ =>
      obtain ⟨node, span, hnode, hspan, hfault, hanswers⟩ :=
        (parse_failures_located Parsed.parse_dividing).2.1 {} u origins hcompile {} _ sink' hrun
      rw [heval] at hfault
      cases hfault
      exact ⟨u, origins, _, sink', hcompile, hrun, rfl, hnode, hanswers, by decide +kernel⟩

end Printlet
