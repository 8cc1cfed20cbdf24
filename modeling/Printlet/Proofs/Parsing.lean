/-
Printlet.Proofs.Parsing — reading accepts the grammar and nothing else.

Both directions are about the steps of a reading and its runs.

* A state has taken in the tokens of its finished statements and of the one in
  the making (`Reading.Took`), and what it holds is well formed
  (`Reading.WellFormed`). One step keeps both, so a run does: what is read has
  the tokens that were read.
* The other way round the tree leads: the tokens of a factor, a term, an
  expression and a statement can be read one after the other, from any state in
  which they may come, and give that tree (`Factor.run_tokens` and below).

`Program.parse_iff_spells` joins this with scanning, for whole sources.
-/
import Printlet.Proofs.Grammar
import Printlet.Proofs.ReadingSteps

namespace Printlet

/-! ## 1. What has been read -/

namespace LeftPart

/-- The tokens of the finished terms. -/
def termTokens (left : LeftPart) : List Token :=
  left.terms.reverse.flatMap fun part => part.1.tokens ++ [.sum part.2]

/-- The tokens of the factors of the term in the making. -/
def factorTokens (left : LeftPart) : List Token :=
  left.factors.reverse.flatMap fun part => part.1.tokens ++ [.product part.2]

/-- All tokens left of the next operand. -/
def tokens (left : LeftPart) : List Token :=
  left.termTokens ++ left.factorTokens

theorem tokens_closeTerm (left : LeftPart) (last : Factor Span) (next : Nat) :
    (left.closeTerm last next).tokens = left.factorTokens ++ last.tokens := by
  have hlast : Factor.tokensOfAll [last] [] = last.tokens := by
    rw [Factor.tokensOfAll, Factor.tokensOfAll, List.append_nil]
  rw [closeTerm, Term.tokens, List.reverse_cons, ← List.map_reverse, ← List.map_reverse]
  have h := Factor.tokensOfAll_append left.factors.reverse [last] []
  rw [List.append_nil, hlast] at h
  exact h

theorem tokens_close (left : LeftPart) (last : Factor Span) (next : Nat) :
    (left.close last next).tokens = left.tokens ++ last.tokens := by
  have hlast : Term.tokensOfAll [left.closeTerm last next] [] =
      left.factorTokens ++ last.tokens := by
    rw [Term.tokensOfAll, Term.tokensOfAll, List.append_nil, tokens_closeTerm]
  rw [close, Expression.tokens, List.reverse_cons, ← List.map_reverse, ← List.map_reverse]
  have h := Term.tokensOfAll_append left.terms.reverse [left.closeTerm last next] []
  rw [List.append_nil, hlast] at h
  rw [tokens, List.append_assoc]
  exact h

theorem tokens_product (left : LeftPart) (last : Factor Span) (op : ProductOp) :
    tokens ⟨left.terms, (last, op) :: left.factors⟩ =
      left.tokens ++ (last.tokens ++ [.product op]) := by
  simp [tokens, termTokens, factorTokens]

theorem tokens_sum (left : LeftPart) (last : Factor Span) (next : Nat) (op : SumOp) :
    tokens ⟨(left.closeTerm last next, op) :: left.terms, []⟩ =
      left.tokens ++ (last.tokens ++ [.sum op]) := by
  simp [tokens, termTokens, factorTokens, tokens_closeTerm]

end LeftPart

/-- The tokens before the expression of a statement. -/
def Head.tokens : Head → List Token
  | .print _ => [.printWord]
  | .bind _ name => [.letWord, .name name, .assign]

theorem Head.tokens_close (head : Head) (value : Expression Span) :
    (head.close value).tokens = head.tokens ++ value.tokens := by
  cases head <;> rfl

/-- The tokens of a statement in the making. -/
def Draft.tokens (draft : Draft) : List Token :=
  draft.head.tokens ++
    (draft.groups.reverse.flatMap (fun group => group.2.tokens ++ [.openParen]) ++
      draft.left.tokens)

theorem Draft.tokens_close {draft : Draft} (hgroups : draft.groups = []) (last : Factor Span)
    (next : Nat) :
    (draft.head.close (draft.left.close last next)).tokens = draft.tokens ++ last.tokens := by
  rw [Head.tokens_close, LeftPart.tokens_close, Draft.tokens, hgroups]
  simp

namespace Reading

/-- The finished statements, latest first. -/
def done : Reading → List (Statement Span)
  | .boundary done _ => done
  | .binding done _ _ => done
  | .bound done _ _ _ => done
  | .operand draft => draft.done
  | .operator draft _ => draft.done

/-- The tokens of the statement in the making. -/
def pending : Reading → List Token
  | .boundary _ _ => []
  | .binding _ _ _ => [.letWord]
  | .bound _ _ _ name => [.letWord, .name name]
  | .operand draft => draft.tokens
  | .operator draft last => draft.tokens ++ last.tokens

/-- The state has taken in the tokens. -/
def Took (reading : Reading) (tokens : List Token) : Prop :=
  ∃ front, Statement.Row reading.done.reverse front ∧ tokens = front ++ reading.pending

variable {reading reading' : Reading} {lexeme : Lexeme} {tokens : List Token}

theorem Took.row (h : reading.Took tokens) {next : Nat} {done : List (Statement Span)}
    (whole : reading.statements? next = some done) : Statement.Row done.reverse tokens := by
  obtain ⟨front, hrow, rfl⟩ := h
  rcases statements?_eq_some whole with ⟨stop, rfl⟩ | ⟨draft, last, rfl, hgroups, rfl⟩
  · rw [pending, List.append_nil]
    exact hrow
  · have hstatement := Statement.Row.cons (draft.head.close (draft.left.close last next)) .nil
    rw [draft.tokens_close hgroups, List.append_nil] at hstatement
    rw [Draft.close, List.reverse_cons]
    exact hrow.append hstatement

/-- A statement may be closed with a semicolon. -/
theorem Took.closed {draft : Draft} {last : Factor Span} (h : (operator draft last).Took tokens)
    {next : Nat} {done : List (Statement Span)}
    (whole : (operator draft last).statements? next = some done) :
    Statement.Row done.reverse (tokens ++ [.semicolon]) := by
  obtain ⟨front, hrow, rfl⟩ := h
  rcases statements?_eq_some whole with ⟨stop, heq⟩ | ⟨draft', last', heq, hgroups, rfl⟩
  · cases heq
  · cases heq
    have hstatement := Statement.Row.closed (draft.head.close (draft.left.close last next)) .nil
    rw [draft.tokens_close hgroups] at hstatement
    rw [Draft.close, List.reverse_cons, List.append_assoc]
    exact hrow.append hstatement

theorem toInt_ofNat_of_fits {value : Nat} (h : (Token.int value).isOversized = false) :
    (Int64.ofNat value).toInt = value := by
  have hvalue : value ≤ 9223372036854775807 := Nat.le_of_not_lt (of_decide_eq_false h)
  exact Int64.toInt_ofNat_of_lt (by omega)

theorem tokens_leaf {factor : Factor Span} (h : lexeme.leaf? = some factor)
    (hsize : lexeme.token.isOversized = false) : factor.tokens = [lexeme.token] := by
  unfold Lexeme.leaf? at h
  split at h
  next value token =>
    cases h
    rw [token] at hsize ⊢
    rw [Factor.tokens, toInt_ofNat_of_fits hsize, Int.toNat_natCast]
  next literal token =>
    cases h
    rw [token, Factor.tokens]
  next name token =>
    cases h
    rw [token, Factor.tokens]
  next => cases h

/-- **One step** takes in its token. -/
theorem Step.took (hstep : Step lexeme reading reading')
    (hsize : lexeme.token.isOversized = false) (h : reading.Took tokens) :
    reading'.Took (tokens ++ [lexeme.token]) := by
  cases hstep with
  | print token whole =>
    rw [token]
    exact ⟨tokens, h.row whole, rfl⟩
  | letWord token whole =>
    rw [token]
    exact ⟨tokens, h.row whole, rfl⟩
  | semicolon token whole =>
    rw [token]
    exact ⟨_, h.closed whole, (List.append_nil _).symm⟩
  | name token | assign token =>
    obtain ⟨front, hrow, rfl⟩ := h
    refine ⟨front, hrow, ?_⟩
    rw [token, List.append_assoc]
    rfl
  | leaf token =>
    obtain ⟨front, hrow, rfl⟩ := h
    refine ⟨front, hrow, ?_⟩
    rw [pending, pending, tokens_leaf token hsize, List.append_assoc]
  | openParen token =>
    obtain ⟨front, hrow, rfl⟩ := h
    refine ⟨front, hrow, ?_⟩
    simp [pending, Draft.tokens, token, LeftPart.tokens, LeftPart.termTokens,
      LeftPart.factorTokens, LeftPart.empty]
  | product token =>
    obtain ⟨front, hrow, rfl⟩ := h
    refine ⟨front, hrow, ?_⟩
    simp [pending, Draft.tokens, token, LeftPart.tokens_product]
  | sum token =>
    obtain ⟨front, hrow, rfl⟩ := h
    refine ⟨front, hrow, ?_⟩
    simp [pending, Draft.tokens, token, LeftPart.tokens_sum]
  | closeParen token =>
    obtain ⟨front, hrow, rfl⟩ := h
    refine ⟨front, hrow, ?_⟩
    simp [pending, Draft.tokens, token, Factor.tokens, LeftPart.tokens_close]

theorem took_run {lexemes : List Lexeme} (h : reading.run lexemes = .ok reading')
    (hsize : ∀ lexeme ∈ lexemes, lexeme.token.isOversized = false) (htook : reading.Took tokens) :
    reading'.Took (tokens ++ lexemes.map (·.token)) := by
  induction lexemes generalizing reading tokens with
  | nil =>
    cases h
    rw [List.map_nil, List.append_nil]
    exact htook
  | cons lexeme lexemes ih =>
    obtain ⟨middle, hstep, hrest⟩ := exists_step_of_run h
    obtain ⟨hfirst, hsizes⟩ := List.forall_mem_cons.mp hsize
    rw [List.map_cons, ← List.singleton_append, ← List.append_assoc]
    exact ih hrest hsizes (hstep.took hfirst htook)

end Reading

/-! ### What has been read is well formed -/

section WellFormed

variable {leaf : Factor Span → Prop}

/-- All parts of a left part are well formed. -/
structure LeftPart.WellFormed (leaf : Factor Span → Prop) (left : LeftPart) : Prop where
  terms : ∀ part ∈ left.terms, part.1.WellFormed leaf
  factors : ∀ part ∈ left.factors, part.1.WellFormed leaf

/-- A statement binds a name. -/
def Head.WellFormed : Head → Prop
  | .print _ => True
  | .bind _ name => IsName name

/-- All parts of a draft are well formed. -/
structure Draft.WellFormed (leaf : Factor Span → Prop) (draft : Draft) : Prop where
  done : ∀ s ∈ draft.done, s.WellFormed leaf
  head : draft.head.WellFormed
  groups : ∀ group ∈ draft.groups, group.2.WellFormed leaf
  left : draft.left.WellFormed leaf

theorem LeftPart.wellFormed_empty : LeftPart.empty.WellFormed leaf :=
  ⟨by simp [empty], by simp [empty]⟩

theorem LeftPart.WellFormed.closeTerm {left : LeftPart} (h : left.WellFormed leaf)
    {last : Factor Span} (hlast : last.WellFormed leaf) (next : Nat) :
    (left.closeTerm last next).WellFormed leaf := by
  rw [LeftPart.closeTerm, Term.WellFormed, Factor.allWellFormed_iff]
  refine ⟨by simp, ?_⟩
  intro factor hmem
  rw [List.mem_reverse, List.mem_cons, List.mem_map] at hmem
  rcases hmem with rfl | ⟨part, hpart, rfl⟩
  · exact hlast
  · exact h.factors part hpart

theorem LeftPart.WellFormed.close {left : LeftPart} (h : left.WellFormed leaf)
    {last : Factor Span} (hlast : last.WellFormed leaf) (next : Nat) :
    (left.close last next).WellFormed leaf := by
  rw [LeftPart.close, Expression.WellFormed, Term.allWellFormed_iff]
  refine ⟨by simp, ?_⟩
  intro term hmem
  rw [List.mem_reverse, List.mem_cons, List.mem_map] at hmem
  rcases hmem with rfl | ⟨part, hpart, rfl⟩
  · exact h.closeTerm hlast next
  · exact h.terms part hpart

theorem Draft.WellFormed.close {draft : Draft} (h : draft.WellFormed leaf) {last : Factor Span}
    (hlast : last.WellFormed leaf) (next : Nat) :
    ∀ s ∈ draft.close last next, s.WellFormed leaf := by
  have hvalue := h.left.close hlast next
  refine List.forall_mem_cons.mpr ⟨?_, h.done⟩
  obtain ⟨done, head, groups, left⟩ := draft
  cases head with
  | print start => exact hvalue
  | bind start name => exact ⟨h.head, hvalue⟩

theorem Draft.wellFormed_start {done : List (Statement Span)} {head : Head}
    (hdone : ∀ s ∈ done, s.WellFormed leaf) (hhead : head.WellFormed) :
    (Draft.start done head).WellFormed leaf :=
  ⟨hdone, hhead, by simp [Draft.start], LeftPart.wellFormed_empty⟩

namespace Reading

/-- All that a state holds is well formed. -/
def WellFormed (leaf : Factor Span → Prop) : Reading → Prop
  | .boundary done _ => ∀ s ∈ done, s.WellFormed leaf
  | .binding done _ _ => ∀ s ∈ done, s.WellFormed leaf
  | .bound done _ _ name => (∀ s ∈ done, s.WellFormed leaf) ∧ IsName name
  | .operand draft => draft.WellFormed leaf
  | .operator draft last => draft.WellFormed leaf ∧ last.WellFormed leaf

variable {reading reading' : Reading} {lexeme : Lexeme}

theorem WellFormed.statements? (h : reading.WellFormed leaf) {next : Nat}
    {done : List (Statement Span)} (whole : reading.statements? next = some done) :
    ∀ s ∈ done, s.WellFormed leaf := by
  rcases statements?_eq_some whole with ⟨stop, rfl⟩ | ⟨draft, last, rfl, -, rfl⟩
  · exact h
  · exact h.1.close h.2 next

theorem wellFormed_leaf {factor : Factor Span} (h : lexeme.leaf? = some factor)
    (hleaf : leaf factor) : factor.WellFormed leaf := by
  unfold Lexeme.leaf? at h
  split at h <;> cases h <;> rw [Factor.WellFormed] <;> exact hleaf

/-- **One step** keeps all that a state holds well formed. -/
theorem Step.wellFormed (hstep : Step lexeme reading reading') (hvalid : lexeme.token.Valid)
    (hleaf : ∀ factor, lexeme.leaf? = some factor → leaf factor) (h : reading.WellFormed leaf) :
    reading'.WellFormed leaf := by
  cases hstep with
  | print token whole => exact Draft.wellFormed_start (h.statements? whole) trivial
  | letWord token whole => exact h.statements? whole
  | semicolon token whole => exact h.statements? whole
  | name token =>
    rw [token] at hvalid
    exact ⟨h, hvalid⟩
  | assign token => exact Draft.wellFormed_start h.1 h.2
  | leaf token => exact ⟨h, wellFormed_leaf token (hleaf _ token)⟩
  | openParen token =>
    exact ⟨h.done, h.head, List.forall_mem_cons.mpr ⟨h.left, h.groups⟩, LeftPart.wellFormed_empty⟩
  | product token =>
    obtain ⟨hdraft, hlast⟩ := h
    exact ⟨hdraft.done, hdraft.head, hdraft.groups, hdraft.left.terms,
      List.forall_mem_cons.mpr ⟨hlast, hdraft.left.factors⟩⟩
  | sum token =>
    obtain ⟨hdraft, hlast⟩ := h
    have hterm := hdraft.left.closeTerm hlast lexeme.span.start
    exact ⟨hdraft.done, hdraft.head, hdraft.groups,
      List.forall_mem_cons.mpr ⟨hterm, hdraft.left.terms⟩, by simp⟩
  | closeParen token =>
    obtain ⟨hdraft, hlast⟩ := h
    obtain ⟨houter, hgroups⟩ := List.forall_mem_cons.mp hdraft.groups
    refine ⟨⟨hdraft.done, hdraft.head, hgroups, houter⟩, ?_⟩
    rw [Factor.WellFormed]
    exact hdraft.left.close hlast lexeme.span.start

theorem wellFormed_run {lexemes : List Lexeme} (h : reading.run lexemes = .ok reading')
    (hvalid : ∀ lexeme ∈ lexemes, lexeme.token.Valid)
    (hleaf : ∀ lexeme ∈ lexemes, ∀ factor, lexeme.leaf? = some factor → leaf factor)
    (hwell : reading.WellFormed leaf) : reading'.WellFormed leaf := by
  induction lexemes generalizing reading with
  | nil =>
    cases h
    exact hwell
  | cons lexeme lexemes ih =>
    obtain ⟨middle, hstep, hrest⟩ := exists_step_of_run h
    obtain ⟨hfirst, hvalids⟩ := List.forall_mem_cons.mp hvalid
    obtain ⟨hleaf, hleaves⟩ := List.forall_mem_cons.mp hleaf
    exact ih hrest hvalids hleaves (hstep.wellFormed hfirst hleaf hwell)

end Reading

end WellFormed

/-! ## 2. What the grammar says is read -/

theorem Term.shape_mk (l : Span) (fs : List (Factor Span)) (ops : List ProductOp) :
    (Term.mk l fs ops).shape = .mk () (fs.map Factor.shape) ops := by
  rw [Term.shape, Term.relabel, Factor.relabelAll_eq_map]
  rfl

theorem Expression.shape_mk (l : Span) (ts : List (Term Span)) (ops : List SumOp) :
    (Expression.mk l ts ops).shape = .mk () (ts.map Term.shape) ops := by
  rw [Expression.shape, Expression.relabel, Term.relabelAll_eq_map]
  rfl

namespace LeftPart

theorem shape_closeTerm (left : LeftPart) (last : Factor Span) (next : Nat) :
    (left.closeTerm last next).shape =
      .mk () (left.factors.reverse.map (·.1.shape) ++ [last.shape])
        (left.factors.reverse.map Prod.snd) := by
  rw [closeTerm, Term.shape_mk]
  simp

theorem shape_close (left : LeftPart) (last : Factor Span) (next : Nat) :
    (left.close last next).shape =
      .mk () (left.terms.reverse.map (·.1.shape) ++ [(left.closeTerm last next).shape])
        (left.terms.reverse.map Prod.snd) := by
  rw [close, Expression.shape_mk]
  simp

end LeftPart

section Complete

variable {α : Type}

/-- A number that can be written is read as what it was. -/
theorem ofNat_toNat_toInt {value : Int64} (h : 0 ≤ value.toInt) :
    Int64.ofNat value.toInt.toNat = value := by
  have hlt := value.toInt_lt
  apply Int64.toInt.inj
  rw [Int64.toInt_ofNat_of_lt (by omega), Int.toNat_of_nonneg h]

/-- A lexeme whose token is that of a literal or name is read as that factor. -/
theorem Factor.run_leaf {lexeme : Lexeme} {factor : Factor Span} {x : Factor α}
    (hleaf : lexeme.leaf? = some factor) (hshape : factor.shape = x.shape) (draft : Draft) :
    ∃ last, (Reading.operand draft).run [lexeme] = .ok (.operator draft last) ∧
      last.shape = x.shape :=
  ⟨factor, (Reading.Step.leaf hleaf).run [], hshape⟩

mutual

/-- The tokens of an expression, at the start of a chain. -/
theorem Expression.run_tokens :
    ∀ (e : Expression α), e.WellFormed Factor.Valid →
      ∀ (lexemes : List Lexeme), lexemes.map (·.token) = e.tokens →
      ∀ (draft : Draft), draft.left = LeftPart.empty →
        ∃ left last, (Reading.operand draft).run lexemes =
            .ok (.operator ⟨draft.done, draft.head, draft.groups, left⟩ last) ∧
          ∀ next, (left.close last next).shape = e.shape
  | .mk l ts ops, hwell, lexemes, htokens, draft, hempty => by
      rw [Expression.WellFormed] at hwell
      rw [Expression.tokens] at htokens
      obtain ⟨left, last, hrun, hshape⟩ := Term.run_tokensOfAll ts ops hwell.1 hwell.2 lexemes
        htokens draft (by rw [hempty]; rfl)
      refine ⟨left, last, hrun, fun next => ?_⟩
      rw [hshape next, hempty, Expression.shape, Expression.relabel, Term.relabelAll_eq_map]
      rfl

/-- The tokens of a row of terms, behind the terms that a chain has already. -/
theorem Term.run_tokensOfAll :
    ∀ (ts : List (Term α)) (ops : List SumOp), ts.length = ops.length + 1 →
      Term.AllWellFormed Factor.Valid ts →
      ∀ (lexemes : List Lexeme), lexemes.map (·.token) = Term.tokensOfAll ts ops →
      ∀ (draft : Draft), draft.left.factors = [] →
        ∃ left last, (Reading.operand draft).run lexemes =
            .ok (.operator ⟨draft.done, draft.head, draft.groups, left⟩ last) ∧
          ∀ next, (left.close last next).shape =
            .mk () (draft.left.terms.reverse.map (·.1.shape) ++ ts.map Term.shape)
              (draft.left.terms.reverse.map Prod.snd ++ ops)
  | [], _, hlength, _, _, _, _, _ => by cases hlength
  | t :: [], [], _, hwell, lexemes, htokens, draft, hfactors => by
      rw [Term.AllWellFormed] at hwell
      rw [Term.tokensOfAll, Term.tokensOfAll, List.append_nil] at htokens
      obtain ⟨factors, last, hrun, hshape⟩ :=
        Term.run_tokens t hwell.1 lexemes htokens draft hfactors
      refine ⟨⟨draft.left.terms, factors⟩, last, hrun, fun next => ?_⟩
      rw [LeftPart.shape_close, hshape next, List.append_nil]
      rfl
  | _ :: _ :: _, [], hlength, _, _, _, _, _ => by cases hlength
  | t :: ts, op :: ops, hlength, hwell, lexemes, htokens, draft, hfactors => by
      rw [Term.AllWellFormed] at hwell
      rw [Term.tokensOfAll] at htokens
      obtain ⟨front, rest, rfl, hfront, hrest⟩ := List.map_eq_append_iff.mp htokens
      obtain ⟨lexeme, back, rfl, htoken, hback⟩ := List.map_eq_cons_iff.mp hrest
      obtain ⟨factors, last, hrun, hshape⟩ :=
        Term.run_tokens t hwell.1 front hfront draft hfactors
      have hstep : Reading.Step lexeme (.operator
        ⟨draft.done, draft.head, draft.groups, ⟨draft.left.terms, factors⟩⟩ last) _ := .sum htoken
      obtain ⟨left, last', hrun', hshape'⟩ := Term.run_tokensOfAll ts ops
        (Nat.succ.inj hlength) hwell.2 back hback
        ⟨draft.done, draft.head, draft.groups, ⟨(_, op) :: draft.left.terms, []⟩⟩ rfl
      refine ⟨left, last', ?_, fun next => ?_⟩
      · rw [Reading.run_append hrun, hstep.run, hrun']
      · rw [hshape' next]
        simp [hshape]

/-- The tokens of a term, behind the terms that a chain has already. -/
theorem Term.run_tokens :
    ∀ (t : Term α), t.WellFormed Factor.Valid →
      ∀ (lexemes : List Lexeme), lexemes.map (·.token) = t.tokens →
      ∀ (draft : Draft), draft.left.factors = [] →
        ∃ factors last, (Reading.operand draft).run lexemes =
            .ok (.operator ⟨draft.done, draft.head, draft.groups, ⟨draft.left.terms, factors⟩⟩
              last) ∧
          ∀ next, (LeftPart.closeTerm ⟨draft.left.terms, factors⟩ last next).shape = t.shape
  | .mk l fs ops, hwell, lexemes, htokens, draft, hfactors => by
      rw [Term.WellFormed] at hwell
      rw [Term.tokens] at htokens
      obtain ⟨factors, last, hrun, hshape⟩ := Factor.run_tokensOfAll fs ops hwell.1 hwell.2
        lexemes htokens draft
      refine ⟨factors, last, hrun, fun next => ?_⟩
      rw [hshape next, hfactors, Term.shape, Term.relabel, Factor.relabelAll_eq_map]
      rfl

/-- The tokens of a row of factors, behind the factors that a chain has already. -/
theorem Factor.run_tokensOfAll :
    ∀ (fs : List (Factor α)) (ops : List ProductOp), fs.length = ops.length + 1 →
      Factor.AllWellFormed Factor.Valid fs →
      ∀ (lexemes : List Lexeme), lexemes.map (·.token) = Factor.tokensOfAll fs ops →
      ∀ (draft : Draft),
        ∃ factors last, (Reading.operand draft).run lexemes =
            .ok (.operator ⟨draft.done, draft.head, draft.groups, ⟨draft.left.terms, factors⟩⟩
              last) ∧
          ∀ next, (LeftPart.closeTerm ⟨draft.left.terms, factors⟩ last next).shape =
            .mk () (draft.left.factors.reverse.map (·.1.shape) ++ fs.map Factor.shape)
              (draft.left.factors.reverse.map Prod.snd ++ ops)
  | [], _, hlength, _, _, _, _ => by cases hlength
  | f :: [], [], _, hwell, lexemes, htokens, draft => by
      rw [Factor.AllWellFormed] at hwell
      rw [Factor.tokensOfAll, Factor.tokensOfAll, List.append_nil] at htokens
      obtain ⟨last, hrun, hshape⟩ := Factor.run_tokens f hwell.1 lexemes htokens draft
      refine ⟨draft.left.factors, last, hrun, fun next => ?_⟩
      rw [LeftPart.shape_closeTerm, hshape, List.append_nil]
      rfl
  | _ :: _ :: _, [], hlength, _, _, _, _ => by cases hlength
  | f :: fs, op :: ops, hlength, hwell, lexemes, htokens, draft => by
      rw [Factor.AllWellFormed] at hwell
      rw [Factor.tokensOfAll] at htokens
      obtain ⟨front, rest, rfl, hfront, hrest⟩ := List.map_eq_append_iff.mp htokens
      obtain ⟨lexeme, back, rfl, htoken, hback⟩ := List.map_eq_cons_iff.mp hrest
      obtain ⟨last, hrun, hshape⟩ := Factor.run_tokens f hwell.1 front hfront draft
      have hstep : Reading.Step lexeme (.operator draft last) _ := .product htoken
      obtain ⟨factors, last', hrun', hshape'⟩ := Factor.run_tokensOfAll fs ops
        (Nat.succ.inj hlength) hwell.2 back hback _
      refine ⟨factors, last', ?_, fun next => ?_⟩
      · rw [Reading.run_append hrun, hstep.run, hrun']
      · rw [hshape' next]
        simp [hshape]

/-- The tokens of a factor, wherever an operand may come. -/
theorem Factor.run_tokens :
    ∀ (x : Factor α), x.WellFormed Factor.Valid →
      ∀ (lexemes : List Lexeme), lexemes.map (·.token) = x.tokens →
      ∀ (draft : Draft),
        ∃ last, (Reading.operand draft).run lexemes = .ok (.operator draft last) ∧
          last.shape = x.shape
  | .group l inner, hwell, lexemes, htokens, draft => by
      rw [Factor.WellFormed] at hwell
      rw [Factor.tokens] at htokens
      obtain ⟨first, rest, rfl, hfirst, hrest⟩ := List.map_eq_cons_iff.mp htokens
      obtain ⟨middle, final, rfl, hmiddle, hfinal⟩ := List.map_eq_append_iff.mp hrest
      obtain ⟨lexeme, rfl, hlast⟩ := List.map_eq_singleton_iff.mp hfinal
      have hopen : Reading.Step first (.operand draft) _ := .openParen hfirst
      obtain ⟨left, last, hrun, hshape⟩ :=
        Expression.run_tokens inner hwell middle hmiddle
          ⟨draft.done, draft.head, (first.span.start, draft.left) :: draft.groups, LeftPart.empty⟩ rfl
      have hclose : Reading.Step lexeme (.operator
        ⟨draft.done, draft.head, (first.span.start, draft.left) :: draft.groups, left⟩ last) _ :=
        .closeParen hlast
      refine ⟨.group ⟨first.span.start, lexeme.span.stop⟩ (left.close last lexeme.span.start),
        ?_, ?_⟩
      · rw [hopen.run, Reading.run_append hrun, hclose.run]
        rfl
      · have hinner := hshape lexeme.span.start
        rw [Expression.shape, Expression.shape] at hinner
        rw [Factor.shape, Factor.relabel, hinner, Factor.shape, Factor.relabel]
  | .int l value, hwell, lexemes, htokens, draft => by
      rw [Factor.WellFormed] at hwell
      rw [Factor.tokens] at htokens
      obtain ⟨lexeme, rfl, htoken⟩ := List.map_eq_singleton_iff.mp htokens
      have hleaf : lexeme.leaf? = some (.int lexeme.span value) := by
        rw [Lexeme.leaf?, htoken]
        show some (Factor.int lexeme.span (Int64.ofNat value.toInt.toNat)) = _
        rw [ofNat_toNat_toInt hwell]
      exact Factor.run_leaf hleaf (by simp only [Factor.shape, Factor.relabel]) draft
  | .text l literal, _, lexemes, htokens, draft => by
      rw [Factor.tokens] at htokens
      obtain ⟨lexeme, rfl, htoken⟩ := List.map_eq_singleton_iff.mp htokens
      have hleaf : lexeme.leaf? = some (.text lexeme.span literal) := by rw [Lexeme.leaf?, htoken]
      exact Factor.run_leaf hleaf (by simp only [Factor.shape, Factor.relabel]) draft
  | .name l name, _, lexemes, htokens, draft => by
      rw [Factor.tokens] at htokens
      obtain ⟨lexeme, rfl, htoken⟩ := List.map_eq_singleton_iff.mp htokens
      have hleaf : lexeme.leaf? = some (.name lexeme.span name) := by rw [Lexeme.leaf?, htoken]
      exact Factor.run_leaf hleaf (by simp only [Factor.shape, Factor.relabel]) draft

end

end Complete

/-! ### Statements -/

namespace Reading

/-- The text may end here, or a statement start, and the statements up to here,
latest first, have these shapes. -/
def Ready (reading : Reading) (shapes : List (Statement Unit)) : Prop :=
  ∀ next, ∃ done, reading.statements? next = some done ∧ done.map Statement.shape = shapes

theorem ready_start (start : Nat) : (boundary [] start).Ready [] :=
  fun _ => ⟨[], rfl, rfl⟩

theorem ready_operator {draft : Draft} {last : Factor Span} (hgroups : draft.groups = [])
    {shape : Statement Unit}
    (hshape : ∀ next, (draft.head.close (draft.left.close last next)).shape = shape) :
    (operator draft last).Ready (shape :: draft.done.map Statement.shape) := by
  intro next
  refine ⟨draft.close last next, if_pos (List.isEmpty_iff.mpr hgroups), ?_⟩
  rw [Draft.close, List.map_cons, hshape next]

end Reading

section Statements

variable {α : Type} {shapes : List (Statement Unit)} {lexemes : List Lexeme}

theorem Statement.run_tokens {reading : Reading} (s : Statement α)
    (hwell : s.WellFormed Factor.Valid) (htokens : lexemes.map (·.token) = s.tokens)
    (hready : reading.Ready shapes) :
    ∃ draft last, reading.run lexemes = .ok (.operator draft last) ∧
      (Reading.operator draft last).Ready (s.shape :: shapes) := by
  cases s with
  | print l value =>
    obtain ⟨first, rest, rfl, hfirst, hrest⟩ := List.map_eq_cons_iff.mp htokens
    obtain ⟨done, hwhole, rfl⟩ := hready first.span.start
    have hstep := Reading.Step.print hfirst hwhole
    obtain ⟨left, last, hrun, hshape⟩ := value.run_tokens hwell rest hrest
      (Draft.start done (.print first.span.start)) rfl
    refine ⟨⟨done, .print first.span.start, [], left⟩, last, ?_, Reading.ready_operator rfl ?_⟩
    · rw [hstep.run, hrun]
      rfl
    · intro next
      exact congrArg (Statement.print ()) (hshape next)
  | bind l name value =>
    obtain ⟨first, rest, rfl, hfirst, hrest⟩ := List.map_eq_cons_iff.mp htokens
    obtain ⟨second, rest, rfl, hsecond, hrest⟩ := List.map_eq_cons_iff.mp hrest
    obtain ⟨third, rest, rfl, hthird, hrest⟩ := List.map_eq_cons_iff.mp hrest
    obtain ⟨done, hwhole, rfl⟩ := hready first.span.start
    have hlet := Reading.Step.letWord hfirst hwhole
    have hname : Reading.Step second (.binding done first.span.start reading.isUnclosed) _ :=
      .name hsecond
    have hassign : Reading.Step third
        (.bound done first.span.start reading.isUnclosed name) _ := .assign hthird
    obtain ⟨left, last, hrun, hshape⟩ := value.run_tokens hwell.2 rest hrest
      (Draft.start done (.bind first.span.start name)) rfl
    refine ⟨⟨done, .bind first.span.start name, [], left⟩, last, ?_,
      Reading.ready_operator rfl ?_⟩
    · rw [hlet.run, hname.run, hassign.run, hrun]
      rfl
    · intro next
      exact congrArg (Statement.bind () name) (hshape next)

/-- **The tokens of a row of statements are read**, one statement after the other. -/
theorem Statement.Row.run {reading : Reading} {ss : List (Statement α)} {ts : List Token}
    (h : Row ss ts) (hwell : ∀ s ∈ ss, s.WellFormed Factor.Valid)
    (htokens : lexemes.map (·.token) = ts) (hready : reading.Ready shapes) :
    ∃ reading', reading.run lexemes = .ok reading' ∧
      reading'.Ready ((ss.map Statement.shape).reverse ++ shapes) := by
  induction h generalizing reading lexemes shapes with
  | nil =>
    rw [List.map_eq_nil_iff.mp htokens]
    exact ⟨reading, rfl, hready⟩
  | cons s _ ih =>
    obtain ⟨hs, hss⟩ := List.forall_mem_cons.mp hwell
    obtain ⟨front, back, rfl, hfront, hback⟩ := List.map_eq_append_iff.mp htokens
    obtain ⟨draft, last, hrun, hready'⟩ := s.run_tokens hs hfront hready
    obtain ⟨reading', hrun', hfinal⟩ := ih hss hback hready'
    refine ⟨reading', ?_, ?_⟩
    · rw [Reading.run_append hrun, hrun']
    · simpa using hfinal
  | closed s _ ih =>
    obtain ⟨hs, hss⟩ := List.forall_mem_cons.mp hwell
    obtain ⟨front, rest, rfl, hfront, hrest⟩ := List.map_eq_append_iff.mp htokens
    obtain ⟨lexeme, back, rfl, htoken, hback⟩ := List.map_eq_cons_iff.mp hrest
    obtain ⟨draft, last, hrun, hready'⟩ := s.run_tokens hs hfront hready
    obtain ⟨done, hwhole, hdone⟩ := hready' lexeme.span.start
    have hstep := Reading.Step.semicolon htoken hwhole
    have hboundary : (Reading.boundary done lexeme.span.stop).Ready (s.shape :: shapes) :=
      fun _ => ⟨done, rfl, hdone⟩
    obtain ⟨reading', hrun', hfinal⟩ := ih hss hback hboundary
    refine ⟨reading', ?_, ?_⟩
    · rw [Reading.run_append hrun, hstep.run, hrun']
    · simpa using hfinal

end Statements

/-! ### Numbers stand apart -/

namespace Reading

variable {reading reading' : Reading} {lexeme : Lexeme}

/-- A number is an operand, and an operator or the end of it follows. -/
theorem Step.int (h : Step lexeme reading reading') (hint : lexeme.token.IsInt) :
    (∃ draft, reading = .operand draft) ∧ ∃ draft last, reading' = .operator draft last := by
  cases h with
  | leaf token => exact ⟨⟨_, rfl⟩, _, _, rfl⟩
  | print token | letWord token | name token | assign token | openParen token | product token
  | sum token | closeParen token | semicolon token =>
    rw [token] at hint
    cases hint

theorem isChain_of_run {lexemes : List Lexeme} (h : reading.run lexemes = .ok reading') :
    (lexemes.map (·.token)).IsChain fun t u => ¬ (t.IsInt ∧ u.IsInt) := by
  induction lexemes generalizing reading with
  | nil => exact .nil
  | cons lexeme lexemes ih =>
    obtain ⟨middle, hstep, hrest⟩ := exists_step_of_run h
    cases lexemes with
    | nil => exact .singleton _
    | cons lexeme' lexemes =>
      refine List.isChain_cons_cons.mpr ⟨?_, ih hrest⟩
      rintro ⟨hint, hint'⟩
      obtain ⟨middle', hstep', -⟩ := exists_step_of_run hrest
      obtain ⟨-, draft, last, rfl⟩ := hstep.int hint
      obtain ⟨⟨draft', hoperand⟩, -⟩ := hstep'.int hint'
      cases hoperand

end Reading

/-- In a row of statements no two numbers stand side by side. -/
theorem Statement.Row.apart {α : Type} {ss : List (Statement α)} {ts : List Token}
    (h : Row ss ts) (hwell : ∀ s ∈ ss, s.WellFormed Factor.Valid) :
    ts.IsChain fun t u => ¬ (t.IsInt ∧ u.IsInt) := by
  -- the places of the tokens do not matter, so any will do
  let lexemes : List Lexeme := ts.map (⟨·, ⟨0, 0⟩⟩)
  have htokens : lexemes.map (·.token) = ts := by simp [lexemes, Function.comp_def]
  obtain ⟨reading, hrun, -⟩ := h.run hwell htokens (Reading.ready_start 0)
  rw [← htokens]
  exact Reading.isChain_of_run hrun

/-! ## 3. Whole sources -/

namespace Program

theorem exists_ofScan {scan : Scan} {shapes : List (Statement Unit)}
    (hcomplete : scan.complete = true)
    (hrun : ∀ start, ∃ reading, (Reading.boundary [] start).run scan.lexemes = .ok reading ∧
      reading.Ready shapes) :
    ∃ tree, ofScan scan = .ok tree ∧ tree.statements.map Statement.shape = shapes.reverse := by
  obtain ⟨start, next, hscan, hnext⟩ := ofScan_eq_bind scan
  obtain ⟨reading, hreading, hready⟩ := hrun start
  obtain ⟨done, hwhole, rfl⟩ := hready scan.stop
  obtain ⟨stop, hfinish⟩ := Reading.exists_finish hwhole
  refine ⟨⟨⟨start, stop⟩, done.reverse⟩, ?_, List.map_reverse⟩
  rw [hscan, hreading]
  exact hnext reading done.reverse stop hcomplete hfinish

/-- All that is read from a scan is well formed, if its literals and names are. -/
theorem wellFormed_of_ofScan {leaf : Factor Span → Prop} {source : String} {tree : Program Span}
    (h : ofScan (Scan.ofSource source) = .ok tree)
    (hleaf : ∀ lexeme ∈ (Scan.ofSource source).lexemes, ∀ factor,
      lexeme.leaf? = some factor → leaf factor) :
    ∀ s ∈ tree.statements, s.WellFormed leaf := by
  obtain ⟨-, start, reading, done, hrun, hwhole, hstatements⟩ := ofScan_eq_ok h
  have hvalid : ∀ lexeme ∈ (Scan.ofSource source).lexemes, lexeme.token.Valid := by
    intro lexeme hmem
    obtain ⟨_, _, _, -, -, hvalid, -⟩ := Scan.liesIn 0 source.toList lexeme hmem
    exact hvalid
  have hwell := Reading.wellFormed_run hrun hvalid hleaf (fun _ hs => absurd hs List.not_mem_nil)
  intro s hs
  rw [hstatements, List.mem_reverse] at hs
  exact hwell.statements? hwhole s hs

/-- What is read has the tokens that were scanned. -/
theorem row_of_ofScan {scan : Scan} {tree : Program Span} (h : ofScan scan = .ok tree)
    (hsize : ∀ lexeme ∈ scan.lexemes, lexeme.token.isOversized = false) :
    Statement.Row tree.statements (scan.lexemes.map (·.token)) := by
  obtain ⟨-, start, reading, done, hrun, hwhole, hstatements⟩ := ofScan_eq_ok h
  have hstart : (Reading.boundary [] start).Took [] := ⟨[], .nil, rfl⟩
  rw [hstatements]
  exact (Reading.took_run hrun hsize hstart).row hwhole

theorem valid_leaf {lexeme : Lexeme} {factor : Factor Span} (h : lexeme.leaf? = some factor)
    (hvalid : lexeme.token.Valid) (hsize : lexeme.token.isOversized = false) : factor.Valid := by
  unfold Lexeme.leaf? at h
  split at h
  next value token =>
    cases h
    rw [token] at hsize
    show 0 ≤ (Int64.ofNat value).toInt
    rw [Reading.toInt_ofNat_of_fits hsize]
    exact Int.natCast_nonneg value
  next literal token =>
    cases h
    rw [token] at hvalid
    exact hvalid
  next name token =>
    cases h
    rw [token] at hvalid
    exact hvalid
  next => cases h

/-- What is read can be written, and the source spells it. -/
theorem spells_of_parse {source : String} {parsed : Parsed} (h : parse source = .ok parsed) :
    parsed.program.WellFormed ∧
      ∃ tokens, Statement.Row parsed.program.statements tokens ∧ Spells tokens source.toList := by
  obtain ⟨tree, hscan, hsize, rfl⟩ := parse_eq_ok_iff.mp h
  have hsame : tree.SameShape tree.number := tree.sameShape_number.symm
  refine ⟨WellFormed.of_sameShape ?_ hsame, _, (row_of_ofScan hscan hsize).of_shape hsame,
    Scan.spells (ofScan_eq_ok hscan).1⟩
  refine wellFormed_of_ofScan hscan fun lexeme hmem factor hfactor => ?_
  obtain ⟨_, _, _, -, -, hvalid, -⟩ := Scan.liesIn 0 source.toList lexeme hmem
  exact valid_leaf hfactor hvalid (hsize lexeme hmem)

/-- A program that can be written is read from every source that spells it. -/
theorem exists_parse_of_spells {α : Type} {source : String} {p : Program α} {tokens : List Token}
    (hwell : p.WellFormed) (hrow : Statement.Row p.statements tokens)
    (hspells : Spells tokens source.toList) :
    ∃ parsed, parse source = .ok parsed ∧ parsed.program.SameShape p := by
  have hfits := hrow.fits hwell
  obtain ⟨htokens, hcomplete⟩ := Scan.tokens_of_spells hspells (fun t ht => (hfits t ht).1)
    (hrow.apart hwell) 0
  obtain ⟨tree, htree, hshape⟩ := exists_ofScan hcomplete fun start =>
    hrow.run hwell htokens (Reading.ready_start start)
  have hsize : ∀ lexeme ∈ (Scan.ofSource source).lexemes, lexeme.token.isOversized = false := by
    intro lexeme hmem
    have hmem' : lexeme.token ∈ tokens := by
      rw [← htokens]
      exact List.mem_map_of_mem hmem
    exact (hfits _ hmem').2
  refine ⟨_, parse_eq_ok_iff.mpr ⟨tree, htree, hsize, rfl⟩, ?_⟩
  have hsame : tree.SameShape p := by simpa [SameShape] using hshape
  exact tree.sameShape_number.trans hsame

/-- **The grammar.** A source is read as a program, up to labels, if and only if
the program can be written and the source spells its tokens. -/
theorem parse_iff_spells {α : Type} (source : String) (p : Program α) :
    (∃ parsed, parse source = .ok parsed ∧ parsed.program.SameShape p) ↔
      p.WellFormed ∧
        ∃ tokens, Statement.Row p.statements tokens ∧ Spells tokens source.toList := by
  constructor
  · rintro ⟨parsed, hparse, hshape⟩
    obtain ⟨hwell, tokens, hrow, hspells⟩ := spells_of_parse hparse
    exact ⟨hwell.of_sameShape hshape, tokens, hrow.of_shape hshape, hspells⟩
  · rintro ⟨hwell, tokens, hrow, hspells⟩
    exact exists_parse_of_spells hwell hrow hspells

end Program

/-- The source `print 2 // é` and, on a second line, `print 6 / (3 - 3)`, as it
is read. -/
def Parsed.dividing : Parsed :=
  ⟨⟨0, [
    .print 1 (.mk 2 [.mk 3 [.int 4 2] []] []),
    .print 5 (.mk 6 [.mk 7 [.int 8 6, .group 9 (.mk 10
      [.mk 11 [.int 12 3] [], .mk 13 [.int 14 3] []] [.sub])] [.div]] [])]⟩,
   [⟨0, 31⟩, ⟨0, 14⟩, ⟨6, 14⟩, ⟨6, 14⟩, ⟨6, 7⟩, ⟨14, 31⟩, ⟨20, 31⟩, ⟨20, 31⟩, ⟨20, 21⟩, ⟨24, 31⟩,
    ⟨25, 30⟩, ⟨25, 27⟩, ⟨25, 26⟩, ⟨29, 30⟩, ⟨29, 30⟩]⟩

theorem Parsed.parse_dividing :
    Program.parse "print 2 // é\nprint 6 / (3 - 3)" = .ok dividing := by
  have hscan : Scan.ofSource "print 2 // é\nprint 6 / (3 - 3)" =
      ⟨[⟨.printWord, ⟨0, 5⟩⟩, ⟨.int 2, ⟨6, 7⟩⟩, ⟨.printWord, ⟨14, 19⟩⟩, ⟨.int 6, ⟨20, 21⟩⟩,
        ⟨.product .div, ⟨22, 23⟩⟩, ⟨.openParen, ⟨24, 25⟩⟩, ⟨.int 3, ⟨25, 26⟩⟩,
        ⟨.sum .sub, ⟨27, 28⟩⟩, ⟨.int 3, ⟨29, 30⟩⟩, ⟨.closeParen, ⟨30, 31⟩⟩], 31, true⟩ := by
    decide +kernel
  rw [Program.parse, hscan]
  rfl

end Printlet
