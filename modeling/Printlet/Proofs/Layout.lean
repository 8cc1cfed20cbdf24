/-
Printlet.Proofs.Layout — which lexemes a node is read from, and what span it gets.

`Node.Covers n lexemes next` says it outright, one case for each rule of the
grammar: the node is read from these lexemes, the next one starts at `next`, and
its span and those of all nodes below it are what they should be. A chain of one
part reaches to `next`, every other node to the end of its last part.

## How the proof goes

What a reading holds is laid out over the lexemes that it has taken in
(`Reading.Covers`): the finished statements, the word that starts the one in the
making, and for each open parenthesis and for the innermost expression the chain
to its left. One step keeps this (`Reading.Step.covers`), whatever the lexeme
after it, so a run does, and a program that is read is laid out over its lexemes
(`Program.covers_of_ofScan`).

From there on trees are gone down again: the parts of a node that covers a row
cover rows within it (`Node.Covers.parts`), so every node of a program but its root
is read from a stretch of its lexemes (`Program.Covers.inside`).
-/
import Printlet.Proofs.Nodes
import Printlet.Proofs.Parsing

namespace Printlet

/-! ## 1. Rows of lexemes -/

/-- Where the first of some lexemes starts; `stop` if there is none. -/
def firstStart (lexemes : List Lexeme) (stop : Nat) : Nat :=
  lexemes.head?.elim stop (·.span.start)

@[simp] theorem firstStart_nil (stop : Nat) : firstStart [] stop = stop := rfl

@[simp] theorem firstStart_cons (lexeme : Lexeme) (lexemes : List Lexeme) (stop : Nat) :
    firstStart (lexeme :: lexemes) stop = lexeme.span.start := rfl

@[simp] theorem firstStart_append (front back : List Lexeme) (stop : Nat) :
    firstStart (front ++ back) stop = firstStart front (firstStart back stop) := by
  cases front <;> rfl

/-- An operand of a chain and the operator behind it, with their lexemes. -/
structure Piece (α ο : Type) where
  operand : α
  op : ο
  lexemes : List Lexeme
  sign : Lexeme

namespace Piece

variable {α ο : Type}

/-- The lexemes of pieces that stand side by side. -/
def row (pieces : List (Piece α ο)) : List Lexeme :=
  pieces.flatMap fun piece => piece.lexemes ++ [piece.sign]

/-- The operand and the operator alone. -/
def pair (piece : Piece α ο) : α × ο :=
  (piece.operand, piece.op)

@[simp] theorem row_nil : row ([] : List (Piece α ο)) = [] := rfl

@[simp] theorem row_cons (piece : Piece α ο) (pieces : List (Piece α ο)) :
    row (piece :: pieces) = piece.lexemes ++ piece.sign :: row pieces := by
  simp [row]

@[simp] theorem row_append (front back : List (Piece α ο)) :
    row (front ++ back) = row front ++ row back := by
  simp [row]

end Piece

/-! ## 2. Layouts -/

/-- The node is read from the lexemes, with `next` the start of what follows, and
has the span that it should have; so have all nodes below it. -/
inductive Node.Covers : Node Span → List Lexeme → Nat → Prop
  | leaf {f : Factor Span} {lexeme : Lexeme} {next : Nat} (token : lexeme.leaf? = some f) :
      Covers (.factor f) [lexeme] next
  | group {e : Expression Span} {first last : Lexeme} {lexemes : List Lexeme} {next : Nat}
      (hfirst : first.token = .openParen) (hlast : last.token = .closeParen)
      (inner : Covers (.expression e) lexemes last.span.start) :
      Covers (.factor (.group ⟨first.span.start, last.span.stop⟩ e))
        (first :: (lexemes ++ [last])) next
  | term {pieces : List (Piece (Factor Span) ProductOp)} {last : Factor Span}
      {lexemes : List Lexeme} {next : Nat}
      (front : ∀ p ∈ pieces, Covers (.factor p.operand) p.lexemes p.sign.span.start)
      (signs : ∀ p ∈ pieces, p.sign.token = .product p.op)
      (back : Covers (.factor last) lexemes next) :
      Covers (.term (.mk
          ⟨firstStart (Piece.row pieces ++ lexemes) next,
            if pieces.isEmpty then next else last.label.stop⟩
          (pieces.map (·.operand) ++ [last]) (pieces.map (·.op))))
        (Piece.row pieces ++ lexemes) next
  | expression {pieces : List (Piece (Term Span) SumOp)} {last : Term Span}
      {lexemes : List Lexeme} {next : Nat}
      (front : ∀ p ∈ pieces, Covers (.term p.operand) p.lexemes p.sign.span.start)
      (signs : ∀ p ∈ pieces, p.sign.token = .sum p.op)
      (back : Covers (.term last) lexemes next) :
      Covers (.expression (.mk
          ⟨firstStart (Piece.row pieces ++ lexemes) next,
            if pieces.isEmpty then next else last.label.stop⟩
          (pieces.map (·.operand) ++ [last]) (pieces.map (·.op))))
        (Piece.row pieces ++ lexemes) next
  | print {e : Expression Span} {word : Lexeme} {lexemes : List Lexeme} {next : Nat}
      (hword : word.token = .printWord) (value : Covers (.expression e) lexemes next) :
      Covers (.statement (.print ⟨word.span.start, e.label.stop⟩ e)) (word :: lexemes) next
  | bind {s : String} {e : Expression Span} {word name assign : Lexeme} {lexemes : List Lexeme}
      {next : Nat} (hword : word.token = .letWord) (hname : name.token = .name s)
      (hassign : assign.token = .assign) (value : Covers (.expression e) lexemes next) :
      Covers (.statement (.bind ⟨word.span.start, e.label.stop⟩ s e))
        (word :: name :: assign :: lexemes) next

/-- The statements are read from the lexemes, with `next` the start of what
follows. A program of these statements ends at `stop`: behind the last semicolon,
or else at `next`. -/
inductive Statement.RowCovers : List (Statement Span) → List Lexeme → Nat → Nat → Prop
  | nil {next : Nat} : RowCovers [] [] next next
  | unclosed {ss : List (Statement Span)} {s : Statement Span} {front lexemes : List Lexeme}
      {next stop : Nat} (before : RowCovers ss front (firstStart lexemes next) stop)
      (last : (Node.statement s).Covers lexemes next) :
      RowCovers (ss ++ [s]) (front ++ lexemes) next next
  | closed {ss : List (Statement Span)} {s : Statement Span} {front lexemes : List Lexeme}
      {semicolon : Lexeme} {next stop : Nat}
      (before : RowCovers ss front (firstStart lexemes semicolon.span.start) stop)
      (last : (Node.statement s).Covers lexemes semicolon.span.start)
      (hsemicolon : semicolon.token = .semicolon) :
      RowCovers (ss ++ [s]) (front ++ (lexemes ++ [semicolon])) next semicolon.span.stop

/-- The program is read from the lexemes of a text that ends at `stop`. -/
structure Program.Covers (p : Program Span) (lexemes : List Lexeme) (stop : Nat) : Prop where
  start : p.label.start = firstStart lexemes stop
  statements : Statement.RowCovers p.statements lexemes stop p.label.stop

namespace Node.Covers

variable {n : Node Span} {lexemes : List Lexeme} {next : Nat}

theorem ne_nil (h : n.Covers lexemes next) : lexemes ≠ [] := by
  induction h with
  | term _ _ _ _ ih | expression _ _ _ _ ih => exact List.append_ne_nil_of_right_ne_nil _ ih
  | _ => simp

/-- A node starts where its first lexeme does. -/
theorem start_eq (h : n.Covers lexemes next) : n.label.start = firstStart lexemes next := by
  cases h with
  | @leaf f lexeme _ token =>
    unfold Lexeme.leaf? at token
    split at token <;> cases token <;> rfl
  | group | term | expression | print | bind => rfl

end Node.Covers

/-! ## 3. What a reading holds -/

/-- The chain left of the next operand is read from the lexemes. -/
inductive LeftPart.Covers : LeftPart → List Lexeme → Prop
  | mk {terms : List (Piece (Term Span) SumOp)} {factors : List (Piece (Factor Span) ProductOp)}
      (hterms : ∀ p ∈ terms, (Node.term p.operand).Covers p.lexemes p.sign.span.start)
      (hsums : ∀ p ∈ terms, p.sign.token = .sum p.op)
      (hfactors : ∀ p ∈ factors, (Node.factor p.operand).Covers p.lexemes p.sign.span.start)
      (hproducts : ∀ p ∈ factors, p.sign.token = .product p.op) :
      LeftPart.Covers ⟨(terms.map Piece.pair).reverse, (factors.map Piece.pair).reverse⟩
        (Piece.row terms ++ Piece.row factors)

theorem LeftPart.covers_empty : LeftPart.empty.Covers [] :=
  @LeftPart.Covers.mk [] [] (by simp) (by simp) (by simp) (by simp)

/-- The term that a chain of factors makes, with its last factor. -/
theorem LeftPart.closeTerm_covers {pieces : List (Piece (Factor Span) ProductOp)}
    {last : Factor Span} {lexemes : List Lexeme} {next : Nat}
    (front : ∀ p ∈ pieces, (Node.factor p.operand).Covers p.lexemes p.sign.span.start)
    (signs : ∀ p ∈ pieces, p.sign.token = .product p.op)
    (back : (Node.factor last).Covers lexemes next) (terms : List (Term Span × SumOp)) :
    (Node.term (closeTerm ⟨terms, (pieces.map Piece.pair).reverse⟩ last next)).Covers
      (Piece.row pieces ++ lexemes) next := by
  have hterm := Node.Covers.term front signs back
  cases pieces with
  | nil =>
    have hstart : last.label.start = _ := back.start_eq
    simpa [closeTerm, hstart] using hterm
  | cons piece pieces =>
    have hfirst := front piece List.mem_cons_self
    have hstart : piece.operand.label.start = _ := hfirst.start_eq
    simpa [closeTerm, hstart, Piece.pair, Function.comp_def] using hterm

namespace LeftPart.Covers

variable {left : LeftPart} {front lexemes : List Lexeme} {last : Factor Span} {next : Nat}

/-- The expression that a chain makes, with its last factor. -/
theorem close (h : left.Covers front) (hlast : (Node.factor last).Covers lexemes next) :
    (Node.expression (left.close last next)).Covers (front ++ lexemes) next := by
  obtain @⟨terms, factors, hterms, hsums, hfactors, hproducts⟩ := h
  have hterm := closeTerm_covers hfactors hproducts hlast (terms.map Piece.pair).reverse
  have hexpression := Node.Covers.expression hterms hsums hterm
  cases terms with
  | nil =>
    have hstart : (closeTerm ⟨[], _⟩ last next).label.start = _ := hterm.start_eq
    simpa [LeftPart.close, hstart] using hexpression
  | cons piece pieces =>
    have hstart : piece.operand.label.start = _ := (hterms piece List.mem_cons_self).start_eq
    simpa [LeftPart.close, hstart, Piece.pair, Function.comp_def] using hexpression

/-- A factor and the operator of a product join the term in the making. -/
theorem product {sign : Lexeme} {op : ProductOp} (h : left.Covers front)
    (hlast : (Node.factor last).Covers lexemes sign.span.start)
    (token : sign.token = .product op) :
    (LeftPart.mk left.terms ((last, op) :: left.factors)).Covers
      (front ++ (lexemes ++ [sign])) := by
  obtain @⟨terms, factors, hterms, hsums, hfactors, hproducts⟩ := h
  have hcovers := @LeftPart.Covers.mk terms (factors ++ [⟨last, op, lexemes, sign⟩]) hterms hsums
    (by simpa [or_imp, forall_and] using ⟨hfactors, hlast⟩)
    (by simpa [or_imp, forall_and] using ⟨hproducts, token⟩)
  simpa [Piece.pair] using hcovers

/-- A factor ends its term, and the operator of a sum comes behind it. -/
theorem sum {sign : Lexeme} {op : SumOp} (h : left.Covers front)
    (hlast : (Node.factor last).Covers lexemes sign.span.start) (token : sign.token = .sum op) :
    (LeftPart.mk ((left.closeTerm last sign.span.start, op) :: left.terms) []).Covers
      (front ++ (lexemes ++ [sign])) := by
  obtain @⟨terms, factors, hterms, hsums, hfactors, hproducts⟩ := h
  have hterm := closeTerm_covers hfactors hproducts hlast (terms.map Piece.pair).reverse
  have hcovers := @LeftPart.Covers.mk
    (terms ++ [⟨_, op, Piece.row factors ++ lexemes, sign⟩]) []
    (by simpa [or_imp, forall_and] using ⟨hterms, hterm⟩)
    (by simpa [or_imp, forall_and] using ⟨hsums, token⟩) (by simp) (by simp)
  simpa [Piece.pair] using hcovers

end LeftPart.Covers

/-- Where the first word of a statement starts. -/
def Head.start : Head → Nat
  | .print start | .bind start _ => start

/-- The part of a statement before its expression is read from the lexemes. -/
inductive Head.Covers : Head → List Lexeme → Prop
  | print {word : Lexeme} (hword : word.token = .printWord) :
      Head.Covers (.print word.span.start) [word]
  | bind {s : String} {word name assign : Lexeme} (hword : word.token = .letWord)
      (hname : name.token = .name s) (hassign : assign.token = .assign) :
      Head.Covers (.bind word.span.start s) [word, name, assign]

namespace Head.Covers

variable {head : Head} {lexemes : List Lexeme}

theorem start_eq (h : head.Covers lexemes) (next : Nat) :
    firstStart lexemes next = head.start := by
  cases h <;> rfl

theorem close {e : Expression Span} {back : List Lexeme} {next : Nat} (h : head.Covers lexemes)
    (he : (Node.expression e).Covers back next) :
    (Node.statement (head.close e)).Covers (lexemes ++ back) next := by
  cases h with
  | print hword => exact .print hword he
  | bind hword hname hassign => exact .bind hword hname hassign he

end Head.Covers

/-- The open parentheses, innermost first, are read from the lexemes, each with
the chain to its left. -/
inductive GroupsCover : List (Nat × LeftPart) → List Lexeme → Prop
  | nil : GroupsCover [] []
  | cons {groups : List (Nat × LeftPart)} {outer : LeftPart} {paren : Lexeme}
      {front lexemes : List Lexeme} (rest : GroupsCover groups front)
      (left : outer.Covers lexemes) (hparen : paren.token = .openParen) :
      GroupsCover ((paren.span.start, outer) :: groups) (front ++ (lexemes ++ [paren]))

/-- A statement in the making, and those before it, are read from the lexemes. -/
inductive Draft.Covers : Draft → List Lexeme → Prop
  | mk {done : List (Statement Span)} {head : Head} {groups : List (Nat × LeftPart)}
      {left : LeftPart} {front first opened lexemes : List Lexeme} {stop : Nat}
      (before : Statement.RowCovers done.reverse front head.start stop)
      (hhead : head.Covers first) (hgroups : GroupsCover groups opened)
      (hleft : left.Covers lexemes) :
      Draft.Covers ⟨done, head, groups, left⟩ (front ++ (first ++ (opened ++ lexemes)))

namespace Draft.Covers

variable {draft : Draft} {front lexemes : List Lexeme} {last : Factor Span} {next : Nat}

theorem start {done : List (Statement Span)} {head : Head} {stop : Nat}
    (before : Statement.RowCovers done.reverse front head.start stop)
    (hhead : head.Covers lexemes) : (Draft.start done head).Covers (front ++ lexemes) := by
  simpa [Draft.start] using Draft.Covers.mk before hhead .nil LeftPart.covers_empty

/-- Outside all parentheses the statement may end. -/
theorem close (h : draft.Covers front) (hgroups : draft.groups = [])
    (hlast : (Node.factor last).Covers lexemes next) :
    ∃ before own s stop, front ++ lexemes = before ++ own ∧
      (draft.close last next).reverse = draft.done.reverse ++ [s] ∧
      Statement.RowCovers draft.done.reverse before (firstStart own next) stop ∧
      (Node.statement s).Covers own next := by
  obtain @⟨done, head, groups, left, front, first, opened, row, stop, before, hhead, hopen,
    hleft⟩ := h
  cases hgroups
  cases hopen
  have hstatement := hhead.close (hleft.close hlast)
  refine ⟨front, first ++ (row ++ lexemes), _, stop, by simp, by simp [Draft.close], ?_, hstatement⟩
  rw [firstStart_append, hhead.start_eq]
  exact before

end Draft.Covers

/-- What is known between two lexemes, after the given ones and with `next` the
start of what follows. -/
inductive Reading.Covers : Reading → List Lexeme → Nat → Prop
  | boundary {done : List (Statement Span)} {lexemes : List Lexeme} {next stop : Nat}
      (before : Statement.RowCovers done.reverse lexemes next stop) :
      Reading.Covers (.boundary done stop) lexemes next
  | binding {done : List (Statement Span)} {unclosed : Bool} {word : Lexeme}
      {front : List Lexeme} {next stop : Nat}
      (before : Statement.RowCovers done.reverse front word.span.start stop)
      (hword : word.token = .letWord) :
      Reading.Covers (.binding done word.span.start unclosed) (front ++ [word]) next
  | bound {done : List (Statement Span)} {unclosed : Bool} {s : String} {word name : Lexeme}
      {front : List Lexeme} {next stop : Nat}
      (before : Statement.RowCovers done.reverse front word.span.start stop)
      (hword : word.token = .letWord) (hname : name.token = .name s) :
      Reading.Covers (.bound done word.span.start unclosed s) (front ++ [word, name]) next
  | operand {draft : Draft} {lexemes : List Lexeme} {next : Nat} (hdraft : draft.Covers lexemes) :
      Reading.Covers (.operand draft) lexemes next
  | operator {draft : Draft} {last : Factor Span} {front lexemes : List Lexeme} {next : Nat}
      (hdraft : draft.Covers front) (hlast : (Node.factor last).Covers lexemes next) :
      Reading.Covers (.operator draft last) (front ++ lexemes) next

namespace Reading

variable {reading reading' : Reading} {lexeme : Lexeme} {lexemes : List Lexeme} {next : Nat}

theorem Covers.finish {statements : List (Statement Span)} {stop : Nat}
    (h : reading.Covers lexemes next) (hfinish : reading.finish next = some (statements, stop)) :
    Statement.RowCovers statements lexemes next stop := by
  cases h with
  | boundary before =>
    cases hfinish
    exact before
  | binding | bound | operand => cases hfinish
  | operator hdraft hlast =>
    simp only [Reading.finish] at hfinish
    split at hfinish
    next hgroups =>
      cases hfinish
      obtain ⟨before, own, s, stop, hrow, hclose, hbefore, hs⟩ :=
        hdraft.close (List.isEmpty_iff.mp hgroups) hlast
      rw [hrow, hclose]
      exact .unclosed hbefore hs
    next => cases hfinish

theorem Covers.statements {done : List (Statement Span)} (h : reading.Covers lexemes next)
    (whole : reading.statements? next = some done) :
    ∃ stop, Statement.RowCovers done.reverse lexemes next stop := by
  obtain ⟨stop, hfinish⟩ := exists_finish whole
  exact ⟨stop, h.finish hfinish⟩

/-- A step takes in its lexeme, whatever comes after it. -/
theorem Step.covers (hstep : Step lexeme reading reading')
    (h : reading.Covers lexemes lexeme.span.start) (next : Nat) :
    reading'.Covers (lexemes ++ [lexeme]) next := by
  cases hstep with
  | print token whole =>
    obtain ⟨stop, hbefore⟩ := h.statements whole
    exact .operand (.start hbefore (.print token))
  | letWord token whole =>
    obtain ⟨stop, hbefore⟩ := h.statements whole
    exact .binding hbefore token
  | name token =>
    cases h with
    | binding hbefore hword => simpa using Reading.Covers.bound hbefore hword token
  | assign token =>
    cases h with
    | bound hbefore hword hname =>
      simpa using Reading.Covers.operand (.start hbefore (.bind hword hname token))
  | leaf token =>
    cases h with
    | operand hdraft => exact .operator hdraft (.leaf token)
  | openParen token =>
    cases h with
    | operand hdraft =>
      obtain ⟨hbefore, hhead, hgroups, hleft⟩ := hdraft
      have hopened := hgroups.cons hleft token
      simpa using Reading.Covers.operand (.mk hbefore hhead hopened LeftPart.covers_empty)
  | product token =>
    cases h with
    | operator hdraft hlast =>
      obtain ⟨hbefore, hhead, hgroups, hleft⟩ := hdraft
      simpa using Reading.Covers.operand (.mk hbefore hhead hgroups (hleft.product hlast token))
  | sum token =>
    cases h with
    | operator hdraft hlast =>
      obtain ⟨hbefore, hhead, hgroups, hleft⟩ := hdraft
      simpa using Reading.Covers.operand (.mk hbefore hhead hgroups (hleft.sum hlast token))
  | closeParen token =>
    cases h with
    | operator hdraft hlast =>
      obtain ⟨hbefore, hhead, hgroups, hleft⟩ := hdraft
      cases hgroups with
      | cons hrest houter hparen =>
        have hgroup := @Node.Covers.group _ _ _ _ next hparen token (hleft.close hlast)
        simpa using Reading.Covers.operator (.mk hbefore hhead hrest houter) hgroup
  | semicolon token whole =>
    cases h with
    | @operator _ _ front own _ hdraft hlast =>
      rcases statements?_eq_some whole with ⟨stop, heq⟩ | ⟨draft, last, heq, hgroups, rfl⟩
      · cases heq
      · cases heq
        obtain ⟨before, own', s, stop, hrow, hclose, hbefore, hs⟩ := hdraft.close hgroups hlast
        have hcovers := @Statement.RowCovers.closed _ _ _ _ _ next _ hbefore hs token
        rw [← hclose, ← List.append_assoc, ← hrow] at hcovers
        exact .boundary hcovers

theorem Covers.run (hrun : reading.run lexemes = .ok reading') {front : List Lexeme} {stop : Nat}
    (h : reading.Covers front (firstStart lexemes stop)) :
    reading'.Covers (front ++ lexemes) stop := by
  induction lexemes generalizing reading front with
  | nil =>
    cases hrun
    simpa using h
  | cons lexeme lexemes ih =>
    obtain ⟨middle, hstep, hrest⟩ := exists_step_of_run hrun
    simpa using ih hrest (hstep.covers h (firstStart lexemes stop))

end Reading

/-- A program that is read is laid out over its lexemes. -/
theorem Program.covers_of_ofScan {scan : Scan} {tree : Program Span}
    (h : ofScan scan = .ok tree) : tree.Covers scan.lexemes scan.stop := by
  simp only [ofScan, bind, Except.bind] at h
  split at h
  next => cases h
  next reading hrun =>
    split at h
    next statements stop hcomplete hfinish =>
      cases h
      have hcovers : reading.Covers ([] ++ scan.lexemes) scan.stop :=
        .run hrun (.boundary (by cases scan.lexemes <;> exact .nil))
      exact ⟨by cases scan.lexemes <;> rfl, hcovers.finish hfinish⟩
    next => cases h

/-! ## 4. Down the tree -/

/-- The nodes are read from stretches of the lexemes, one behind the other. -/
inductive Node.AllCover : List (Node Span) → List Lexeme → Nat → Prop
  | nil {lexemes : List Lexeme} {next : Nat} : AllCover [] lexemes next
  | cons {n : Node Span} {ns : List (Node Span)} {front own back : List Lexeme} {next : Nat}
      (hn : n.Covers own (firstStart back next)) (rest : AllCover ns back next) :
      AllCover (n :: ns) (front ++ (own ++ back)) next

/-- The node is read from a stretch of the lexemes. -/
def Node.Inside (n : Node Span) (lexemes : List Lexeme) (next : Nat) : Prop :=
  ∃ front own back, lexemes = front ++ (own ++ back) ∧ n.Covers own (firstStart back next)

namespace Node

variable {n m : Node Span} {ns ns' : List (Node Span)} {lexemes lexemes' : List Lexeme}
  {next : Nat}

theorem AllCover.skip (h : AllCover ns lexemes next) (front : List Lexeme) :
    AllCover ns (front ++ lexemes) next := by
  cases h with
  | nil => exact .nil
  | @cons n ns front' own back _ hn rest =>
    rw [← List.append_assoc]
    exact .cons hn rest

theorem AllCover.append (h : AllCover ns lexemes (firstStart lexemes' next))
    (h' : AllCover ns' lexemes' next) : AllCover (ns ++ ns') (lexemes ++ lexemes') next := by
  generalize hstart : firstStart lexemes' next = start at h
  induction h with
  | nil => exact h'.skip _
  | @cons n ns front own back start hn rest ih =>
    subst hstart
    rw [← firstStart_append] at hn
    simpa using AllCover.cons hn (ih rfl)

theorem Covers.allCover (h : n.Covers lexemes next) : AllCover [n] lexemes next := by
  simpa using @AllCover.cons n [] [] lexemes [] next h .nil

/-- The operands of a chain stand one behind the other, up to the last. -/
theorem AllCover.of_pieces {α ο : Type} (kind : α → Node Span) {pieces : List (Piece α ο)}
    (h : ∀ p ∈ pieces, (kind p.operand).Covers p.lexemes p.sign.span.start) :
    AllCover (pieces.map fun p => kind p.operand) (Piece.row pieces) next := by
  induction pieces with
  | nil => exact .nil
  | cons piece pieces ih =>
    obtain ⟨hpiece, hpieces⟩ := List.forall_mem_cons.mp h
    rw [List.map_cons, Piece.row_cons]
    exact @AllCover.cons _ _ [] _ _ _ hpiece ((ih hpieces).skip [piece.sign])

theorem Covers.parts (h : n.Covers lexemes next) : AllCover n.parts lexemes next := by
  cases h with
  | @leaf f lexeme _ token =>
    unfold Lexeme.leaf? at token
    split at token <;> cases token <;> exact .nil
  | @group e first last lexemes _ _ _ inner =>
    exact @AllCover.cons _ _ [first] _ [last] _ inner .nil
  | term front _ back =>
    simpa [Node.parts, Function.comp_def] using
      (AllCover.of_pieces .factor front).append back.allCover
  | expression front _ back =>
    simpa [Node.parts, Function.comp_def] using
      (AllCover.of_pieces .term front).append back.allCover
  | @print _ word _ _ _ value => exact value.allCover.skip [word]
  | @bind _ _ word name assign _ _ _ _ _ value => exact value.allCover.skip [word, name, assign]

theorem AllCover.inside (h : AllCover ns lexemes next) (hn : n ∈ ns) : n.Inside lexemes next := by
  induction h with
  | nil => cases hn
  | @cons m ns front own back next hm rest ih =>
    rcases List.mem_cons.mp hn with rfl | hn
    · exact ⟨front, own, back, rfl, hm⟩
    · obtain ⟨front', own', back', rfl, hcovers⟩ := ih hn
      exact ⟨front ++ (own ++ front'), own', back', by simp, hcovers⟩

theorem Inside.part (h : n.Inside lexemes next) (hm : m ∈ n.parts) : m.Inside lexemes next := by
  obtain ⟨front, own, back, rfl, hcovers⟩ := h
  obtain ⟨front', own', back', rfl, hcovers'⟩ := hcovers.parts.inside hm
  rw [← firstStart_append] at hcovers'
  exact ⟨front ++ front', own', back' ++ back, by simp, hcovers'⟩

end Node

theorem Statement.RowCovers.parts {ss : List (Statement Span)} {lexemes : List Lexeme}
    {next stop : Nat} (h : RowCovers ss lexemes next stop) :
    Node.AllCover (ss.map .statement) lexemes next := by
  induction h with
  | nil => exact .nil
  | unclosed before last ih =>
    rw [List.map_append]
    exact ih.append last.allCover
  | @closed ss s front lexemes semicolon next stop before last hsemicolon ih =>
    have hlast : Node.AllCover [.statement s] (lexemes ++ [semicolon]) next :=
      @Node.AllCover.cons _ _ [] _ [semicolon] _ last .nil
    rw [List.map_append]
    refine Node.AllCover.append ?_ hlast
    rwa [firstStart_append]

/-- Every node of a program but its root is read from some of its lexemes. -/
theorem Program.Covers.inside {p : Program Span} {lexemes : List Lexeme} {stop : Nat}
    (h : p.Covers lexemes stop) {n m : Node Span} (hn : (Node.program p).Below n)
    (hm : m ∈ n.parts) : m.Inside lexemes stop := by
  induction hn generalizing m with
  | root => exact h.statements.parts.inside hm
  | part _ hpart ih => exact (ih hpart).part hm

end Printlet
