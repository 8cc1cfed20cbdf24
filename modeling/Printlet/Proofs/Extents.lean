/-
Printlet.Proofs.Extents — where the span of a node ends.

A span starts with the first token of its node. It ends with the last one too,
except for the nodes that trail: a term of one factor, an expression of one term
or with a last term that trails, and a statement whose expression trails. These
reach on to the next token, or to the end of the text, over all blanks and
comments before it (`Node.Covers.stop_eq`).

So the span of a node is exactly its own text where the node does not trail, or
where nothing stands between its last token and what follows
(`Program.extent_of_parse`); the statement `print 2 * 3 // c` before another one is
a node where the two differ (`Program.extent_past_comment`).
-/
import Printlet.Proofs.Layout

namespace Printlet

variable {α β : Type}

/-! ## 1. Nodes that trail -/

/-- A term of one factor reaches on to the next token. -/
def Term.trails : Term α → Bool
  | .mk _ fs _ => fs.length == 1

/-- An expression of one term reaches on to the next token, and so does one whose
last term does. -/
def Expression.trails : Expression α → Bool
  | .mk _ ts _ => ts.length == 1 || ts.getLast?.any Term.trails

/-- Whether the span of a node reaches on to the next token. -/
def Node.trails : Node α → Bool
  | .statement s => s.value.trails
  | .expression e => e.trails
  | .term t => t.trails
  | .program _ | .factor _ => false

@[simp] theorem Term.trails_mk (l : α) (front : List (Factor α)) (last : Factor α)
    (ops : List ProductOp) : (Term.mk l (front ++ [last]) ops).trails = front.isEmpty := by
  cases front <;> simp [Term.trails]

@[simp] theorem Expression.trails_mk (l : α) (front : List (Term α)) (last : Term α)
    (ops : List SumOp) :
    (Expression.mk l (front ++ [last]) ops).trails = (front.isEmpty || last.trails) := by
  rw [Expression.trails, List.getLast?_concat]
  cases front <;> simp

@[simp] theorem Term.trails_relabel (g : α → β) (t : Term α) :
    (t.relabel g).trails = t.trails := by
  cases t
  simp [Term.relabel, Term.trails, Factor.relabelAll_eq_map]

@[simp] theorem Expression.trails_relabel (g : α → β) (e : Expression α) :
    (e.relabel g).trails = e.trails := by
  cases e
  simp [Expression.relabel, Expression.trails, Term.relabelAll_eq_map, Option.any_map]

@[simp] theorem Node.trails_relabel (g : α → β) (n : Node α) :
    (n.relabel g).trails = n.trails := by
  cases n with
  | program | factor => rfl
  | statement s => cases s <;> simp [Node.relabel, Node.trails, Statement.relabel, Statement.value]
  | expression e => exact e.trails_relabel g
  | term t => exact t.trails_relabel g

/-! ## 2. The lexemes of a node -/

/-- Where the last of some lexemes stops; `start` if there is none. -/
def lastStop (lexemes : List Lexeme) (start : Nat) : Nat :=
  lexemes.getLast?.elim start (·.span.stop)

theorem lastStop_append (front : List Lexeme) {back : List Lexeme} (h : back ≠ []) (start : Nat) :
    lastStop (front ++ back) start = lastStop back start := by
  rw [lastStop, lastStop, List.getLast?_append_of_ne_nil _ h]

namespace Piece

variable {ο : Type}

theorem mem_row {piece : Piece α ο} {pieces : List (Piece α ο)} {lexeme : Lexeme}
    (hpiece : piece ∈ pieces) (h : lexeme ∈ piece.lexemes) : lexeme ∈ row pieces :=
  List.mem_flatMap.mpr ⟨piece, hpiece, List.mem_append_left _ h⟩

/-- The tokens of a row of pieces, from the tokens of each. -/
theorem tokens_row (tokens : α → List Token) (sign : ο → Token) {pieces : List (Piece α ο)}
    (hoperands : ∀ p ∈ pieces, p.lexemes.map (·.token) = tokens p.operand)
    (hsigns : ∀ p ∈ pieces, p.sign.token = sign p.op) :
    (row pieces).map (·.token) =
      (pieces.map pair).flatMap fun part => tokens part.1 ++ [sign part.2] := by
  induction pieces with
  | nil => rfl
  | cons piece pieces ih =>
    obtain ⟨hoperand, hoperands⟩ := List.forall_mem_cons.mp hoperands
    obtain ⟨hsign, hsigns⟩ := List.forall_mem_cons.mp hsigns
    simp [pair, hoperand, hsign, ih hoperands hsigns]

end Piece

namespace Node.Covers

variable {n : Node Span} {lexemes : List Lexeme} {next : Nat}

/-- **The end of a node** is that of its last lexeme, or the start of what
follows. -/
theorem stop_eq (h : n.Covers lexemes next) :
    n.label.stop = if n.trails then next else lastStop lexemes 0 := by
  induction h with
  | leaf token =>
    unfold Lexeme.leaf? at token
    split at token <;> cases token <;> rfl
  | @group e first last lexemes next hfirst hlast inner ih =>
    have hlast : lastStop (first :: (lexemes ++ [last])) 0 = last.span.stop :=
      lastStop_append (first :: lexemes) (List.cons_ne_nil last []) 0
    simp [Node.label, Factor.label, Node.trails, hlast]
  | @term pieces last lexemes next front signs back ihf ihb =>
    have hlast : last.label.stop = lastStop lexemes 0 := by
      simpa [Node.label, Node.trails] using ihb
    rw [lastStop_append _ back.ne_nil, ← hlast]
    simp only [Node.label, Term.label, Node.trails, Term.trails_mk, List.isEmpty_map]
  | @expression pieces last lexemes next front signs back ihf ihb =>
    have hlast : last.label.stop = if last.trails then next else lastStop lexemes 0 := ihb
    rw [lastStop_append _ back.ne_nil]
    simp only [Node.label, Expression.label, Node.trails, Expression.trails_mk, List.isEmpty_map]
    cases pieces.isEmpty <;> simp [hlast]
  | @print e word lexemes next hword value ih =>
    rw [← List.singleton_append, lastStop_append [word] value.ne_nil]
    exact ih
  | @bind s e word name assign lexemes next hword hname hassign value ih =>
    have hrow : lastStop ([word, name, assign] ++ lexemes) 0 = lastStop lexemes 0 :=
      lastStop_append _ value.ne_nil 0
    rw [← hrow] at ih
    exact ih

/-- A node is read from its own tokens. -/
theorem tokens_eq (h : n.Covers lexemes next)
    (hsize : ∀ lexeme ∈ lexemes, lexeme.token.isOversized = false) :
    lexemes.map (·.token) = n.tokens := by
  induction h with
  | leaf token => simpa [Node.tokens] using (Reading.tokens_leaf token (by simpa using hsize)).symm
  | @group e first last lexemes next hfirst hlast inner ih =>
    have hinner : lexemes.map (·.token) = e.tokens := ih fun lexeme h => hsize lexeme (by simp [h])
    simp [Node.tokens, Factor.tokens, hfirst, hlast, hinner]
  | @term pieces last lexemes next front signs back ihf ihb =>
    have hlast : lexemes.map (·.token) = last.tokens :=
      ihb fun lexeme h => hsize lexeme (by simp [h])
    have hrow := Piece.tokens_row Factor.tokens Token.product
      (fun p hp => ihf p hp fun lexeme h =>
        hsize lexeme (List.mem_append_left _ (Piece.mem_row hp h))) signs
    have hchain := Factor.tokensOfAll_append (pieces.map Piece.pair) [last] []
    rw [List.map_append, hrow, hlast]
    simpa [Node.tokens, Term.tokens, Piece.pair, Function.comp_def, Factor.tokensOfAll]
      using hchain.symm
  | @expression pieces last lexemes next front signs back ihf ihb =>
    have hlast : lexemes.map (·.token) = last.tokens :=
      ihb fun lexeme h => hsize lexeme (by simp [h])
    have hrow := Piece.tokens_row Term.tokens Token.sum
      (fun p hp => ihf p hp fun lexeme h =>
        hsize lexeme (List.mem_append_left _ (Piece.mem_row hp h))) signs
    have hchain := Term.tokensOfAll_append (pieces.map Piece.pair) [last] []
    rw [List.map_append, hrow, hlast]
    simpa [Node.tokens, Expression.tokens, Piece.pair, Function.comp_def, Term.tokensOfAll]
      using hchain.symm
  | @print e word lexemes next hword value ih =>
    have hvalue : lexemes.map (·.token) = e.tokens := ih fun lexeme h => hsize lexeme (by simp [h])
    simp [Node.tokens, Statement.tokens, hword, hvalue]
  | @bind s e word name assign lexemes next hword hname hassign value ih =>
    have hvalue : lexemes.map (·.token) = e.tokens := ih fun lexeme h => hsize lexeme (by simp [h])
    simp [Node.tokens, Statement.tokens, hword, hname, hassign, hvalue]

/-- The first and the last lexeme of a node, and its span by them. -/
theorem extent (h : n.Covers lexemes next) :
    ∃ first last, lexemes.head? = some first ∧ lexemes.getLast? = some last ∧
      n.label.start = first.span.start ∧
      n.label.stop = if n.trails then next else last.span.stop := by
  have hfirst := List.head?_eq_some_head h.ne_nil
  have hlast := List.getLast?_eq_some_getLast h.ne_nil
  refine ⟨_, _, hfirst, hlast, ?_, ?_⟩
  · rw [h.start_eq, firstStart, hfirst]
    rfl
  · rw [h.stop_eq, lastStop, hlast]
    rfl

end Node.Covers

/-! ## 3. Spans of a source -/

namespace Program

/-- **Where spans start and end.** The lexemes of a source that is read stand at
their places in it. Every node but the root has a stretch of them, which are its
own tokens. Its span starts with the first of them and ends with the last, or
with what follows if the node trails. So the span is that of its own text if and
only if the node does not trail or nothing stands between it and what follows. -/
theorem extent_of_parse {source : String} {parsed : Parsed} (h : parse source = .ok parsed) :
    Located 0 (Scan.ofSource source).lexemes source.toList ∧
      ∀ n m, (Node.program parsed.program).Below n → m ∈ n.parts →
        ∃ before own after first last span,
          (Scan.ofSource source).lexemes = before ++ (own ++ after) ∧
          own.map (·.token) = m.tokens ∧
          own.head? = some first ∧ own.getLast? = some last ∧
          parsed.spans[m.label]? = some span ∧
          span.start = first.span.start ∧
          span.stop = (if m.trails then firstStart after (Source.byteLength source.toList)
            else last.span.stop) ∧
          (span = ⟨first.span.start, last.span.stop⟩ ↔
            m.trails = false ∨
              firstStart after (Source.byteLength source.toList) = last.span.stop) := by
  obtain ⟨tree, htree, hsize, rfl⟩ := parse_eq_ok_iff.mp h
  obtain ⟨hcomplete, -⟩ := ofScan_eq_ok htree
  obtain ⟨hlocated, hstop⟩ := Scan.located hcomplete
  refine ⟨hlocated, ?_⟩
  intro n m hn hm
  obtain ⟨n', m', hn', hm', heq⟩ := exists_part_of_number hn hm
  obtain ⟨before, own, after, hrow, hcovers⟩ := (covers_of_ofScan htree).inside hn' hm'
  obtain ⟨first, last, hfirst, hlast, hbegin, hend⟩ := hcovers.extent
  have hspan : tree.labels[m.label]? = some m'.label := by
    simpa using congrArg Node.label heq
  have htokens : m.tokens = m'.tokens := by simpa using congrArg Node.tokens heq
  have htrails : m.trails = m'.trails := by simpa using congrArg Node.trails heq
  have hsize' : ∀ lexeme ∈ own, lexeme.token.isOversized = false := fun lexeme hmem =>
    hsize lexeme (by simp [hrow, hmem])
  have hlength : (Scan.ofSource source).stop = Source.byteLength source.toList := by
    simpa [Scan.ofSource] using hstop
  rw [hlength, ← htrails] at hend
  refine ⟨before, own, after, first, last, m'.label, hrow,
    (hcovers.tokens_eq hsize').trans htokens.symm, hfirst, hlast, hspan, hbegin, hend, ?_⟩
  have hparts : m'.label = ⟨first.span.start, last.span.stop⟩ ↔
      m'.label.stop = last.span.stop := by
    constructor
    · intro hlabel
      rw [hlabel]
    · intro hlabel
      rw [← hbegin, ← hlabel]
  rw [hparts, hend]
  cases m.trails <;> simp

end Program

/-- The source `print 2 * 3 // c` and, on a second line, `print 4`, as it is
read. -/
def Parsed.commented : Parsed :=
  ⟨⟨0, [
    .print 1 (.mk 2 [.mk 3 [.int 4 2, .int 5 3] [.mul]] []),
    .print 6 (.mk 7 [.mk 8 [.int 9 4] []] [])]⟩,
   [⟨0, 24⟩, ⟨0, 17⟩, ⟨6, 17⟩, ⟨6, 11⟩, ⟨6, 7⟩, ⟨10, 11⟩, ⟨17, 24⟩, ⟨23, 24⟩, ⟨23, 24⟩, ⟨23, 24⟩]⟩

theorem Parsed.parse_commented :
    Program.parse "print 2 * 3 // c\nprint 4" = .ok commented := by
  have hscan : Scan.ofSource "print 2 * 3 // c\nprint 4" =
      ⟨[⟨.printWord, ⟨0, 5⟩⟩, ⟨.int 2, ⟨6, 7⟩⟩, ⟨.product .mul, ⟨8, 9⟩⟩, ⟨.int 3, ⟨10, 11⟩⟩,
        ⟨.printWord, ⟨17, 22⟩⟩, ⟨.int 4, ⟨23, 24⟩⟩], 24, true⟩ := by
    decide +kernel
  rw [Program.parse, hscan]
  rfl

namespace Program

/-- The product `2 * 3` ends with its last factor, before the comment. -/
theorem extent_of_parse_product :
    ∃ before own after first last span,
      (Scan.ofSource "print 2 * 3 // c\nprint 4").lexemes = before ++ (own ++ after) ∧
      own.map (·.token) = [.int 2, .product .mul, .int 3] ∧
      own.head? = some first ∧ own.getLast? = some last ∧
      Parsed.commented.spans[3]? = some span ∧ span = ⟨first.span.start, last.span.stop⟩ := by
  have hvalue : (Node.program Parsed.commented.program).Below
      (.expression (.mk 2 [.mk 3 [.int 4 2, .int 5 3] [.mul]] [])) :=
    .part (.part .root List.mem_cons_self) List.mem_cons_self
  obtain ⟨before, own, after, first, last, span, hrow, htokens, hfirst, hlast, hspan, -, -,
    hexact⟩ := (extent_of_parse Parsed.parse_commented).2 _ _ hvalue List.mem_cons_self
  exact ⟨before, own, after, first, last, span, hrow, htokens, hfirst, hlast, hspan,
    hexact.mpr (.inl rfl)⟩

/-- Not every span ends with the last token of its node: that of the statement
before the comment reaches over it. -/
theorem extent_past_comment :
    ¬ ∀ (source : String) (parsed : Parsed), parse source = .ok parsed →
      ∀ n m, (Node.program parsed.program).Below n → m ∈ n.parts →
        ∃ before own after first last,
          (Scan.ofSource source).lexemes = before ++ (own ++ after) ∧
          own.map (·.token) = m.tokens ∧
          own.head? = some first ∧ own.getLast? = some last ∧
          parsed.spans[m.label]? = some ⟨first.span.start, last.span.stop⟩ := by
  intro h
  obtain ⟨before, own, after, first, last, hrow, -, -, hlast, hspan⟩ :=
    h _ _ Parsed.parse_commented _ _ .root List.mem_cons_self
  have hstop : 17 = last.span.stop := congrArg Span.stop (Option.some.inj hspan)
  have hmem : last ∈ (Scan.ofSource "print 2 * 3 // c\nprint 4").lexemes := by
    simp [hrow, List.mem_of_getLast? hlast]
  -- No token of this source ends at the start of the second line.
  have hnone : ∀ lexeme ∈ (Scan.ofSource "print 2 * 3 // c\nprint 4").lexemes,
      17 ≠ lexeme.span.stop := by
    decide +kernel
  exact hnone last hmem hstop

end Program

end Printlet
