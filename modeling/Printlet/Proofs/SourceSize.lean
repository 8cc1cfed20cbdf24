/-
Printlet.Proofs.SourceSize — how large a unit a source can give.

The lengths in a unit are written with sixty-four bits. That they fit is a
matter of the source's length alone: each token adds a bounded amount to the
tree, each node a bounded number of moves, and each move one instruction and a
constant at most. All of this is counted by one measure, the weight, which
tokens, trees and moves have alike and which no stage increases:

* scanning, `Scan.sum_weight_le` — a source of `n` bytes weighs `5 * n` at most;
* reading, `Reading.Step.weight_le` for one token, `Reading.weight_run_le` for all;
* numbering, `Program.weight_number`;
* listing the moves, `Program.sum_moves_le`;
* emitting, `Emits.length_eq` and `Emits.sum_constants_le`.

An instruction takes ten bytes at most, so the code of a source takes
`50 * n + 10` bytes at most. `compileSource_sized` draws the conclusion for
sources of less than `2 ^ 58` bytes, which is more than can be addressed.
-/
import Mathlib.Algebra.Order.BigOperators.Group.List
import Mathlib.Algebra.Order.Ring.Nat
import Printlet.Proofs.Emission
import Printlet.Proofs.EngineSteps
import Printlet.Proofs.ImageRoundTrip
import Printlet.Proofs.Lexing
import Printlet.Proofs.ReadingSteps

namespace Printlet

/-! ## Rows and texts -/

/-- A row is no longer than it is heavy. -/
theorem length_le_sum {β : Type} {weight : β → Nat} (h : ∀ x, 0 < weight x) (row : List β) :
    row.length ≤ (row.map weight).sum := by
  have hpos : ∀ n ∈ row.map weight, 1 ≤ n := List.forall_mem_map.mpr fun x _ => h x
  have hcount := List.length_le_sum_of_one_le (row.map weight) hpos
  rwa [List.length_map] at hcount

theorem Source.byteLength_eq_sum (cs : List Char) : byteLength cs = (cs.map Char.utf8Size).sum := by
  rw [byteLength, List.sum_eq_foldr, List.foldr_map]

theorem Source.length_le_byteLength (cs : List Char) : cs.length ≤ byteLength cs := by
  rw [byteLength_eq_sum]
  exact length_le_sum Char.utf8Size_pos cs

theorem Source.size_utf8Encode (cs : List Char) : cs.utf8Encode.size = byteLength cs := by
  induction cs with
  | nil => rfl
  | cons c cs ih =>
    rw [List.utf8Encode_cons, ByteArray.size_append, ih, List.utf8Encode_singleton,
      List.size_toByteArray, String.length_utf8EncodeChar]
    rfl

theorem Bytes.length_ofText (s : String) : (ofText s).length = Source.byteLength s.toList := by
  rw [← Source.size_utf8Encode, String.utf8Encode_toList]
  rfl

theorem byteLength_unquote?_le {literal text : String} (h : unquote? literal = some text) :
    Source.byteLength text.toList ≤ Source.byteLength literal.toList := by
  rw [unquote?] at h
  split at h
  next rest hliteral =>
    split at h
    · cases h
      rw [hliteral, String.toList_ofList, Source.byteLength_eq_sum, Source.byteLength_eq_sum]
      have hpart := ((List.dropLast_sublist rest).cons '"').map Char.utf8Size
      exact hpart.sum_le_sum fun _ _ => Nat.zero_le _
    · cases h
  next => cases h

/-! ## Trees -/

section Trees

variable {α : Type}

mutual

/-- What an expression can add to a unit. -/
def Expression.weight : Expression α → Nat
  | .mk _ terms _ => 2 + Term.weightAll terms

/-- What a term can add to a unit. -/
def Term.weight : Term α → Nat
  | .mk _ factors _ => 2 + Factor.weightAll factors

/-- What an operand, with an operator beside it, can add to a unit. -/
def Factor.weight : Factor α → Nat
  | .group _ inner => inner.weight
  | .int _ _ => 2
  | .text _ literal => 2 + Source.byteLength literal.toList
  | .name _ _ => 2

/-- The weights of terms, added up. -/
def Term.weightAll : List (Term α) → Nat
  | [] => 0
  | t :: ts => t.weight + Term.weightAll ts

/-- The weights of factors, added up. -/
def Factor.weightAll : List (Factor α) → Nat
  | [] => 0
  | f :: fs => f.weight + Factor.weightAll fs

end

/-- What a statement can add to a unit. -/
def Statement.weight : Statement α → Nat
  | .print _ value => 1 + value.weight
  | .bind _ _ value => 1 + value.weight

/-- What a program can add to a unit. -/
def Program.weight (p : Program α) : Nat :=
  (p.statements.map Statement.weight).sum

theorem Term.weightAll_eq_sum (ts : List (Term α)) :
    Term.weightAll ts = (ts.map Term.weight).sum := by
  induction ts with
  | nil => rw [Term.weightAll, List.map_nil, List.sum_nil]
  | cons t ts ih => rw [Term.weightAll, List.map_cons, List.sum_cons, ih]

theorem Factor.weightAll_eq_sum (fs : List (Factor α)) :
    Factor.weightAll fs = (fs.map Factor.weight).sum := by
  induction fs with
  | nil => rw [Factor.weightAll, List.map_nil, List.sum_nil]
  | cons f fs ih => rw [Factor.weightAll, List.map_cons, List.sum_cons, ih]

/-! ### Numbering -/

mutual

theorem Expression.weight_number (n : Nat) :
    ∀ e : Expression α, (e.number n).1.weight = e.weight
  | .mk _ ts _ => by
      simp only [Expression.number, Expression.weight, Term.weightAll_numberAll (n + 1) ts]

theorem Term.weight_number (n : Nat) : ∀ t : Term α, (t.number n).1.weight = t.weight
  | .mk _ fs _ => by
      simp only [Term.number, Term.weight, Factor.weightAll_numberAll (n + 1) fs]

theorem Factor.weight_number (n : Nat) : ∀ f : Factor α, (f.number n).1.weight = f.weight
  | .group _ e => by simp only [Factor.number, Factor.weight, Expression.weight_number (n + 1) e]
  | .int _ _ => by simp only [Factor.number, Factor.weight]
  | .text _ _ => by simp only [Factor.number, Factor.weight]
  | .name _ _ => by simp only [Factor.number, Factor.weight]

theorem Term.weightAll_numberAll (n : Nat) :
    ∀ ts : List (Term α), Term.weightAll (Term.numberAll n ts).1 = Term.weightAll ts
  | [] => by simp only [Term.numberAll, Term.weightAll]
  | t :: ts => by
      simp only [Term.numberAll, Term.weightAll, Term.weight_number n t,
        Term.weightAll_numberAll (t.number n).2 ts]

theorem Factor.weightAll_numberAll (n : Nat) :
    ∀ fs : List (Factor α), Factor.weightAll (Factor.numberAll n fs).1 = Factor.weightAll fs
  | [] => by simp only [Factor.numberAll, Factor.weightAll]
  | f :: fs => by
      simp only [Factor.numberAll, Factor.weightAll, Factor.weight_number n f,
        Factor.weightAll_numberAll (f.number n).2 fs]

end

theorem Statement.weight_number (n : Nat) (s : Statement α) : (s.number n).1.weight = s.weight := by
  cases s with
  | print node value => simp only [Statement.number, Statement.weight, value.weight_number]
  | bind node name value => simp only [Statement.number, Statement.weight, value.weight_number]

theorem Statement.sum_numberAll (n : Nat) (ss : List (Statement α)) :
    ((Statement.numberAll n ss).map Statement.weight).sum = (ss.map Statement.weight).sum := by
  induction ss generalizing n with
  | nil => rfl
  | cons s ss ih => simp only [Statement.numberAll, List.map_cons, List.sum_cons, s.weight_number, ih]

/-- Labels weigh nothing. -/
theorem Program.weight_number (p : Program α) : p.number.weight = p.weight :=
  Statement.sum_numberAll 1 p.statements

/-! ### Moves -/

/-- What a move can add to a unit. -/
def Move.weight : Move α → Nat
  | .text _ literal => 1 + Source.byteLength literal.toList
  | _ => 1

theorem Move.weight_pos (move : Move α) : 0 < move.weight := by
  cases move <;> simp only [Move.weight] <;> omega

-- An operand is counted with the operator beside it, hence the one to spare.
mutual

theorem Expression.sum_moves_lt :
    ∀ e : Expression α, (e.moves.map Move.weight).sum < e.weight
  | .mk node [] ops => by
      simp only [Expression.moves, Expression.weight, List.map_cons, List.sum_cons, List.map_nil, List.sum_nil, Move.weight]
      omega
  | .mk node (t :: ts) ops => by
      have hfirst := Term.sum_moves_lt t
      have hrest := Term.sum_movesRest_le node ops ts
      rw [Expression.moves, Expression.weight, Term.weightAll]
      split
      · rw [List.map_append, List.sum_append]
        omega
      · simp only [List.map_cons, List.sum_cons, List.map_nil, List.sum_nil, Move.weight]
        omega

theorem Term.sum_movesRest_le (node : α) :
    ∀ (ops : List SumOp) (ts : List (Term α)),
      ((Term.movesRest node ops ts).map Move.weight).sum ≤ Term.weightAll ts
  | [], _ => by simp [Term.movesRest]
  | _ :: _, [] => by simp [Term.movesRest]
  | op :: ops, t :: ts => by
      have hfirst := Term.sum_moves_lt t
      have hrest := Term.sum_movesRest_le node ops ts
      simp only [Term.movesRest, Term.weightAll, List.map_append, List.sum_append, List.map_cons, List.sum_cons, Move.weight]
      omega

theorem Term.sum_moves_lt : ∀ t : Term α, (t.moves.map Move.weight).sum < t.weight
  | .mk node [] ops => by
      simp only [Term.moves, Term.weight, List.map_cons, List.sum_cons, List.map_nil, List.sum_nil, Move.weight]
      omega
  | .mk node (f :: fs) ops => by
      have hfirst := Factor.sum_moves_lt f
      have hrest := Factor.sum_movesRest_le node ops fs
      rw [Term.moves, Term.weight, Factor.weightAll]
      split
      · rw [List.map_append, List.sum_append]
        omega
      · simp only [List.map_cons, List.sum_cons, List.map_nil, List.sum_nil, Move.weight]
        omega

theorem Factor.sum_movesRest_le (node : α) :
    ∀ (ops : List ProductOp) (fs : List (Factor α)),
      ((Factor.movesRest node ops fs).map Move.weight).sum ≤ Factor.weightAll fs
  | [], _ => by simp [Factor.movesRest]
  | _ :: _, [] => by simp [Factor.movesRest]
  | op :: ops, f :: fs => by
      have hfirst := Factor.sum_moves_lt f
      have hrest := Factor.sum_movesRest_le node ops fs
      simp only [Factor.movesRest, Factor.weightAll, List.map_append, List.sum_append, List.map_cons, List.sum_cons, Move.weight]
      omega

theorem Factor.sum_moves_lt : ∀ f : Factor α, (f.moves.map Move.weight).sum < f.weight
  | .group _ inner => by
      rw [Factor.moves, Factor.weight]
      exact Expression.sum_moves_lt inner
  | .int _ _ => by simp [Factor.moves, Factor.weight, Move.weight]
  | .text _ _ => by simp [Factor.moves, Factor.weight, Move.weight]
  | .name _ _ => by simp [Factor.moves, Factor.weight, Move.weight]

end

theorem Statement.sum_moves_le (s : Statement α) : (s.moves.map Move.weight).sum ≤ s.weight := by
  cases s with
  | print node value =>
    have hvalue := value.sum_moves_lt
    simp only [Statement.moves, Statement.weight, List.map_cons, List.sum_cons, List.map_append, List.sum_append, List.map_nil, List.sum_nil, Move.weight]
    omega
  | bind node name value =>
    have hvalue := value.sum_moves_lt
    simp only [Statement.moves, Statement.weight, List.map_cons, List.sum_cons, List.map_append, List.sum_append, List.map_nil, List.sum_nil, Move.weight]
    omega

theorem Program.sum_moves_le (p : Program α) : (p.moves.map Move.weight).sum ≤ p.weight := by
  rw [Program.moves, List.map_flatMap, List.flatMap, List.sum_flatten, List.map_map]
  exact List.sum_le_sum fun s _ => s.sum_moves_le

end Trees

/-! ## Reading -/

/-- What a token can add to a tree. -/
def Token.weight : Token → Nat
  | .text literal => 2 + Source.byteLength literal.toList
  | _ => 5

/-- What a part on the left can add to a unit. -/
def LeftPart.weight (left : LeftPart) : Nat :=
  ((left.terms.map Prod.fst).map Term.weight).sum + ((left.factors.map Prod.fst).map Factor.weight).sum

/-- What a statement in the making, and all before it, can add to a unit. The
expression and the term that are open are counted in advance, for the statement
and for each open parenthesis. -/
def Draft.weight (draft : Draft) : Nat :=
  (draft.done.map Statement.weight).sum + 5 + (draft.groups.map fun group => 4 + group.2.weight).sum +
    draft.left.weight

/-- What has been read so far can add to a unit. -/
def Reading.weight : Reading → Nat
  | .boundary done _ => (done.map Statement.weight).sum
  | .binding done _ _ => (done.map Statement.weight).sum + 5
  | .bound done _ _ _ => (done.map Statement.weight).sum + 5
  | .operand draft => draft.weight
  | .operator draft last => draft.weight + last.weight

theorem LeftPart.weight_closeTerm (left : LeftPart) (last : Factor Span) (next : Nat) :
    (left.closeTerm last next).weight =
      2 + last.weight + ((left.factors.map Prod.fst).map Factor.weight).sum := by
  rw [closeTerm, Term.weight, Factor.weightAll_eq_sum, List.map_reverse, List.sum_reverse, List.map_cons, List.sum_cons, Nat.add_assoc]

theorem LeftPart.weight_close (left : LeftPart) (last : Factor Span) (next : Nat) :
    (left.close last next).weight = 4 + left.weight + last.weight := by
  rw [close, Expression.weight, Term.weightAll_eq_sum, List.map_reverse, List.sum_reverse, List.map_cons, List.sum_cons,
    weight_closeTerm, weight]
  omega

theorem Draft.sum_close_le (draft : Draft) (last : Factor Span) (next : Nat) :
    ((draft.close last next).map Statement.weight).sum ≤ draft.weight + last.weight := by
  have hvalue := draft.left.weight_close last next
  rw [close, weight, List.map_cons, List.sum_cons]
  cases draft.head with
  | print start => rw [Head.close, Statement.weight]; omega
  | bind start name => rw [Head.close, Statement.weight]; omega

namespace Reading

variable {reading reading' : Reading} {lexeme : Lexeme}

theorem sum_statements?_le {next : Nat} {done : List (Statement Span)}
    (h : reading.statements? next = some done) :
    (done.map Statement.weight).sum ≤ reading.weight := by
  rcases statements?_eq_some h with ⟨stop, rfl⟩ | ⟨draft, last, rfl, -, rfl⟩
  · exact Nat.le_refl _
  · exact draft.sum_close_le last next

theorem weight_leaf?_le {factor : Factor Span} (h : lexeme.leaf? = some factor) :
    factor.weight ≤ lexeme.token.weight := by
  unfold Lexeme.leaf? at h
  split at h
  next token =>
    cases h
    simp only [token, Factor.weight, Token.weight]
    omega
  next token =>
    cases h
    simp only [token, Factor.weight, Token.weight]
    omega
  next token =>
    cases h
    simp only [token, Factor.weight, Token.weight]
    omega
  next => cases h

/-- **One token.** What has been read grows by no more than the token. -/
theorem Step.weight_le (h : Step lexeme reading reading') :
    reading'.weight ≤ reading.weight + lexeme.token.weight := by
  cases h with
  | print token whole =>
    rw [token]
    exact Nat.add_le_add_right (sum_statements?_le whole) 5
  | letWord token whole =>
    rw [token]
    exact Nat.add_le_add_right (sum_statements?_le whole) 5
  | name token | assign token => exact Nat.le_add_right _ _
  | leaf token =>
    have hleaf := weight_leaf?_le token
    simp only [weight]
    omega
  | openParen token =>
    simp only [token, weight, Draft.weight, LeftPart.weight, LeftPart.empty, List.map_nil,
      List.sum_nil, List.map_cons, List.sum_cons, Token.weight]
    omega
  | product token =>
    simp only [token, weight, Draft.weight, LeftPart.weight, List.map_cons, List.sum_cons,
      Token.weight]
    omega
  | sum token =>
    simp only [token, weight, Draft.weight, LeftPart.weight, List.map_cons, List.map_nil,
      List.sum_cons, List.sum_nil, LeftPart.weight_closeTerm, Token.weight]
    omega
  | closeParen token =>
    -- the weight counted in advance for the parenthesis is that of its expression
    simp only [token, weight, Draft.weight, List.map_cons, List.sum_cons, Factor.weight, LeftPart.weight_close,
      Token.weight]
    omega
  | semicolon token whole => exact Nat.le_add_right_of_le (sum_statements?_le whole)

/-- **All tokens.** -/
theorem weight_run_le {lexemes : List Lexeme} (h : reading.run lexemes = .ok reading') :
    reading'.weight ≤ reading.weight + (lexemes.map fun lexeme => lexeme.token.weight).sum := by
  induction lexemes generalizing reading with
  | nil =>
    cases h
    exact Nat.le_refl _
  | cons lexeme rest ih =>
    obtain ⟨middle, hstep, hrun⟩ := exists_step_of_run h
    have hfirst := hstep.weight_le
    have hrest := ih hrun
    rw [List.map_cons, List.sum_cons]
    omega

end Reading

/-! ## Scanning -/

theorem Token.weight_ofSign? {c : Char} {t : Token} (h : Token.ofSign? c = some t) :
    t.weight = 5 := by
  grind [Token.ofSign?, Token.weight]

theorem Token.weight_ofWord (word : String) : (Token.ofWord word).weight = 5 := by
  grind [Token.ofWord, Token.weight]

/-- A token weighs five times its spelling at most. -/
theorem Token.weight_le_of_read? {cs spelling rest : List Char} {t : Token}
    (h : Token.read? cs = some (t, spelling, rest)) :
    t.weight ≤ 5 * Source.byteLength spelling := by
  have hpos : 0 < Source.byteLength spelling :=
    Nat.lt_of_lt_of_le (List.length_pos_iff.mpr (Token.read?_append h).2)
      (Source.length_le_byteLength spelling)
  cases cs with
  | nil => cases h
  | cons c cs =>
    simp only [Token.read?] at h
    split at h
    next hsign =>
      cases h
      have hweight := Token.weight_ofSign? hsign
      omega
    next =>
      split at h
      · cases h
        rw [Token.weight]
        · omega
        · simp
      · split at h
        · cases h
          rw [Token.weight_ofWord]
          omega
        · split at h
          · split at h
            · cases h
            · cases h
              rw [Token.weight, String.toList_ofList]
              omega
          · cases h

/-- A text weighs five times its length at most. -/
theorem Scan.sum_weight_le (offset : Nat) (cs : List Char) :
    ((Scan.ofChars offset cs).lexemes.map fun lexeme => lexeme.token.weight).sum ≤
      5 * Source.byteLength cs := by
  induction offset, cs using Scan.ofChars.induct with
  | case1 offset cs trivia text hsplit hread =>
    rw [Scan.ofChars_of_read?_none offset hsplit hread]
    exact Nat.zero_le _
  | case2 offset cs trivia text hsplit start t spelling rest hread _ stop ih =>
    have htoken := Token.weight_le_of_read? hread
    obtain ⟨rfl, -⟩ := splitTrivia_eq_iff.mp hsplit
    rw [Scan.ofChars_of_read? offset hsplit hread, ← (Token.read?_append hread).1,
      Source.byteLength_append, Source.byteLength_append]
    simp only [List.map_cons, List.sum_cons]
    simp only [stop, start] at ih
    omega

/-! ## Units -/

theorem Program.weight_ofScan_le {scan : Scan} {p : Program Span}
    (h : Program.ofScan scan = .ok p) :
    p.weight ≤ (scan.lexemes.map fun lexeme => lexeme.token.weight).sum := by
  obtain ⟨-, start, reading, done, hrun, hwhole, hstatements⟩ := Program.ofScan_eq_ok h
  have hread := Reading.weight_run_le hrun
  simp only [Reading.weight, List.map_nil, List.sum_nil, Nat.zero_add] at hread
  rw [Program.weight, hstatements, List.map_reverse, List.sum_reverse]
  exact Nat.le_trans (Reading.sum_statements?_le hwhole) hread

theorem Program.weight_parse_le {source : String} {parsed : Parsed}
    (h : Program.parse source = .ok parsed) :
    parsed.program.weight ≤ 5 * Source.byteLength source.toList := by
  obtain ⟨tree, htree, -, rfl⟩ := Program.parse_eq_ok_iff.mp h
  rw [Program.weight_number]
  exact Nat.le_trans (Program.weight_ofScan_le htree) (Scan.sum_weight_le 0 source.toList)

theorem Instruction.size_le (i : Instruction) : i.size ≤ 10 := by
  cases i <;> simp [Instruction.size]

theorem Instruction.sizeAll_le (code : List Instruction) :
    Instruction.sizeAll code ≤ 10 * code.length := by
  induction code with
  | nil => exact Nat.le_refl _
  | cons i code ih =>
    have hsize := i.size_le
    rw [Instruction.sizeAll, List.length_cons]
    omega

section Emits

variable {em em' : Emission} {move : Move Nat} {moves : List (Move Nat)} {i : Instruction}
variable {code : List Instruction}

theorem Emits.length_eq (h : Emits em moves code em') : code.length = moves.length := by
  induction h with
  | nil em => rfl
  | cons first rest ih => rw [List.length_cons, List.length_cons, ih]

/-- What a constant adds to a unit. -/
def constantWeight (text : String) : Nat :=
  1 + Source.byteLength text.toList

theorem constantWeight_pos (text : String) : 0 < constantWeight text :=
  Nat.add_pos_left Nat.one_pos _

theorem Move.Lowers.sum_constants_le (h : move.Lowers em i em') :
    (em'.assembly.constants.toList.map constantWeight).sum ≤
      (em.assembly.constants.toList.map constantWeight).sum + move.weight := by
  cases h.shape with
  | text hq hroom hs hc =>
    have hshorter := byteLength_unquote?_le hq
    rw [hc]
    simp only [Array.toList_push, List.map_append, List.sum_append, List.map_cons, List.sum_cons, List.map_nil, List.sum_nil, constantWeight, Move.weight]
    omega
  | int hs hc | name hslot hs hc | sum hs hc | product hs hc | stream hs hc | print hs hc
  | bind hd hc =>
    rw [hc]
    exact Nat.le_add_right _ _

theorem Emits.sum_constants_le (h : Emits em moves code em') :
    (em'.assembly.constants.toList.map constantWeight).sum ≤
      (em.assembly.constants.toList.map constantWeight).sum + (moves.map Move.weight).sum := by
  induction h with
  | nil em => exact Nat.le_refl _
  | cons first rest ih =>
    have hfirst := first.sum_constants_le
    rw [List.map_cons, List.sum_cons]
    omega

end Emits

/-- A compiled unit is as large as its program at most. -/
theorem Program.Compiled.sized {p : Program Nat} {names : UnitNames} {u : CodeUnit}
    {em : Emission} {code : List Instruction} (h : p.Compiled names u em code)
    (hunit : (Bytes.ofText names.unit).length < 2 ^ 64)
    (hentry : (Bytes.ofText names.entry).length < 2 ^ 64)
    (hweight : 10 * (p.weight + 1) < 2 ^ 64) : u.Sized := by
  have hmoves := p.sum_moves_le
  have hconstants : (em.assembly.constants.toList.map constantWeight).sum ≤ p.weight := by
    have hadded := h.emits.sum_constants_le
    have hnone : (Emission.empty.assembly.constants.toList.map constantWeight).sum = 0 := rfl
    omega
  have hcode : u.entry.text.length ≤ 10 * (p.weight + 1) := by
    have hsize := Instruction.sizeAll_le (code ++ [.ret])
    have hlength := h.emits.length_eq
    have hcount := length_le_sum Move.weight_pos p.moves
    rw [h.text_eq, Instruction.length_encodeAll]
    rw [List.length_append, List.length_singleton] at hsize
    omega
  rw [h.unit] at hcode ⊢
  refine ⟨hunit, hentry, Nat.lt_of_le_of_lt hcode hweight, ?_, ?_⟩
  · have hcount := length_le_sum constantWeight_pos em.assembly.constants.toList
    exact Nat.lt_of_le_of_lt (Nat.le_trans hcount hconstants) (by omega)
  · intro text htext
    have hle : constantWeight text ≤ _ := List.le_sum_of_mem (List.mem_map_of_mem htext)
    have hlength := Nat.le_trans hle hconstants
    rw [constantWeight] at hlength
    rw [Bytes.length_ofText]
    omega

/-- **Compiled units are small enough.** The lengths in the unit of a source can
be written if the source has less than `2 ^ 58` bytes. -/
theorem compileSource_sized {source : String} {names : UnitNames} {u : CodeUnit}
    {origins : Origins} (hsource : (Bytes.ofText source).length < 2 ^ 58)
    (hunit : (Bytes.ofText names.unit).length < 2 ^ 64)
    (hentry : (Bytes.ofText names.entry).length < 2 ^ 64)
    (h : compileSource source names = .ok (u, origins)) : u.Sized := by
  obtain ⟨parsed, hparse, hcompile⟩ := compileSource_eq_ok_iff.mp h
  obtain ⟨em, code, hcompiled⟩ := Program.compiled_of_compile hcompile
  have hweight := Program.weight_parse_le hparse
  rw [Bytes.length_ofText] at hsource
  exact hcompiled.sized hunit hentry (by omega)

end Printlet
