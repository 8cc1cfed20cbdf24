/-
Printlet.Proofs.Grammar — the tokens of a program.

The grammar, read off the tree: a chain is its operands with its operators
between them, a group an expression in parentheses, a statement one or three
tokens and an expression. Only semicolons are free, so the tokens of a row of
statements are a relation, `Statement.Row`.

A tree can hold more than the grammar can say. `WellFormed leaf` asks for one
operand more than operators in every chain, for `leaf` of every literal and
name, and for a name on the left of `=`. With `Factor.Valid` as `leaf` these
are the trees that can be written down; other choices of `leaf` say where the
literals and names of a tree come from.
-/
import Printlet.Proofs.Labels
import Printlet.Proofs.Lexing
import Printlet.Syntax.Parse

namespace Printlet

variable {α β : Type}

/-! ## 1. Tokens of a tree -/

mutual

/-- The tokens of an expression. -/
def Expression.tokens : Expression α → List Token
  | .mk _ ts ops => Term.tokensOfAll ts ops

/-- The tokens of a term. -/
def Term.tokens : Term α → List Token
  | .mk _ fs ops => Factor.tokensOfAll fs ops

/-- The tokens of a factor. -/
def Factor.tokens : Factor α → List Token
  | .group _ inner => .openParen :: (inner.tokens ++ [.closeParen])
  | .int _ value => [.int value.toInt.toNat]
  | .text _ literal => [.text literal]
  | .name _ name => [.name name]

/-- The tokens of a row of terms with operators between them. -/
def Term.tokensOfAll : List (Term α) → List SumOp → List Token
  | [], _ => []
  | t :: ts, [] => t.tokens ++ Term.tokensOfAll ts []
  | t :: ts, op :: ops => t.tokens ++ .sum op :: Term.tokensOfAll ts ops

/-- The tokens of a row of factors with operators between them. -/
def Factor.tokensOfAll : List (Factor α) → List ProductOp → List Token
  | [], _ => []
  | f :: fs, [] => f.tokens ++ Factor.tokensOfAll fs []
  | f :: fs, op :: ops => f.tokens ++ .product op :: Factor.tokensOfAll fs ops

end

/-- The tokens of a statement, without a semicolon. -/
def Statement.tokens : Statement α → List Token
  | .print _ value => .printWord :: value.tokens
  | .bind _ name value => .letWord :: .name name :: .assign :: value.tokens

/-- The tokens of a row of statements. A semicolon may stand behind each. -/
inductive Statement.Row : List (Statement α) → List Token → Prop
  | nil : Row [] []
  | cons (s : Statement α) {ss : List (Statement α)} {ts : List Token} (back : Row ss ts) :
      Row (s :: ss) (s.tokens ++ ts)
  | closed (s : Statement α) {ss : List (Statement α)} {ts : List Token} (back : Row ss ts) :
      Row (s :: ss) (s.tokens ++ .semicolon :: ts)

theorem Statement.Row.append {ss ss' : List (Statement α)} {ts ts' : List Token} (h : Row ss ts)
    (h' : Row ss' ts') : Row (ss ++ ss') (ts ++ ts') := by
  induction h with
  | nil => exact h'
  | cons s _ ih =>
    rw [List.append_assoc]
    exact .cons s ih
  | closed s _ ih =>
    rw [List.append_assoc]
    exact .closed s ih

/-- Operands that have their operators stand before the rest of the chain. -/
theorem Term.tokensOfAll_append (front : List (Term α × SumOp)) (ts : List (Term α))
    (ops : List SumOp) :
    Term.tokensOfAll (front.map Prod.fst ++ ts) (front.map Prod.snd ++ ops) =
      front.flatMap (fun part => part.1.tokens ++ [.sum part.2]) ++ Term.tokensOfAll ts ops := by
  induction front with
  | nil => rfl
  | cons part front ih =>
    show Term.tokensOfAll (part.1 :: (front.map Prod.fst ++ ts))
      (part.2 :: (front.map Prod.snd ++ ops)) = _
    rw [Term.tokensOfAll, ih, List.flatMap_cons]
    simp

theorem Factor.tokensOfAll_append (front : List (Factor α × ProductOp)) (fs : List (Factor α))
    (ops : List ProductOp) :
    Factor.tokensOfAll (front.map Prod.fst ++ fs) (front.map Prod.snd ++ ops) =
      front.flatMap (fun part => part.1.tokens ++ [.product part.2]) ++
        Factor.tokensOfAll fs ops := by
  induction front with
  | nil => rfl
  | cons part front ih =>
    show Factor.tokensOfAll (part.1 :: (front.map Prod.fst ++ fs))
      (part.2 :: (front.map Prod.snd ++ ops)) = _
    rw [Factor.tokensOfAll, ih, List.flatMap_cons]
    simp

/-! ## 2. Trees that can be written -/

mutual

/-- In every chain there is one operand more than operators, and `leaf` holds of
every literal and name. -/
def Expression.WellFormed (leaf : Factor α → Prop) : Expression α → Prop
  | .mk _ ts ops => ts.length = ops.length + 1 ∧ Term.AllWellFormed leaf ts

/-- In every chain there is one operand more than operators, and `leaf` holds of
every literal and name. -/
def Term.WellFormed (leaf : Factor α → Prop) : Term α → Prop
  | .mk _ fs ops => fs.length = ops.length + 1 ∧ Factor.AllWellFormed leaf fs

/-- A group is judged by its expression, a literal or name by `leaf`. -/
def Factor.WellFormed (leaf : Factor α → Prop) : Factor α → Prop
  | .group _ inner => inner.WellFormed leaf
  | .int l value => leaf (.int l value)
  | .text l literal => leaf (.text l literal)
  | .name l name => leaf (.name l name)

/-- All terms of a row are well formed. -/
def Term.AllWellFormed (leaf : Factor α → Prop) : List (Term α) → Prop
  | [] => True
  | t :: ts => t.WellFormed leaf ∧ Term.AllWellFormed leaf ts

/-- All factors of a row are well formed. -/
def Factor.AllWellFormed (leaf : Factor α → Prop) : List (Factor α) → Prop
  | [] => True
  | f :: fs => f.WellFormed leaf ∧ Factor.AllWellFormed leaf fs

end

/-- The expression is well formed, and what it is bound to is a name. -/
def Statement.WellFormed (leaf : Factor α → Prop) : Statement α → Prop
  | .print _ value => value.WellFormed leaf
  | .bind _ name value => IsName name ∧ value.WellFormed leaf

/-- A literal or name that can be written: there is no sign in a number. -/
def Factor.Valid : Factor α → Prop
  | .group _ _ => True
  | .int _ value => 0 ≤ value.toInt
  | .text _ literal => IsLiteral literal
  | .name _ s => IsName s

/-- A program that can be written. -/
def Program.WellFormed (p : Program α) : Prop :=
  ∀ s ∈ p.statements, s.WellFormed Factor.Valid

section AllWellFormed

variable {leaf : Factor α → Prop}

theorem Term.allWellFormed_iff {ts : List (Term α)} :
    Term.AllWellFormed leaf ts ↔ ∀ t ∈ ts, t.WellFormed leaf := by
  induction ts with
  | nil => simp [Term.AllWellFormed]
  | cons t ts ih => rw [Term.AllWellFormed, ih, List.forall_mem_cons]

theorem Factor.allWellFormed_iff {fs : List (Factor α)} :
    Factor.AllWellFormed leaf fs ↔ ∀ f ∈ fs, f.WellFormed leaf := by
  induction fs with
  | nil => simp [Factor.AllWellFormed]
  | cons f fs ih => rw [Factor.AllWellFormed, ih, List.forall_mem_cons]

end AllWellFormed

/-! ### Their tokens -/

/-- The largest number that fits is the largest that a literal may denote. -/
theorem isOversized_int (value : Int64) : (Token.int value.toInt.toNat).isOversized = false := by
  have hlt := value.toInt_lt
  refine decide_eq_false ?_
  rw [maxLiteral]
  omega

/-- A token of a well-formed tree can be scanned, and is no number that does not fit. -/
def Token.Fits (t : Token) : Prop :=
  t.Valid ∧ t.isOversized = false

mutual

theorem Expression.fits_of_mem_tokens {t : Token} :
    ∀ e : Expression α, e.WellFormed Factor.Valid → t ∈ e.tokens → t.Fits
  | .mk _ ts ops, hwell, h => by
      rw [Expression.WellFormed] at hwell
      rw [Expression.tokens] at h
      exact Term.fits_of_mem_tokensOfAll ts ops hwell.2 h

theorem Term.fits_of_mem_tokens {t : Token} :
    ∀ u : Term α, u.WellFormed Factor.Valid → t ∈ u.tokens → t.Fits
  | .mk _ fs ops, hwell, h => by
      rw [Term.WellFormed] at hwell
      rw [Term.tokens] at h
      exact Factor.fits_of_mem_tokensOfAll fs ops hwell.2 h

theorem Factor.fits_of_mem_tokens {t : Token} :
    ∀ f : Factor α, f.WellFormed Factor.Valid → t ∈ f.tokens → t.Fits
  | .group _ inner, hwell, h => by
      rw [Factor.WellFormed] at hwell
      rw [Factor.tokens, List.mem_cons, List.mem_append, List.mem_singleton] at h
      rcases h with rfl | h | rfl
      · exact ⟨trivial, rfl⟩
      · exact Expression.fits_of_mem_tokens inner hwell h
      · exact ⟨trivial, rfl⟩
  | .int _ value, _, h => by
      rw [Factor.tokens, List.mem_singleton] at h
      subst h
      exact ⟨trivial, isOversized_int value⟩
  | .text _ _, hwell, h => by
      rw [Factor.WellFormed] at hwell
      rw [Factor.tokens, List.mem_singleton] at h
      subst h
      exact ⟨hwell, rfl⟩
  | .name _ _, hwell, h => by
      rw [Factor.WellFormed] at hwell
      rw [Factor.tokens, List.mem_singleton] at h
      subst h
      exact ⟨hwell, rfl⟩

theorem Term.fits_of_mem_tokensOfAll {t : Token} :
    ∀ (ts : List (Term α)) (ops : List SumOp), Term.AllWellFormed Factor.Valid ts →
      t ∈ Term.tokensOfAll ts ops → t.Fits
  | [], _, _, h => by simp [Term.tokensOfAll] at h
  | u :: ts, [], hwell, h => by
      rw [Term.AllWellFormed] at hwell
      rw [Term.tokensOfAll, List.mem_append] at h
      rcases h with h | h
      · exact Term.fits_of_mem_tokens u hwell.1 h
      · exact Term.fits_of_mem_tokensOfAll ts [] hwell.2 h
  | u :: ts, op :: ops, hwell, h => by
      rw [Term.AllWellFormed] at hwell
      rw [Term.tokensOfAll, List.mem_append, List.mem_cons] at h
      rcases h with h | rfl | h
      · exact Term.fits_of_mem_tokens u hwell.1 h
      · exact ⟨trivial, rfl⟩
      · exact Term.fits_of_mem_tokensOfAll ts ops hwell.2 h

theorem Factor.fits_of_mem_tokensOfAll {t : Token} :
    ∀ (fs : List (Factor α)) (ops : List ProductOp), Factor.AllWellFormed Factor.Valid fs →
      t ∈ Factor.tokensOfAll fs ops → t.Fits
  | [], _, _, h => by simp [Factor.tokensOfAll] at h
  | f :: fs, [], hwell, h => by
      rw [Factor.AllWellFormed] at hwell
      rw [Factor.tokensOfAll, List.mem_append] at h
      rcases h with h | h
      · exact Factor.fits_of_mem_tokens f hwell.1 h
      · exact Factor.fits_of_mem_tokensOfAll fs [] hwell.2 h
  | f :: fs, op :: ops, hwell, h => by
      rw [Factor.AllWellFormed] at hwell
      rw [Factor.tokensOfAll, List.mem_append, List.mem_cons] at h
      rcases h with h | rfl | h
      · exact Factor.fits_of_mem_tokens f hwell.1 h
      · exact ⟨trivial, rfl⟩
      · exact Factor.fits_of_mem_tokensOfAll fs ops hwell.2 h

end

theorem Statement.fits_of_mem_tokens {t : Token} (s : Statement α)
    (hwell : s.WellFormed Factor.Valid) (h : t ∈ s.tokens) : t.Fits := by
  cases s with
  | print l value =>
    rcases List.mem_cons.mp h with rfl | h
    · exact ⟨trivial, rfl⟩
    · exact value.fits_of_mem_tokens hwell h
  | bind l name value =>
    obtain ⟨hname, hvalue⟩ := hwell
    simp only [Statement.tokens, List.mem_cons] at h
    rcases h with rfl | rfl | rfl | h
    · exact ⟨trivial, rfl⟩
    · exact ⟨hname, rfl⟩
    · exact ⟨trivial, rfl⟩
    · exact value.fits_of_mem_tokens hvalue h

theorem Statement.Row.fits {ss : List (Statement α)} {ts : List Token} (h : Row ss ts)
    (hwell : ∀ s ∈ ss, s.WellFormed Factor.Valid) : ∀ t ∈ ts, t.Fits := by
  induction h with
  | nil => simp
  | cons s _ ih =>
    obtain ⟨hs, hss⟩ := List.forall_mem_cons.mp hwell
    intro t ht
    rcases List.mem_append.mp ht with ht | ht
    · exact s.fits_of_mem_tokens hs ht
    · exact ih hss t ht
  | closed s _ ih =>
    obtain ⟨hs, hss⟩ := List.forall_mem_cons.mp hwell
    intro t ht
    rw [List.mem_append, List.mem_cons] at ht
    rcases ht with ht | rfl | ht
    · exact s.fits_of_mem_tokens hs ht
    · exact ⟨trivial, rfl⟩
    · exact ih hss t ht

/-! ### Their names -/

section Names

variable {leaf : Factor α → Prop} {node : α} {name : String}

mutual

theorem Expression.leaf_of_name_move :
    ∀ e : Expression α, e.WellFormed leaf → Move.name node name ∈ e.moves →
      leaf (.name node name)
  | .mk _ [] ops, _, h => by
      rw [Expression.moves] at h
      simp at h
  | .mk l (t :: ts) ops, hwell, h => by
      rw [Expression.WellFormed, Term.AllWellFormed] at hwell
      rw [Expression.moves, if_pos (by simpa using hwell.1), List.mem_append] at h
      rcases h with hfirst | hrest
      · exact Term.leaf_of_name_move t hwell.2.1 hfirst
      · exact Term.leaf_of_name_movesRest l ops ts hwell.2.2 hrest

theorem Term.leaf_of_name_movesRest (l : α) :
    ∀ (ops : List SumOp) (ts : List (Term α)), Term.AllWellFormed leaf ts →
      Move.name node name ∈ Term.movesRest l ops ts → leaf (.name node name)
  | [], _, _, h => by simp [Term.movesRest] at h
  | _ :: _, [], _, h => by simp [Term.movesRest] at h
  | op :: ops, t :: ts, hwell, h => by
      rw [Term.AllWellFormed] at hwell
      rw [Term.movesRest, List.mem_append] at h
      rcases h with hfirst | hrest
      · exact Term.leaf_of_name_move t hwell.1 hfirst
      · cases hrest with
        | tail _ hrest => exact Term.leaf_of_name_movesRest l ops ts hwell.2 hrest

theorem Term.leaf_of_name_move :
    ∀ t : Term α, t.WellFormed leaf → Move.name node name ∈ t.moves → leaf (.name node name)
  | .mk _ [] ops, _, h => by
      rw [Term.moves] at h
      simp at h
  | .mk l (f :: fs) ops, hwell, h => by
      rw [Term.WellFormed, Factor.AllWellFormed] at hwell
      rw [Term.moves, if_pos (by simpa using hwell.1), List.mem_append] at h
      rcases h with hfirst | hrest
      · exact Factor.leaf_of_name_move f hwell.2.1 hfirst
      · exact Factor.leaf_of_name_movesRest l ops fs hwell.2.2 hrest

theorem Factor.leaf_of_name_movesRest (l : α) :
    ∀ (ops : List ProductOp) (fs : List (Factor α)), Factor.AllWellFormed leaf fs →
      Move.name node name ∈ Factor.movesRest l ops fs → leaf (.name node name)
  | [], _, _, h => by simp [Factor.movesRest] at h
  | _ :: _, [], _, h => by simp [Factor.movesRest] at h
  | op :: ops, f :: fs, hwell, h => by
      rw [Factor.AllWellFormed] at hwell
      rw [Factor.movesRest, List.mem_append] at h
      rcases h with hfirst | hrest
      · exact Factor.leaf_of_name_move f hwell.1 hfirst
      · cases hrest with
        | tail _ hrest => exact Factor.leaf_of_name_movesRest l ops fs hwell.2 hrest

theorem Factor.leaf_of_name_move :
    ∀ f : Factor α, f.WellFormed leaf → Move.name node name ∈ f.moves → leaf (.name node name)
  | .group _ inner, hwell, h => by
      rw [Factor.WellFormed] at hwell
      rw [Factor.moves] at h
      exact Expression.leaf_of_name_move inner hwell h
  | .int _ _, _, h => by simp [Factor.moves] at h
  | .text _ _, _, h => by simp [Factor.moves] at h
  | .name _ _, hwell, h => by
      rw [Factor.WellFormed] at hwell
      rw [Factor.moves, List.mem_singleton] at h
      cases h
      exact hwell

end

/-- A name that a program looks up is a leaf of it. -/
theorem Program.leaf_of_name_move {p : Program α} (hwell : ∀ s ∈ p.statements, s.WellFormed leaf)
    (h : Move.name node name ∈ p.moves) : leaf (.name node name) := by
  obtain ⟨s, hs, hmove⟩ := List.mem_flatMap.mp h
  have hs := hwell s hs
  cases s with
  | print l value => exact value.leaf_of_name_move hs (by simpa [Statement.moves] using hmove)
  | bind l bound value => exact value.leaf_of_name_move hs.2 (by simpa [Statement.moves] using hmove)

end Names

/-! ## 3. Labels do not matter -/

mutual

theorem Expression.tokens_relabel (g : α → β) :
    ∀ e : Expression α, (e.relabel g).tokens = e.tokens
  | .mk _ ts ops => by
      rw [Expression.relabel, Expression.tokens, Expression.tokens,
        Term.tokensOfAll_relabelAll g ts ops]

theorem Term.tokens_relabel (g : α → β) : ∀ t : Term α, (t.relabel g).tokens = t.tokens
  | .mk _ fs ops => by
      rw [Term.relabel, Term.tokens, Term.tokens, Factor.tokensOfAll_relabelAll g fs ops]

theorem Factor.tokens_relabel (g : α → β) : ∀ f : Factor α, (f.relabel g).tokens = f.tokens
  | .group _ inner => by
      rw [Factor.relabel, Factor.tokens, Factor.tokens, Expression.tokens_relabel g inner]
  | .int _ _ => by rw [Factor.relabel, Factor.tokens, Factor.tokens]
  | .text _ _ => by rw [Factor.relabel, Factor.tokens, Factor.tokens]
  | .name _ _ => by rw [Factor.relabel, Factor.tokens, Factor.tokens]

theorem Term.tokensOfAll_relabelAll (g : α → β) :
    ∀ (ts : List (Term α)) (ops : List SumOp),
      Term.tokensOfAll (Term.relabelAll g ts) ops = Term.tokensOfAll ts ops
  | [], ops => by rw [Term.relabelAll, Term.tokensOfAll, Term.tokensOfAll]
  | t :: ts, [] => by
      rw [Term.relabelAll, Term.tokensOfAll, Term.tokensOfAll, Term.tokens_relabel g t,
        Term.tokensOfAll_relabelAll g ts []]
  | t :: ts, op :: ops => by
      rw [Term.relabelAll, Term.tokensOfAll, Term.tokensOfAll, Term.tokens_relabel g t,
        Term.tokensOfAll_relabelAll g ts ops]

theorem Factor.tokensOfAll_relabelAll (g : α → β) :
    ∀ (fs : List (Factor α)) (ops : List ProductOp),
      Factor.tokensOfAll (Factor.relabelAll g fs) ops = Factor.tokensOfAll fs ops
  | [], ops => by rw [Factor.relabelAll, Factor.tokensOfAll, Factor.tokensOfAll]
  | f :: fs, [] => by
      rw [Factor.relabelAll, Factor.tokensOfAll, Factor.tokensOfAll, Factor.tokens_relabel g f,
        Factor.tokensOfAll_relabelAll g fs []]
  | f :: fs, op :: ops => by
      rw [Factor.relabelAll, Factor.tokensOfAll, Factor.tokensOfAll, Factor.tokens_relabel g f,
        Factor.tokensOfAll_relabelAll g fs ops]

end

theorem Statement.tokens_shape (s : Statement α) : s.shape.tokens = s.tokens := by
  cases s with
  | print l value =>
    exact congrArg (Token.printWord :: ·) (value.tokens_relabel _)
  | bind l name value =>
    exact congrArg (fun tokens => Token.letWord :: .name name :: .assign :: tokens)
      (value.tokens_relabel _)

mutual

theorem Expression.wellFormed_relabel (g : α → β) :
    ∀ e : Expression α, (e.relabel g).WellFormed Factor.Valid ↔ e.WellFormed Factor.Valid
  | .mk _ ts ops => by
      rw [Expression.relabel, Expression.WellFormed, Expression.WellFormed,
        Term.allWellFormed_relabelAll g ts, Term.relabelAll_eq_map, List.length_map]

theorem Term.wellFormed_relabel (g : α → β) :
    ∀ t : Term α, (t.relabel g).WellFormed Factor.Valid ↔ t.WellFormed Factor.Valid
  | .mk _ fs ops => by
      rw [Term.relabel, Term.WellFormed, Term.WellFormed,
        Factor.allWellFormed_relabelAll g fs, Factor.relabelAll_eq_map, List.length_map]

theorem Factor.wellFormed_relabel (g : α → β) :
    ∀ f : Factor α, (f.relabel g).WellFormed Factor.Valid ↔ f.WellFormed Factor.Valid
  | .group _ inner => by
      rw [Factor.relabel, Factor.WellFormed, Factor.WellFormed,
        Expression.wellFormed_relabel g inner]
  | .int _ _ => by rw [Factor.relabel, Factor.WellFormed, Factor.WellFormed]; rfl
  | .text _ _ => by rw [Factor.relabel, Factor.WellFormed, Factor.WellFormed]; rfl
  | .name _ _ => by rw [Factor.relabel, Factor.WellFormed, Factor.WellFormed]; rfl

theorem Term.allWellFormed_relabelAll (g : α → β) :
    ∀ ts : List (Term α), Term.AllWellFormed Factor.Valid (Term.relabelAll g ts) ↔
      Term.AllWellFormed Factor.Valid ts
  | [] => by rw [Term.relabelAll, Term.AllWellFormed, Term.AllWellFormed]
  | t :: ts => by
      rw [Term.relabelAll, Term.AllWellFormed, Term.AllWellFormed, Term.wellFormed_relabel g t,
        Term.allWellFormed_relabelAll g ts]

theorem Factor.allWellFormed_relabelAll (g : α → β) :
    ∀ fs : List (Factor α), Factor.AllWellFormed Factor.Valid (Factor.relabelAll g fs) ↔
      Factor.AllWellFormed Factor.Valid fs
  | [] => by rw [Factor.relabelAll, Factor.AllWellFormed, Factor.AllWellFormed]
  | f :: fs => by
      rw [Factor.relabelAll, Factor.AllWellFormed, Factor.AllWellFormed,
        Factor.wellFormed_relabel g f, Factor.allWellFormed_relabelAll g fs]

end

theorem Statement.wellFormed_shape (s : Statement α) :
    s.shape.WellFormed Factor.Valid ↔ s.WellFormed Factor.Valid := by
  cases s with
  | print l value => exact value.wellFormed_relabel _
  | bind l name value => exact and_congr_right fun _ => value.wellFormed_relabel _

/-- Programs of the same shape have the same tokens. -/
theorem Statement.Row.of_shape {ss : List (Statement α)} {ss' : List (Statement β)}
    {ts : List Token} (h : Row ss ts) (hshape : ss.map Statement.shape = ss'.map Statement.shape) :
    Row ss' ts := by
  induction h generalizing ss' with
  | nil =>
    obtain rfl : ss' = [] := List.map_eq_nil_iff.mp hshape.symm
    exact .nil
  | cons s _ ih =>
    obtain ⟨s', rest, rfl, hs, hrest⟩ := List.map_eq_cons_iff.mp hshape.symm
    rw [← s.tokens_shape, ← hs, s'.tokens_shape]
    exact .cons s' (ih hrest.symm)
  | closed s _ ih =>
    obtain ⟨s', rest, rfl, hs, hrest⟩ := List.map_eq_cons_iff.mp hshape.symm
    rw [← s.tokens_shape, ← hs, s'.tokens_shape]
    exact .closed s' (ih hrest.symm)

theorem Program.WellFormed.of_sameShape {p : Program α} {q : Program β} (h : p.WellFormed)
    (hshape : p.SameShape q) : q.WellFormed := by
  intro s hs
  have hmem : s.shape ∈ p.statements.map Statement.shape := by
    rw [show p.statements.map Statement.shape = _ from hshape]
    exact List.mem_map_of_mem hs
  obtain ⟨s', hs', heq⟩ := List.mem_map.mp hmem
  rw [← s.wellFormed_shape, ← heq, s'.wellFormed_shape]
  exact h s' hs'

end Printlet
