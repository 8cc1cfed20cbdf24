/-
Printlet.Proofs.Labels — trees with other labels.

`relabel` changes the labels of a tree and nothing else. Two trees are the same
program if they are the same once their labels are forgotten (`SameShape`).
Numbering a tree is relabelling it: the node that gets the number `k` had the
label that `Program.labels` lists at place `k`. So any look-up `f` by number
that agrees with a map `g` of labels undoes the numbering
(`Program.relabel_number`), and with that

* numbering keeps the shape (`Program.sameShape_number`);
* every node number of a numbered program is a place in the list of labels, and
  what was said with numbers can be said with the labels found there
  (`Program.exists_move_of_number`).
-/
import Printlet.Proofs.Postfix

namespace Printlet

variable {α β γ : Type}

/-! ## 1. Relabelling -/

mutual

/-- An expression with other labels. -/
def Expression.relabel (f : α → β) : Expression α → Expression β
  | .mk l ts ops => .mk (f l) (Term.relabelAll f ts) ops

/-- A term with other labels. -/
def Term.relabel (f : α → β) : Term α → Term β
  | .mk l fs ops => .mk (f l) (Factor.relabelAll f fs) ops

/-- A factor with other labels. -/
def Factor.relabel (f : α → β) : Factor α → Factor β
  | .group l e => .group (f l) (e.relabel f)
  | .int l value => .int (f l) value
  | .text l literal => .text (f l) literal
  | .name l name => .name (f l) name

/-- A row of terms with other labels. -/
def Term.relabelAll (f : α → β) : List (Term α) → List (Term β)
  | [] => []
  | t :: ts => t.relabel f :: Term.relabelAll f ts

/-- A row of factors with other labels. -/
def Factor.relabelAll (f : α → β) : List (Factor α) → List (Factor β)
  | [] => []
  | x :: xs => x.relabel f :: Factor.relabelAll f xs

end

/-- A statement with other labels. -/
def Statement.relabel (f : α → β) : Statement α → Statement β
  | .print l value => .print (f l) (value.relabel f)
  | .bind l name value => .bind (f l) name (value.relabel f)

/-- A program with other labels. -/
def Program.relabel (f : α → β) (p : Program α) : Program β :=
  ⟨f p.label, p.statements.map (Statement.relabel f)⟩

theorem Term.relabelAll_eq_map (f : α → β) (ts : List (Term α)) :
    Term.relabelAll f ts = ts.map (Term.relabel f) := by
  induction ts with
  | nil => rw [Term.relabelAll, List.map_nil]
  | cons t ts ih => rw [Term.relabelAll, List.map_cons, ih]

theorem Factor.relabelAll_eq_map (f : α → β) (fs : List (Factor α)) :
    Factor.relabelAll f fs = fs.map (Factor.relabel f) := by
  induction fs with
  | nil => rw [Factor.relabelAll, List.map_nil]
  | cons x xs ih => rw [Factor.relabelAll, List.map_cons, ih]

/-! ### Shapes -/

/-- The labels are forgotten. -/
def Expression.shape (e : Expression α) : Expression Unit :=
  e.relabel fun _ => ()

/-- The labels are forgotten. -/
def Term.shape (t : Term α) : Term Unit :=
  t.relabel fun _ => ()

/-- The labels are forgotten. -/
def Factor.shape (f : Factor α) : Factor Unit :=
  f.relabel fun _ => ()

/-- The labels are forgotten. -/
def Statement.shape (s : Statement α) : Statement Unit :=
  s.relabel fun _ => ()

/-- Two programs are the same up to their labels. -/
def Program.SameShape (p : Program α) (q : Program β) : Prop :=
  p.statements.map Statement.shape = q.statements.map Statement.shape

/-! ## 2. Numbering -/

/-- From the number `n` on, looking up by number is the same as mapping labels. -/
def Agrees (f : Nat → β) (g : α → β) (n : Nat) (labels : List α) : Prop :=
  ∀ k l, labels[k]? = some l → f (n + k) = g l

section Agrees

variable {f : Nat → β} {g : α → β} {n : Nat}

theorem agrees_cons {l : α} {ls : List α} :
    Agrees f g n (l :: ls) ↔ f n = g l ∧ Agrees f g (n + 1) ls := by
  constructor
  · intro h
    refine ⟨h 0 l rfl, fun k l' hk => ?_⟩
    have hnext := h (k + 1) l' hk
    rwa [Nat.add_comm k 1, ← Nat.add_assoc] at hnext
  · rintro ⟨hfirst, hrest⟩ k l' hk
    cases k with
    | zero =>
      cases hk
      exact hfirst
    | succ k =>
      rw [Nat.add_comm k 1, ← Nat.add_assoc]
      exact hrest k l' hk

theorem agrees_append {front back : List α} :
    Agrees f g n (front ++ back) ↔
      Agrees f g n front ∧ Agrees f g (n + front.length) back := by
  induction front generalizing n with
  | nil => simp [Agrees]
  | cons l front ih =>
    rw [List.cons_append, agrees_cons, ih, agrees_cons, and_assoc, List.length_cons,
      Nat.add_comm front.length 1, Nat.add_assoc]

end Agrees

mutual

theorem Expression.number_snd (n : Nat) :
    ∀ e : Expression α, (e.number n).2 = n + e.labels.length
  | .mk _ ts _ => by
      rw [Expression.number, Expression.labels, List.length_cons]
      show (Term.numberAll (n + 1) ts).2 = _
      rw [Term.numberAll_snd (n + 1) ts]
      omega

theorem Term.number_snd (n : Nat) : ∀ t : Term α, (t.number n).2 = n + t.labels.length
  | .mk _ fs _ => by
      rw [Term.number, Term.labels, List.length_cons]
      show (Factor.numberAll (n + 1) fs).2 = _
      rw [Factor.numberAll_snd (n + 1) fs]
      omega

theorem Factor.number_snd (n : Nat) : ∀ f : Factor α, (f.number n).2 = n + f.labels.length
  | .group _ e => by
      rw [Factor.number, Factor.labels, List.length_cons]
      show (e.number (n + 1)).2 = _
      rw [Expression.number_snd (n + 1) e]
      omega
  | .int _ _ => by rw [Factor.number, Factor.labels]; rfl
  | .text _ _ => by rw [Factor.number, Factor.labels]; rfl
  | .name _ _ => by rw [Factor.number, Factor.labels]; rfl

theorem Term.numberAll_snd (n : Nat) :
    ∀ ts : List (Term α), (Term.numberAll n ts).2 = n + (Term.labelsOfAll ts).length
  | [] => by rw [Term.numberAll, Term.labelsOfAll]; rfl
  | t :: ts => by
      rw [Term.numberAll, Term.labelsOfAll, List.length_append]
      show (Term.numberAll (t.number n).2 ts).2 = _
      rw [Term.numberAll_snd _ ts, Term.number_snd n t]
      omega

theorem Factor.numberAll_snd (n : Nat) :
    ∀ fs : List (Factor α), (Factor.numberAll n fs).2 = n + (Factor.labelsOfAll fs).length
  | [] => by rw [Factor.numberAll, Factor.labelsOfAll]; rfl
  | f :: fs => by
      rw [Factor.numberAll, Factor.labelsOfAll, List.length_append]
      show (Factor.numberAll (f.number n).2 fs).2 = _
      rw [Factor.numberAll_snd _ fs, Factor.number_snd n f]
      omega

end

theorem Statement.number_snd (n : Nat) (s : Statement α) :
    (s.number n).2 = n + s.labels.length := by
  cases s with
  | print l value =>
    show (value.number (n + 1)).2 = n + (value.labels.length + 1)
    rw [value.number_snd]
    omega
  | bind l name value =>
    show (value.number (n + 1)).2 = n + (value.labels.length + 1)
    rw [value.number_snd]
    omega

section Number

variable {f : Nat → β} {g : α → β}

mutual

theorem Expression.relabel_number {n : Nat} :
    ∀ e : Expression α, Agrees f g n e.labels → (e.number n).1.relabel f = e.relabel g
  | .mk l ts ops, h => by
      rw [Expression.labels, agrees_cons] at h
      show Expression.mk (f n) (Term.relabelAll f (Term.numberAll (n + 1) ts).1) ops = _
      rw [h.1, Term.relabelAll_numberAll ts h.2, Expression.relabel]

theorem Term.relabel_number {n : Nat} :
    ∀ t : Term α, Agrees f g n t.labels → (t.number n).1.relabel f = t.relabel g
  | .mk l fs ops, h => by
      rw [Term.labels, agrees_cons] at h
      show Term.mk (f n) (Factor.relabelAll f (Factor.numberAll (n + 1) fs).1) ops = _
      rw [h.1, Factor.relabelAll_numberAll fs h.2, Term.relabel]

theorem Factor.relabel_number {n : Nat} :
    ∀ x : Factor α, Agrees f g n x.labels → (x.number n).1.relabel f = x.relabel g
  | .group l e, h => by
      rw [Factor.labels, agrees_cons] at h
      show Factor.group (f n) ((e.number (n + 1)).1.relabel f) = _
      rw [h.1, Expression.relabel_number e h.2, Factor.relabel]
  | .int l value, h => by
      rw [Factor.labels, agrees_cons] at h
      rw [Factor.number, Factor.relabel, Factor.relabel, h.1]
  | .text l literal, h => by
      rw [Factor.labels, agrees_cons] at h
      rw [Factor.number, Factor.relabel, Factor.relabel, h.1]
  | .name l name, h => by
      rw [Factor.labels, agrees_cons] at h
      rw [Factor.number, Factor.relabel, Factor.relabel, h.1]

theorem Term.relabelAll_numberAll {n : Nat} :
    ∀ ts : List (Term α), Agrees f g n (Term.labelsOfAll ts) →
      Term.relabelAll f (Term.numberAll n ts).1 = Term.relabelAll g ts
  | [], _ => by rw [Term.numberAll, Term.relabelAll, Term.relabelAll]
  | t :: ts, h => by
      rw [Term.labelsOfAll, agrees_append, ← Term.number_snd] at h
      show (t.number n).1.relabel f :: Term.relabelAll f (Term.numberAll (t.number n).2 ts).1 = _
      rw [Term.relabel_number t h.1, Term.relabelAll_numberAll ts h.2, Term.relabelAll]

theorem Factor.relabelAll_numberAll {n : Nat} :
    ∀ fs : List (Factor α), Agrees f g n (Factor.labelsOfAll fs) →
      Factor.relabelAll f (Factor.numberAll n fs).1 = Factor.relabelAll g fs
  | [], _ => by rw [Factor.numberAll, Factor.relabelAll, Factor.relabelAll]
  | x :: xs, h => by
      rw [Factor.labelsOfAll, agrees_append, ← Factor.number_snd] at h
      show (x.number n).1.relabel f :: Factor.relabelAll f (Factor.numberAll (x.number n).2 xs).1 = _
      rw [Factor.relabel_number x h.1, Factor.relabelAll_numberAll xs h.2, Factor.relabelAll]

end

theorem Statement.relabel_number {n : Nat} (s : Statement α) (h : Agrees f g n s.labels) :
    (s.number n).1.relabel f = s.relabel g := by
  cases s with
  | print l value =>
    obtain ⟨hfirst, hrest⟩ := agrees_cons.mp h
    show Statement.print (f n) ((value.number (n + 1)).1.relabel f) = _
    rw [hfirst, Expression.relabel_number value hrest, Statement.relabel]
  | bind l name value =>
    obtain ⟨hfirst, hrest⟩ := agrees_cons.mp h
    show Statement.bind (f n) name ((value.number (n + 1)).1.relabel f) = _
    rw [hfirst, Expression.relabel_number value hrest, Statement.relabel]

theorem Statement.relabel_numberAll {n : Nat} (ss : List (Statement α))
    (h : Agrees f g n (ss.flatMap Statement.labels)) :
    (Statement.numberAll n ss).map (Statement.relabel f) = ss.map (Statement.relabel g) := by
  induction ss generalizing n with
  | nil => rfl
  | cons s ss ih =>
    rw [List.flatMap_cons, agrees_append, ← Statement.number_snd] at h
    show (s.number n).1.relabel f ::
      (Statement.numberAll (s.number n).2 ss).map (Statement.relabel f) = _
    rw [s.relabel_number h.1, ih h.2, List.map_cons]

/-- **Numbers stand for labels.** A look-up that agrees with a map of labels
undoes the numbering. -/
theorem Program.relabel_number (p : Program α) (h : Agrees f g 0 p.labels) :
    p.number.relabel f = p.relabel g := by
  obtain ⟨hfirst, hrest⟩ := agrees_cons.mp h
  show Program.mk (f 0) ((Statement.numberAll 1 p.statements).map (Statement.relabel f)) = _
  rw [hfirst, Statement.relabel_numberAll p.statements hrest]
  rfl

end Number

theorem Program.sameShape_number (p : Program α) : p.number.SameShape p := by
  have h : p.number.relabel (fun _ => ()) = p.relabel (fun _ => ()) :=
    p.relabel_number fun _ _ _ => rfl
  exact congrArg Program.statements h

/-- Looking a number up in the list of labels gives the label back. -/
theorem Program.relabel_number_labels (p : Program α) :
    p.number.relabel (p.labels[·]?) = p.relabel some := by
  refine p.relabel_number fun k l hk => ?_
  rw [Nat.zero_add]
  exact hk

/-! ## 3. Moves -/

/-- A move of a node with another label. -/
def Move.relabel (f : α → β) : Move α → Move β
  | .int node value => .int (f node) value
  | .text node literal => .text (f node) literal
  | .name node known => .name (f node) known
  | .sum node op => .sum (f node) op
  | .product node op => .product (f node) op
  | .stream node => .stream (f node)
  | .print node => .print (f node)
  | .bind node fresh => .bind (f node) fresh
  | .malformed node chain operands operators => .malformed (f node) chain operands operators

theorem Move.node_relabel (f : α → β) (move : Move α) : (move.relabel f).node = f move.node := by
  cases move <;> rfl

section Moves

variable (f : α → β)

mutual

theorem Expression.moves_relabel :
    ∀ e : Expression α, (e.relabel f).moves = e.moves.map (Move.relabel f)
  | .mk node [] ops => by
      rw [Expression.relabel, Term.relabelAll, Expression.moves, Expression.moves]
      rfl
  | .mk node (t :: ts) ops => by
      have hlength : (Term.relabelAll f ts).length = ts.length := by
        rw [Term.relabelAll_eq_map, List.length_map]
      rw [Expression.relabel, Term.relabelAll, Expression.moves, Expression.moves, hlength]
      split
      · rw [List.map_append, Term.moves_relabel t, Term.movesRest_relabelAll node ops ts]
      · rfl

theorem Term.movesRest_relabelAll (node : α) :
    ∀ (ops : List SumOp) (ts : List (Term α)),
      Term.movesRest (f node) ops (Term.relabelAll f ts) =
        (Term.movesRest node ops ts).map (Move.relabel f)
  | [], _ => by simp [Term.movesRest]
  | _ :: _, [] => by simp [Term.movesRest, Term.relabelAll]
  | op :: ops, t :: ts => by
      rw [Term.relabelAll, Term.movesRest, Term.movesRest, List.map_append, List.map_cons,
        Term.moves_relabel t, Term.movesRest_relabelAll node ops ts]
      rfl

theorem Term.moves_relabel :
    ∀ t : Term α, (t.relabel f).moves = t.moves.map (Move.relabel f)
  | .mk node [] ops => by
      rw [Term.relabel, Factor.relabelAll, Term.moves, Term.moves]
      rfl
  | .mk node (x :: xs) ops => by
      have hlength : (Factor.relabelAll f xs).length = xs.length := by
        rw [Factor.relabelAll_eq_map, List.length_map]
      rw [Term.relabel, Factor.relabelAll, Term.moves, Term.moves, hlength]
      split
      · rw [List.map_append, Factor.moves_relabel x, Factor.movesRest_relabelAll node ops xs]
      · rfl

theorem Factor.movesRest_relabelAll (node : α) :
    ∀ (ops : List ProductOp) (fs : List (Factor α)),
      Factor.movesRest (f node) ops (Factor.relabelAll f fs) =
        (Factor.movesRest node ops fs).map (Move.relabel f)
  | [], _ => by simp [Factor.movesRest]
  | _ :: _, [] => by simp [Factor.movesRest, Factor.relabelAll]
  | op :: ops, x :: xs => by
      rw [Factor.relabelAll, Factor.movesRest, Factor.movesRest, List.map_append, List.map_cons,
        Factor.moves_relabel x, Factor.movesRest_relabelAll node ops xs]
      rfl

theorem Factor.moves_relabel :
    ∀ x : Factor α, (x.relabel f).moves = x.moves.map (Move.relabel f)
  | .group _ e => by
      rw [Factor.relabel, Factor.moves, Factor.moves]
      exact Expression.moves_relabel e
  | .int _ _ => by rw [Factor.relabel, Factor.moves, Factor.moves]; rfl
  | .text _ _ => by rw [Factor.relabel, Factor.moves, Factor.moves]; rfl
  | .name _ _ => by rw [Factor.relabel, Factor.moves, Factor.moves]; rfl

end

theorem Statement.moves_relabel (s : Statement α) :
    (s.relabel f).moves = s.moves.map (Move.relabel f) := by
  cases s with
  | print node value =>
    rw [Statement.relabel, Statement.moves, Statement.moves, value.moves_relabel f, List.map_cons,
      List.map_append]
    rfl
  | bind node name value =>
    rw [Statement.relabel, Statement.moves, Statement.moves, value.moves_relabel f,
      List.map_append]
    rfl

theorem Program.moves_relabel (p : Program α) :
    (p.relabel f).moves = p.moves.map (Move.relabel f) := by
  show (p.statements.map (Statement.relabel f)).flatMap Statement.moves = _
  rw [List.flatMap_map, Program.moves, List.map_flatMap]
  exact congrArg (p.statements.flatMap ·) (funext (Statement.moves_relabel f))

end Moves

/-- A move of a numbered program is that of a label, found under its number. -/
theorem Program.exists_move_of_number {p : Program α} {move : Move Nat}
    (h : move ∈ p.number.moves) :
    ∃ original ∈ p.moves, original.relabel some = move.relabel (p.labels[·]?) := by
  have hmem : move.relabel (p.labels[·]?) ∈ (p.number.relabel (p.labels[·]?)).moves := by
    rw [Program.moves_relabel]
    exact List.mem_map_of_mem h
  rw [Program.relabel_number_labels, Program.moves_relabel] at hmem
  exact List.mem_map.mp hmem

end Printlet
