/-
Printlet.Proofs.Nodes — the nodes of a tree, of all kinds.

A tree has five kinds of nodes. `Node` puts them under one type, so that what is
true of all of them is said once: `Node.parts` are the nodes directly below a
node, `Node.Below` is everything below it, and `Node.tokens` are the tokens that
it is written with.

Numbering gives the numbers from zero on in the order of the walk
(`Program.labels_number`), and a node of a numbered program is a node of the
program with its label looked up (`Program.exists_node_of_number`).
-/
import Printlet.Proofs.Grammar

namespace Printlet

variable {α β : Type}

/-- A node of a tree. -/
inductive Node (α : Type) where
  | program (p : Program α)
  | statement (s : Statement α)
  | expression (e : Expression α)
  | term (t : Term α)
  | factor (f : Factor α)

namespace Node

/-- The label of a node itself. -/
def label : Node α → α
  | .program p => p.label
  | .statement s => s.label
  | .expression e => e.label
  | .term t => t.label
  | .factor f => f.label

/-- The nodes directly below a node, from left to right. -/
def parts : Node α → List (Node α)
  | .program p => p.statements.map .statement
  | .statement (.print _ value) => [.expression value]
  | .statement (.bind _ _ value) => [.expression value]
  | .expression (.mk _ ts _) => ts.map .term
  | .term (.mk _ fs _) => fs.map .factor
  | .factor (.group _ inner) => [.expression inner]
  | .factor _ => []

/-- A node of the tree that starts at `root`. -/
inductive Below (root : Node α) : Node α → Prop
  | root : Below root root
  | part {n m : Node α} (above : Below root n) (hpart : m ∈ n.parts) : Below root m

/-- The tokens of a node, without the semicolons between statements. -/
def tokens : Node α → List Token
  | .program p => p.statements.flatMap Statement.tokens
  | .statement s => s.tokens
  | .expression e => e.tokens
  | .term t => t.tokens
  | .factor f => f.tokens

/-! ## 1. Other labels -/

/-- A node with other labels. -/
def relabel (g : α → β) : Node α → Node β
  | .program p => .program (p.relabel g)
  | .statement s => .statement (s.relabel g)
  | .expression e => .expression (e.relabel g)
  | .term t => .term (t.relabel g)
  | .factor f => .factor (f.relabel g)

@[simp] theorem label_relabel (g : α → β) (n : Node α) : (n.relabel g).label = g n.label := by
  cases n with
  | program p => rfl
  | statement s => cases s <;> rfl
  | expression e =>
    cases e
    simp [relabel, label, Expression.relabel, Expression.label]
  | term t =>
    cases t
    simp [relabel, label, Term.relabel, Term.label]
  | factor f => cases f <;> simp [relabel, label, Factor.relabel, Factor.label]

@[simp] theorem parts_relabel (g : α → β) (n : Node α) :
    (n.relabel g).parts = n.parts.map (relabel g) := by
  cases n with
  | program p => simp [relabel, parts, Program.relabel, Function.comp_def]
  | statement s => cases s <;> rfl
  | expression e =>
    cases e
    simp [relabel, parts, Expression.relabel, Term.relabelAll_eq_map, Function.comp_def]
  | term t =>
    cases t
    simp [relabel, parts, Term.relabel, Factor.relabelAll_eq_map, Function.comp_def]
  | factor f => cases f <;> simp [relabel, parts, Factor.relabel]

@[simp] theorem tokens_relabel (g : α → β) (n : Node α) : (n.relabel g).tokens = n.tokens := by
  have hstatement : ∀ s : Statement α, (s.relabel g).tokens = s.tokens := by
    intro s
    cases s <;> simp [Statement.relabel, Statement.tokens, Expression.tokens_relabel]
  cases n with
  | program p => simp [relabel, tokens, Program.relabel, List.flatMap_map, hstatement]
  | statement s => exact hstatement s
  | expression e => exact e.tokens_relabel g
  | term t => exact t.tokens_relabel g
  | factor f => exact f.tokens_relabel g

theorem Below.relabel {root n : Node α} (h : root.Below n) (g : α → β) :
    (root.relabel g).Below (n.relabel g) := by
  induction h with
  | root => exact .root
  | part above hpart ih =>
    refine .part ih ?_
    rw [parts_relabel]
    exact List.mem_map_of_mem hpart

/-- All nodes of a tree with other labels come from nodes of the tree. -/
theorem Below.of_relabel {root : Node α} {g : α → β} {m : Node β}
    (h : (root.relabel g).Below m) : ∃ n, root.Below n ∧ m = n.relabel g := by
  induction h with
  | root => exact ⟨root, .root, rfl⟩
  | part above hpart ih =>
    obtain ⟨n, hbelow, rfl⟩ := ih
    rw [parts_relabel] at hpart
    obtain ⟨k, hk, rfl⟩ := List.mem_map.mp hpart
    exact ⟨k, .part hbelow hk, rfl⟩

end Node

/-! ## 2. Numbers -/

mutual

theorem Expression.labels_number (n : Nat) :
    ∀ e : Expression α, (e.number n).1.labels = List.range' n e.labels.length
  | .mk _ ts ops => by
      show (Expression.mk n (Term.numberAll (n + 1) ts).1 ops).labels = _
      rw [Expression.labels, Expression.labels, Term.labelsOfAll_numberAll (n + 1) ts]
      rfl

theorem Term.labels_number (n : Nat) :
    ∀ t : Term α, (t.number n).1.labels = List.range' n t.labels.length
  | .mk _ fs ops => by
      show (Term.mk n (Factor.numberAll (n + 1) fs).1 ops).labels = _
      rw [Term.labels, Term.labels, Factor.labelsOfAll_numberAll (n + 1) fs]
      rfl

theorem Factor.labels_number (n : Nat) :
    ∀ f : Factor α, (f.number n).1.labels = List.range' n f.labels.length
  | .group _ e => by
      show (Factor.group n (e.number (n + 1)).1).labels = _
      rw [Factor.labels, Factor.labels, Expression.labels_number (n + 1) e]
      rfl
  | .int _ _ => by simp [Factor.number, Factor.labels]
  | .text _ _ => by simp [Factor.number, Factor.labels]
  | .name _ _ => by simp [Factor.number, Factor.labels]

theorem Term.labelsOfAll_numberAll (n : Nat) :
    ∀ ts : List (Term α),
      Term.labelsOfAll (Term.numberAll n ts).1 = List.range' n (Term.labelsOfAll ts).length
  | [] => by simp [Term.numberAll, Term.labelsOfAll]
  | t :: ts => by
      show Term.labelsOfAll ((t.number n).1 :: (Term.numberAll (t.number n).2 ts).1) = _
      rw [Term.labelsOfAll, Term.labelsOfAll, Term.labels_number n t,
        Term.labelsOfAll_numberAll _ ts, Term.number_snd, List.length_append,
        List.range'_append_1]

theorem Factor.labelsOfAll_numberAll (n : Nat) :
    ∀ fs : List (Factor α),
      Factor.labelsOfAll (Factor.numberAll n fs).1 = List.range' n (Factor.labelsOfAll fs).length
  | [] => by simp [Factor.numberAll, Factor.labelsOfAll]
  | f :: fs => by
      show Factor.labelsOfAll ((f.number n).1 :: (Factor.numberAll (f.number n).2 fs).1) = _
      rw [Factor.labelsOfAll, Factor.labelsOfAll, Factor.labels_number n f,
        Factor.labelsOfAll_numberAll _ fs, Factor.number_snd, List.length_append,
        List.range'_append_1]

end

theorem Statement.labels_number (n : Nat) (s : Statement α) :
    (s.number n).1.labels = List.range' n s.labels.length := by
  cases s with
  | print _ value | bind _ _ value =>
    show n :: (value.number (n + 1)).1.labels = List.range' n (value.labels.length + 1)
    rw [value.labels_number, List.range'_succ]

theorem Statement.labels_numberAll (n : Nat) (ss : List (Statement α)) :
    (Statement.numberAll n ss).flatMap Statement.labels =
      List.range' n (ss.flatMap Statement.labels).length := by
  induction ss generalizing n with
  | nil => rfl
  | cons s ss ih =>
    show (s.number n).1.labels ++
      (Statement.numberAll (s.number n).2 ss).flatMap Statement.labels = _
    rw [s.labels_number, ih, s.number_snd, List.flatMap_cons, List.length_append,
      List.range'_append_1]

/-- **Numbers** go from zero on, in the order of the walk. -/
theorem Program.labels_number (p : Program α) :
    p.number.labels = List.range p.labels.length := by
  show 0 :: (Statement.numberAll 1 p.statements).flatMap Statement.labels = _
  rw [Statement.labels_numberAll, List.range_eq_range', Program.labels, List.length_cons,
    List.range'_succ]

/-! ## 3. Labels and nodes -/

mutual

theorem Expression.below_of_mem_labels {root : Node α} {l : α} :
    ∀ e : Expression α, root.Below (.expression e) → l ∈ e.labels →
      ∃ n, root.Below n ∧ n.label = l
  | .mk l' ts ops, he, h => by
      rw [Expression.labels, List.mem_cons] at h
      rcases h with rfl | h
      · exact ⟨_, he, rfl⟩
      · exact Term.below_of_mem_labelsOfAll ts (fun t ht => .part he (List.mem_map_of_mem ht)) h

theorem Term.below_of_mem_labels {root : Node α} {l : α} :
    ∀ t : Term α, root.Below (.term t) → l ∈ t.labels → ∃ n, root.Below n ∧ n.label = l
  | .mk l' fs ops, ht, h => by
      rw [Term.labels, List.mem_cons] at h
      rcases h with rfl | h
      · exact ⟨_, ht, rfl⟩
      · exact Factor.below_of_mem_labelsOfAll fs (fun f hf => .part ht (List.mem_map_of_mem hf)) h

theorem Factor.below_of_mem_labels {root : Node α} {l : α} :
    ∀ f : Factor α, root.Below (.factor f) → l ∈ f.labels → ∃ n, root.Below n ∧ n.label = l
  | .group l' e, hf, h => by
      rw [Factor.labels, List.mem_cons] at h
      rcases h with rfl | h
      · exact ⟨_, hf, rfl⟩
      · exact Expression.below_of_mem_labels e (.part hf (List.mem_singleton_self _)) h
  | .int l' value, hf, h => by
      rw [Factor.labels, List.mem_singleton] at h
      exact ⟨_, hf, h.symm⟩
  | .text l' literal, hf, h => by
      rw [Factor.labels, List.mem_singleton] at h
      exact ⟨_, hf, h.symm⟩
  | .name l' s, hf, h => by
      rw [Factor.labels, List.mem_singleton] at h
      exact ⟨_, hf, h.symm⟩

theorem Term.below_of_mem_labelsOfAll {root : Node α} {l : α} :
    ∀ ts : List (Term α), (∀ t ∈ ts, root.Below (.term t)) → l ∈ Term.labelsOfAll ts →
      ∃ n, root.Below n ∧ n.label = l
  | [], _, h => by simp [Term.labelsOfAll] at h
  | t :: ts, hts, h => by
      rw [Term.labelsOfAll, List.mem_append] at h
      obtain ⟨ht, hts⟩ := List.forall_mem_cons.mp hts
      rcases h with h | h
      · exact Term.below_of_mem_labels t ht h
      · exact Term.below_of_mem_labelsOfAll ts hts h

theorem Factor.below_of_mem_labelsOfAll {root : Node α} {l : α} :
    ∀ fs : List (Factor α), (∀ f ∈ fs, root.Below (.factor f)) → l ∈ Factor.labelsOfAll fs →
      ∃ n, root.Below n ∧ n.label = l
  | [], _, h => by simp [Factor.labelsOfAll] at h
  | f :: fs, hfs, h => by
      rw [Factor.labelsOfAll, List.mem_append] at h
      obtain ⟨hf, hfs⟩ := List.forall_mem_cons.mp hfs
      rcases h with h | h
      · exact Factor.below_of_mem_labels f hf h
      · exact Factor.below_of_mem_labelsOfAll fs hfs h

end

/-- Every label of a program belongs to one of its nodes. -/
theorem Program.below_of_mem_labels {p : Program α} {l : α} (h : l ∈ p.labels) :
    ∃ n, (Node.program p).Below n ∧ n.label = l := by
  rw [Program.labels, List.mem_cons] at h
  rcases h with rfl | h
  · exact ⟨_, .root, rfl⟩
  · obtain ⟨s, hs, h⟩ := List.mem_flatMap.mp h
    have hbelow : (Node.program p).Below (.statement s) := .part .root (List.mem_map_of_mem hs)
    cases s with
    | print l' value | bind l' _ value =>
      rw [Statement.labels, List.mem_cons] at h
      rcases h with rfl | h
      · exact ⟨_, hbelow, rfl⟩
      · exact Expression.below_of_mem_labels value (.part hbelow (List.mem_singleton_self _)) h

/-- A node of a numbered program is a node of the program: it has the label that
is found under its number, and so have all nodes below it. -/
theorem Program.exists_node_of_number {p : Program α} {n : Node Nat}
    (h : (Node.program p.number).Below n) :
    ∃ m, (Node.program p).Below m ∧ n.relabel (p.labels[·]?) = m.relabel some := by
  have hbelow : ((Node.program p).relabel some).Below (n.relabel (p.labels[·]?)) := by
    rw [Node.relabel, ← Program.relabel_number_labels]
    exact h.relabel _
  exact hbelow.of_relabel

/-- The same for a node that is part of another. -/
theorem Program.exists_part_of_number {p : Program α} {n m : Node Nat}
    (hn : (Node.program p.number).Below n) (hm : m ∈ n.parts) :
    ∃ n' m', (Node.program p).Below n' ∧ m' ∈ n'.parts ∧
      m.relabel (p.labels[·]?) = m'.relabel some := by
  obtain ⟨n', hbelow, heq⟩ := exists_node_of_number hn
  have hparts := congrArg Node.parts heq
  rw [Node.parts_relabel, Node.parts_relabel] at hparts
  have hmem : m.relabel (p.labels[·]?) ∈ n'.parts.map (Node.relabel some) :=
    hparts ▸ List.mem_map_of_mem hm
  obtain ⟨m', hm', heq'⟩ := List.mem_map.mp hmem
  exact ⟨n', m', hbelow, hm', heq'.symm⟩

end Printlet
