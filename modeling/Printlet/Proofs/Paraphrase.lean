/-
Printlet.Proofs.Paraphrase — programs that say the same in other words.

Two trees may differ in their labels, in what their variables are called and in
parentheses around what needs none, and still mean the same. `Program.Alike` is
that relation, by induction on two trees that need not have the same form: at each
node the parentheses of one side can be taken off, or those of the other.

How the proof goes. The moves of a program keep neither parentheses nor, once they
are bare, labels; so the moves of two such programs are the same up to the names in
them (`Restates`). The compiler is then followed on two rows of moves at once. What
it has declared on one side are the names of the other side, renamed, in the same
slots; what it has assembled is the same but for the nodes noted (`Emission.Alike`).
One move keeps this or is refused on both sides for the same reason
(`Move.emit_agree`), and so does a row (`emit_agree_of_restates`).

`Program.compile_alike`: both programs compile to the same unit or are refused for
the same reason, and so are sources that spell them.
-/
import Mathlib.Data.Set.Function
import Printlet.Proofs.Defects
import Printlet.Proofs.EngineSteps
import Printlet.Proofs.Parsing

namespace Printlet

variable {α β : Type} {ρ : String → String}

/-! ## 1. Trees -/

mutual

/-- Expressions that differ in labels, in names and in redundant parentheses only. -/
inductive Expression.Alike (ρ : String → String) : Expression α → Expression β → Prop
  | chain {l : α} {l' : β} {ts : List (Term α)} {ts' : List (Term β)} {ops : List SumOp}
      (h : Term.AllAlike ρ ts ts') : Expression.Alike ρ (.mk l ts ops) (.mk l' ts' ops)
  | wrapped {l l₁ l₂ : α} {e : Expression α} {e' : Expression β} (h : Expression.Alike ρ e e') :
      Expression.Alike ρ (.mk l [.mk l₁ [.group l₂ e] []] []) e'
  | wrapping {l l₁ l₂ : β} {e : Expression α} {e' : Expression β} (h : Expression.Alike ρ e e') :
      Expression.Alike ρ e (.mk l [.mk l₁ [.group l₂ e'] []] [])

/-- Terms that differ in labels, in names and in redundant parentheses only. -/
inductive Term.Alike (ρ : String → String) : Term α → Term β → Prop
  | chain {l : α} {l' : β} {fs : List (Factor α)} {fs' : List (Factor β)} {ops : List ProductOp}
      (h : Factor.AllAlike ρ fs fs') : Term.Alike ρ (.mk l fs ops) (.mk l' fs' ops)
  | wrapped {l l₁ l₂ : α} {t : Term α} {t' : Term β} (h : Term.Alike ρ t t') :
      Term.Alike ρ (.mk l [.group l₁ (.mk l₂ [t] [])] []) t'
  | wrapping {l l₁ l₂ : β} {t : Term α} {t' : Term β} (h : Term.Alike ρ t t') :
      Term.Alike ρ t (.mk l [.group l₁ (.mk l₂ [t'] [])] [])

/-- Factors that differ in labels, in names and in redundant parentheses only. -/
inductive Factor.Alike (ρ : String → String) : Factor α → Factor β → Prop
  | group {l : α} {l' : β} {e : Expression α} {e' : Expression β} (h : Expression.Alike ρ e e') :
      Factor.Alike ρ (.group l e) (.group l' e')
  | int {l : α} {l' : β} (value : Int64) : Factor.Alike ρ (.int l value) (.int l' value)
  | text {l : α} {l' : β} (literal : String) : Factor.Alike ρ (.text l literal) (.text l' literal)
  | name {l : α} {l' : β} (known : String) : Factor.Alike ρ (.name l known) (.name l' (ρ known))
  | wrapped {l l₁ l₂ : α} {f : Factor α} {f' : Factor β} (h : Factor.Alike ρ f f') :
      Factor.Alike ρ (.group l (.mk l₁ [.mk l₂ [f] []] [])) f'
  | wrapping {l l₁ l₂ : β} {f : Factor α} {f' : Factor β} (h : Factor.Alike ρ f f') :
      Factor.Alike ρ f (.group l (.mk l₁ [.mk l₂ [f'] []] []))

/-- Rows of terms that are alike one by one. -/
inductive Term.AllAlike (ρ : String → String) : List (Term α) → List (Term β) → Prop
  | nil : Term.AllAlike ρ [] []
  | cons {t : Term α} {t' : Term β} {ts : List (Term α)} {ts' : List (Term β)}
      (h : Term.Alike ρ t t') (hs : Term.AllAlike ρ ts ts') : Term.AllAlike ρ (t :: ts) (t' :: ts')

/-- Rows of factors that are alike one by one. -/
inductive Factor.AllAlike (ρ : String → String) : List (Factor α) → List (Factor β) → Prop
  | nil : Factor.AllAlike ρ [] []
  | cons {f : Factor α} {f' : Factor β} {fs : List (Factor α)} {fs' : List (Factor β)}
      (h : Factor.Alike ρ f f') (hs : Factor.AllAlike ρ fs fs') :
      Factor.AllAlike ρ (f :: fs) (f' :: fs')

end

/-- Statements that differ in labels, in names and in redundant parentheses only. -/
inductive Statement.Alike (ρ : String → String) : Statement α → Statement β → Prop
  | print {l : α} {l' : β} {e : Expression α} {e' : Expression β} (h : e.Alike ρ e') :
      Statement.Alike ρ (.print l e) (.print l' e')
  | bind {l : α} {l' : β} {e : Expression α} {e' : Expression β} (fresh : String)
      (h : e.Alike ρ e') : Statement.Alike ρ (.bind l fresh e) (.bind l' (ρ fresh) e')

/-- Programs that differ in labels, in names and in redundant parentheses only. -/
def Program.Alike (ρ : String → String) (p : Program α) (q : Program β) : Prop :=
  List.Forall₂ (Statement.Alike ρ) p.statements q.statements

/-! ## 2. Moves -/

namespace Move

/-- A move with its node forgotten. -/
def bare (move : Move α) : Move Unit :=
  move.relabel fun _ => ()

/-- A move with another name in it. -/
def rename (ρ : String → String) : Move α → Move α
  | .int node value => .int node value
  | .text node literal => .text node literal
  | .name node known => .name node (ρ known)
  | .sum node op => .sum node op
  | .product node op => .product node op
  | .stream node => .stream node
  | .print node => .print node
  | .bind node fresh => .bind node (ρ fresh)
  | .malformed node chain operands operators => .malformed node chain operands operators

/-- The name that a move looks up or binds. -/
def name? : Move α → Option String
  | .int _ _ => none
  | .text _ _ => none
  | .name _ known => some known
  | .sum _ _ => none
  | .product _ _ => none
  | .stream _ => none
  | .print _ => none
  | .bind _ fresh => some fresh
  | .malformed _ _ _ _ => none

theorem name?_bare (move : Move α) : move.bare.name? = move.name? := by
  cases move <;> rfl

/-- A move is its bare counterpart, renamed, with its own node. -/
theorem eq_of_bare {move : Move α} {move' : Move β} (h : move'.bare = move.bare.rename ρ) :
    move' = (move.rename ρ).relabel fun _ => move'.node :=
  calc move' = move'.bare.relabel fun _ => move'.node := by cases move' <;> rfl
    _ = (move.bare.rename ρ).relabel fun _ => move'.node := by rw [h]
    _ = (move.rename ρ).relabel fun _ => move'.node := by cases move <;> rfl

end Move

/-- The second row of moves is the first one with other nodes and names. -/
def Restates (ρ : String → String) (moves : List (Move α)) (moves' : List (Move β)) : Prop :=
  moves'.map Move.bare = (moves.map Move.bare).map (Move.rename ρ)

theorem Restates.append {front back : List (Move α)} {front' back' : List (Move β)}
    (h : Restates ρ front front') (h' : Restates ρ back back') :
    Restates ρ (front ++ back) (front' ++ back') := by
  simp only [Restates, List.map_append] at h h' ⊢
  rw [h, h']

/-- Parentheses around an expression leave no trace. -/
theorem Expression.moves_wrap (l l₁ l₂ : α) (e : Expression α) :
    (Expression.mk l [.mk l₁ [.group l₂ e] []] []).moves = e.moves := by
  simp [Expression.moves, Term.moves, Factor.moves, Term.movesRest, Factor.movesRest]

theorem Term.moves_wrap (l l₁ l₂ : α) (t : Term α) :
    (Term.mk l [.group l₁ (.mk l₂ [t] [])] []).moves = t.moves := by
  simp [Expression.moves, Term.moves, Factor.moves, Term.movesRest, Factor.movesRest]

theorem Factor.moves_wrap (l l₁ l₂ : α) (f : Factor α) :
    (Factor.group l (.mk l₁ [.mk l₂ [f] []] [])).moves = f.moves := by
  simp [Expression.moves, Term.moves, Factor.moves, Term.movesRest, Factor.movesRest]

theorem Term.AllAlike.length_eq :
    ∀ {ts : List (Term α)} {ts' : List (Term β)}, Term.AllAlike ρ ts ts' → ts'.length = ts.length
  | _, _, .nil => rfl
  | _, _, .cons _ hs => congrArg (· + 1) hs.length_eq

theorem Factor.AllAlike.length_eq :
    ∀ {fs : List (Factor α)} {fs' : List (Factor β)}, Factor.AllAlike ρ fs fs' →
      fs'.length = fs.length
  | _, _, .nil => rfl
  | _, _, .cons _ hs => congrArg (· + 1) hs.length_eq

mutual

theorem Expression.Alike.restates :
    ∀ {e : Expression α} {e' : Expression β}, e.Alike ρ e' → Restates ρ e.moves e'.moves
  | .mk l _ ops, .mk l' _ _, .chain .nil => by
      simp [Restates, Expression.moves, Move.rename, Move.bare, Move.relabel]
  | .mk l _ ops, .mk l' _ _, .chain (.cons h hs) => by
      rw [Expression.moves, Expression.moves, hs.length_eq]
      split
      · exact h.restates.append (hs.restates l l' ops)
      · simp [Restates, Move.rename, Move.bare, Move.relabel]
  | _, _, .wrapped h => by
      rw [Expression.moves_wrap]
      exact h.restates
  | _, _, .wrapping h => by
      rw [Expression.moves_wrap]
      exact h.restates

theorem Term.Alike.restates :
    ∀ {t : Term α} {t' : Term β}, t.Alike ρ t' → Restates ρ t.moves t'.moves
  | .mk l _ ops, .mk l' _ _, .chain .nil => by
      simp [Restates, Term.moves, Move.rename, Move.bare, Move.relabel]
  | .mk l _ ops, .mk l' _ _, .chain (.cons h hs) => by
      rw [Term.moves, Term.moves, hs.length_eq]
      split
      · exact h.restates.append (hs.restates l l' ops)
      · simp [Restates, Move.rename, Move.bare, Move.relabel]
  | _, _, .wrapped h => by
      rw [Term.moves_wrap]
      exact h.restates
  | _, _, .wrapping h => by
      rw [Term.moves_wrap]
      exact h.restates

theorem Factor.Alike.restates :
    ∀ {f : Factor α} {f' : Factor β}, f.Alike ρ f' → Restates ρ f.moves f'.moves
  | _, _, .group h => by
      rw [Factor.moves, Factor.moves]
      exact h.restates
  | _, _, .int value => by simp [Restates, Factor.moves, Move.rename, Move.bare, Move.relabel]
  | _, _, .text literal => by simp [Restates, Factor.moves, Move.rename, Move.bare, Move.relabel]
  | _, _, .name known => by simp [Restates, Factor.moves, Move.rename, Move.bare, Move.relabel]
  | _, _, .wrapped h => by
      rw [Factor.moves_wrap]
      exact h.restates
  | _, _, .wrapping h => by
      rw [Factor.moves_wrap]
      exact h.restates

theorem Term.AllAlike.restates (node : α) (node' : β) :
    ∀ (ops : List SumOp) {ts : List (Term α)} {ts' : List (Term β)}, Term.AllAlike ρ ts ts' →
      Restates ρ (Term.movesRest node ops ts) (Term.movesRest node' ops ts')
  | [], _, _, _ => by simp [Term.movesRest, Restates]
  | _ :: _, _, _, .nil => by simp [Term.movesRest, Restates]
  | op :: ops, _, _, .cons h hs => by
      rw [Term.movesRest, Term.movesRest]
      have hop : Restates ρ [Move.sum node op] [Move.sum node' op] := rfl
      exact h.restates.append (hop.append (hs.restates node node' ops))

theorem Factor.AllAlike.restates (node : α) (node' : β) :
    ∀ (ops : List ProductOp) {fs : List (Factor α)} {fs' : List (Factor β)},
      Factor.AllAlike ρ fs fs' →
      Restates ρ (Factor.movesRest node ops fs) (Factor.movesRest node' ops fs')
  | [], _, _, _ => by simp [Factor.movesRest, Restates]
  | _ :: _, _, _, .nil => by simp [Factor.movesRest, Restates]
  | op :: ops, _, _, .cons h hs => by
      rw [Factor.movesRest, Factor.movesRest]
      have hop : Restates ρ [Move.product node op] [Move.product node' op] := rfl
      exact h.restates.append (hop.append (hs.restates node node' ops))

end

theorem Statement.Alike.restates {s : Statement α} {s' : Statement β} (h : s.Alike ρ s') :
    Restates ρ s.moves s'.moves := by
  cases h with
  | @print l l' e e' h =>
    have hstream : Restates ρ [Move.stream l] [Move.stream l'] := rfl
    have hprint : Restates ρ [Move.print l] [Move.print l'] := rfl
    exact hstream.append (h.restates.append hprint)
  | @bind l l' e e' fresh h =>
    have hbind : Restates ρ [Move.bind l fresh] [Move.bind l' (ρ fresh)] := rfl
    exact h.restates.append hbind

/-- Programs that are alike make the same moves. -/
theorem Program.Alike.restates {p : Program α} {q : Program β} (h : p.Alike ρ q) :
    Restates ρ p.moves q.moves := by
  obtain ⟨_, ss⟩ := p
  obtain ⟨_, ss'⟩ := q
  simp only [Program.Alike, Program.moves] at h ⊢
  induction h with
  | nil => rfl
  | cons hs _ ih =>
    rw [List.flatMap_cons, List.flatMap_cons]
    exact hs.restates.append ih

/-! ## 3. Two compilations at once -/

/-- Two assemblies differ in the nodes noted only. -/
def Assembly.Alike (a a' : Assembly) : Prop :=
  a' = { a with nodes := a'.nodes }

/-- Two actions on assemblies come to the same but for the nodes noted. -/
inductive Assembly.Agree : EStateM.Result AssemblyError Assembly Unit →
    EStateM.Result AssemblyError Assembly Unit → Prop
  | ok {a a' : Assembly} (h : a.Alike a') : Agree (.ok () a) (.ok () a')
  | error (e : AssemblyError) (a a' : Assembly) : Agree (.error e a) (.error e a')

theorem Assembly.Alike.emit {a a' : Assembly} (h : a.Alike a') (i : Instruction)
    (node node' : Nat) : Assembly.Agree (Assembly.emit i node a) (Assembly.emit i node' a') := by
  obtain ⟨code, nodes, constants, depth, maxDepth⟩ := a
  rw [h]
  simp only [Assembly.emit]
  split
  · exact .error _ _ _
  · exact .ok rfl

theorem Assembly.Alike.emitText {a a' : Assembly} (h : a.Alike a') (text : String)
    (node node' : Nat) :
    Assembly.Agree (Assembly.emitText text node a) (Assembly.emitText text node' a') := by
  obtain ⟨code, nodes, constants, depth, maxDepth⟩ := a
  rw [h]
  simp only [Assembly.emitText, Assembly.addConstant, bind, EStateM.bind]
  by_cases hroom : constants.size < 4294967296
  · simp only [if_pos hroom]
    have hpushed : Assembly.Alike ⟨code, nodes, constants.push text, depth, maxDepth⟩
        ⟨code, a'.nodes, constants.push text, depth, maxDepth⟩ := rfl
    exact hpushed.emit _ node node'
  · simp only [if_neg hroom]
    exact .error _ _ _

/-- The same complaint about another node, with names renamed. -/
inductive CompileError.Matches (ρ : String → String) : CompileError → CompileError → Prop
  | undeclared (node node' : Nat) (name : String) :
      Matches ρ (.undeclared node name) (.undeclared node' (ρ name))
  | tooManyLocals (node node' : Nat) (name : String) :
      Matches ρ (.tooManyLocals node name) (.tooManyLocals node' (ρ name))
  | defect (node node' : Nat) (cause : Defect) :
      Matches ρ (.defect node cause) (.defect node' cause)

namespace Emission

/-- Two states of the compiler: the names of the second are those of the first,
renamed, in the same slots, and the assemblies differ in the nodes noted only. -/
structure Alike (ρ : String → String) (names : List String) (em em' : Emission) : Prop where
  scope : em.scope.Lists names
  renamed : em'.scope.Lists (names.map ρ)
  assembly : em.assembly.Alike em'.assembly

/-- Two attempts come to states that are alike, or end with the same complaint. -/
inductive Agree (ρ : String → String) (names : List String) :
    Except CompileError Emission → Except CompileError Emission → Prop
  | ok {em em' : Emission} (h : Alike ρ names em em') : Agree ρ names (.ok em) (.ok em')
  | error {e e' : CompileError} (h : e.Matches ρ e') : Agree ρ names (.error e) (.error e')

variable {names names' : List String} {em em' : Emission} {name : String}

theorem Agree.bind {first first' : Except CompileError Emission}
    {next next' : Emission → Except CompileError Emission} (h : Agree ρ names first first')
    (hnext : ∀ em em', Alike ρ names em em' → Agree ρ names' (next em) (next' em')) :
    Agree ρ names' (first >>= next) (first' >>= next') := by
  cases h with
  | ok h => exact hnext _ _ h
  | error h => exact .error h

theorem Alike.assemble (h : Alike ρ names em em') {action action' : Assembling Unit}
    (node node' : Nat) (hagree : Assembly.Agree (action em.assembly) (action' em'.assembly)) :
    Agree ρ names (em.assemble action node) (em'.assemble action' node') := by
  obtain ⟨scope, assembly⟩ := em
  obtain ⟨scope', assembly'⟩ := em'
  simp only [Emission.assemble]
  simp only at hagree
  generalize action assembly = result at hagree ⊢
  generalize action' assembly' = result' at hagree ⊢
  cases hagree with
  | ok halike => exact .ok ⟨h.scope, h.renamed, halike⟩
  | error e a a' => exact .error (.defect node node' _)

theorem Alike.emit (h : Alike ρ names em em') (i : Instruction) (node node' : Nat) :
    Agree ρ names (em.emit i node) (em'.emit i node') :=
  h.assemble node node' (h.assembly.emit i node node')

/-! ### Names -/

section Names

variable {mentioned : Set String} (hρ : mentioned.InjOn ρ) (hnames : ∀ x ∈ names, x ∈ mentioned)
  (hname : name ∈ mentioned)

include hρ hnames hname

/-- A name stands in the renamed row where it stood. -/
theorem getElem?_map_eq_some_iff {slot : Nat} :
    (names.map ρ)[slot]? = some (ρ name) ↔ names[slot]? = some name := by
  rw [List.getElem?_map, Option.map_eq_some_iff]
  constructor
  · rintro ⟨other, hother, heq⟩
    rwa [← hρ (hnames other (List.mem_of_getElem? hother)) hname heq]
  · exact fun h => ⟨name, h, rfl⟩

theorem mem_map_rename_iff : ρ name ∈ names.map ρ ↔ name ∈ names := by
  simp only [List.mem_iff_getElem?, getElem?_map_eq_some_iff hρ hnames hname]

theorem extend_map : Scope.extend (names.map ρ) (ρ name) = (Scope.extend names name).map ρ := by
  unfold Scope.extend
  by_cases hin : name ∈ names
  · rw [if_pos hin, if_pos ((mem_map_rename_iff hρ hnames hname).mpr hin)]
  · rw [if_neg hin, if_neg (fun h => hin ((mem_map_rename_iff hρ hnames hname).mp h)),
      List.map_append, List.map_singleton]

/-- Looking a name up. -/
theorem Alike.load (h : Alike ρ names em em') (node node' : Nat) :
    Agree ρ names (em.load name node) (em'.load (ρ name) node') := by
  have hslot : em'.scope.slot? (ρ name) = em.scope.slot? name := by
    apply Option.ext
    intro slot
    rw [h.renamed.slot, h.scope.slot, getElem?_map_eq_some_iff hρ hnames hname]
  unfold Emission.load
  rw [hslot]
  cases em.scope.slot? name with
  | none => exact .error (.undeclared node node' name)
  | some slot => exact h.emit _ node node'

/-- Declaring a name: there is room on both sides or on neither, and the slot is
the same. -/
theorem Alike.store (h : Alike ρ names em em') (node node' : Nat) :
    Agree ρ (Scope.extend names name) (em.store name node) (em'.store (ρ name) node') := by
  obtain ⟨scope, assembly⟩ := em
  obtain ⟨scope', assembly'⟩ := em'
  have hlists : scope.Lists names := h.scope
  have hlists' : scope'.Lists (names.map ρ) := h.renamed
  have hnone : scope'.declare (ρ name) = none ↔ scope.declare name = none := by
    rw [hlists'.declare_eq_none_iff, hlists.declare_eq_none_iff, List.length_map,
      mem_map_rename_iff hρ hnames hname]
  simp only [Emission.store]
  cases hd : scope.declare name with
  | none =>
    rw [hnone.mpr hd]
    exact .error (.tooManyLocals node node' name)
  | some declared =>
    obtain ⟨slot, after⟩ := declared
    cases hd' : scope'.declare (ρ name) with
    | none =>
      rw [hnone.mp hd'] at hd
      cases hd
    | some declared' =>
      obtain ⟨slot', after'⟩ := declared'
      obtain ⟨hafter, hplace⟩ := hlists.declare hd
      obtain ⟨hafter', hplace'⟩ := hlists'.declare hd'
      rw [extend_map hρ hnames hname] at hafter' hplace'
      have hslot : slot' = slot := by
        refine hafter'.place_unique hplace' ?_
        rw [List.getElem?_map, hplace]
        rfl
      subst hslot
      have halike : Alike ρ (Scope.extend names name) ⟨after, assembly⟩ ⟨after', assembly'⟩ :=
        ⟨hafter, hafter', h.assembly⟩
      exact halike.emit _ node node'

end Names

end Emission

/-! ### Moves -/

section Moves

open Emission

variable {mentioned : Set String} {names : List String} {em em' : Emission}

/-- **One move.** A move and its counterpart are emitted alike, or refused with the
same complaint. -/
theorem Move.emit_agree (hρ : mentioned.InjOn ρ) (hnames : ∀ x ∈ names, x ∈ mentioned)
    (h : Emission.Alike ρ names em em') {move move' : Move Nat}
    (hmove : move'.bare = move.bare.rename ρ) (hname : ∀ x ∈ move.name?, x ∈ mentioned) :
    Agree ρ (move.extend names) (move.emit em) (move'.emit em') := by
  rw [Move.eq_of_bare hmove]
  generalize move'.node = node'
  cases move with
  | int node value => exact h.emit _ node node'
  | text node literal =>
    simp only [Move.rename, Move.relabel, Move.emit]
    cases unquote? literal with
    | none => exact .error (.defect node node' _)
    | some text => exact h.assemble node node' (h.assembly.emitText text node node')
  | name node known => exact h.load hρ hnames (hname known rfl) node node'
  | sum node op => exact h.emit _ node node'
  | product node op => exact h.emit _ node node'
  | stream node => exact h.emit _ node node'
  | print node => exact h.emit _ node node'
  | bind node fresh => exact h.store hρ hnames (hname fresh rfl) node node'
  | malformed node chain operands operators => exact .error (.defect node node' _)

/-- The names in scope after a move that mentions none but these. -/
theorem Move.mem_mentioned_of_mem_extend {move : Move Nat} (hnames : ∀ x ∈ names, x ∈ mentioned)
    (hname : ∀ x ∈ move.name?, x ∈ mentioned) : ∀ x ∈ move.extend names, x ∈ mentioned := by
  cases move with
  | bind node fresh =>
    intro x hx
    obtain ⟨slot, hslot⟩ := List.mem_iff_getElem?.mp hx
    rcases Scope.getElem?_extend hslot with rfl | hold
    · exact hname x rfl
    · exact hnames x (List.mem_of_getElem? hold)
  | _ => exact hnames

/-- **A row of moves.** -/
theorem emit_agree_of_restates (hρ : mentioned.InjOn ρ) {moves moves' : List (Move Nat)}
    (hmoves : Restates ρ moves moves') (hmentioned : ∀ move ∈ moves, ∀ x ∈ move.name?, x ∈ mentioned)
    (hnames : ∀ x ∈ names, x ∈ mentioned) (h : Emission.Alike ρ names em em') :
    Agree ρ (moves.foldl Move.extend names) (moves.foldlM Move.emit em)
      (moves'.foldlM Move.emit em') := by
  induction moves generalizing moves' names em em' with
  | nil =>
    obtain rfl : moves' = [] := List.map_eq_nil_iff.mp hmoves
    exact .ok h
  | cons move moves ih =>
    obtain ⟨move', rest', rfl, hmove, hrest⟩ := List.map_eq_cons_iff.mp hmoves
    have hname := hmentioned move List.mem_cons_self
    rw [List.foldlM_cons, List.foldlM_cons, List.foldl_cons]
    refine (Move.emit_agree hρ hnames h hmove hname).bind fun em₁ em₁' h₁ => ?_
    exact ih hrest (fun m hm => hmentioned m (List.mem_cons_of_mem move hm))
      (Move.mem_mentioned_of_mem_extend hnames hname) h₁

end Moves

/-! ## 4. Programs and sources -/

/-- Two assemblies are finished as the same unit, or not for the same reason. -/
inductive Assembly.SameUnit : Except AssemblyError (CodeUnit × Origins) →
    Except AssemblyError (CodeUnit × Origins) → Prop
  | unit (u : CodeUnit) (origins origins' : Origins) :
      SameUnit (.ok (u, origins)) (.ok (u, origins'))
  | error (e : AssemblyError) : SameUnit (.error e) (.error e)

theorem Assembly.Alike.pack {a a' : Assembly} (h : a.Alike a') (names : UnitNames)
    (locals : Nat) : Assembly.SameUnit (a.pack names locals) (a'.pack names locals) := by
  rw [h]
  simp only [Assembly.pack]
  split
  · exact .error _
  · split
    · exact .error _
    · exact .unit _ _ _

theorem Assembly.Alike.finish {a a' : Assembly} (h : a.Alike a') (names : UnitNames)
    (locals node node' : Nat) :
    Assembly.SameUnit (a.finish names locals node) (a'.finish names locals node') := by
  have hdepth : a'.depth = a.depth := by rw [h]
  have hret := h.emit .ret node node'
  unfold Assembly.finish
  rw [hdepth]
  generalize Assembly.emit .ret node a = result at hret ⊢
  generalize Assembly.emit .ret node' a' = result' at hret ⊢
  split
  · exact .error _
  · cases hret with
    | ok halike => exact halike.pack names locals
    | error e a a' => exact .error e

/-- Two compilations make the same unit, or end with the same complaint. -/
inductive SameVerdict (ρ : String → String) : Except CompileError (CodeUnit × Origins) →
    Except CompileError (CodeUnit × Origins) → Prop
  | unit (u : CodeUnit) (origins origins' : Origins) :
      SameVerdict ρ (.ok (u, origins)) (.ok (u, origins'))
  | error {e e' : CompileError} (h : e.Matches ρ e') : SameVerdict ρ (.error e) (.error e')

namespace Program

/-- The names that a program looks up or binds. -/
def mentioned (p : Program α) : Set String :=
  {x | some x ∈ p.moves.map Move.name?}

/-- The program can be written, and the source is one way of writing it. Free are
blanks and comments, semicolons, and zeros in front of numbers. -/
def WrittenAs (p : Program α) (source : String) : Prop :=
  p.WellFormed ∧ ∃ tokens, Statement.Row p.statements tokens ∧ Spells tokens source.toList

theorem writtenAs_of_parse {p : Program α} {source : String} {parsed : Parsed}
    (h : parse source = .ok parsed) (hshape : parsed.program.SameShape p) : p.WrittenAs source := by
  obtain ⟨hwell, tokens, hrow, hspells⟩ := spells_of_parse h
  exact ⟨hwell.of_sameShape hshape, tokens, hrow.of_shape hshape, hspells⟩

/-- Labels play no part in bare moves. -/
theorem SameShape.bare_moves {p : Program α} {q : Program β} (h : p.SameShape q) :
    p.moves.map Move.bare = q.moves.map Move.bare := by
  have hbare : ∀ {γ : Type} (r : Program γ),
      r.moves.map Move.bare = (r.statements.map Statement.shape).flatMap Statement.moves :=
    fun r => (r.moves_relabel fun _ => ()).symm
  rw [hbare, hbare, h]

theorem SameShape.mentioned_eq {p : Program α} {q : Program β} (h : p.SameShape q) :
    p.mentioned = q.mentioned := by
  have hname : ∀ {γ : Type} (r : Program γ),
      r.moves.map Move.name? = (r.moves.map Move.bare).map Move.name? := by
    intro γ r
    simp [Move.name?_bare]
  simp only [mentioned, hname, h.bare_moves]

/-- Programs that make the same moves, up to nodes and names, compile alike. -/
theorem compile_sameVerdict {p q : Program Nat} (hmoves : Restates ρ p.moves q.moves)
    (hρ : p.mentioned.InjOn ρ) (names : UnitNames) :
    SameVerdict ρ (p.compile names) (q.compile names) := by
  have hmentioned : ∀ move ∈ p.moves, ∀ x ∈ move.name?, x ∈ p.mentioned := by
    intro move hmove x hx
    exact List.mem_map.mpr ⟨move, hmove, hx⟩
  have hempty : Emission.Alike ρ [] Emission.empty Emission.empty := ⟨.empty, .empty, rfl⟩
  have hagree := emit_agree_of_restates hρ hmoves hmentioned
    (fun x hx => absurd hx List.not_mem_nil) hempty
  rw [← p.emit_eq_moves, ← q.emit_eq_moves] at hagree
  unfold compile
  generalize p.emit = result at hagree ⊢
  generalize q.emit = result' at hagree ⊢
  cases hagree with
  | error h => exact .error h
  | @ok em em' h =>
    have hsize : em'.scope.size = em.scope.size := by
      rw [h.renamed.size, h.scope.size, List.length_map]
    simp only [bind, Except.bind, hsize]
    have hfinish := h.assembly.finish names em.scope.size p.label q.label
    generalize em.assembly.finish names em.scope.size p.label = finished at hfinish ⊢
    generalize em'.assembly.finish names em.scope.size q.label = finished' at hfinish ⊢
    cases hfinish with
    | unit u origins origins' => exact .unit u origins origins'
    | error e => exact .error (.defect p.label q.label _)

/-- **Only what a program says matters.** Programs that differ in labels, in redundant
parentheses, and in names that are renamed one to one, compile to the same unit or are
refused with the same complaint. So do sources that spell them; the images are the
same, byte for byte, since the units are. -/
theorem compile_alike {p q : Program Nat} (h : p.Alike ρ q) (hρ : p.mentioned.InjOn ρ)
    (names : UnitNames) :
    SameVerdict ρ (p.compile names) (q.compile names) ∧
    ∀ source source', p.WrittenAs source → q.WrittenAs source' →
      (∃ u origins origins', compileSource source names = .ok (u, origins) ∧
        compileSource source' names = .ok (u, origins')) ∨
      ∃ e e', e.Matches ρ e' ∧ compileSource source names = .error (.compile e) ∧
        compileSource source' names = .error (.compile e') := by
  refine ⟨compile_sameVerdict h.restates hρ names, ?_⟩
  rintro source source' ⟨hwell, tokens, hrow, hspells⟩ ⟨hwell', tokens', hrow', hspells'⟩
  obtain ⟨parsed, hparse, hshape⟩ := exists_parse_of_spells hwell hrow hspells
  obtain ⟨parsed', hparse', hshape'⟩ := exists_parse_of_spells hwell' hrow' hspells'
  -- what is read has the moves of the trees, so the trees' relation carries over
  have hmoves : Restates ρ parsed.program.moves parsed'.program.moves := by
    rw [Restates, hshape.bare_moves, hshape'.bare_moves]
    exact h.restates
  have hverdict := compile_sameVerdict hmoves (hshape.mentioned_eq ▸ hρ) names
  generalize hresult : parsed.program.compile names = result at hverdict
  generalize hresult' : parsed'.program.compile names = result' at hverdict
  cases hverdict with
  | unit u origins origins' =>
    exact .inl ⟨u, origins, origins', compileSource_eq_ok_iff.mpr ⟨parsed, hparse, hresult⟩,
      compileSource_eq_ok_iff.mpr ⟨parsed', hparse', hresult'⟩⟩
  | error hmatches =>
    exact .inr ⟨_, _, hmatches,
      compileSource_eq_error_iff.mpr (.inr ⟨parsed, _, hparse, hresult, rfl⟩),
      compileSource_eq_error_iff.mpr (.inr ⟨parsed', _, hparse', hresult', rfl⟩)⟩

/-- Two names change places: `x` is called `y`, and `y` is called `x`. -/
def swapped (name : String) : String :=
  if name = "x" then "y" else if name = "y" then "x" else name

/-- The program `let x = 1 let y = x + 2 print y`. -/
def plain : Program Nat :=
  ⟨0, [
    .bind 1 "x" (.mk 2 [.mk 3 [.int 4 1] []] []),
    .bind 5 "y" (.mk 6 [.mk 7 [.name 8 "x"] [], .mk 9 [.int 10 2] []] [.add]),
    .print 11 (.mk 12 [.mk 13 [.name 14 "y"] []] [])]⟩

/-- The program `let y = 1 let x = ((y) + 2) print (x)`, with other labels. -/
def ornate : Program Nat :=
  ⟨7, [
    .bind 7 "y" (.mk 7 [.mk 7 [.int 7 1] []] []),
    .bind 7 "x" (.mk 7 [.mk 7 [.group 7 (.mk 7
      [.mk 7 [.group 7 (.mk 7 [.mk 7 [.name 7 "y"] []] [])] [], .mk 7 [.int 7 2] []] [.add])]
        []] []),
    .print 7 (.mk 7 [.mk 7 [.group 7 (.mk 7 [.mk 7 [.name 7 "x"] []] [])] []] [])]⟩

theorem plain_alike_ornate : plain.Alike swapped ornate := by
  refine .cons (.bind "x" (.chain (.cons (.chain (.cons (.int 1) .nil)) .nil))) (.cons ?_ (.cons
    (.print (.chain (.cons (.chain (.cons (.wrapping (.name "y")) .nil)) .nil))) .nil))
  exact .bind "y" (.wrapping (.chain (.cons (.chain (.cons (.wrapping (.name "x")) .nil))
    (.cons (.chain (.cons (.int 2) .nil)) .nil))))

theorem injOn_swapped : plain.mentioned.InjOn swapped := by
  have hnames : plain.moves.map Move.name? =
      [none, some "x", some "x", none, none, some "y", none, some "y", none] := rfl
  have hmentioned : ∀ x ∈ plain.mentioned, x = "x" ∨ x = "y" := by
    intro x hx
    have hlist : some x ∈ plain.moves.map Move.name? := hx
    simpa [hnames] using hlist
  intro a ha b hb h
  rcases hmentioned a ha with rfl | rfl <;> rcases hmentioned b hb with rfl | rfl <;>
    simp_all [swapped]

theorem plain_writtenAs : plain.WrittenAs "let x = 1 let y = x + 2 print y" := by
  have hscan : Scan.ofSource "let x = 1 let y = x + 2 print y" =
      ⟨[⟨.letWord, ⟨0, 3⟩⟩, ⟨.name "x", ⟨4, 5⟩⟩, ⟨.assign, ⟨6, 7⟩⟩, ⟨.int 1, ⟨8, 9⟩⟩,
        ⟨.letWord, ⟨10, 13⟩⟩, ⟨.name "y", ⟨14, 15⟩⟩, ⟨.assign, ⟨16, 17⟩⟩, ⟨.name "x", ⟨18, 19⟩⟩,
        ⟨.sum .add, ⟨20, 21⟩⟩, ⟨.int 2, ⟨22, 23⟩⟩, ⟨.printWord, ⟨24, 29⟩⟩, ⟨.name "y", ⟨30, 31⟩⟩],
        31, true⟩ := by
    decide +kernel
  have hparse : ∃ parsed, parse "let x = 1 let y = x + 2 print y" = .ok parsed ∧
      parsed.program.SameShape plain := by
    rw [parse, hscan]
    exact ⟨_, rfl, rfl⟩
  obtain ⟨parsed, hparse, hshape⟩ := hparse
  exact writtenAs_of_parse hparse hshape

theorem ornate_writtenAs :
    ornate.WrittenAs "let y=01; // one\nlet x = ((y) + 2)\nprint (x);" := by
  have hscan : Scan.ofSource "let y=01; // one\nlet x = ((y) + 2)\nprint (x);" =
      ⟨[⟨.letWord, ⟨0, 3⟩⟩, ⟨.name "y", ⟨4, 5⟩⟩, ⟨.assign, ⟨5, 6⟩⟩, ⟨.int 1, ⟨6, 8⟩⟩,
        ⟨.semicolon, ⟨8, 9⟩⟩, ⟨.letWord, ⟨17, 20⟩⟩, ⟨.name "x", ⟨21, 22⟩⟩, ⟨.assign, ⟨23, 24⟩⟩,
        ⟨.openParen, ⟨25, 26⟩⟩, ⟨.openParen, ⟨26, 27⟩⟩, ⟨.name "y", ⟨27, 28⟩⟩,
        ⟨.closeParen, ⟨28, 29⟩⟩, ⟨.sum .add, ⟨30, 31⟩⟩, ⟨.int 2, ⟨32, 33⟩⟩,
        ⟨.closeParen, ⟨33, 34⟩⟩, ⟨.printWord, ⟨35, 40⟩⟩, ⟨.openParen, ⟨41, 42⟩⟩,
        ⟨.name "x", ⟨42, 43⟩⟩, ⟨.closeParen, ⟨43, 44⟩⟩, ⟨.semicolon, ⟨44, 45⟩⟩], 45, true⟩ := by
    decide +kernel
  have hparse : ∃ parsed,
      parse "let y=01; // one\nlet x = ((y) + 2)\nprint (x);" = .ok parsed ∧
        parsed.program.SameShape ornate := by
    rw [parse, hscan]
    exact ⟨_, rfl, rfl⟩
  obtain ⟨parsed, hparse, hshape⟩ := hparse
  exact writtenAs_of_parse hparse hshape

theorem compile_alike_swapped :
    ∃ u origins origins', compileSource "let x = 1 let y = x + 2 print y" {} = .ok (u, origins) ∧
      compileSource "let y=01; // one\nlet x = ((y) + 2)\nprint (x);" {} = .ok (u, origins') := by
  have hok : (compileSource "let x = 1 let y = x + 2 print y" {}).isOk = true := by decide +kernel
  rcases (compile_alike plain_alike_ornate injOn_swapped {}).2 _ _ plain_writtenAs
    ornate_writtenAs with hunit | ⟨e, e', -, herror, -⟩
  · exact hunit
  · rw [herror] at hok
    cases hok

end Program

end Printlet
