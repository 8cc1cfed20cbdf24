/-
Printlet.Proofs.Emission — what the compiler emits.

Each move becomes one instruction. `Move.Lowers` says which, and what it does
to the names, the constants and the depth that the assembly counts;
`Emits` strings moves together. Both are read off a successful compilation
(`Move.lowers_of_emit`, `emits_of_foldlM`), so that no later proof unfolds the
compiler. `Program.compiled_of_compile` is the whole of it for a program: the
finished unit, field by field.
-/
import Printlet.Proofs.Postfix
import Printlet.Proofs.Scope

namespace Printlet

/-! ## One instruction -/

/-- An assembly has grown by one instruction for a node. -/
structure Assembly.Grows (before after : Assembly) (i : Instruction) (node : Nat) : Prop where
  enough : i.effect.pops ≤ before.depth
  code : after.code = before.code.push i
  nodes : after.nodes = before.nodes.push node
  depth : after.depth = before.depth - i.effect.pops + i.effect.pushes
  maxDepth : after.maxDepth = max before.maxDepth after.depth

theorem Assembly.grows_of_emit {a a' : Assembly} {i : Instruction} {node : Nat}
    (h : Assembly.emit i node a = .ok () a') :
    a.Grows a' i node ∧ a'.constants = a.constants := by
  obtain ⟨code, nodes, constants, depth, maxDepth⟩ := a
  simp only [Assembly.emit] at h
  by_cases hd : depth < i.effect.pops
  · rw [if_pos hd] at h
    cases h
  · rw [if_neg hd] at h
    cases h
    exact ⟨⟨Nat.le_of_not_lt hd, rfl, rfl, rfl, rfl⟩, rfl⟩

theorem Assembly.grows_of_emitText {a a' : Assembly} {text : String} {node : Nat}
    (h : Assembly.emitText text node a = .ok () a') :
    a.Grows a' (.pushConst (UInt32.ofNat a.constants.size)) node ∧
      a'.constants = a.constants.push text ∧ a.constants.size < 4294967296 := by
  by_cases hroom : a.constants.size < 4294967296
  · have hemit : Assembly.emitText text node a =
        Assembly.emit (.pushConst (UInt32.ofNat a.constants.size)) node
          { a with constants := a.constants.push text } := by
      simp only [Assembly.emitText, Assembly.addConstant, bind, EStateM.bind, if_pos hroom]
    rw [hemit] at h
    obtain ⟨hgrows, hconstants⟩ := Assembly.grows_of_emit h
    exact ⟨⟨hgrows.enough, hgrows.code, hgrows.nodes, hgrows.depth, hgrows.maxDepth⟩,
      hconstants, hroom⟩
  · simp only [Assembly.emitText, Assembly.addConstant, bind, EStateM.bind, if_neg hroom] at h
    cases h

/-- A successful action on the assembly leaves the names alone. -/
theorem Emission.assemble_ok {em em' : Emission} {action : Assembling Unit} {node : Nat}
    (h : em.assemble action node = .ok em') :
    action em.assembly = .ok () em'.assembly ∧ em'.scope = em.scope := by
  obtain ⟨scope, assembly⟩ := em
  simp only [Emission.assemble] at h
  cases hact : action assembly with
  | ok u assembly' =>
    rw [hact] at h
    cases h
    exact ⟨rfl, rfl⟩
  | error e assembly' =>
    rw [hact] at h
    cases h

/-! ## One move -/

/-- The instruction that a move becomes, and what it does to names and
constants. -/
inductive Move.Shape (em em' : Emission) : Move Nat → Instruction → Prop
  | int {node value} (hs : em'.scope = em.scope)
      (hc : em'.assembly.constants = em.assembly.constants) :
      Shape em em' (.int node value) (.pushInt value)
  | text {node literal text} (hq : unquote? literal = some text)
      (hroom : em.assembly.constants.size < 4294967296) (hs : em'.scope = em.scope)
      (hc : em'.assembly.constants = em.assembly.constants.push text) :
      Shape em em' (.text node literal) (.pushConst (UInt32.ofNat em.assembly.constants.size))
  | name {node name slot} (hslot : em.scope.slot? name = some slot) (hs : em'.scope = em.scope)
      (hc : em'.assembly.constants = em.assembly.constants) :
      Shape em em' (.name node name) (.loadLocal (UInt16.ofNat slot))
  | sum {node op} (hs : em'.scope = em.scope)
      (hc : em'.assembly.constants = em.assembly.constants) :
      Shape em em' (.sum node op) (.arith op.arith)
  | product {node op} (hs : em'.scope = em.scope)
      (hc : em'.assembly.constants = em.assembly.constants) :
      Shape em em' (.product node op) (.arith op.arith)
  | stream {node} (hs : em'.scope = em.scope)
      (hc : em'.assembly.constants = em.assembly.constants) :
      Shape em em' (.stream node) .getStdout
  | print {node} (hs : em'.scope = em.scope)
      (hc : em'.assembly.constants = em.assembly.constants) :
      Shape em em' (.print node) .println
  | bind {node name slot} (hd : em.scope.declare name = some (slot, em'.scope))
      (hc : em'.assembly.constants = em.assembly.constants) :
      Shape em em' (.bind node name) (.storeLocal (UInt16.ofNat slot))

/-- A move becomes an instruction, and the compiler goes from one state to the
next. -/
structure Move.Lowers (em : Emission) (move : Move Nat) (i : Instruction)
    (em' : Emission) : Prop where
  grows : em.assembly.Grows em'.assembly i move.node
  shape : move.Shape em em' i

theorem Emission.emit_ok {em em' : Emission} {i : Instruction} {node : Nat}
    (h : em.emit i node = .ok em') :
    em.assembly.Grows em'.assembly i node ∧ em'.scope = em.scope ∧
      em'.assembly.constants = em.assembly.constants := by
  obtain ⟨hact, hs⟩ := Emission.assemble_ok h
  obtain ⟨hgrows, hc⟩ := Assembly.grows_of_emit hact
  exact ⟨hgrows, hs, hc⟩

/-- Whatever the compiler emits for a move is one instruction of its shape. -/
theorem Move.lowers_of_emit {em em' : Emission} {move : Move Nat}
    (h : move.emit em = .ok em') : ∃ i, move.Lowers em i em' := by
  cases move with
  | int node value =>
    obtain ⟨hgrows, hs, hc⟩ := Emission.emit_ok h
    exact ⟨_, hgrows, .int hs hc⟩
  | text node literal =>
    simp only [Move.emit] at h
    cases hq : unquote? literal with
    | none => rw [hq] at h; cases h
    | some text =>
      rw [hq] at h
      obtain ⟨hact, hs⟩ := Emission.assemble_ok h
      obtain ⟨hgrows, hc, hroom⟩ := Assembly.grows_of_emitText hact
      exact ⟨_, hgrows, .text hq hroom hs hc⟩
  | name node name =>
    simp only [Move.emit, Emission.load] at h
    cases hslot : em.scope.slot? name with
    | none => rw [hslot] at h; cases h
    | some slot =>
      rw [hslot] at h
      obtain ⟨hgrows, hs, hc⟩ := Emission.emit_ok h
      exact ⟨_, hgrows, .name hslot hs hc⟩
  | sum node op =>
    obtain ⟨hgrows, hs, hc⟩ := Emission.emit_ok h
    exact ⟨_, hgrows, .sum hs hc⟩
  | product node op =>
    obtain ⟨hgrows, hs, hc⟩ := Emission.emit_ok h
    exact ⟨_, hgrows, .product hs hc⟩
  | stream node =>
    obtain ⟨hgrows, hs, hc⟩ := Emission.emit_ok h
    exact ⟨_, hgrows, .stream hs hc⟩
  | print node =>
    obtain ⟨hgrows, hs, hc⟩ := Emission.emit_ok h
    exact ⟨_, hgrows, .print hs hc⟩
  | bind node name =>
    simp only [Move.emit, Emission.store] at h
    cases hd : em.scope.declare name with
    | none => rw [hd] at h; cases h
    | some declared =>
      obtain ⟨slot, scope⟩ := declared
      rw [hd] at h
      obtain ⟨hgrows, hs, hc⟩ := Emission.emit_ok h
      exact ⟨_, hgrows, .bind (by rw [hd, hs]) hc⟩
  | malformed node chain operands operators => cases h

/-- The names in scope after a move. -/
def Move.extend (names : List String) : Move Nat → List String
  | .bind _ fresh => Scope.extend names fresh
  | _ => names

theorem Move.length_le_extend (names : List String) (move : Move Nat) :
    names.length ≤ (move.extend names).length := by
  cases move with
  | bind node name => exact Scope.length_le_extend names name
  | _ => exact Nat.le_refl _

theorem Move.Lowers.lists {em em' : Emission} {move : Move Nat} {i : Instruction}
    {names : List String} (h : move.Lowers em i em') (hl : em.scope.Lists names) :
    em'.scope.Lists (move.extend names) := by
  cases h.shape with
  | bind hd hc => exact (hl.declare hd).1
  | int hs hc | name hslot hs hc | sum hs hc | product hs hc | stream hs hc | print hs hc
  | text hq hroom hs hc => rw [hs]; exact hl

/-- Constants are only added, at the end. -/
theorem Move.Lowers.constants_isPrefix {em em' : Emission} {move : Move Nat} {i : Instruction}
    (h : move.Lowers em i em') :
    em.assembly.constants.toList <+: em'.assembly.constants.toList := by
  cases h.shape with
  | text hq hroom hs hc =>
    rw [hc, Array.toList_push]
    exact List.prefix_append _ _
  | int hs hc | name hslot hs hc | sum hs hc | product hs hc | stream hs hc | print hs hc
  | bind hd hc => simp [hc]

/-! ## Rows of moves -/

/-- Moves become instructions one by one. -/
inductive Emits : Emission → List (Move Nat) → List Instruction → Emission → Prop
  | nil (em : Emission) : Emits em [] [] em
  | cons {em em' em'' : Emission} {move : Move Nat} {moves : List (Move Nat)}
      {i : Instruction} {code : List Instruction} (first : move.Lowers em i em')
      (rest : Emits em' moves code em'') : Emits em (move :: moves) (i :: code) em''

theorem emits_of_foldlM {em em' : Emission} {moves : List (Move Nat)}
    (h : moves.foldlM Move.emit em = .ok em') : ∃ code, Emits em moves code em' := by
  induction moves generalizing em with
  | nil =>
    cases h
    exact ⟨[], .nil _⟩
  | cons move moves ih =>
    rw [List.foldlM_cons] at h
    cases hfirst : move.emit em with
    | error e => rw [hfirst] at h; cases h
    | ok em1 =>
      rw [hfirst] at h
      obtain ⟨i, hlowers⟩ := Move.lowers_of_emit hfirst
      obtain ⟨code, hrest⟩ := ih h
      exact ⟨i :: code, .cons hlowers hrest⟩

theorem Emits.code_eq {em em' : Emission} {moves : List (Move Nat)} {code : List Instruction}
    (h : Emits em moves code em') :
    em'.assembly.code.toList = em.assembly.code.toList ++ code := by
  induction h with
  | nil em => simp
  | cons first rest ih => simp [ih, first.grows.code]

theorem Emits.nodes_eq {em em' : Emission} {moves : List (Move Nat)} {code : List Instruction}
    (h : Emits em moves code em') :
    em'.assembly.nodes.toList = em.assembly.nodes.toList ++ moves.map Move.node := by
  induction h with
  | nil em => simp
  | cons first rest ih => simp [ih, first.grows.nodes]

/-- The bounds of a finished procedure, and its constants, cover a state of the
compiler. -/
structure Emission.Fits (em : Emission) (maxStack maxLocals : Nat)
    (constants : List String) : Prop where
  stack : em.assembly.maxDepth ≤ maxStack
  locals : em.scope.size ≤ maxLocals
  constants : em.assembly.constants.toList <+: constants

/-- A place in the row of names is within the bound. -/
theorem Emission.Fits.place_lt {em : Emission} {maxStack maxLocals slot : Nat}
    {constants names : List String} {name : String} (h : em.Fits maxStack maxLocals constants)
    (hl : em.scope.Lists names) (hplace : names[slot]? = some name) : slot < maxLocals := by
  have hlt := (List.getElem?_eq_some_iff.mp hplace).1
  rw [← hl.size] at hlt
  exact Nat.lt_of_lt_of_le hlt h.locals

section Fits

variable {em em' : Emission} {moves : List (Move Nat)} {code : List Instruction}
variable {names : List String} {maxStack maxLocals : Nat} {constants : List String}

theorem Move.Lowers.fits {move : Move Nat} {i : Instruction} (h : move.Lowers em i em')
    (hl : em.scope.Lists names) (hf : em'.Fits maxStack maxLocals constants) :
    em.Fits maxStack maxLocals constants where
  stack := by
    have hmax := h.grows.maxDepth
    have hstack := hf.stack
    omega
  locals := by
    have hsize := (h.lists hl).size
    have hle := move.length_le_extend names
    have hlocals := hf.locals
    rw [hl.size]
    omega
  constants := h.constants_isPrefix.trans hf.constants

/-- What covers the end of a row covers its beginning. -/
theorem Emits.fits (h : Emits em moves code em') (hl : em.scope.Lists names)
    (hf : em'.Fits maxStack maxLocals constants) : em.Fits maxStack maxLocals constants := by
  induction h generalizing names with
  | nil em => exact hf
  | cons first rest ih => exact first.fits hl (ih (first.lists hl) hf)

/-- The depth before the last instruction of a row is within the bound. -/
theorem Move.Lowers.depth_le {move : Move Nat} {i : Instruction} (h : move.Lowers em i em')
    (hf : em'.Fits maxStack maxLocals constants) :
    em.assembly.depth - i.effect.pops + i.effect.pushes ≤ maxStack := by
  have hdepth := h.grows.depth
  have hmax := h.grows.maxDepth
  have hstack := hf.stack
  omega

end Fits

/-! ## Programs -/

/-- A program has been compiled: the state the compiler ended in, the code it
emitted, and the unit that it made. -/
structure Program.Compiled (p : Program Nat) (names : UnitNames) (u : CodeUnit)
    (em : Emission) (code : List Instruction) : Prop where
  emit : p.emit = .ok em
  emits : Emits Emission.empty p.moves code em
  balanced : em.assembly.depth = 0
  stack : em.assembly.maxDepth < 65536
  locals : em.scope.size < 65536
  unit : u = {
    version := Version.current
    name := names.unit
    entry := {
      name := names.entry
      maxStack := UInt16.ofNat em.assembly.maxDepth
      maxLocals := UInt16.ofNat em.scope.size
      text := Instruction.encodeAll (code ++ [.ret]) }
    constants := em.assembly.constants.toList }

namespace Program.Compiled

variable {p : Program Nat} {names : UnitNames} {u : CodeUnit} {em : Emission}
variable {code : List Instruction}

theorem text_eq (h : p.Compiled names u em code) :
    u.entry.text = Instruction.encodeAll (code ++ [.ret]) := by
  rw [h.unit]

theorem maxStack_eq (h : p.Compiled names u em code) :
    u.entry.maxStack.toNat = em.assembly.maxDepth := by
  rw [h.unit]
  exact UInt16.toNat_ofNat_of_lt' h.stack

theorem maxLocals_eq (h : p.Compiled names u em code) :
    u.entry.maxLocals.toNat = em.scope.size := by
  rw [h.unit]
  exact UInt16.toNat_ofNat_of_lt' h.locals

theorem constants_eq (h : p.Compiled names u em code) :
    u.constants = em.assembly.constants.toList := by
  rw [h.unit]

/-- The header declares what the compiler counted. -/
theorem fits (h : p.Compiled names u em code) :
    em.Fits u.entry.maxStack.toNat u.entry.maxLocals.toNat u.constants := by
  rw [h.maxStack_eq, h.maxLocals_eq, h.constants_eq]
  exact ⟨Nat.le_refl _, Nat.le_refl _, List.prefix_refl _⟩

end Program.Compiled

theorem Assembly.finish_ok {a : Assembly} {names : UnitNames} {locals node : Nat}
    {u : CodeUnit} {origins : Origins} (h : a.finish names locals node = .ok (u, origins)) :
    a.depth = 0 ∧ a.maxDepth < 65536 ∧ locals < 65536 ∧ u = {
      version := Version.current
      name := names.unit
      entry := {
        name := names.entry
        maxStack := UInt16.ofNat a.maxDepth
        maxLocals := UInt16.ofNat locals
        text := Instruction.encodeAll (a.code.toList ++ [.ret]) }
      constants := a.constants.toList } ∧
    origins = ⟨a.nodes.toList ++ [node], Assembly.index (a.code.toList ++ [.ret])⟩ := by
  unfold Assembly.finish at h
  by_cases hz : a.depth = 0
  · rw [if_neg (not_not_intro hz)] at h
    cases hret : Assembly.emit .ret node a with
    | error e a' => rw [hret] at h; cases h
    | ok v a' =>
      rw [hret] at h
      obtain ⟨hgrows, hc⟩ := Assembly.grows_of_emit hret
      -- a return changes neither the depth nor the greatest depth
      have hmax : a'.maxDepth = a.maxDepth := by
        have hdepth : a'.depth = a.depth - 0 + 0 := hgrows.depth
        have hm := hgrows.maxDepth
        omega
      simp only [Assembly.pack, Assembly.headerMax, hmax, hgrows.code, hgrows.nodes, hc] at h
      by_cases hs : 65535 < a.maxDepth
      · rw [if_pos hs] at h; cases h
      · rw [if_neg hs] at h
        by_cases hlocals : 65535 < locals
        · rw [if_pos hlocals] at h; cases h
        · rw [if_neg hlocals, Array.toList_push, Array.toList_push] at h
          cases h
          exact ⟨hz, by omega, by omega, rfl, rfl⟩
  · rw [if_pos hz] at h
    cases h

/-- What a successful compilation is made of. Each instruction comes from the
node of its move, the return from the program itself. -/
theorem Program.compiled_origins_of_compile {p : Program Nat} {names : UnitNames} {u : CodeUnit}
    {origins : Origins} (h : p.compile names = .ok (u, origins)) :
    ∃ em code, p.Compiled names u em code ∧
      origins = ⟨p.moves.map Move.node ++ [p.label], Assembly.index (code ++ [.ret])⟩ := by
  unfold Program.compile at h
  cases hemit : p.emit with
  | error e => rw [hemit] at h; cases h
  | ok em =>
    rw [hemit] at h
    cases hfinish : em.assembly.finish names em.scope.size p.label with
    | error e =>
      simp only [bind, Except.bind, hfinish] at h
      cases h
    | ok result =>
      simp only [bind, Except.bind, hfinish] at h
      cases h
      obtain ⟨hz, hstack, hlocals, hu, horigins⟩ := Assembly.finish_ok hfinish
      obtain ⟨code, hemits⟩ := emits_of_foldlM ((Program.emit_eq_moves p).symm.trans hemit)
      have hcode : em.assembly.code.toList = code := hemits.code_eq
      have hnodes : em.assembly.nodes.toList = p.moves.map Move.node := hemits.nodes_eq
      rw [hcode] at hu horigins
      rw [hnodes] at horigins
      exact ⟨em, code, ⟨hemit, hemits, hz, hstack, hlocals, hu⟩, horigins⟩

theorem Program.compiled_of_compile {p : Program Nat} {names : UnitNames} {u : CodeUnit}
    {origins : Origins} (h : p.compile names = .ok (u, origins)) :
    ∃ em code, p.Compiled names u em code := by
  obtain ⟨em, code, hcompiled, -⟩ := compiled_origins_of_compile h
  exact ⟨em, code, hcompiled⟩

end Printlet
