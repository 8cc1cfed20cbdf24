/-
Printlet.Proofs.Simulation — compiled code does what the program means.

The evaluator works on exact integers, an environment of names and rows of
lines; the machine on words of sixty-four bits, numbered slots, a table of
constants, a bounded stack and a sink. `Represents` ties a value to an item,
`Simulates` a machine to a desk and to the state in which the compiler was
when it emitted the next instruction. One instruction keeps the two together
(`step_simulates`: one case for each kind of move), so a whole run does
(`run_simulates`, by induction on the emitted row), whatever the sink.

`run?_compile` is the result for a sink without a limit: the unit of a program
writes the lines of its evaluation and ends as the evaluation does.
-/
import Mathlib.Data.List.Forall2
import Printlet.Proofs.CodeRoundTrip
import Printlet.Proofs.Emission
import Printlet.Proofs.MachineStep

namespace Printlet

/-! ## Values and items -/

/-- A value of the machine stands for an item. -/
inductive Represents : Value → Item → Prop
  | int (n : Int64) : Represents (.int n) (.datum (.int n.toInt))
  | text (s : String) : Represents (.text s) (.datum (.text s))
  | stream : Represents .stdout .stream

theorem Represents.display_eq {value : Value} {item : Item} (h : Represents value item) :
    value.display = item.line := by
  cases h <;> rfl

/-- An operation comes to the same on both sides: a result that stands for the
other, or the same fault. -/
inductive SameOutcome : Except Fault Value → Except Fault Item → Prop
  | ok {value : Value} {item : Item} (h : Represents value item) :
      SameOutcome (.ok value) (.ok item)
  | error (cause : Fault) : SameOutcome (.error cause) (.error cause)

/-! ## Arithmetic -/

theorem Arith.fits_iff (n : Int) : Arith.fits n = true ↔ -2 ^ 63 ≤ n ∧ n < 2 ^ 63 := by
  simp only [Arith.fits, Bool.and_eq_true, decide_eq_true_eq]
  omega

/-- Words that hold the operands compute the exact result, or find that it
leaves their range. -/
theorem Arith.applyInt_sameOutcome {op : Arith} {exact : Int → Int → Int}
    (hexact : ∀ a b, op.onInt a b = exact a b) (a b : Int64) (hz : op = .div → b ≠ 0) :
    SameOutcome ((op.applyInt a b).map .int)
      ((Datum.combine op exact (.int a.toInt) (.int b.toInt)).map .datum) := by
  have hguard : (op = .div && b = 0 : Bool) = false := by
    by_cases hop : op = .div
    · simp [hop, hz hop]
    · simp [hop]
  rw [Arith.applyInt, hguard, if_neg (by simp), Datum.combine, hexact]
  by_cases hfits : Arith.fits (exact a.toInt b.toInt) = true
  · have hrange := (Arith.fits_iff _).mp hfits
    rw [if_pos hrange, if_pos hfits]
    have hrep := Represents.int (Int64.ofInt (exact a.toInt b.toInt))
    rw [Int64.toInt_ofInt_of_le hrange.1 hrange.2] at hrep
    exact .ok hrep
  · rw [if_neg (fun hrange => hfits ((Arith.fits_iff _).mpr hrange))]
    simp only [hfits]
    exact .error _

/-- Operations on items agree if they do on numbers and both refuse texts. -/
theorem Item.join_sameOutcome {op : Arith} {apply : Datum → Datum → Except Fault Datum}
    (hint : ∀ m n : Int64, SameOutcome ((op.applyInt m n).map .int)
      ((apply (.int m.toInt) (.int n.toInt)).map .datum))
    (hleft : ∀ s y, apply (.text s) y = .error (.typeMismatch op .text y.kind))
    (hright : ∀ n s, apply (.int n) (.text s) = .error (.typeMismatch op .int .text))
    {a b : Value} {x y : Item} (ha : Represents a x) (hb : Represents b y) :
    SameOutcome (op.apply a b) (x.join op apply y) := by
  cases ha with
  | int m =>
    cases hb with
    | int n => exact hint m n
    | text s => rw [Item.join, hright]; exact .error _
    | stream => exact .error _
  | text s =>
    cases hb with
    | int n => rw [Item.join, hleft]; exact .error _
    | text t => rw [Item.join, hleft]; exact .error _
    | stream => exact .error _
  | stream => cases hb <;> exact .error _

theorem SumOp.sameOutcome (op : SumOp) {a b : Value} {x y : Item} (ha : Represents a x)
    (hb : Represents b y) : SameOutcome (op.arith.apply a b) (x.join op.arith op.apply y) := by
  refine Item.join_sameOutcome ?_ ?_ ?_ ha hb
  · intro m n
    cases op with
    | add => exact Arith.applyInt_sameOutcome (fun _ _ => rfl) m n (fun h => by cases h)
    | sub => exact Arith.applyInt_sameOutcome (fun _ _ => rfl) m n (fun h => by cases h)
  · intro s y
    cases op <;> rfl
  · intro n s
    cases op <;> rfl

/-- Division is the one operation that looks at its operands before it
computes. -/
theorem ProductOp.div_sameOutcome (m n : Int64) :
    SameOutcome ((Arith.applyInt .div m n).map .int)
      ((ProductOp.apply .div (.int m.toInt) (.int n.toInt)).map .datum) := by
  by_cases hn : n = 0
  · subst hn
    exact .error _
  · have hne : n.toInt ≠ 0 := by
      intro h0
      exact hn (Int64.toInt_inj.mp (h0.trans Int64.toInt_zero.symm))
    have happly : ProductOp.apply .div (.int m.toInt) (.int n.toInt) =
        Datum.combine .div Int.tdiv (.int m.toInt) (.int n.toInt) := by
      rw [ProductOp.apply]
      intro _ _ h0
      exact absurd (Datum.int.inj h0) hne
    rw [happly]
    exact Arith.applyInt_sameOutcome (fun _ _ => rfl) m n (fun _ => hn)

theorem ProductOp.sameOutcome (op : ProductOp) {a b : Value} {x y : Item} (ha : Represents a x)
    (hb : Represents b y) : SameOutcome (op.arith.apply a b) (x.join op.arith op.apply y) := by
  refine Item.join_sameOutcome ?_ ?_ ?_ ha hb
  · intro m n
    cases op with
    | mul => exact Arith.applyInt_sameOutcome (fun _ _ => rfl) m n (fun h => by cases h)
    | div => exact ProductOp.div_sameOutcome m n
  · intro s y
    cases op <;> rfl
  · intro n s
    cases op <;> rfl

/-- Both ways of taking the quotes off a literal agree. -/
theorem literalText?_of_unquote? {literal text : String} (h : unquote? literal = some text) :
    literalText? literal = some text := by
  unfold unquote? at h
  unfold literalText?
  generalize literal.toList = chars at h ⊢
  split at h
  · next rest =>
    split at h
    · next hlast =>
      cases h
      have hrest : rest = rest.dropLast ++ ['"'] := by
        have hne : rest ≠ [] := by
          intro hnil
          rw [hnil] at hlast
          cases hlast
        have hget := List.getLast?_eq_some_getLast hne
        rw [hlast] at hget
        rw [Option.some.inj hget]
        exact (List.dropLast_append_getLast hne).symm
      have hrev : rest.reverse = '"' :: rest.dropLast.reverse := by
        rw [hrest]
        simp
      simp only [hrev, List.reverse_reverse]
    · cases h
  · cases h

/-! ## One instruction -/

/-- A machine is where a desk is: the stack holds the items, as many as the
compiler counted, and the slot of each name in scope holds what the name is
bound to. -/
structure Simulates (em : Emission) (names : List String) (desk : Desk) (m : Machine) : Prop where
  scope : em.scope.Lists names
  depth : m.stack.length = em.assembly.depth
  stack : List.Forall₂ Represents m.stack desk.items
  locals : ∀ (slot : Nat) name, names[slot]? = some name → ∃ value item,
    m.locals[slot]? = some (some value) ∧ desk.env name = some item ∧ Represents value item

namespace Simulates

variable {em : Emission} {names : List String} {desk : Desk} {m : Machine}

theorem top (h : Simulates em names desk m) (hd : 1 ≤ em.assembly.depth) :
    ∃ value rest item items, m.stack = value :: rest ∧ desk.items = item :: items ∧
      Represents value item ∧ List.Forall₂ Represents rest items := by
  have hlen := h.depth
  have hstack := h.stack
  generalize m.stack = stack at hlen hstack
  generalize desk.items = items at hstack
  cases hstack with
  | nil => simp at hlen; omega
  | cons hrep hrest => exact ⟨_, _, _, _, rfl, rfl, hrep, hrest⟩

theorem top_two (h : Simulates em names desk m) (hd : 2 ≤ em.assembly.depth) :
    ∃ value below rest item under items, m.stack = value :: below :: rest ∧
      desk.items = item :: under :: items ∧ Represents value item ∧ Represents below under ∧
      List.Forall₂ Represents rest items := by
  obtain ⟨value, rest, item, items, hm, hdesk, hrep, hrest⟩ := h.top (by omega)
  have hlen := h.depth
  rw [hm] at hlen
  cases hrest with
  | nil => simp at hlen; omega
  | cons hrep' hrest => exact ⟨_, _, _, _, _, _, hm, hdesk, hrep, hrep', hrest⟩

end Simulates

/-- Writes a line if there is one. -/
def Sink.say (sink : Sink) : Option String → Except SinkError Unit × Sink
  | none => (.ok (), sink)
  | some line => sink.writeLine line

section Step

variable {constants : List String} {em em' : Emission} {names : List String}
variable {move : Move Nat} {i : Instruction} {desk : Desk} {m : Machine}

/-- What an instruction can do where a move is performed: go on, fail to write
the line of the move, or stop with the fault of the move. -/
inductive Answers (constants : List String) (i : Instruction) (m : Machine) (em' : Emission)
    (names' : List String) (move : Move Nat) (desk : Desk) : Prop
  | next {line : Option String} {desk' : Desk} {m' : Machine}
      (hperform : move.perform desk = .ok (line, desk'))
      (hstep : Machine.step constants i m = .ok .next m')
      (hsay : m.sink.say line = (.ok (), m'.sink))
      (hmax : m'.maxStack = m.maxStack) (hsize : m'.locals.size = m.locals.size)
      (hsim : Simulates em' names' desk' m')
  | unwritten {line : Option String} {desk' : Desk} {e : SinkError} {m' : Machine}
      (hperform : move.perform desk = .ok (line, desk'))
      (hstep : Machine.step constants i m = .error (.output e) m')
      (hsay : m.sink.say line = (.error e, m'.sink))
  | fault {cause : Fault} {m' : Machine}
      (hperform : move.perform desk = .error (.fault move.node cause))
      (hstep : Machine.step constants i m = .error cause m') (hsink : m'.sink = m.sink)

/-- A move that puts an item on the desk, and an instruction that pushes a
value which stands for it. -/
theorem Answers.of_push {value : Value} {item : Item} (hlow : move.Lowers em i em')
    (hfits : em'.Fits m.maxStack m.locals.size constants) (hsim : Simulates em names desk m)
    (hscope : em'.scope = em.scope) (hnames : move.extend names = names)
    (heffect : i.effect = ⟨0, 1⟩) (hrep : Represents value item)
    (hperform : move.perform desk = .ok (none, desk.put item))
    (hstep : Machine.step constants i m = m.pushed value) :
    Answers constants i m em' (move.extend names) move desk := by
  have hdepth : em'.assembly.depth = em.assembly.depth + 1 := by
    rw [hlow.grows.depth, heffect]
    rfl
  have hroom : m.stack.length < m.maxStack := by
    have hbound := hlow.depth_le hfits
    rw [← hlow.grows.depth, hdepth, ← hsim.depth] at hbound
    exact hbound
  rw [Machine.pushed, if_pos hroom] at hstep
  refine .next hperform hstep rfl rfl rfl ⟨?_, ?_, .cons hrep hsim.stack, ?_⟩
  · rw [hnames, hscope]
    exact hsim.scope
  · rw [hdepth, ← hsim.depth]
    rfl
  · rw [hnames]
    exact hsim.locals

/-- An instruction that joins two values. -/
theorem Answers.of_join {op : Arith} {apply : Datum → Datum → Except Fault Datum}
    (hlow : move.Lowers em (.arith op) em')
    (hfits : em'.Fits m.maxStack m.locals.size constants) (hsim : Simulates em names desk m)
    (hscope : em'.scope = em.scope) (hnames : move.extend names = names)
    (hperform : move.perform desk =
      (desk.join move.node op apply).map fun desk => (none, desk))
    (hsame : ∀ {a b : Value} {x y : Item}, Represents a x → Represents b y →
      SameOutcome (op.apply a b) (x.join op apply y)) :
    Answers constants (.arith op) m em' (move.extend names) move desk := by
  have hdepth : em'.assembly.depth = em.assembly.depth - 2 + 1 := hlow.grows.depth
  obtain ⟨rhs, lhs, rest, y, x, items, hm, hdesk, hrhs, hlhs, hrest⟩ :=
    hsim.top_two hlow.grows.enough
  have hlen : rest.length + 2 = em.assembly.depth := by
    rw [← hsim.depth, hm]
    rfl
  have hstep := Machine.step_arith constants m op
  have hjoin := hsame hlhs hrhs
  simp only [Desk.join, hdesk] at hperform
  simp only [hm] at hstep
  generalize op.apply lhs rhs = result at hjoin hstep
  generalize x.join op apply y = joined at hjoin hperform
  cases hjoin with
  | error cause => exact .fault hperform hstep rfl
  | ok hrep =>
    have hroom : rest.length < m.maxStack := by
      have hbound := hlow.depth_le hfits
      rw [← hlow.grows.depth, hdepth, ← hlen] at hbound
      omega
    simp only [Machine.pushed, if_pos hroom] at hstep
    refine .next hperform hstep rfl rfl rfl ⟨?_, ?_, .cons hrep hrest, ?_⟩
    · rw [hnames, hscope]
      exact hsim.scope
    · rw [hdepth, ← hlen]
      simp
    · rw [hnames]
      exact hsim.locals

/-- An instruction that prints. Only here can a sink refuse. -/
theorem Answers.of_print {node : Nat} (hlow : (Move.print node).Lowers em .println em')
    (hsim : Simulates em names desk m) (hscope : em'.scope = em.scope) :
    Answers constants .println m em' names (.print node) desk := by
  have hdepth : em'.assembly.depth = em.assembly.depth - 2 + 0 := hlow.grows.depth
  obtain ⟨value, target, rest, item, under, items, hm, hdesk, hvalue, htarget, hrest⟩ :=
    hsim.top_two hlow.grows.enough
  have hstep := Machine.step_println constants m
  simp only [hm, hvalue.display_eq] at hstep
  cases htarget with
  | stream =>
    have hperform : (Move.print node).perform desk =
        .ok (some item.line, ⟨items, desk.env⟩) := by
      simp only [Move.perform, Desk.print, hdesk, Except.map]
    rw [if_pos rfl] at hstep
    rcases hw : m.sink.writeLine item.line with ⟨written, sink⟩
    rw [hw] at hstep
    cases written with
    | error e => exact .unwritten hperform hstep hw
    | ok u =>
      refine .next hperform hstep hw rfl rfl ⟨?_, ?_, hrest, hsim.locals⟩
      · rw [hscope]
        exact hsim.scope
      · rw [hdepth, ← hsim.depth, hm]
        simp
  | int n =>
    rw [if_neg (by simp)] at hstep
    refine .fault ?_ hstep rfl
    simp only [Move.perform, Desk.print, hdesk, Except.map]
    rfl
  | text t =>
    rw [if_neg (by simp)] at hstep
    refine .fault ?_ hstep rfl
    simp only [Move.perform, Desk.print, hdesk, Except.map]
    rfl

/-- An instruction that stores. The slot of the name takes the value; the slots
of all other names are different ones. -/
theorem Answers.of_bind {node slot : Nat} {name : String}
    (hlow : (Move.bind node name).Lowers em (.storeLocal (UInt16.ofNat slot)) em')
    (hfits : em'.Fits m.maxStack m.locals.size constants) (hsim : Simulates em names desk m)
    (hd : em.scope.declare name = some (slot, em'.scope)) :
    Answers constants (.storeLocal (UInt16.ofNat slot)) m em' (Scope.extend names name)
      (.bind node name) desk := by
  have hdepth : em'.assembly.depth = em.assembly.depth - 1 + 0 := hlow.grows.depth
  obtain ⟨value, rest, item, items, hm, hdesk, hvalue, hrest⟩ := hsim.top hlow.grows.enough
  obtain ⟨hlists, hplace⟩ := hsim.scope.declare hd
  have hslot : (UInt16.ofNat slot).toNat = slot := hlists.toNat_slot hplace
  have hin : slot < m.locals.size := hfits.place_lt hlists hplace
  have hstep := Machine.step_storeLocal constants m (UInt16.ofNat slot)
  simp only [hm, hslot, if_pos hin] at hstep
  have hperform : (Move.bind node name).perform desk =
      .ok (none, ⟨items, fun other => if other = name then some item else desk.env other⟩) := by
    simp only [Move.perform, Desk.bind, hdesk, Except.map]
  refine .next hperform hstep rfl rfl (Array.size_setIfInBounds ..) ⟨hlists, ?_, hrest, ?_⟩
  · rw [hdepth, ← hsim.depth, hm]
    simp
  · intro other found hother
    by_cases hsame : other = slot
    · subst hsame
      have hname : found = name := Option.some.inj (hother.symm.trans hplace)
      refine ⟨value, item, ?_, if_pos hname, hvalue⟩
      rw [Array.getElem?_setIfInBounds_self_of_lt hin]
    · obtain ⟨hname, hold⟩ := hlists.getElem?_of_ne hplace hother hsame
      obtain ⟨v, x, hv, hx, hrep⟩ := hsim.locals other found hold
      refine ⟨v, x, ?_, (if_neg hname).trans hx, hrep⟩
      rw [Array.getElem?_setIfInBounds_ne (Ne.symm hsame)]
      exact hv

/-- **One instruction.** The instruction that a move became does what the move
does. -/
theorem step_simulates (hlow : move.Lowers em i em')
    (hfits : em'.Fits m.maxStack m.locals.size constants) (hsim : Simulates em names desk m) :
    Answers constants i m em' (move.extend names) move desk := by
  cases hlow.shape with
  | int hs hc =>
    exact .of_push hlow hfits hsim hs rfl rfl (.int _) rfl (Machine.step_pushInt constants m _)
  | @text node literal text hq hroom hs hc =>
    have hindex : (UInt32.ofNat em.assembly.constants.size).toNat = em.assembly.constants.size :=
      UInt32.toNat_ofNat_of_lt' hroom
    have hconst : constants[em.assembly.constants.size]? = some text := by
      obtain ⟨later, hlater⟩ := hfits.constants
      rw [← hlater, hc]
      simp
    have hperform : (Move.text node literal).perform desk =
        .ok (none, desk.put (.datum (.text text))) := by
      simp only [Move.perform, literalText?_of_unquote? hq]
    have hstep := Machine.step_pushConst constants m (UInt32.ofNat em.assembly.constants.size)
    simp only [hindex, hconst] at hstep
    exact .of_push hlow hfits hsim hs rfl rfl (.text text) hperform hstep
  | @name node name slot hslot hs hc =>
    have hplace := (hsim.scope.slot name slot).mp hslot
    have hnat : (UInt16.ofNat slot).toNat = slot := hsim.scope.toNat_slot hplace
    obtain ⟨value, item, hvalue, hitem, hrep⟩ := hsim.locals slot name hplace
    have hperform : (Move.name node name).perform desk = .ok (none, desk.put item) := by
      simp only [Move.perform, hitem]
    have hstep := Machine.step_loadLocal constants m (UInt16.ofNat slot)
    simp only [hnat, hvalue] at hstep
    exact .of_push hlow hfits hsim hs rfl rfl hrep hperform hstep
  | @sum node op hs hc => exact .of_join hlow hfits hsim hs rfl rfl op.sameOutcome
  | @product node op hs hc => exact .of_join hlow hfits hsim hs rfl rfl op.sameOutcome
  | stream hs hc =>
    exact .of_push hlow hfits hsim hs rfl rfl .stream rfl (Machine.step_getStdout constants m)
  | print hs hc => exact .of_print hlow hsim hs
  | bind hd hc => exact .of_bind hlow hfits hsim hd

end Step

/-! ## Whole runs -/

/-- The offset of each instruction, with the node that it came from. -/
def placesFrom (offset : Nat) (code : List Instruction) (nodes : List Nat) : List (Nat × Nat) :=
  ((Instruction.placeFrom offset code).map Prod.fst).zip nodes

/-- A run ends as an evaluation does: well, or with the same fault, at an
instruction that came from the node at fault. -/
inductive EndsAs (places : List (Nat × Nat)) :
    Except CallFailure Unit → Except (Stop Nat) Unit → Prop
  | well : EndsAs places (.ok ()) (.ok ())
  | fault {offset node : Nat} {cause : Fault} (h : (offset, node) ∈ places) :
      EndsAs places (.error ⟨offset, cause⟩) (.error (.fault node cause))

theorem EndsAs.cons {places : List (Nat × Nat)} {result : Except CallFailure Unit}
    {ending : Except (Stop Nat) Unit} (place : Nat × Nat) (h : EndsAs places result ending) :
    EndsAs (place :: places) result ending := by
  cases h with
  | well => exact .well
  | fault h => exact .fault (List.mem_cons_of_mem place h)

/-- A run and an evaluation leave the same sink behind and end the same way. -/
def SameRun (places : List (Nat × Nat)) (run : Except CallFailure Unit × Sink)
    (evaluation : Except (Stop Nat) Unit × Sink) : Prop :=
  run.2 = evaluation.2 ∧ EndsAs places run.1 evaluation.1

/-- The return at the end of the code flushes. -/
theorem run_ret_simulates (constants : List String) (procedure : String) (last offset root : Nat)
    (desk : Desk) (m : Machine) :
    SameRun [(offset, root)] (Machine.run constants procedure last [(offset, .ret)] m)
      ((Move.evalAll [] desk).onto root m.sink) := by
  simp only [Machine.run, Machine.step_ret, Move.evalAll, Evaluation.onto, Evaluation.transcript,
    Evaluation.done, Transcript.onto, Transcript.writeAll, Except.map, Transcript.settle]
  cases m.sink.flush with
  | ok u => exact ⟨rfl, .well⟩
  | error e => exact ⟨rfl, .fault (List.mem_singleton.mpr rfl)⟩

/-- **A whole run.** The code that a row of moves became, closed by a return,
does what the row means, on every sink. -/
theorem run_simulates {constants : List String} {procedure : String} {root : Nat}
    {em em' : Emission} {moves : List (Move Nat)} {code : List Instruction}
    (hemits : Emits em moves code em') {names : List String} {desk : Desk} {m : Machine}
    (hfits : em'.Fits m.maxStack m.locals.size constants) (hsim : Simulates em names desk m)
    (last offset : Nat) :
    SameRun (placesFrom offset (code ++ [.ret]) (moves.map Move.node ++ [root]))
      (Machine.run constants procedure last (Instruction.placeFrom offset (code ++ [.ret])) m)
      ((Move.evalAll moves desk).onto root m.sink) := by
  induction hemits generalizing names desk m last offset with
  | nil em => exact run_ret_simulates constants procedure last offset root desk m
  | @cons em em1 em2 move moves i code hlow hrest ih =>
    -- the bounds of the finished code cover the state after this instruction
    have hfits1 := hrest.fits (hlow.lists hsim.scope) hfits
    have hhere : (offset, move.node) ∈
        placesFrom offset (i :: code ++ [.ret]) ((move :: moves).map Move.node ++ [root]) :=
      List.mem_cons_self
    cases step_simulates hlow hfits1 hsim with
    | @next line desk' m' hperform hstep hsay hmax hsize hsim' =>
      have hlater := ih (by rw [hmax, hsize]; exact hfits) hsim' offset (offset + i.size)
      have hrun : SameRun (placesFrom offset (i :: code ++ [.ret])
            ((move :: moves).map Move.node ++ [root]))
          (Machine.run constants procedure last
            (Instruction.placeFrom offset (i :: code ++ [.ret])) m)
          ((Move.evalAll moves desk').onto root m'.sink) := by
        rw [List.cons_append, Instruction.placeFrom, Machine.run_next hstep]
        exact ⟨hlater.1, hlater.2.cons (offset, move.node)⟩
      rw [Move.evalAll, hperform]
      cases line with
      | none =>
        have hsink : m.sink = m'.sink := (Prod.mk.inj hsay).2
        rw [hsink]
        exact hrun
      | some line =>
        dsimp only
        rw [Evaluation.onto, Evaluation.transcript_after, Transcript.onto_note_ok hsay]
        exact hrun
    | @unwritten line desk' e m' hperform hstep hsay =>
      cases line with
      | none => cases hsay
      | some line =>
        rw [Move.evalAll, hperform]
        dsimp only
        rw [Evaluation.onto, Evaluation.transcript_after, Transcript.onto_note_error hsay,
            List.cons_append, Instruction.placeFrom, Machine.run_fault hstep]
        exact ⟨rfl, .fault hhere⟩
    | @fault cause m' hperform hstep hsink =>
      rw [Move.evalAll, hperform, List.cons_append, Instruction.placeFrom,
          Machine.run_fault hstep]
      exact ⟨hsink, .fault hhere⟩

/-! ## Programs -/

/-- Before the first instruction machine and desk are empty. -/
theorem Simulates.start (maxStack maxLocals : Nat) (sink : Sink) :
    Simulates Emission.empty [] ⟨[], Env.empty.items⟩ (Machine.start maxStack maxLocals sink) where
  scope := Scope.Lists.empty
  depth := rfl
  stack := .nil
  locals := by
    intro slot name h
    simp at h

theorem Emission.Fits.start {em : Emission} {maxStack maxLocals : Nat} {constants : List String}
    (h : em.Fits maxStack maxLocals constants) (sink : Sink) :
    em.Fits (Machine.start maxStack maxLocals sink).maxStack
      (Machine.start maxStack maxLocals sink).locals.size constants := by
  simpa [Machine.start] using h

/-- A unit runs the code that its text was made of. -/
theorem CodeUnit.run?_of_text {u : CodeUnit} {code : List Instruction}
    (h : u.entry.text = Instruction.encodeAll code) (sink : Sink) :
    u.run? sink = some (Machine.run u.constants u.entry.name 0 (Instruction.placeFrom 0 code)
      (Machine.start u.entry.maxStack.toNat u.entry.maxLocals.toNat sink)) := by
  simp only [CodeUnit.run?, h, Instruction.decodeAll_encodeAll]

/-- The unit of a program does on every sink what the evaluation of the program
comes to there. -/
theorem Program.Compiled.run?_eq {p : Program Nat} {names : UnitNames} {u : CodeUnit}
    {em : Emission} {code : List Instruction} (h : p.Compiled names u em code) (sink : Sink) :
    ∃ run, u.run? sink = some run ∧
      SameRun (placesFrom 0 (code ++ [.ret]) (p.moves.map Move.node ++ [p.label])) run
        (p.eval.onto p.label sink) := by
  refine ⟨_, CodeUnit.run?_of_text h.text_eq sink, ?_⟩
  rw [Program.eval_eq_moves]
  exact run_simulates h.emits (h.fits.start sink) (Simulates.start _ _ sink) 0 0

/-- **Compiled programs do what they mean.** On a sink without a limit the unit
of a program adds exactly the lines of the program's evaluation. If the
evaluation ends well the unit returns, unless the sink refuses to be flushed;
if the evaluation is at fault the unit stops with the same fault; and there is
no other way to end. -/
theorem Program.run?_compile {p : Program Nat} {names : UnitNames} {u : CodeUnit}
    {origins : Origins} (h : p.compile names = .ok (u, origins)) (sink : Sink)
    (hlimit : sink.limit = none) :
    ∃ result, u.run? sink =
        some (result, { sink with contents := sink.contents ++ p.eval.output }) ∧
      match p.eval.ending with
      | .ok () =>
        if sink.flushFails then ∃ offset, result = .error ⟨offset, .output .flushRefused⟩
        else result = .ok ()
      | .error (.fault _ cause) => ∃ offset, result = .error ⟨offset, cause⟩
      | .error (.stuck _) => False := by
  obtain ⟨em, code, hcompiled⟩ := Program.compiled_of_compile h
  obtain ⟨⟨result, sink'⟩, hrun, hsink, hends⟩ := hcompiled.run?_eq sink
  rw [Evaluation.onto, Transcript.onto_unlimited _ hlimit] at hsink hends
  dsimp only at hsink hends
  subst hsink
  refine ⟨result, hrun, ?_⟩
  rw [Evaluation.transcript] at hends
  cases hending : p.eval.ending with
  | ok u =>
    rw [hending] at hends
    dsimp only [Except.map] at hends ⊢
    cases hflush : sink.flushFails with
    | true =>
      rw [Transcript.settle_of_refused _ hflush] at hends
      cases hends
      exact ⟨_, rfl⟩
    | false =>
      rw [Transcript.settle_of_flushed _ hflush] at hends
      cases hends
      rfl
  | error stop =>
    rw [hending] at hends
    cases hends
    exact ⟨_, rfl⟩

/-- A program that binds a name twice, prints a text and a negative number, and
then divides by zero:
`let x = 7 let y = "ab" let x = x - 10 print y print (x + 1) * 2 print x / (x + 3)`. -/
def Program.rebinding : Program Nat :=
  ⟨0, [
    .bind 1 "x" (.mk 2 [.mk 3 [.int 4 7] []] []),
    .bind 5 "y" (.mk 6 [.mk 7 [.text 8 "\"ab\""] []] []),
    .bind 9 "x" (.mk 10 [.mk 11 [.name 12 "x"] [], .mk 13 [.int 14 10] []] [.sub]),
    .print 15 (.mk 16 [.mk 17 [.name 18 "y"] []] []),
    .print 19 (.mk 20 [.mk 21 [.group 22 (.mk 23
      [.mk 24 [.name 25 "x"] [], .mk 26 [.int 27 1] []] [.add]), .int 28 2] [.mul]] []),
    .print 29 (.mk 30 [.mk 31 [.name 32 "x", .group 33 (.mk 34
      [.mk 35 [.name 36 "x"] [], .mk 37 [.int 38 3] []] [.add])] [.div]] [])]⟩

theorem Program.run?_compile_rebinding :
    ∃ u origins, rebinding.compile {} = .ok (u, origins) ∧ ∃ offset, u.run? {} =
      some (.error ⟨offset, .divisionByZero⟩, { contents := #[97, 98, 10, 45, 52, 10] }) := by
  have houtput : rebinding.eval.output = [97, 98, 10, 45, 52, 10] := by decide +kernel
  have hending : rebinding.eval.ending = .error (.fault 31 .divisionByZero) := rfl
  refine ⟨_, _, rfl, ?_⟩
  obtain ⟨result, hrun, hends⟩ := Program.run?_compile
    (show rebinding.compile {} = .ok (_, _) from rfl) {} rfl
  rw [hending] at hends
  obtain ⟨offset, rfl⟩ := hends
  rw [houtput] at hrun
  exact ⟨offset, hrun⟩

end Printlet
