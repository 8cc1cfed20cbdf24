/-
Printlet.Proofs.CheckSound — code that passes the check runs within its bounds.

`Check.step_eq_ok_iff` says once and for all when the check takes in an
instruction (`Check.Admits`) and what it then knows (`Check.after`).
`Check.Describes` ties what the check knows to a machine: the depth is the
length of the stack, the written slots are those that hold a value. An
admitted instruction keeps them together or stops with a fault that hangs on
values or on the sink (`Check.Admits.step`); so does a whole run
(`Check.run_sound`), and at every instruction on the way
(`Check.describes_of_visits`).

None of this asks where the code comes from.
-/
import Printlet.CodeUnit.Check
import Printlet.Proofs.CodeRoundTrip
import Printlet.Proofs.MachineStep

namespace Printlet

namespace Check

/-! ## When an instruction is taken in -/

/-- What the check knows after an instruction. -/
def after (check : Check) (i : Instruction) : Check where
  depth := check.depth - i.effect.pops + i.effect.pushes
  assigned :=
    match i with
    | .storeLocal slot => check.assigned.setIfInBounds slot.toNat true
    | _ => check.assigned
  returned := i = .ret

/-- What an instruction demands of slots, constants and the end. -/
def Operand (limits : Limits) (check : Check) : Instruction → Prop
  | .loadLocal slot =>
    slot.toNat < limits.maxLocals ∧ check.assigned[slot.toNat]? = some true
  | .storeLocal slot => slot.toNat < limits.maxLocals
  | .pushConst index => index.toNat < limits.constants
  | .ret => check.depth = 0
  | _ => True

/-- All that an instruction demands. -/
structure Admits (limits : Limits) (check : Check) (i : Instruction) : Prop where
  running : check.returned = false
  enough : i.effect.pops ≤ check.depth
  bound : (check.after i).depth ≤ limits.maxStack
  operand : check.Operand limits i

variable {limits : Limits} {check check' : Check} {i : Instruction}

theorem ok_eq_ok_iff {P : Prop} {known known' : Check} (hP : P) (h : known = known') :
    (Except.ok known : Except Violation Check) = .ok check' ↔ P ∧ check' = known' := by
  subst h
  constructor
  · intro heq
    cases heq
    exact ⟨hP, rfl⟩
  · rintro ⟨-, rfl⟩
    rfl

theorem error_eq_ok_iff {P : Prop} {violation : Violation} {known : Check} (hP : ¬ P) :
    (Except.error violation : Except Violation Check) = .ok check' ↔ P ∧ check' = known :=
  ⟨fun heq => (by cases heq), fun h => absurd h.1 hP⟩

/-- The demands beyond the stack, for an instruction of which the depth is
known to be fine. -/
theorem operand_eq_ok_iff (hrun : check.returned = false) :
    operand limits { check with
      depth := check.depth - i.effect.pops + i.effect.pushes } i = .ok check' ↔
      check.Operand limits i ∧ check' = check.after i := by
  obtain ⟨depth, assigned, returned⟩ := check
  simp only at hrun
  subst hrun
  cases i with
  | loadLocal slot =>
    show (if limits.maxLocals ≤ slot.toNat then Except.error _
      else if assigned[slot.toNat]?.getD false then Except.ok _ else Except.error _) = _ ↔
      (slot.toNat < limits.maxLocals ∧ assigned[slot.toNat]? = some true) ∧ _
    by_cases hlt : limits.maxLocals ≤ slot.toNat
    · rw [if_pos hlt]
      exact error_eq_ok_iff fun h => Nat.not_lt.mpr hlt h.1
    · rw [if_neg hlt]
      by_cases hset : assigned[slot.toNat]? = some true
      · rw [hset]
        exact ok_eq_ok_iff ⟨Nat.lt_of_not_le hlt, rfl⟩ rfl
      · have hunset : assigned[slot.toNat]?.getD false = false := by
          cases hget : assigned[slot.toNat]? with
          | none => rfl
          | some set =>
            cases set with
            | false => rfl
            | true => exact absurd hget hset
        rw [hunset]
        exact error_eq_ok_iff fun h => hset h.2
  | storeLocal slot =>
    show (if limits.maxLocals ≤ slot.toNat then Except.error _ else Except.ok _) = _ ↔
      slot.toNat < limits.maxLocals ∧ _
    by_cases hlt : limits.maxLocals ≤ slot.toNat
    · rw [if_pos hlt]
      exact error_eq_ok_iff (Nat.not_lt.mpr hlt)
    · rw [if_neg hlt]
      exact ok_eq_ok_iff (Nat.lt_of_not_le hlt) rfl
  | pushConst index =>
    show (if limits.constants ≤ index.toNat then Except.error _ else Except.ok _) = _ ↔
      index.toNat < limits.constants ∧ _
    by_cases hlt : limits.constants ≤ index.toNat
    · rw [if_pos hlt]
      exact error_eq_ok_iff (Nat.not_lt.mpr hlt)
    · rw [if_neg hlt]
      exact ok_eq_ok_iff (Nat.lt_of_not_le hlt) rfl
  | ret =>
    show (if depth ≠ 0 then Except.error _ else Except.ok _) = _ ↔ depth = 0 ∧ _
    by_cases hz : depth = 0
    · rw [if_neg (not_not_intro hz)]
      exact ok_eq_ok_iff hz rfl
    · rw [if_pos hz]
      exact error_eq_ok_iff hz
  | pushInt value => exact ok_eq_ok_iff trivial rfl
  | arith op => exact ok_eq_ok_iff trivial rfl
  | getStdout => exact ok_eq_ok_iff trivial rfl
  | println => exact ok_eq_ok_iff trivial rfl

theorem step_eq_ok_iff :
    check.step limits i = .ok check' ↔ check.Admits limits i ∧ check' = check.after i := by
  unfold step
  by_cases hrun : check.returned = true
  · rw [if_pos hrun]
    constructor
    · intro h; cases h
    · rintro ⟨hadmits, -⟩
      rw [hadmits.running] at hrun
      cases hrun
  · have hrun' : check.returned = false := by simpa using hrun
    rw [if_neg hrun]
    by_cases hpops : check.depth < i.effect.pops
    · rw [if_pos hpops]
      constructor
      · intro h; cases h
      · rintro ⟨hadmits, -⟩
        exact absurd hadmits.enough (by omega)
    · rw [if_neg hpops]
      by_cases hbound : limits.maxStack < check.depth - i.effect.pops + i.effect.pushes
      · simp only [if_pos hbound]
        constructor
        · intro h; cases h
        · rintro ⟨hadmits, -⟩
          have hle : check.depth - i.effect.pops + i.effect.pushes ≤ limits.maxStack :=
            hadmits.bound
          omega
      · simp only [if_neg hbound]
        rw [operand_eq_ok_iff hrun']
        constructor
        · rintro ⟨hoperand, hafter⟩
          exact ⟨⟨hrun', Nat.le_of_not_lt hpops, Nat.le_of_not_lt hbound, hoperand⟩, hafter⟩
        · rintro ⟨hadmits, hafter⟩
          exact ⟨hadmits.operand, hafter⟩

end Check

/-! ## Faults -/

/-- Faults that hang on the values that a program computes, or on its sink. -/
def Fault.OfValues : Fault → Prop
  | .typeMismatch _ _ _ => True
  | .divisionByZero => True
  | .overflow _ => True
  | .notAStream _ => True
  | .output _ => True
  | .stackEmpty => False
  | .stackOverflow _ => False
  | .uninitializedLocal _ => False
  | .noSuchLocal _ => False
  | .noConstant _ => False
  | .notInstalled _ => False
  | .ranPastEnd _ => False

/-- Faults that hang on the operands of an instruction: on their kinds and their
values. -/
def Fault.OfOperands : Fault → Prop
  | .typeMismatch _ _ _ => True
  | .divisionByZero => True
  | .overflow _ => True
  | .notAStream _ => True
  | _ => False

theorem Fault.OfOperands.ofValues {cause : Fault} (h : cause.OfOperands) : cause.OfValues := by
  cases cause <;> trivial

theorem Arith.ofOperands_of_apply {op : Arith} {lhs rhs : Value} {cause : Fault}
    (h : op.apply lhs rhs = .error cause) : cause.OfOperands := by
  unfold Arith.apply at h
  split at h
  next a b =>
    unfold Arith.applyInt at h
    split at h
    · cases h
      trivial
    · dsimp only at h
      split at h
      · cases h
      · cases h
        trivial
  next =>
    cases h
    trivial

namespace Check

/-! ## One instruction -/

/-- A machine is in the state that the check knows of. -/
structure Describes (limits : Limits) (check : Check) (m : Machine) : Prop where
  depth : m.stack.length = check.depth
  assigned : m.locals.map Option.isSome = check.assigned
  maxStack : m.maxStack = limits.maxStack
  maxLocals : m.locals.size = limits.maxLocals

/-- What an instruction can do on a machine that the check describes. -/
inductive Sound (limits : Limits) (check : Check) (constants : List String) (i : Instruction)
    (m : Machine) : Prop
  | next {m' : Machine} (hstep : Machine.step constants i m = .ok .next m') (hret : i ≠ .ret)
      (hdesc : (check.after i).Describes limits m')
  | returned (hret : i = .ret)
  | fault {cause : Fault} {m' : Machine}
      (hstep : Machine.step constants i m = .error cause m') (hcause : cause.OfValues)

variable {limits : Limits} {check check' : Check} {i : Instruction}
variable {constants : List String} {m : Machine}

/-- The check knows that a slot was written, so it holds a value. -/
theorem Describes.local_some (h : check.Describes limits m) {slot : Nat}
    (hset : check.assigned[slot]? = some true) : ∃ value, m.locals[slot]? = some (some value) := by
  rw [← h.assigned, Array.getElem?_map] at hset
  cases hslot : m.locals[slot]? with
  | none => rw [hslot] at hset; cases hset
  | some content =>
    rw [hslot] at hset
    cases content with
    | none => cases hset
    | some value => exact ⟨value, rfl⟩

theorem Sound.of_push {value : Value} (h : check.Admits limits i)
    (hd : check.Describes limits m) (heffect : i.effect = ⟨0, 1⟩) (hret : i ≠ .ret)
    (hassigned : (check.after i).assigned = check.assigned)
    (hstep : Machine.step constants i m = m.pushed value) :
    Sound limits check constants i m := by
  have hdepth : (check.after i).depth = check.depth + 1 := by
    simp only [after, heffect]
    omega
  have hroom : m.stack.length < m.maxStack := by
    have hbound := h.bound
    rw [hdepth, ← hd.depth, ← hd.maxStack] at hbound
    exact hbound
  rw [Machine.pushed, if_pos hroom] at hstep
  refine .next hstep hret ⟨?_, ?_, hd.maxStack, hd.maxLocals⟩
  · rw [hdepth, ← hd.depth]
    rfl
  · rw [hassigned]
    exact hd.assigned

/-- An instruction that needs two operands finds them. -/
theorem Describes.two (hd : check.Describes limits m) (h : 2 ≤ check.depth) :
    ∃ top below rest, m.stack = top :: below :: rest := by
  have hlen := hd.depth
  match hm : m.stack with
  | [] => rw [hm] at hlen; simp at hlen; omega
  | [_] => rw [hm] at hlen; simp at hlen; omega
  | top :: below :: rest => exact ⟨top, below, rest, rfl⟩

theorem Sound.of_arith {op : Arith} (h : check.Admits limits (.arith op))
    (hd : check.Describes limits m) : Sound limits check constants (.arith op) m := by
  obtain ⟨rhs, lhs, rest, hm⟩ := hd.two h.enough
  have hstep := Machine.step_arith constants m op
  simp only [hm] at hstep
  cases happly : op.apply lhs rhs with
  | error cause =>
    rw [happly] at hstep
    exact .fault hstep (Arith.ofOperands_of_apply happly).ofValues
  | ok result =>
    have hlen : rest.length + 2 = check.depth := by
      rw [← hd.depth, hm]
      rfl
    have hroom : rest.length < m.maxStack := by
      have hbound : check.depth - 2 + 1 ≤ limits.maxStack := h.bound
      rw [hd.maxStack]
      omega
    simp only [happly, Machine.pushed, if_pos hroom] at hstep
    refine .next hstep (by simp) ⟨?_, hd.assigned, hd.maxStack, hd.maxLocals⟩
    show rest.length + 1 = check.depth - 2 + 1
    omega

theorem Sound.of_println (h : check.Admits limits .println) (hd : check.Describes limits m) :
    Sound limits check constants .println m := by
  obtain ⟨value, target, rest, hm⟩ := hd.two h.enough
  have hstep := Machine.step_println constants m
  simp only [hm] at hstep
  by_cases htarget : target = .stdout
  · rw [if_pos htarget] at hstep
    rcases hw : m.sink.writeLine value.display with ⟨written, sink⟩
    rw [hw] at hstep
    cases written with
    | error e => exact .fault hstep trivial
    | ok u =>
      refine .next hstep (by simp) ⟨?_, hd.assigned, hd.maxStack, hd.maxLocals⟩
      show rest.length = check.depth - 2 + 0
      rw [← hd.depth, hm]
      simp
  · rw [if_neg htarget] at hstep
    exact .fault hstep trivial

theorem Sound.of_storeLocal {slot : UInt16} (h : check.Admits limits (.storeLocal slot))
    (hd : check.Describes limits m) : Sound limits check constants (.storeLocal slot) m := by
  have henough : 1 ≤ check.depth := h.enough
  have hslot : slot.toNat < limits.maxLocals := h.operand
  rw [← hd.maxLocals] at hslot
  have hstep := Machine.step_storeLocal constants m slot
  cases hm : m.stack with
  | nil =>
    have hlen := hd.depth
    rw [hm] at hlen
    simp at hlen
    omega
  | cons value rest =>
    simp only [hm, if_pos hslot] at hstep
    refine .next hstep (by simp) ⟨?_, ?_, hd.maxStack, ?_⟩
    · show rest.length = check.depth - 1 + 0
      rw [← hd.depth, hm]
      simp
    · show (m.locals.setIfInBounds slot.toNat (some value)).map Option.isSome =
        check.assigned.setIfInBounds slot.toNat true
      rw [← hd.assigned, Array.map_setIfInBounds]
      rfl
    · rw [← hd.maxLocals]
      exact Array.size_setIfInBounds

/-- **One instruction.** An instruction that the check admits goes on to a
state that the check knows, returns, or stops with a fault of values. -/
theorem Admits.step (h : check.Admits limits i) (hd : check.Describes limits m)
    (hc : limits.constants = constants.length) : Sound limits check constants i m := by
  cases i with
  | pushInt value =>
    exact .of_push h hd rfl (by simp) rfl (Machine.step_pushInt constants m value)
  | getStdout => exact .of_push h hd rfl (by simp) rfl (Machine.step_getStdout constants m)
  | pushConst index =>
    have hindex : index.toNat < constants.length := by
      rw [← hc]
      exact h.operand
    have hstep := Machine.step_pushConst constants m index
    rw [List.getElem?_eq_getElem hindex] at hstep
    exact .of_push h hd rfl (by simp) rfl hstep
  | loadLocal slot =>
    obtain ⟨value, hvalue⟩ := hd.local_some h.operand.2
    have hstep := Machine.step_loadLocal constants m slot
    rw [hvalue] at hstep
    exact .of_push h hd rfl (by simp) rfl hstep
  | storeLocal slot => exact .of_storeLocal h hd
  | arith op => exact .of_arith h hd
  | println => exact .of_println h hd
  | ret => exact .returned rfl

/-! ## Whole runs -/

variable {code rest : List Placed} {offset : Nat} {final : Check}

theorem run_cons_eq_ok_iff :
    check.run limits ((offset, i) :: rest) = .ok final ↔
      check.Admits limits i ∧ (check.after i).run limits rest = .ok final := by
  rw [run]
  cases hstep : check.step limits i with
  | error violation =>
    refine ⟨fun h => (by cases h), fun h => ?_⟩
    rw [step_eq_ok_iff.mpr ⟨h.1, rfl⟩] at hstep
    cases hstep
  | ok check' =>
    obtain ⟨hadmits, rfl⟩ := step_eq_ok_iff.mp hstep
    exact ⟨fun h => ⟨hadmits, h⟩, fun h => h.2⟩

/-- A run of code that the check takes in to a return fails on values or on the
sink, or not at all. -/
theorem run_sound {procedure : String} {last : Nat} (hrun : check.run limits code = .ok final)
    (hbegin : check.returned = false) (hend : final.returned = true)
    (hd : check.Describes limits m) (hc : limits.constants = constants.length)
    {failure : CallFailure}
    (hfail : (Machine.run constants procedure last code m).1 = .error failure) :
    failure.fault.OfValues := by
  induction code generalizing check m last with
  | nil =>
    -- The check would have ended as it began, without a return.
    cases hrun
    rw [hbegin] at hend
    cases hend
  | cons placed rest ih =>
    obtain ⟨offset, i⟩ := placed
    obtain ⟨hadmits, hrest⟩ := run_cons_eq_ok_iff.mp hrun
    cases hadmits.step hd hc with
    | next hstep hret hdesc =>
      rw [Machine.run_next hstep] at hfail
      exact ih hrest (by simp [after, hret]) hdesc hfail
    | returned hret =>
      subst hret
      rw [Machine.run, Machine.step_ret] at hfail
      dsimp only at hfail
      cases hflush : m.sink.flush with
      | ok u => rw [hflush] at hfail; cases hfail
      | error e => rw [hflush] at hfail; cases hfail; trivial
    | fault hstep hcause =>
      rw [Machine.run_fault hstep] at hfail
      cases hfail
      exact hcause

/-- Before each executed instruction the machine is in the state that the check
had come to there. -/
theorem describes_of_visits (hrun : check.run limits code = .ok final)
    (hd : check.Describes limits m) (hc : limits.constants = constants.length)
    {k : Nat} {placed : Placed} {m' : Machine}
    (hk : (Machine.visits constants code m)[k]? = some (placed, m')) :
    code[k]? = some placed ∧
      ∃ known, check.run limits (code.take k) = .ok known ∧ known.Describes limits m' := by
  induction code generalizing check m k with
  | nil => cases hk
  | cons head rest ih =>
    obtain ⟨offset, i⟩ := head
    obtain ⟨hadmits, hrest⟩ := run_cons_eq_ok_iff.mp hrun
    cases k with
    | zero =>
      cases hk
      exact ⟨rfl, check, rfl, hd⟩
    | succ k =>
      rw [Machine.visits, List.getElem?_cons_succ] at hk
      cases hadmits.step hd hc with
      | next hstep hret hdesc =>
        rw [hstep] at hk
        obtain ⟨hcode, known, hknown, hdesc'⟩ := ih hrest hdesc hk
        exact ⟨hcode, known, run_cons_eq_ok_iff.mpr ⟨hadmits, hknown⟩, hdesc'⟩
      | returned hret =>
        subst hret
        rw [Machine.step_ret] at hk
        cases hk
      | fault hstep hcause =>
        rw [hstep] at hk
        cases hk

theorem initial_describes (limits : Limits) (sink : Sink) :
    (initial limits).Describes limits (Machine.start limits.maxStack limits.maxLocals sink) where
  depth := rfl
  assigned := by simp [Machine.start, initial]
  maxStack := rfl
  maxLocals := by simp [Machine.start]

end Check

/-! ## Procedures -/

theorem Procedure.check_eq_ok_iff {p : Procedure} {constants : Nat} {code : List Placed} :
    p.check constants = .ok code ↔
      Instruction.decodeAll p.text = .ok code ∧
      ∃ final, (Check.initial (p.limits constants)).run (p.limits constants) code = .ok final ∧
        final.returned = true := by
  rw [Procedure.check]
  cases hdecode : Instruction.decodeAll p.text with
  | error stuck => simp
  | ok decoded =>
    cases hrun : (Check.initial (p.limits constants)).run (p.limits constants) decoded with
    | error failure =>
      simp only [hrun]
      refine ⟨fun h => (by cases h), ?_⟩
      rintro ⟨hcode, final, hfinal, -⟩
      cases hcode
      rw [hrun] at hfinal
      cases hfinal
    | ok final =>
      simp only [hrun]
      constructor
      · intro h
        by_cases hend : final.returned = true
        · rw [if_pos hend] at h
          cases h
          exact ⟨rfl, final, hrun, hend⟩
        · rw [if_neg hend] at h
          cases h
      · rintro ⟨hcode, final', hfinal, hend⟩
        cases hcode
        rw [hrun] at hfinal
        cases hfinal
        rw [if_pos hend]

/-- **Soundness of the check.** Code that passes, run on any sink, ends well or
with a fault that hangs on values or on the sink. Before each instruction that
is executed, the stack has the depth and the slots are written that the check
had come to after the instructions before it. -/
theorem Procedure.check_sound {p : Procedure} {constants : List String} {code : List Placed}
    (h : p.check constants.length = .ok code) (sink : Sink) :
    (∀ failure,
      (Machine.run constants p.name 0 code
        (Machine.start p.maxStack.toNat p.maxLocals.toNat sink)).1 = .error failure →
      failure.fault.OfValues) ∧
    ∀ k placed m,
      (Machine.visits constants code
        (Machine.start p.maxStack.toNat p.maxLocals.toNat sink))[k]? = some (placed, m) →
      code[k]? = some placed ∧
      ∃ check,
        (Check.initial (p.limits constants.length)).run (p.limits constants.length)
          (code.take k) = .ok check ∧
        m.stack.length = check.depth ∧
        m.locals.map Option.isSome = check.assigned := by
  obtain ⟨-, final, hrun, hend⟩ := Procedure.check_eq_ok_iff.mp h
  have hd := Check.initial_describes (p.limits constants.length) sink
  constructor
  · intro failure hfail
    exact Check.run_sound hrun rfl hend hd rfl hfail
  · intro k placed m hk
    obtain ⟨hcode, check, hcheck, hdesc⟩ := Check.describes_of_visits hrun hd rfl hk
    exact ⟨hcode, check, hcheck, hdesc.depth, hdesc.assigned⟩

/-- Adds a text to a number, with three values on the stack by then. -/
def Procedure.mixing : Procedure where
  name := "main"
  text := Instruction.encodeAll
    [.pushInt 1, .storeLocal 0, .getStdout, .loadLocal 0, .pushConst 0, .arith .add, .println, .ret]
  maxStack := 3
  maxLocals := 1

/-- Before the fifth instruction the number is in its slot and two values are on
the stack; the addition is at fault. -/
theorem Procedure.check_sound_mixing :
    ∃ code, Procedure.mixing.check 1 = .ok code ∧
      (Machine.run ["a"] "main" 0 code (Machine.start 3 1 ⟨#[], none, false⟩)).1 =
        .error ⟨26, .typeMismatch .add .int .text⟩ ∧
      (Fault.typeMismatch .add .int .text).OfValues ∧
      ∃ check, (Check.initial ⟨3, 1, 1⟩).run ⟨3, 1, 1⟩ (code.take 4) = .ok check ∧
        check.depth = 2 ∧ check.assigned = #[true] := by
  have hcheck : Procedure.mixing.check ["a"].length = .ok (Instruction.placeFrom 0
      [.pushInt 1, .storeLocal 0, .getStdout, .loadLocal 0, .pushConst 0, .arith .add, .println,
        .ret]) :=
    Procedure.check_eq_ok_iff.mpr
      ⟨Instruction.decodeAll_encodeAll _, ⟨0, #[true], true⟩, rfl, rfl⟩
  obtain ⟨hfault, hvisits⟩ := Procedure.check_sound hcheck ⟨#[], none, false⟩
  obtain ⟨-, check, hrun, hdepth, hassigned⟩ := hvisits 4 _ _ rfl
  exact ⟨_, hcheck, rfl, hfault _ rfl, check, hrun, hdepth.symm,
    hassigned.symm.trans (by simp [Procedure.mixing])⟩

end Printlet
