/-
Printlet.Proofs.CheckExact — the check refuses nothing that would run.

The other half of `Proofs.CheckSound`. Code that is refused for its stack, its
slots or its constants is run as if it had not been checked, on a sink without
a limit: it comes to the instruction that was refused and fails there, unless
the values it computes stop it before.

## How the proof goes

Up to the refused instruction the machine is in the state that the check knows
(`Check.Describes`), so `Check.Admits.step` applies to every instruction before
it; a sink without a limit leaves only faults of operands (`Admits.proceeds`).
At the refused instruction the check and the machine look for the same things in
a different order: the check asks for room before it asks for the constant or the
slot, the machine after. `Violation.Causes` says which faults a refusal can turn
into, and `Check.causes_of_step_error` that it does.
-/
import Printlet.Proofs.Demands
import Printlet.Proofs.MachineTranscript

namespace Printlet

/-! ## 1. Refusals and faults -/

/-- Refusals for the stack, the slots or the constants. -/
def Violation.OfFrame : Violation → Prop
  | .stackUnderflow _ _ _ => True
  | .stackOverflow _ _ => True
  | .localOutOfRange _ _ => True
  | .uninitializedLocal _ => True
  | .constantOutOfRange _ _ => True
  | _ => False

/-- The faults that a refusal can turn into. Where there is no room for a
constant or a copy of a slot, it may be the constant or the slot that is found
missing. -/
inductive Violation.Causes : Violation → Fault → Prop
  | stackEmpty {i : Instruction} {needed available : Nat} :
      Causes (.stackUnderflow i needed available) .stackEmpty
  | stackOverflow {depth maxStack : Nat} :
      Causes (.stackOverflow depth maxStack) (.stackOverflow maxStack)
  | noRoomNoConstant {depth maxStack index : Nat} :
      Causes (.stackOverflow depth maxStack) (.noConstant index)
  | noRoomNoLocal {depth maxStack slot : Nat} :
      Causes (.stackOverflow depth maxStack) (.noSuchLocal slot)
  | noRoomUninitialized {depth maxStack slot : Nat} :
      Causes (.stackOverflow depth maxStack) (.uninitializedLocal slot)
  | noSuchLocal {slot maxLocals : Nat} :
      Causes (.localOutOfRange slot maxLocals) (.noSuchLocal slot)
  | uninitializedLocal {slot : Nat} :
      Causes (.uninitializedLocal slot) (.uninitializedLocal slot)
  | noConstant {index count : Nat} :
      Causes (.constantOutOfRange index count) (.noConstant index)

/-! ## 2. Instructions that are taken in -/

namespace Machine

variable {constants : List String} {i : Instruction} {m m' : Machine} {cause : Fault}

theorem pushed_ne_output (value : Value) (e : SinkError) :
    m.pushed value ≠ .error (.output e) m' := by
  unfold pushed
  split <;> simp

/-- A sink without a limit is never the cause of a fault. -/
theorem step_ne_output (hlimit : m.sink.limit = none) (e : SinkError) :
    step constants i m ≠ .error (.output e) m' := by
  intro h
  cases i with
  | pushInt value => exact pushed_ne_output _ e ((step_pushInt ..).symm.trans h)
  | getStdout => exact pushed_ne_output _ e ((step_getStdout ..).symm.trans h)
  | ret => cases h
  | pushConst index =>
    rw [step_pushConst] at h
    split at h
    · exact pushed_ne_output _ e h
    · cases h
  | loadLocal slot =>
    rw [step_loadLocal] at h
    split at h
    · exact pushed_ne_output _ e h
    · cases h
    · cases h
  | storeLocal slot =>
    rw [step_storeLocal] at h
    split at h
    · cases h
    · split at h <;> cases h
  | arith op =>
    rw [step_arith] at h
    split at h
    · cases h
    · cases h
    · split at h
      next => exact pushed_ne_output _ e h
      next hfault =>
        cases h
        exact Arith.ofOperands_of_apply hfault
  | println =>
    rw [step_println] at h
    split at h
    · cases h
    · cases h
    · simp only [Sink.writeLine_unlimited hlimit] at h
      split at h <;> cases h

theorem ofOperands_of_step (hlimit : m.sink.limit = none)
    (hstep : step constants i m = .error cause m') (hcause : cause.OfValues) :
    cause.OfOperands := by
  cases cause with
  | output e => exact absurd hstep (step_ne_output hlimit e)
  | typeMismatch | divisionByZero | overflow | notAStream => trivial
  | _ => exact hcause

/-- An instruction leaves the limit of the sink as it is. -/
theorem limit_of_step {outcome : Outcome} (hstep : step constants i m = .ok outcome m') :
    m'.sink.limit = m.sink.limit := by
  cases hline : m.line? i with
  | none =>
    have hkept : step constants i m = _ := step_withSink constants hline m.sink
    rw [hstep] at hkept
    rw [(EStateM.Result.ok.inj hkept).2]
    rfl
  | some line =>
    obtain ⟨rest, hwrites⟩ := step_of_line? constants hline
    have hhere : step constants i m = _ := hwrites m.sink
    obtain ⟨bytes, hgrows⟩ := m.sink.writeLine_grows line
    rcases hw : m.sink.writeLine line with ⟨written, sink⟩
    rw [hw] at hhere hgrows
    rw [hstep] at hhere
    cases written with
    | error e => cases hhere
    | ok u =>
      cases hhere
      rw [show sink = _ from hgrows]
      rfl

end Machine

namespace Check

variable {limits : Limits} {check : Check} {i : Instruction}
variable {constants : List String} {m : Machine}

/-- What an admitted instruction can do on a sink without a limit: it goes on,
and all is as it was; it returns; or its operands stop it. -/
inductive Proceeds (limits : Limits) (check : Check) (constants : List String) (i : Instruction)
    (m : Machine) : Prop
  | next {m' : Machine} (hstep : Machine.step constants i m = .ok .next m') (hret : i ≠ .ret)
      (hdesc : (check.after i).Describes limits m') (hlimit : m'.sink.limit = none)
  | returned (hret : i = .ret)
  | fault {cause : Fault} {m' : Machine}
      (hstep : Machine.step constants i m = .error cause m') (hcause : cause.OfOperands)

theorem Admits.proceeds (h : check.Admits limits i) (hd : check.Describes limits m)
    (hc : limits.constants = constants.length) (hlimit : m.sink.limit = none) :
    Proceeds limits check constants i m := by
  cases h.step hd hc with
  | next hstep hret hdesc =>
    exact .next hstep hret hdesc ((Machine.limit_of_step hstep).trans hlimit)
  | returned hret => exact .returned hret
  | fault hstep hcause => exact .fault hstep (Machine.ofOperands_of_step hlimit hstep hcause)

/-! ## 3. Instructions that are refused -/

/-- Fewer operands on the stack than an instruction takes: it comes to its end. -/
theorem stackEmpty_of_underflow (hd : check.Describes limits m)
    (hpops : check.depth < i.effect.pops) :
    ∃ m', Machine.step constants i m = .error .stackEmpty m' := by
  rw [← hd.depth] at hpops
  cases i with
  | storeLocal slot =>
    have hlength : m.stack.length < 1 := hpops
    have hstack : m.stack = [] := List.eq_nil_of_length_eq_zero (by omega)
    exact ⟨_, by rw [Machine.step_storeLocal, hstack]⟩
  | arith op =>
    have hlength : m.stack.length < 2 := hpops
    rw [Machine.step_arith]
    match hstack : m.stack with
    | [] | [_] => exact ⟨_, rfl⟩
    | _ :: _ :: _ =>
      rw [hstack, List.length_cons, List.length_cons] at hlength
      omega
  | println =>
    have hlength : m.stack.length < 2 := hpops
    rw [Machine.step_println]
    match hstack : m.stack with
    | [] | [_] => exact ⟨_, rfl⟩
    | _ :: _ :: _ =>
      rw [hstack, List.length_cons, List.length_cons] at hlength
      omega
  | _ => cases hpops

theorem pushed_of_full (hd : check.Describes limits m) (hfull : limits.maxStack ≤ check.depth)
    (value : Value) : m.pushed value = .error (.stackOverflow limits.maxStack) m := by
  have hfull' : ¬ m.stack.length < m.maxStack := by
    rw [hd.depth, hd.maxStack]
    omega
  rw [Machine.pushed, if_neg hfull', hd.maxStack]

/-- An instruction for whose result there is no room is one that puts something on
a full stack. If it gets so far, there is no room for it. -/
theorem causes_of_overflow (hd : check.Describes limits m)
    (hbound : check.depth ≤ limits.maxStack) (henough : i.effect.pops ≤ check.depth)
    (hover : limits.maxStack < check.depth - i.effect.pops + i.effect.pushes) (depth : Nat) :
    ∃ cause m', Machine.step constants i m = .error cause m' ∧
      Violation.Causes (.stackOverflow depth limits.maxStack) cause := by
  cases i with
  | pushInt value =>
    have hfull : limits.maxStack ≤ check.depth := Nat.le_of_lt_succ hover
    exact ⟨_, _, (Machine.step_pushInt ..).trans (pushed_of_full hd hfull _), .stackOverflow⟩
  | getStdout =>
    have hfull : limits.maxStack ≤ check.depth := Nat.le_of_lt_succ hover
    exact ⟨_, _, (Machine.step_getStdout ..).trans (pushed_of_full hd hfull _), .stackOverflow⟩
  | pushConst index =>
    have hfull : limits.maxStack ≤ check.depth := Nat.le_of_lt_succ hover
    rw [Machine.step_pushConst]
    split
    · exact ⟨_, _, pushed_of_full hd hfull _, .stackOverflow⟩
    · exact ⟨_, _, rfl, .noRoomNoConstant⟩
  | loadLocal slot =>
    have hfull : limits.maxStack ≤ check.depth := Nat.le_of_lt_succ hover
    rw [Machine.step_loadLocal]
    split
    · exact ⟨_, _, pushed_of_full hd hfull _, .stackOverflow⟩
    · exact ⟨_, _, rfl, .noRoomUninitialized⟩
    · exact ⟨_, _, rfl, .noRoomNoLocal⟩
  | storeLocal slot | arith op | println | ret =>
    -- these leave the stack no deeper than it was
    simp only [Instruction.effect] at henough hover
    omega

theorem not_written_of_describes (hd : check.Describes limits m) {slot : Nat}
    (hlt : slot < limits.maxLocals) (hunset : ¬ check.assigned[slot]?.getD false = true) :
    m.locals[slot]? = some none := by
  rw [← hd.maxLocals] at hlt
  rw [← hd.assigned, Array.getElem?_map, Array.getElem?_eq_getElem hlt] at hunset
  rw [Array.getElem?_eq_getElem hlt]
  cases hslot : m.locals[slot] with
  | none => rfl
  | some value => simp [hslot] at hunset

/-- Slots and constants that are missed by the check are missed by the machine. -/
theorem causes_of_operand (hd : check.Describes limits m)
    (hc : limits.constants = constants.length) (henough : i.effect.pops ≤ check.depth)
    {depth : Nat} {violation : Violation}
    (herror : operand limits { check with depth := depth } i = .error violation)
    (hframe : violation.OfFrame) :
    ∃ cause m', Machine.step constants i m = .error cause m' ∧ violation.Causes cause := by
  cases i with
  | loadLocal slot =>
    change (if limits.maxLocals ≤ slot.toNat then Except.error _
      else if check.assigned[slot.toNat]?.getD false then Except.ok _ else Except.error _) = _
      at herror
    rw [Machine.step_loadLocal]
    split at herror
    next hle =>
      cases herror
      have hnone : m.locals[slot.toNat]? = none := by
        rw [Array.getElem?_eq_none_iff, hd.maxLocals]
        exact hle
      exact ⟨_, _, by rw [hnone], .noSuchLocal⟩
    next hlt =>
      split at herror
      next => cases herror
      next hunset =>
        cases herror
        have hslot := not_written_of_describes hd (Nat.lt_of_not_le hlt) hunset
        exact ⟨_, _, by rw [hslot], .uninitializedLocal⟩
  | storeLocal slot =>
    change (if limits.maxLocals ≤ slot.toNat then Except.error _ else Except.ok _) = _ at herror
    rw [Machine.step_storeLocal]
    split at herror
    next hle =>
      cases herror
      have hout : ¬ slot.toNat < m.locals.size := by
        rw [hd.maxLocals]
        omega
      cases hstack : m.stack with
      | nil =>
        have hdepth : 1 ≤ m.stack.length := by
          rw [hd.depth]
          exact henough
        simp [hstack] at hdepth
      | cons value rest => exact ⟨_, _, if_neg hout, .noSuchLocal⟩
    next => cases herror
  | pushConst index =>
    change (if limits.constants ≤ index.toNat then Except.error _ else Except.ok _) = _ at herror
    rw [Machine.step_pushConst]
    split at herror
    next hle =>
      cases herror
      have hnone : constants[index.toNat]? = none := by
        rw [List.getElem?_eq_none_iff, ← hc]
        exact hle
      exact ⟨_, _, by rw [hnone], .noConstant⟩
    next => cases herror
  | ret =>
    change (if depth ≠ 0 then Except.error (Violation.residueAtReturn depth) else Except.ok _) = _
      at herror
    split at herror
    next =>
      cases herror
      cases hframe
    next => cases herror
  | pushInt | arith | getStdout | println => cases herror

/-- **One instruction.** What is refused for the stack, a slot or a constant fails
at that. -/
theorem causes_of_step_error (hd : check.Describes limits m)
    (hc : limits.constants = constants.length) (hbound : check.depth ≤ limits.maxStack)
    {violation : Violation} (herror : check.step limits i = .error violation)
    (hframe : violation.OfFrame) :
    ∃ cause m', Machine.step constants i m = .error cause m' ∧ violation.Causes cause := by
  unfold step at herror
  split at herror
  next =>
    cases herror
    cases hframe
  next =>
    split at herror
    next hpops =>
      cases herror
      obtain ⟨m', hstep⟩ := stackEmpty_of_underflow hd hpops
      exact ⟨_, m', hstep, .stackEmpty⟩
    next hpops =>
      have henough := Nat.le_of_not_lt hpops
      dsimp only at herror
      split at herror
      next hover =>
        cases herror
        exact causes_of_overflow hd hbound henough hover _
      next => exact causes_of_operand hd hc henough herror hframe

/-! ## 4. Whole code -/

variable {placed : List Placed} {failure : CheckFailure} {final : Check}

/-- Behind a return the check refuses whatever comes. -/
theorem run_of_returned (hret : check.returned = true) :
    check.run limits placed = .ok check ∨
      ∃ offset, check.run limits placed = .error ⟨offset, .codeAfterReturn⟩ := by
  cases placed with
  | nil => exact .inl rfl
  | cons head rest =>
    obtain ⟨offset, i⟩ := head
    exact .inr ⟨offset, by simp [run, step, hret]⟩

theorem le_offset_of_run {code : List Instruction} {offset : Nat}
    (hrun : check.run limits (Instruction.placeFrom offset code) = .error failure) :
    offset ≤ failure.offset := by
  induction code generalizing offset check with
  | nil => cases hrun
  | cons i code ih =>
    rw [Instruction.placeFrom, run] at hrun
    split at hrun
    next =>
      have hlater := ih hrun
      omega
    next =>
      cases hrun
      exact Nat.le_refl offset

/-- **Refused code** fails where it was refused, if its operands let it get there. -/
theorem fails_of_run_error {code : List Instruction} {offset : Nat}
    (hrun : check.run limits (Instruction.placeFrom offset code) = .error failure)
    (hframe : failure.violation.OfFrame) (hd : check.Describes limits m)
    (hc : limits.constants = constants.length) (hbound : check.depth ≤ limits.maxStack)
    (hlimit : m.sink.limit = none) (procedure : String) (last : Nat) :
    ∃ stop, (Machine.run constants procedure last (Instruction.placeFrom offset code) m).1 =
      .error stop ∧ (stop.offset < failure.offset ∧ stop.fault.OfOperands ∨
        stop.offset = failure.offset ∧ failure.violation.Causes stop.fault) := by
  induction code generalizing offset check m last with
  | nil => cases hrun
  | cons i code ih =>
    rw [Instruction.placeFrom] at hrun ⊢
    cases hstep : check.step limits i with
    | error violation =>
      rw [run, hstep] at hrun
      cases hrun
      obtain ⟨cause, m', hfault, hcauses⟩ := causes_of_step_error hd hc hbound hstep hframe
      exact ⟨⟨offset, cause⟩, by rw [Machine.run_fault hfault], .inr ⟨rfl, hcauses⟩⟩
    | ok check' =>
      rw [run, hstep] at hrun
      dsimp only at hrun
      obtain ⟨hadmits, rfl⟩ := step_eq_ok_iff.mp hstep
      have hlater : offset + i.size ≤ failure.offset := le_offset_of_run hrun
      have hsize : 0 < i.size := by cases i <;> simp [Instruction.size]
      cases hadmits.proceeds hd hc hlimit with
      | next hnext hret hdesc hlimit' =>
        rw [Machine.run_next hnext]
        exact ih hrun hdesc hadmits.bound hlimit' offset
      | returned hret =>
        -- code behind a return is refused for standing there
        have hreturned : (check.after i).returned = true := by simp [after, hret]
        rcases run_of_returned hreturned with hok | ⟨stuck, herror⟩
        · rw [hok] at hrun
          cases hrun
        · rw [herror] at hrun
          cases hrun
          cases hframe
      | fault hfault hcause =>
        exact ⟨⟨offset, _⟩, by rw [Machine.run_fault hfault], .inl ⟨by dsimp only; omega, hcause⟩⟩

/-- **Code without a return** that is not refused for anything else runs through
to its end, if its operands let it. -/
theorem runs_through (hrun : check.run limits placed = .ok final)
    (hbegin : check.returned = false) (hend : ¬ final.returned = true)
    (hd : check.Describes limits m) (hc : limits.constants = constants.length)
    (hlimit : m.sink.limit = none) (procedure : String) (last : Nat) :
    ∃ stop, (Machine.run constants procedure last placed m).1 = .error stop ∧
      (stop.fault.OfOperands ∨ stop.fault = .ranPastEnd procedure ∧
        (Machine.visits constants placed m).map Prod.fst = placed) := by
  induction placed generalizing check m last with
  | nil => exact ⟨_, rfl, .inr ⟨rfl, rfl⟩⟩
  | cons head rest ih =>
    obtain ⟨offset, i⟩ := head
    obtain ⟨hadmits, hrest⟩ := run_cons_eq_ok_iff.mp hrun
    cases hadmits.proceeds hd hc hlimit with
    | next hnext hret hdesc hlimit' =>
      obtain ⟨stop, hstop, hthrough⟩ := ih hrest (by simp [after, hret]) hdesc hlimit' offset
      rw [Machine.run_next hnext]
      rcases hthrough with hcause | ⟨hpast, hvisits⟩
      · exact ⟨stop, hstop, .inl hcause⟩
      · refine ⟨stop, hstop, .inr ⟨hpast, ?_⟩⟩
        simp only [Machine.visits, hnext, List.map_cons, hvisits]
    | returned hret =>
      have hreturned : (check.after i).returned = true := by simp [after, hret]
      rcases run_of_returned hreturned with hok | ⟨stuck, herror⟩
      · rw [hok] at hrest
        cases hrest
        exact absurd hreturned hend
      · rw [herror] at hrest
        cases hrest
    | fault hfault hcause => exact ⟨⟨offset, _⟩, by rw [Machine.run_fault hfault], .inl hcause⟩

end Check

/-! ## 5. Procedures -/

namespace Procedure

variable {p : Procedure} {code : List Placed} {failure : CheckFailure}

/-- What the walk over code that does not pass came to: to the failure, or to its
end without a return. -/
theorem run_of_check_error {constants : Nat} (hdecode : Instruction.decodeAll p.text = .ok code)
    (hcheck : p.check constants = .error failure) :
    (Check.initial (p.limits constants)).run (p.limits constants) code = .error failure ∨
      failure.violation = .missingReturn ∧ ∃ final,
        (Check.initial (p.limits constants)).run (p.limits constants) code = .ok final ∧
          ¬ final.returned = true := by
  simp only [check, hdecode] at hcheck
  split at hcheck
  next hrun =>
    cases hcheck
    exact .inl hrun
  next final hrun =>
    split at hcheck
    next => cases hcheck
    next hend =>
      cases hcheck
      exact .inr ⟨rfl, final, hrun, hend⟩

/-- **The check is exact.** Code that does not pass is run unchecked, on a sink
without a limit.

* If it was refused for its stack, a slot or a constant, it fails: before the
  refused instruction, and then its operands are the cause; or at that very
  instruction, with a fault of the stack, the slot or the constant.
* If only a return is missing, its operands are the cause of a fault, or it
  executes all its instructions without returning. -/
theorem check_exact {constants : List String} (hdecode : Instruction.decodeAll p.text = .ok code)
    (hcheck : p.check constants.length = .error failure) {sink : Sink}
    (hlimit : sink.limit = none) :
    (failure.violation.OfFrame → ∃ stop,
      (Machine.run constants p.name 0 code
        (Machine.start p.maxStack.toNat p.maxLocals.toNat sink)).1 = .error stop ∧
      (stop.offset < failure.offset ∧ stop.fault.OfOperands ∨
        stop.offset = failure.offset ∧ failure.violation.Causes stop.fault)) ∧
    (failure.violation = .missingReturn → ∃ stop,
      (Machine.run constants p.name 0 code
        (Machine.start p.maxStack.toNat p.maxLocals.toNat sink)).1 = .error stop ∧
      (stop.fault.OfOperands ∨ stop.fault = .ranPastEnd p.name ∧
        (Machine.visits constants code
          (Machine.start p.maxStack.toNat p.maxLocals.toNat sink)).map Prod.fst = code)) := by
  have hd := Check.initial_describes (p.limits constants.length) sink
  obtain ⟨instructions, -, rfl⟩ := Instruction.decodeAll_eq_ok_iff.mp hdecode
  rcases run_of_check_error hdecode hcheck with hrun | ⟨hmissing, final, hrun, hend⟩
  · refine ⟨fun hframe => ?_, fun hmissing => ?_⟩
    · exact Check.fails_of_run_error hrun hframe hd rfl (Nat.zero_le _) hlimit p.name 0
    · -- no instruction is refused for the lack of a return
      obtain ⟨k, i, -, ⟨⟨j, -, hreports⟩, -⟩⟩ :=
        (Check.Recalls.initial _).run_error Row.clean_nil hrun
      have hoffends := hreports.offends
      rw [hmissing] at hoffends
      cases hoffends
  · refine ⟨fun hframe => ?_, fun _ => ?_⟩
    · rw [hmissing] at hframe
      cases hframe
    · exact Check.runs_through hrun rfl hend hd rfl hlimit p.name 0

/-- Asks for a constant that is not there, with the stack full. -/
def crowded : Procedure where
  name := "main"
  text := Instruction.encodeAll [.pushInt 1, .pushConst 7, .ret]
  maxStack := 1
  maxLocals := 0

/-- The check sees that there is no room, the run that there is no constant. -/
theorem check_exact_crowded :
    crowded.check 0 = .error ⟨10, .stackOverflow 2 1⟩ ∧
      ∃ stop, (Machine.run [] "main" 0 (Instruction.placeFrom 0 [.pushInt 1, .pushConst 7, .ret])
          (Machine.start 1 0 {})).1 = .error stop ∧
        stop = ⟨10, .noConstant 7⟩ ∧
        (stop.offset < 10 ∧ stop.fault.OfOperands ∨
          stop.offset = 10 ∧ (Violation.stackOverflow 2 1).Causes stop.fault) := by
  have hdecode := Instruction.decodeAll_encodeAll [.pushInt 1, .pushConst 7, .ret]
  have hcheck : crowded.check ([] : List String).length = .error ⟨10, .stackOverflow 2 1⟩ := by
    simp only [check, show Instruction.decodeAll crowded.text = _ from hdecode]
    rfl
  have hlimit : ({} : Sink).limit = none := rfl
  obtain ⟨stop, hstop, hfails⟩ := (check_exact hdecode hcheck hlimit).1 trivial
  refine ⟨hcheck, stop, hstop, ?_, hfails⟩
  cases hstop
  rfl

end Procedure

end Printlet
