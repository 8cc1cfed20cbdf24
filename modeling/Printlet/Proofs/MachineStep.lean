/-
Printlet.Proofs.MachineStep — one instruction, in closed form.

`Machine.step` is written as actions in sequence. Here is what each
instruction comes to, as one equation over the stack, the slots and the sink,
faults included. Later proofs rewrite with these equations and never unfold an
action. The last section does the same for `Machine.run`: what one executed
instruction makes of a run, and which machines it passes through.
-/
import Printlet.CodeUnit.Basic
import Printlet.Machine.Step

namespace Printlet.Machine

/-- What executing an instruction gives. -/
abbrev Result := EStateM.Result Fault Machine Outcome

/-- Puts a value on the stack and goes on, if there is room. -/
def pushed (value : Value) (m : Machine) : Result :=
  if m.stack.length < m.maxStack then .ok .next { m with stack := value :: m.stack }
  else .error (.stackOverflow m.maxStack) m

variable (constants : List String) (m : Machine)

/-! ## Equations -/

theorem throw_apply {α : Type} (cause : Fault) :
    (throw cause : Action α) m = .error cause m := rfl

/-- An action that ends by putting a value on the stack. -/
theorem push_then (value : Value) :
    (do push value; return .next : Action Outcome) m = m.pushed value := by
  obtain ⟨stack, locals, maxStack, sink⟩ := m
  by_cases h : stack.length < maxStack
  · simp [pushed, push, bind, EStateM.bind, pure, EStateM.pure, h]
  · simp [pushed, push, bind, EStateM.bind, h]

theorem step_pushInt (value : Int64) :
    step constants (.pushInt value) m = m.pushed (.int value) :=
  push_then m (.int value)

theorem step_getStdout : step constants .getStdout m = m.pushed .stdout :=
  push_then m .stdout

theorem step_ret : step constants .ret m = .ok .returned m := rfl

theorem step_pushConst (index : UInt32) :
    step constants (.pushConst index) m =
      match constants[index.toNat]? with
      | some text => m.pushed (.text text)
      | none => .error (.noConstant index.toNat) m := by
  cases h : constants[index.toNat]? with
  | none => simp [step, constant, h, bind, EStateM.bind, throw_apply]
  | some text =>
    dsimp only
    rw [← push_then m (.text text)]
    simp [step, constant, h, bind, EStateM.bind, pure, EStateM.pure]

theorem step_loadLocal (slot : UInt16) :
    step constants (.loadLocal slot) m =
      match m.locals[slot.toNat]? with
      | some (some value) => m.pushed value
      | some none => .error (.uninitializedLocal slot.toNat) m
      | none => .error (.noSuchLocal slot.toNat) m := by
  cases h : m.locals[slot.toNat]? with
  | none => simp [step, load, slotValue, h, bind, EStateM.bind]
  | some content =>
    cases content with
    | none => simp [step, load, slotValue, h, bind, EStateM.bind]
    | some value =>
      dsimp only
      rw [← push_then m value]
      simp [step, load, slotValue, h, bind, EStateM.bind]

theorem step_storeLocal (slot : UInt16) :
    step constants (.storeLocal slot) m =
      match m.stack with
      | [] => .error .stackEmpty m
      | value :: rest =>
        if slot.toNat < m.locals.size then
          .ok .next
            { m with stack := rest, locals := m.locals.setIfInBounds slot.toNat (some value) }
        else .error (.noSuchLocal slot.toNat) { m with stack := rest } := by
  obtain ⟨stack, locals, maxStack, sink⟩ := m
  cases stack with
  | nil => rfl
  | cons value rest =>
    by_cases h : slot.toNat < locals.size
    · simp [step, store, pop, setSlot, h, bind, EStateM.bind, pure, EStateM.pure]
    · simp [step, store, pop, setSlot, h, bind, EStateM.bind]

/-- The fault of an operation leaves both operands off the stack. -/
theorem step_arith (op : Arith) :
    step constants (.arith op) m =
      match m.stack with
      | [] => .error .stackEmpty m
      | [_] => .error .stackEmpty { m with stack := [] }
      | rhs :: lhs :: rest =>
        match op.apply lhs rhs with
        | .ok result => pushed result { m with stack := rest }
        | .error fault => .error fault { m with stack := rest } := by
  obtain ⟨stack, locals, maxStack, sink⟩ := m
  cases stack with
  | nil => rfl
  | cons rhs stack =>
    cases stack with
    | nil => rfl
    | cons lhs rest =>
      dsimp only
      cases h : op.apply lhs rhs with
      | error fault => simp [step, pop, check, h, bind, EStateM.bind, throw_apply]
      | ok result =>
        dsimp only
        rw [← push_then _ result]
        simp [step, pop, check, h, bind, EStateM.bind, pure, EStateM.pure]

theorem step_println :
    step constants .println m =
      match m.stack with
      | [] => .error .stackEmpty m
      | [_] => .error .stackEmpty { m with stack := [] }
      | value :: target :: rest =>
        if target = .stdout then
          match m.sink.writeLine value.display with
          | (.ok (), sink) => .ok .next { m with stack := rest, sink := sink }
          | (.error e, sink) => .error (.output e) { m with stack := rest, sink := sink }
        else .error (.notAStream target.kind) { m with stack := rest } := by
  obtain ⟨stack, locals, maxStack, sink⟩ := m
  cases stack with
  | nil => rfl
  | cons value stack =>
    cases stack with
    | nil => rfl
    | cons target rest =>
      dsimp only
      by_cases h : target = .stdout
      · rw [if_pos h]
        rcases hw : sink.writeLine value.display with ⟨written, sink'⟩
        cases written <;>
          simp [step, pop, checkStream, writeLine, h, hw, bind, EStateM.bind, pure, EStateM.pure]
      · rw [if_neg h]
        simp [step, pop, checkStream, h, bind, EStateM.bind, throw_apply]

/-! ## Runs -/

variable {constants m} {procedure : String} {last offset : Nat} {i : Instruction}
variable {rest : List Placed} {m' : Machine} {fault : Fault}

theorem run_next (h : step constants i m = .ok .next m') :
    run constants procedure last ((offset, i) :: rest) m =
      run constants procedure offset rest m' := by
  rw [run, h]

theorem run_fault (h : step constants i m = .error fault m') :
    run constants procedure last ((offset, i) :: rest) m =
      (.error ⟨offset, fault⟩, m'.sink) := by
  rw [run, h]

/-- The instructions that a run executes, each with the machine before it. -/
def visits (constants : List String) : List Placed → Machine → List (Placed × Machine)
  | [], _ => []
  | placed :: rest, m =>
    (placed, m) ::
      match step constants placed.2 m with
      | .ok .next m => visits constants rest m
      | _ => []

/-- A trace keeps of each machine on the way the depth of its stack. -/
theorem trace_eq_map_visits (constants : List String) (code : List Placed) (m : Machine) :
    trace constants code m =
      (visits constants code m).map fun (placed, m) =>
        ⟨placed.1, placed.2, m.stack.length⟩ := by
  induction code generalizing m with
  | nil => rfl
  | cons placed rest ih =>
    obtain ⟨offset, i⟩ := placed
    rw [trace, visits, List.map_cons]
    congr 1
    dsimp only
    cases step constants i m with
    | error cause m' => rfl
    | ok outcome m' =>
      cases outcome with
      | next => exact ih m'
      | returned => rfl

end Printlet.Machine

namespace Printlet

/-- Runs the procedure of a unit on its own: its code read from its bytes, on a
new machine of the size that its header declares. -/
def CodeUnit.run? (u : CodeUnit) (sink : Sink) : Option (Except CallFailure Unit × Sink) :=
  match Instruction.decodeAll u.entry.text with
  | .error _ => none
  | .ok code =>
    some (Machine.run u.constants u.entry.name 0 code
      (Machine.start u.entry.maxStack.toNat u.entry.maxLocals.toNat sink))

end Printlet
