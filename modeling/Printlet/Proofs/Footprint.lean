/-
Printlet.Proofs.Footprint — what can happen to a machine, and where.

A machine can be handled directly, by putting values on its stack, taking them
off and moving them to and from its slots, and it can be given instructions one
by one, each with constants and a sink of its own. A fault ends the call that
met it and nothing else: the next call finds what the fault has left.

`Acts` says once what a call can do, faults included: four shapes, over the
effect of the call and the slot that it stores to. Every call acts so
(`acts_perform`), and no later proof looks at an instruction again. From it come
what a call keeps (`Fits.perform`, `Acts.slot_cases`), and by induction on the
calls what a whole history keeps (`Fits.after`, `slot_after`).
-/
import Mathlib.Data.List.Induction
import Printlet.Proofs.MachineTranscript

namespace Printlet

/-! ## 1. Calls -/

/-- The slot that an instruction stores to. -/
def Instruction.target? : Instruction → Option Nat
  | .storeLocal slot => some slot.toNat
  | _ => none

/-- What can be asked of a machine. An instruction comes with the constants that
it may name and the sink that it may write to. -/
inductive MachineCall where
  | push (value : Value)
  | pop
  | load (slot : Nat)
  | store (slot : Nat)
  | exec (constants : List String) (sink : Sink) (i : Instruction)
  deriving DecidableEq, Repr

namespace MachineCall

/-- How many values a call takes off the stack and puts on it. -/
def effect : MachineCall → Effect
  | .push _ => ⟨0, 1⟩
  | .pop => ⟨1, 0⟩
  | .load _ => ⟨0, 1⟩
  | .store _ => ⟨1, 0⟩
  | .exec _ _ i => i.effect

/-- The slot that a call stores to. -/
def target? : MachineCall → Option Nat
  | .store slot => some slot
  | .exec _ _ i => i.target?
  | _ => none

/-- The call executes the instruction that writes a line. -/
def Prints : MachineCall → Prop
  | .exec _ _ i => i = .println
  | _ => False

/-- The machine that a call starts from, with the sink that the call brings. -/
def base (m : Machine) : MachineCall → Machine
  | .exec _ sink _ => m.withSink sink
  | _ => m

@[simp] theorem base_stack (call : MachineCall) (m : Machine) : (call.base m).stack = m.stack := by
  cases call <;> rfl

@[simp] theorem base_locals (call : MachineCall) (m : Machine) :
    (call.base m).locals = m.locals := by
  cases call <;> rfl

@[simp] theorem base_maxStack (call : MachineCall) (m : Machine) :
    (call.base m).maxStack = m.maxStack := by
  cases call <;> rfl

end MachineCall

namespace Machine

/-- Whether an action succeeded, and the machine after it in both cases. -/
def ended {α : Type} : EStateM.Result Fault Machine α → Except Fault Unit × Machine
  | .ok _ m => (.ok (), m)
  | .error fault m => (.error fault, m)

/-- Makes a call. -/
def perform (m : Machine) : MachineCall → Except Fault Unit × Machine
  | .push value => ended (push value m)
  | .pop => ended (pop m)
  | .load slot => ended (load slot m)
  | .store slot => ended (store slot m)
  | .exec constants sink i => ended (step constants i (m.withSink sink))

/-- The machine after calls, whichever of them fail. -/
def after (m : Machine) (calls : List MachineCall) : Machine :=
  calls.foldl (fun m call => (m.perform call).2) m

theorem after_concat (m : Machine) (calls : List MachineCall) (call : MachineCall) :
    m.after (calls ++ [call]) = ((m.after calls).perform call).2 :=
  List.foldl_append

/-! ## 2. One call -/

/-- What a call can do to a machine, given its effect, the slot that it stores to
and whether it prints. -/
inductive Acts (effect : Effect) (target : Option Nat) (prints : Prop) (m : Machine) :
    Except Fault Unit × Machine → Prop
  /-- It fails. Some of its operands may be gone. -/
  | fails {fault : Fault} {taken rest : List Value} {sink : Sink}
      (hstack : m.stack = taken ++ rest) (htaken : taken.length ≤ effect.pops)
      (hsink : sink = m.sink ∨ prints) :
      Acts effect target prints m (.error fault, { m with stack := rest, sink := sink })
  /-- It takes operands and gives nothing back. -/
  | takes {taken rest : List Value} {sink : Sink}
      (hstack : m.stack = taken ++ rest) (htaken : taken.length = effect.pops)
      (hpushes : effect.pushes = 0) (hsink : sink = m.sink ∨ prints) :
      Acts effect target prints m (.ok (), { m with stack := rest, sink := sink })
  /-- It takes operands and puts a value in their place, for which there is room. -/
  | puts {taken rest : List Value} {value : Value}
      (hstack : m.stack = taken ++ rest) (htaken : taken.length = effect.pops)
      (hpushes : effect.pushes = 1) (hroom : rest.length < m.maxStack) :
      Acts effect target prints m (.ok (), { m with stack := value :: rest })
  /-- It moves the top of the stack to a slot. -/
  | stores {slot : Nat} {value : Value} {rest : List Value}
      (hstack : m.stack = value :: rest) (heffect : effect = ⟨1, 0⟩)
      (htarget : target = some slot) (hslot : slot < m.locals.size) :
      Acts effect target prints m
        (.ok (), { m with stack := rest, locals := m.locals.setIfInBounds slot (some value) })

section Acting

variable {effect : Effect} {target : Option Nat} {prints : Prop} {m : Machine}
variable {result : Except Fault Unit × Machine}

/-- A fault before anything was taken. -/
theorem Acts.untouched (fault : Fault) : Acts effect target prints m (.error fault, m) :=
  .fails (List.nil_append m.stack).symm (Nat.zero_le _) (.inl rfl)

theorem acts_push (value : Value) (m : Machine) :
    Acts ⟨0, 1⟩ target prints m (ended (push value m)) := by
  obtain ⟨stack, locals, maxStack, sink⟩ := m
  by_cases hroom : stack.length < maxStack
  · simp only [push, if_pos hroom]
    exact .puts (List.nil_append stack).symm rfl rfl hroom
  · simp only [push, if_neg hroom]
    exact .untouched _

theorem acts_pop (m : Machine) : Acts ⟨1, 0⟩ target prints m (ended (pop m)) := by
  obtain ⟨stack, locals, maxStack, sink⟩ := m
  cases stack with
  | nil => exact .untouched _
  | cons value rest =>
    exact .takes (show value :: rest = [value] ++ rest from rfl) rfl rfl (.inl rfl)

theorem acts_load (slot : Nat) (m : Machine) :
    Acts ⟨0, 1⟩ target prints m (ended (load slot m)) := by
  cases hslot : m.locals[slot]? with
  | none =>
    have hload : load slot m = .error (.noSuchLocal slot) m := by
      simp [load, slotValue, hslot, bind, EStateM.bind]
    rw [hload]
    exact .untouched _
  | some content =>
    cases content with
    | none =>
      have hload : load slot m = .error (.uninitializedLocal slot) m := by
        simp [load, slotValue, hslot, bind, EStateM.bind]
      rw [hload]
      exact .untouched _
    | some value =>
      have hload : load slot m = push value m := by
        simp [load, slotValue, hslot, bind, EStateM.bind]
      rw [hload]
      exact acts_push value m

/-- Where there is no such slot, the value is gone all the same. -/
theorem acts_store (slot : Nat) (m : Machine) :
    Acts ⟨1, 0⟩ (some slot) prints m (ended (store slot m)) := by
  obtain ⟨stack, locals, maxStack, sink⟩ := m
  cases stack with
  | nil => exact .untouched _
  | cons value rest =>
    by_cases hslot : slot < locals.size
    · simp only [store, pop, setSlot, bind, EStateM.bind, if_pos hslot]
      exact .stores rfl rfl rfl hslot
    · simp only [store, pop, setSlot, bind, EStateM.bind, if_neg hslot]
      exact .fails (show value :: rest = [value] ++ rest from rfl) (Nat.le_refl 1) (.inl rfl)

/-- An instruction that is one action, and then goes on. -/
theorem ended_then (action : Action Unit) (m : Machine) :
    ended ((do action; return .next : Action Outcome) m) = ended (action m) := by
  simp only [bind, EStateM.bind]
  cases action m with
  | ok u m' => rfl
  | error fault m' => rfl

theorem acts_arith (constants : List String) (op : Arith) (m : Machine) :
    Acts ⟨2, 1⟩ target prints m (ended (step constants (.arith op) m)) := by
  obtain ⟨stack, locals, maxStack, sink⟩ := m
  rw [step_arith]
  match stack with
  | [] => exact .untouched _
  | [rhs] => exact .fails (List.append_nil [rhs]).symm (Nat.le_succ 1) (.inl rfl)
  | rhs :: lhs :: rest =>
    have hstack : rhs :: lhs :: rest = [rhs, lhs] ++ rest := rfl
    dsimp only
    cases op.apply lhs rhs with
    | error fault => exact .fails hstack (Nat.le_refl 2) (.inl rfl)
    | ok value =>
      by_cases hroom : rest.length < maxStack
      · simp only [pushed, if_pos hroom]
        exact .puts hstack rfl rfl hroom
      · simp only [pushed, if_neg hroom]
        exact .fails hstack (Nat.le_refl 2) (.inl rfl)

/-- Of the sink only the instruction that prints makes use. -/
theorem acts_println (constants : List String) (hprints : prints) (m : Machine) :
    Acts ⟨2, 0⟩ target prints m (ended (step constants .println m)) := by
  obtain ⟨stack, locals, maxStack, sink⟩ := m
  rw [step_println]
  match stack with
  | [] => exact .untouched _
  | [value] => exact .fails (List.append_nil [value]).symm (Nat.le_succ 1) (.inl rfl)
  | value :: stream :: rest =>
    have hstack : value :: stream :: rest = [value, stream] ++ rest := rfl
    dsimp only
    by_cases hstream : stream = .stdout
    · rw [if_pos hstream]
      rcases sink.writeLine value.display with ⟨written, sink'⟩
      cases written with
      | ok u => exact .takes hstack rfl rfl (.inr hprints)
      | error e => exact .fails hstack (Nat.le_refl 2) (.inr hprints)
    · rw [if_neg hstream]
      exact .fails hstack (Nat.le_refl 2) (.inl rfl)

/-- **One instruction.** The table of effects tells what it does to the stack. -/
theorem acts_step (constants : List String) (i : Instruction) (m : Machine) :
    Acts i.effect i.target? (i = .println) m (ended (step constants i m)) := by
  -- all but the two that take two operands are a single action, or none
  cases i with
  | pushInt value =>
    rw [step, ended_then]
    exact acts_push (.int value) m
  | pushConst index =>
    rw [step_pushConst]
    cases constants[index.toNat]? with
    | none => exact .untouched _
    | some text =>
      dsimp only
      rw [← push_then, ended_then]
      exact acts_push (.text text) m
  | loadLocal slot =>
    rw [step, ended_then]
    exact acts_load slot.toNat m
  | storeLocal slot =>
    rw [step, ended_then]
    exact acts_store slot.toNat m
  | arith op => exact acts_arith constants op m
  | getStdout =>
    rw [step, ended_then]
    exact acts_push .stdout m
  | println => exact acts_println constants rfl m
  | ret => exact .takes (List.nil_append m.stack).symm rfl rfl (.inl rfl)

/-- **One call.** -/
theorem acts_perform (m : Machine) (call : MachineCall) :
    Acts call.effect call.target? call.Prints (call.base m) (m.perform call) := by
  cases call with
  | push value => exact acts_push value m
  | pop => exact acts_pop m
  | load slot => exact acts_load slot m
  | store slot => exact acts_store slot m
  | exec constants sink i => exact acts_step constants i (m.withSink sink)

end Acting

/-! ## 3. What a call does to the stack, the slots and the sink -/

/-- The top of the stack has been replaced as the effect says, and what was below
it is still there. -/
def Exchanges (m : Machine) (effect : Effect) (m' : Machine) : Prop :=
  ∃ taken put rest, taken.length = effect.pops ∧ put.length = effect.pushes ∧
    m.stack = taken ++ rest ∧ m'.stack = put ++ rest

/-- At most `pops` values are gone from the top of the stack. Nothing has been put
there, and the slots are as they were. -/
def Drops (m : Machine) (pops : Nat) (m' : Machine) : Prop :=
  m'.locals = m.locals ∧ ∃ taken, taken.length ≤ pops ∧ m.stack = taken ++ m'.stack

/-- The machine keeps to its size. -/
structure Fits (maxStack maxLocals : Nat) (m : Machine) : Prop where
  bound : m.maxStack = maxStack
  stack : m.stack.length ≤ maxStack
  locals : m.locals.size = maxLocals

namespace Acts

variable {effect : Effect} {target : Option Nat} {prints : Prop} {m : Machine}
variable {result : Except Fault Unit × Machine} (h : Acts effect target prints m result)
include h

theorem exchanges (hok : result.1 = .ok ()) : m.Exchanges effect result.2 := by
  cases h with
  | fails => cases hok
  | @takes taken rest sink hstack htaken hpushes hsink =>
    exact ⟨taken, [], rest, htaken, hpushes.symm, hstack, rfl⟩
  | @puts taken rest value hstack htaken hpushes hroom =>
    exact ⟨taken, [value], rest, htaken, hpushes.symm, hstack, rfl⟩
  | @stores slot value rest hstack heffect htarget hslot =>
    subst heffect
    exact ⟨[value], [], rest, rfl, rfl, hstack, rfl⟩

theorem drops {fault : Fault} (herror : result.1 = .error fault) :
    m.Drops effect.pops result.2 := by
  cases h with
  | @fails fault taken rest sink hstack htaken hsink => exact ⟨rfl, taken, htaken, hstack⟩
  | takes | puts | stores => cases herror

theorem sink_eq (hprints : ¬ prints) : result.2.sink = m.sink := by
  cases h with
  | fails hstack htaken hsink => exact hsink.resolve_right hprints
  | takes hstack htaken hpushes hsink => exact hsink.resolve_right hprints
  | puts | stores => rfl

theorem fits {maxStack maxLocals : Nat} (hfits : m.Fits maxStack maxLocals) :
    result.2.Fits maxStack maxLocals := by
  obtain ⟨hbound, hlength, hlocals⟩ := hfits
  cases h with
  | fails hstack htaken hsink =>
    rw [hstack, List.length_append] at hlength
    exact ⟨hbound, by dsimp only; omega, hlocals⟩
  | takes hstack htaken hpushes hsink =>
    rw [hstack, List.length_append] at hlength
    exact ⟨hbound, by dsimp only; omega, hlocals⟩
  | puts hstack htaken hpushes hroom =>
    exact ⟨hbound, hbound ▸ hroom, hlocals⟩
  | stores hstack heffect htarget hslot =>
    rw [hstack, List.length_cons] at hlength
    exact ⟨hbound, by dsimp only; omega, by simpa using hlocals⟩

/-- A slot changes only by a store to it, and holds then what was on top. -/
theorem slot_cases (slot : Nat) :
    result.2.locals[slot]? = m.locals[slot]? ∨
      ∃ value, target = some slot ∧ result.1 = .ok () ∧ m.stack.head? = some value ∧
        result.2.locals[slot]? = some (some value) := by
  cases h with
  | fails | takes | puts => exact .inl rfl
  | @stores other value rest hstack heffect htarget hslot =>
    by_cases hsame : other = slot
    · subst hsame
      refine .inr ⟨value, htarget, rfl, by rw [hstack]; rfl, ?_⟩
      exact Array.getElem?_setIfInBounds_self_of_lt hslot
    · exact .inl (Array.getElem?_setIfInBounds_ne hsame)

end Acts

/-! ## 4. Any calls -/

variable {maxStack maxLocals : Nat} {sink : Sink} {m : Machine} {slot : Nat} {value : Value}

theorem fits_start (maxStack maxLocals : Nat) (sink : Sink) :
    (start maxStack maxLocals sink).Fits maxStack maxLocals where
  bound := rfl
  stack := Nat.zero_le _
  locals := Array.size_replicate

theorem Fits.perform (h : m.Fits maxStack maxLocals) (call : MachineCall) :
    (m.perform call).2.Fits maxStack maxLocals := by
  have hbase : (call.base m).Fits maxStack maxLocals :=
    ⟨by simp [h.bound], by simp [h.stack], by simp [h.locals]⟩
  exact (acts_perform m call).fits hbase

theorem Fits.after (h : m.Fits maxStack maxLocals) (calls : List MachineCall) :
    (m.after calls).Fits maxStack maxLocals := by
  induction calls generalizing m with
  | nil => exact h
  | cons call rest ih => exact ih (h.perform call)

/-- One of the calls is a store to the slot that succeeds, and moves the value
there. -/
def StoredBy (m : Machine) (calls : List MachineCall) (slot : Nat) (value : Value) : Prop :=
  ∃ before call rest, calls = before ++ call :: rest ∧ call.target? = some slot ∧
    ((m.after before).perform call).1 = .ok () ∧ (m.after before).stack.head? = some value

theorem StoredBy.concat {calls : List MachineCall} (h : m.StoredBy calls slot value)
    (last : MachineCall) : m.StoredBy (calls ++ [last]) slot value := by
  obtain ⟨before, call, rest, rfl, hstore⟩ := h
  refine ⟨before, call, rest ++ [last], ?_, hstore⟩
  rw [List.append_assoc, List.cons_append]

/-- **Slots.** After any calls a slot is as it was, or holds what the calls have
stored there. -/
theorem slot_after (m : Machine) (calls : List MachineCall) (slot : Nat) :
    (m.after calls).locals[slot]? = m.locals[slot]? ∨
      ∃ value, m.StoredBy calls slot value ∧
        (m.after calls).locals[slot]? = some (some value) := by
  -- from the end: what the last call stores is what the slot holds
  induction calls using List.reverseRecOn with
  | nil => exact .inl rfl
  | append_singleton calls call ih =>
    rw [after_concat]
    rcases (acts_perform (m.after calls) call).slot_cases slot with
      hsame | ⟨value, htarget, hok, htop, hvalue⟩
    · rw [hsame, MachineCall.base_locals]
      rcases ih with hsame | ⟨value, hstored, hvalue⟩
      · exact .inl hsame
      · exact .inr ⟨value, hstored.concat call, hvalue⟩
    · rw [MachineCall.base_stack] at htop
      exact .inr ⟨value, ⟨calls, call, [], rfl, htarget, hok, htop⟩, hvalue⟩

/-- **Discipline.** However a new machine has been handled, and whatever failed on
the way, its stack and its slots keep to its size. Whatever is done to it later, a
slot that has a value keeps one, and what comes there comes by a store to that
slot that succeeds. Whatever is done to it next: if it succeeds, it replaces the
top of the stack as its effect says and leaves what is below; if it fails, it puts
nothing on the stack, takes at most its operands off, and leaves the slots; and
unless it prints, the sink stays the same. -/
theorem after_start_disciplined {calls : List MachineCall}
    (hm : (start maxStack maxLocals sink).after calls = m) :
    (m.stack.length ≤ maxStack ∧ m.locals.size = maxLocals) ∧
    (∀ later slot,
      (∀ value, m.locals[slot]? = some (some value) →
        ∃ value', (m.after later).locals[slot]? = some (some value')) ∧
      ((m.after later).locals[slot]? = m.locals[slot]? ∨
        ∃ value, m.StoredBy later slot value ∧
          (m.after later).locals[slot]? = some (some value))) ∧
    ∀ call,
      ((m.perform call).1 = .ok () → m.Exchanges call.effect (m.perform call).2) ∧
      (∀ fault, (m.perform call).1 = .error fault →
        m.Drops call.effect.pops (m.perform call).2) ∧
      (¬ call.Prints → (m.perform call).2.sink = (call.base m).sink) := by
  refine ⟨?_, ?_, ?_⟩
  · have hfits := (fits_start maxStack maxLocals sink).after calls
    rw [hm] at hfits
    exact ⟨hfits.stack, hfits.locals⟩
  · intro later slot
    have hslot := slot_after m later slot
    refine ⟨?_, hslot⟩
    intro value hvalue
    rcases hslot with hsame | ⟨value', -, hvalue'⟩
    · exact ⟨value, hsame.trans hvalue⟩
    · exact ⟨value', hvalue'⟩
  · intro call
    have hacts := acts_perform m call
    refine ⟨?_, ?_, hacts.sink_eq⟩
    · intro hok
      simpa [Exchanges] using hacts.exchanges hok
    · intro fault herror
      simpa [Drops] using hacts.drops herror

/-- Calls that leave a value in a slot and two operands on the stack. The third
finds an empty stack. -/
def handled : List MachineCall :=
  [.push (.int 7), .store 0, .pop, .push (.int 1), .push (.int 0)]

/-- A division by zero costs both operands. The slot keeps its value, also past a
store that finds nothing to store. -/
theorem after_start_disciplined_dividing :
    ∃ m, (start 2 1 {}).after handled = m ∧ m.stack = [.int 0, .int 1] ∧
      (m.perform (.exec [] {} (.arith .div))).1 = .error .divisionByZero ∧
      m.Drops 2 (m.perform (.exec [] {} (.arith .div))).2 ∧
      ∃ value, (m.after [.exec [] {} (.arith .div), .store 0]).locals[0]? = some (some value) := by
  obtain ⟨-, hslots, hnext⟩ := after_start_disciplined (rfl : (start 2 1 {}).after handled = _)
  obtain ⟨-, hfails, -⟩ := hnext (.exec [] {} (.arith .div))
  obtain ⟨hkept, -⟩ := hslots [.exec [] {} (.arith .div), .store 0] 0
  exact ⟨_, rfl, rfl, rfl, hfails _ rfl, hkept (.int 7) rfl⟩

end Machine

end Printlet
