/-
Printlet.Proofs.MachineTranscript — what a run writes, whatever it writes to.

A machine looks at its sink in two places only: where a line is written and
where the return flushes. So a run is its transcript, with offsets as labels,
and the sink that takes the lines (`run_eq_onto`).
-/
import Printlet.Proofs.MachineStep
import Printlet.Proofs.Transcript

namespace Printlet

/-! ## One instruction -/

namespace Machine

/-- The line that a machine is about to write. -/
def line? (i : Instruction) (m : Machine) : Option String :=
  match i, m.stack with
  | .println, value :: .stdout :: _ => some value.display
  | _, _ => none

/-- A machine that prints to another sink. -/
def withSink (m : Machine) (sink : Sink) : Machine :=
  { m with sink := sink }

/-- The same for the machine that an instruction leaves behind. -/
def redirect (sink : Sink) : Result → Result
  | .ok outcome m => .ok outcome (m.withSink sink)
  | .error fault m => .error fault (m.withSink sink)

variable (constants : List String) {i : Instruction} {m : Machine}

theorem pushed_withSink (value : Value) (m : Machine) (sink : Sink) :
    (m.withSink sink).pushed value = redirect sink (m.pushed value) := by
  by_cases hroom : m.stack.length < m.maxStack
  · simp [pushed, withSink, redirect, hroom]
  · simp [pushed, withSink, redirect, hroom]

/-- An instruction that writes no line does not look at the sink. -/
theorem step_withSink (h : m.line? i = none) (sink : Sink) :
    step constants i (m.withSink sink) = redirect sink (step constants i m) := by
  cases i with
  | pushInt value => simp only [step_pushInt, pushed_withSink]
  | getStdout => simp only [step_getStdout, pushed_withSink]
  | ret => rfl
  | pushConst index =>
    simp only [step_pushConst]
    cases constants[index.toNat]? with
    | none => rfl
    | some text => exact pushed_withSink ..
  | loadLocal slot =>
    obtain ⟨stack, locals, maxStack, old⟩ := m
    simp only [step_loadLocal, withSink]
    cases locals[slot.toNat]? with
    | none => rfl
    | some content =>
      cases content with
      | none => rfl
      | some value => exact pushed_withSink value ⟨stack, locals, maxStack, old⟩ sink
  | storeLocal slot =>
    obtain ⟨stack, locals, maxStack, old⟩ := m
    simp only [step_storeLocal, withSink]
    cases stack with
    | nil => rfl
    | cons value rest =>
      dsimp only
      split <;> rfl
  | arith op =>
    obtain ⟨stack, locals, maxStack, old⟩ := m
    simp only [step_arith, withSink]
    match stack with
    | [] => rfl
    | [_] => rfl
    | rhs :: lhs :: rest =>
      dsimp only
      cases op.apply lhs rhs with
      | error fault => rfl
      | ok value => exact pushed_withSink value ⟨rest, locals, maxStack, old⟩ sink
  | println =>
    obtain ⟨stack, locals, maxStack, old⟩ := m
    simp only [step_println, withSink]
    match stack with
    | [] => rfl
    | [_] => rfl
    | value :: target :: rest =>
      -- a stream as target would make it a line
      have htarget : target ≠ .stdout := by
        rintro rfl
        cases h
      dsimp only
      rw [if_neg htarget, if_neg htarget]
      rfl

/-- An instruction that writes a line goes on if the sink takes the line, and
stops if it does not. Nothing else hangs on the sink. -/
theorem step_of_line? {line : String} (h : m.line? i = some line) :
    ∃ rest, ∀ sink, step constants i (m.withSink sink) =
      match sink.writeLine line with
      | (.ok (), sink) => .ok .next { m with stack := rest, sink := sink }
      | (.error e, sink) => .error (.output e) { m with stack := rest, sink := sink } := by
  obtain ⟨stack, locals, maxStack, old⟩ := m
  unfold line? at h
  split at h
  · next value rest hstack =>
    simp only at hstack
    subst hstack
    cases h
    refine ⟨rest, fun sink => ?_⟩
    rw [step_println]
    exact if_pos rfl
  · cases h

/-! ## Whole runs -/

/-- The transcript of a run: what it writes to a sink that refuses nothing. -/
def transcript (constants : List String) (procedure : String) (last : Nat) :
    List Placed → Machine → Transcript Nat CallFailure
  | [], _ => ⟨[], .error ⟨last, .ranPastEnd procedure⟩⟩
  | (offset, i) :: rest, m =>
    match step constants i (m.withSink {}) with
    | .ok .next m' => (transcript constants procedure offset rest m').note offset (m.line? i)
    | .ok .returned _ => ⟨[], .ok offset⟩
    | .error fault _ => ⟨[], .error ⟨offset, fault⟩⟩

variable {constants} {procedure : String} {last : Nat} {code : List Placed}

/-- The sink of the machine plays no part in the transcript. -/
theorem transcript_withSink (sink : Sink) :
    transcript constants procedure last code (m.withSink sink) =
      transcript constants procedure last code m := by
  cases code with
  | nil => rfl
  | cons placed rest => rfl

/-- **Runs and transcripts.** A run does on its sink what its transcript comes
to there. -/
theorem run_eq_onto (constants : List String) (procedure : String) (last : Nat)
    (code : List Placed) (m : Machine) :
    run constants procedure last code m =
      (transcript constants procedure last code m).onto .mk m.sink := by
  induction code generalizing last m with
  | nil => rfl
  | cons placed rest ih =>
    obtain ⟨offset, i⟩ := placed
    cases hline : m.line? i with
    | none =>
      have hfree := step_withSink constants hline {}
      have hkept : step constants i m = _ := step_withSink constants hline m.sink
      rw [run, transcript, hfree, hline]
      cases hstep : step constants i m with
      | error fault m' =>
        rw [hstep] at hkept
        have hsink : m'.sink = m.sink := by
          rw [(EStateM.Result.error.inj hkept).2]
          rfl
        rw [← hsink]
        rfl
      | ok outcome m' =>
        rw [hstep] at hkept
        have hsink : m'.sink = m.sink := by
          rw [(EStateM.Result.ok.inj hkept).2]
          rfl
        rw [← hsink]
        cases outcome with
        | next =>
          show run constants procedure offset rest m' =
            (transcript constants procedure offset rest (m'.withSink {})).onto .mk m'.sink
          rw [transcript_withSink]
          exact ih offset m'
        | returned =>
          show _ = (Transcript.settle CallFailure.mk m'.sink (.ok offset), m'.sink)
          rw [Transcript.settle]
          dsimp only
          cases m'.sink.flush <;> rfl
    | some line =>
      obtain ⟨stack, hstep⟩ := step_of_line? constants hline
      have hfree := hstep {}
      rw [Sink.writeLine_unlimited rfl] at hfree
      have hhere : step constants i m = _ := hstep m.sink
      rw [transcript, hfree, hline]
      dsimp only
      rcases hw : m.sink.writeLine line with ⟨written, sink⟩
      rw [hw] at hhere
      cases written with
      | error e => rw [Transcript.onto_note_error hw, run_fault hhere]
      | ok u =>
        rw [Transcript.onto_note_ok hw, run_next hhere, ← transcript_withSink sink]
        exact ih offset { m with stack := stack, sink := sink }

end Machine

end Printlet
