/-
Printlet.Proofs.Transcript — what is written, whatever it is written to.

A transcript is the lines that would be written, each under a label that tells
who writes it, and how it would end. The labels are offsets where a machine runs
code (`Machine.transcript`) and nodes where a tree is evaluated
(`Evaluation.transcript`). What a sink makes of a transcript is said here for
both, by induction on the lines: a sink only grows (`onto_grows`), one without a
limit takes every line whole (`onto_unlimited`), and a failure comes from a line,
from the transcript or from the flush at its end (`blame_of_onto`).
-/
import Printlet.Machine.Sink

namespace Printlet

/-! ## Sinks -/

namespace Sink

@[simp] theorem append_nil (sink : Sink) : sink.append [] = sink := by
  simp [append]

@[simp] theorem append_append (sink : Sink) (front back : Bytes) :
    (sink.append front).append back = sink.append (front ++ back) := by
  have hcontents : sink.contents ++ front ++ back = sink.contents ++ (front ++ back) := by
    apply Array.ext'
    simp
  simp only [append, hcontents]

@[simp] theorem toList_contents_append (sink : Sink) (bytes : Bytes) :
    (sink.append bytes).contents.toList = sink.contents.toList ++ bytes := by
  simp [append]

/-- Whether or not a line fits, what is written of it is added at the end. -/
theorem writeLine_grows (sink : Sink) (line : String) :
    ∃ bytes, (sink.writeLine line).2 = sink.append bytes := by
  simp only [writeLine]
  split
  · exact ⟨_, rfl⟩
  · exact ⟨_, rfl⟩

theorem writeLine_unlimited {sink : Sink} (h : sink.limit = none) (line : String) :
    sink.writeLine line = (.ok (), sink.append (Bytes.ofText (line ++ "\n"))) := by
  simp [writeLine, room, h]

/-- A line is refused only for want of room. -/
theorem eq_full_of_writeLine {sink sink' : Sink} {line : String} {e : SinkError}
    (h : sink.writeLine line = (.error e, sink')) : e = .full := by
  simp only [writeLine] at h
  split at h
  · cases h
    rfl
  · cases h

end Sink

/-! ## Transcripts -/

/-- The lines that are written, with their labels, and how it ends: in a failure,
or well and under a label, for which the sink is flushed. -/
structure Transcript (α ε : Type) where
  lines : List (α × String)
  ending : Except ε α

namespace Transcript

variable {α ε : Type}

/-- Puts a line, if there is one, before all others. -/
def note (label : α) (line : Option String) (later : Transcript α ε) : Transcript α ε :=
  match line with
  | none => later
  | some line => { later with lines := (label, line) :: later.lines }

/-- The result where the sink refuses nothing. -/
def result (t : Transcript α ε) : Except ε Unit :=
  match t.ending with
  | .ok _ => .ok ()
  | .error failure => .error failure

/-- The bytes of some lines, each with a line feed after it. -/
def spell (lines : List (α × String)) : Bytes :=
  lines.flatMap fun (_, line) => Bytes.ofText (line ++ "\n")

@[simp] theorem spell_nil : spell ([] : List (α × String)) = [] := rfl

@[simp] theorem spell_cons (label : α) (line : String) (rest : List (α × String)) :
    spell ((label, line) :: rest) = Bytes.ofText (line ++ "\n") ++ spell rest := by
  simp [spell]

@[simp] theorem spell_append (front back : List (α × String)) :
    spell (front ++ back) = spell front ++ spell back := by
  simp [spell]

/-- The bytes of all lines. -/
def output (t : Transcript α ε) : Bytes :=
  spell t.lines

section Onto

variable (blame : α → Fault → ε)

/-- Writes lines in order, up to the first that the sink refuses. Its label is to
blame. -/
def writeAll (sink : Sink) : List (α × String) → Except ε Unit × Sink
  | [] => (.ok (), sink)
  | (label, line) :: rest =>
    match sink.writeLine line with
    | (.ok (), sink) => writeAll sink rest
    | (.error e, sink) => (.error (blame label (.output e)), sink)

/-- What an ending comes to on a sink that has taken all lines. -/
def settle (sink : Sink) : Except ε α → Except ε Unit
  | .error failure => .error failure
  | .ok label =>
    match sink.flush with
    | .ok () => .ok ()
    | .error e => .error (blame label (.output e))

/-- What a transcript comes to if its lines go to a sink. -/
def onto (t : Transcript α ε) (sink : Sink) : Except ε Unit × Sink :=
  match writeAll blame sink t.lines with
  | (.error failure, sink) => (.error failure, sink)
  | (.ok (), sink) => (settle blame sink t.ending, sink)

end Onto

variable {blame : α → Fault → ε} {t : Transcript α ε} {sink sink' : Sink}

/-! ### One line -/

section Note

variable {label : α} {line : String} {later : Transcript α ε}

theorem onto_note_ok (h : sink.writeLine line = (.ok (), sink')) :
    (note label (some line) later).onto blame sink = later.onto blame sink' := by
  simp only [onto, note, writeAll, h]

theorem onto_note_error {e : SinkError} (h : sink.writeLine line = (.error e, sink')) :
    (note label (some line) later).onto blame sink = (.error (blame label (.output e)), sink') := by
  simp only [onto, note, writeAll, h]

end Note

/-! ### The ending -/

theorem onto_of_written (h : writeAll blame sink t.lines = (.ok (), sink')) :
    t.onto blame sink = (settle blame sink' t.ending, sink') := by
  simp only [onto, h]

theorem onto_of_error {failure : ε} (h : writeAll blame sink t.lines = (.error failure, sink')) :
    t.onto blame sink = (.error failure, sink') := by
  simp only [onto, h]

/-- A flush does not look at what has been written. -/
theorem settle_append (bytes : Bytes) (ending : Except ε α) :
    settle blame (sink.append bytes) ending = settle blame sink ending := by
  cases ending <;> rfl

theorem settle_of_flushed (label : α) (h : sink.flushFails = false) :
    settle blame sink (.ok label) = .ok () := by
  simp [settle, Sink.flush, h]

theorem settle_of_refused (label : α) (h : sink.flushFails = true) :
    settle blame sink (.ok label) = .error (blame label (.output .flushRefused)) := by
  simp [settle, Sink.flush, h]

theorem settle_eq_result (h : t.result = .ok () → sink.flushFails = false) :
    settle blame sink t.ending = t.result := by
  cases hending : t.ending with
  | error failure => simp only [settle, result, hending]
  | ok label =>
    have hresult : t.result = .ok () := by simp only [result, hending]
    rw [hresult, settle_of_flushed label (h hresult)]

theorem ending_of_result (h : t.result = .ok ()) : ∃ label, t.ending = .ok label := by
  cases hending : t.ending with
  | ok label => exact ⟨label, rfl⟩
  | error failure =>
    simp only [result, hending] at h
    cases h

/-! ### All sinks -/

theorem writeAll_grows (sink : Sink) (lines : List (α × String)) :
    ∃ bytes, (writeAll blame sink lines).2 = sink.append bytes := by
  induction lines generalizing sink with
  | nil => exact ⟨[], sink.append_nil.symm⟩
  | cons entry rest ih =>
    obtain ⟨label, line⟩ := entry
    obtain ⟨first, hfirst⟩ := sink.writeLine_grows line
    rcases hw : sink.writeLine line with ⟨written, sink'⟩
    rw [hw] at hfirst
    cases written with
    | error e =>
      refine ⟨first, ?_⟩
      simp only [writeAll, hw]
      exact hfirst
    | ok u =>
      obtain ⟨more, hmore⟩ := ih sink'
      refine ⟨first ++ more, ?_⟩
      have hfirst' : sink' = sink.append first := hfirst
      simp only [writeAll, hw]
      rw [hmore, hfirst', Sink.append_append]

/-- A sink keeps what it holds; what is written is added at the end. -/
theorem onto_grows (blame : α → Fault → ε) (t : Transcript α ε) (sink : Sink) :
    ∃ bytes, (t.onto blame sink).2 = sink.append bytes := by
  obtain ⟨bytes, hbytes⟩ := writeAll_grows sink t.lines
  refine ⟨bytes, ?_⟩
  rcases hw : writeAll blame sink t.lines with ⟨written, sink'⟩
  rw [hw] at hbytes
  cases written with
  | error failure => rw [onto_of_error hw, ← hbytes]
  | ok u => rw [onto_of_written hw, ← hbytes]

theorem blame_of_writeAll {lines : List (α × String)} {failure : ε}
    (h : writeAll blame sink lines = (.error failure, sink')) :
    ∃ label line, (label, line) ∈ lines ∧ failure = blame label (.output .full) := by
  induction lines generalizing sink with
  | nil => cases h
  | cons entry rest ih =>
    obtain ⟨label, line⟩ := entry
    rw [writeAll] at h
    split at h
    next =>
      obtain ⟨label', line', hmem, hfailure⟩ := ih h
      exact ⟨label', line', List.mem_cons_of_mem _ hmem, hfailure⟩
    next e _ hwrite =>
      cases h
      rw [Sink.eq_full_of_writeLine hwrite]
      exact ⟨label, line, List.mem_cons_self, rfl⟩

/-- A failure comes from a line, from the transcript, or from the flush at its
end. -/
theorem blame_of_onto {failure : ε} (h : (t.onto blame sink).1 = .error failure) :
    (∃ label line, (label, line) ∈ t.lines ∧ failure = blame label (.output .full)) ∨
      t.ending = .error failure ∨
      ∃ label, t.ending = .ok label ∧ failure = blame label (.output .flushRefused) := by
  rcases hw : writeAll blame sink t.lines with ⟨written, sink'⟩
  cases written with
  | error failure' =>
    rw [onto_of_error hw] at h
    cases h
    exact .inl (blame_of_writeAll hw)
  | ok u =>
    rw [onto_of_written hw] at h
    cases hending : t.ending with
    | error failure' =>
      rw [hending] at h
      cases h
      exact .inr (.inl rfl)
    | ok label =>
      rw [hending] at h
      cases hflush : sink'.flushFails with
      | true =>
        rw [settle_of_refused label hflush] at h
        cases h
        exact .inr (.inr ⟨label, rfl, rfl⟩)
      | false =>
        rw [settle_of_flushed label hflush] at h
        cases h

/-! ### Sinks without a limit -/

theorem writeAll_unlimited (sink : Sink) (h : sink.limit = none) (lines : List (α × String)) :
    writeAll blame sink lines = (.ok (), sink.append (spell lines)) := by
  induction lines generalizing sink with
  | nil => simp [writeAll]
  | cons entry rest ih =>
    obtain ⟨label, line⟩ := entry
    have hrest := ih (sink.append (Bytes.ofText (line ++ "\n"))) h
    simp only [writeAll, Sink.writeLine_unlimited h, hrest, Sink.append_append, spell_cons]

/-- A sink without a limit takes every line whole, after what it holds. -/
theorem onto_unlimited (t : Transcript α ε) (h : sink.limit = none) :
    t.onto blame sink = (settle blame sink t.ending, sink.append t.output) := by
  rw [onto_of_written (writeAll_unlimited sink h t.lines), settle_append]
  rfl

/-- On a sink that refuses nothing it ends as it would. -/
theorem onto_open (t : Transcript α ε) (hlimit : sink.limit = none)
    (hflush : sink.flushFails = false) :
    t.onto blame sink = (t.result, sink.append t.output) := by
  rw [onto_unlimited t hlimit, settle_eq_result fun _ => hflush]

end Transcript

end Printlet
