/-
Printlet.Proofs.Limited — a limit cuts the output, and changes nothing else.

Two calls of one unit are compared: one prints to a sink that refuses nothing,
the other to a sink with a limit. By `Loaded.run_eq_onto` both write the lines of
one transcript, so the comparison is one induction on lines: they are taken
whole as long as they fit (`writeAll_of_fits`), and the first that does not fit
is cut at the limit and ends the call (`writeAll_of_overruns`).

The place of that line in the code is said without a transcript. `printedBy n`
is what the first `n` instructions print; the line that crosses the limit is
written by the first instruction after which more has been printed than fits
(`Loaded.OverrunsAt`).
-/
import Mathlib.Order.Bounds.Basic
import Printlet.Proofs.Demands
import Printlet.Proofs.History

namespace Printlet

/-! ## 1. One line -/

namespace Sink

variable {sink : Sink} {limit : Nat}

theorem size_append (sink : Sink) (bytes : Bytes) :
    (sink.append bytes).contents.size = sink.contents.size + bytes.length := by
  rw [← Array.length_toList, toList_contents_append, List.length_append, Array.length_toList]

theorem writeLine_of_fits (hlimit : sink.limit = some limit) (line : String)
    (hfits : sink.contents.size + (Bytes.ofText (line ++ "\n")).length ≤ limit) :
    sink.writeLine line = (.ok (), sink.append (Bytes.ofText (line ++ "\n"))) := by
  have hroom : sink.room (Bytes.ofText (line ++ "\n")).length =
      (Bytes.ofText (line ++ "\n")).length := by
    simp only [room, hlimit]
    omega
  simp [writeLine, hroom]

/-- Of a line that does not fit, what fits is kept. -/
theorem writeLine_of_overruns (hlimit : sink.limit = some limit)
    (hheld : sink.contents.size ≤ limit) (line : String)
    (hover : limit < sink.contents.size + (Bytes.ofText (line ++ "\n")).length) :
    sink.writeLine line = (.error .full,
      sink.append ((Bytes.ofText (line ++ "\n")).take (limit - sink.contents.size))) := by
  have hroom : sink.room (Bytes.ofText (line ++ "\n")).length = limit - sink.contents.size := by
    simp only [room, hlimit]
    omega
  have hlt : limit - sink.contents.size < (Bytes.ofText (line ++ "\n")).length := by omega
  simp [writeLine, hroom, hlt]

theorem append_eq_of_toList {bytes : Bytes} {contents : Array UInt8}
    (h : contents.toList = sink.contents.toList ++ bytes) :
    sink.append bytes = { sink with contents := contents } := by
  have hcontents : sink.contents ++ bytes = contents := Array.ext' (by simp [h])
  rw [append, hcontents]

/-- A sink that is filled up to its limit. -/
theorem append_take_eq {more : Array UInt8} (hheld : sink.contents.size ≤ limit) :
    sink.append (more.toList.take (limit - sink.contents.size)) =
      { sink with contents := (sink.contents ++ more).take limit } := by
  apply append_eq_of_toList
  have hwhole : sink.contents.toList.take limit = sink.contents.toList :=
    List.take_of_length_le hheld
  simp [hwhole]

end Sink

/-! ## 2. Lines in a row -/

namespace Transcript

variable {α ε : Type} (blame : α → Fault → ε) {sink : Sink} {limit : Nat}

theorem writeAll_of_fits (hlimit : sink.limit = some limit) {lines : List (α × String)}
    (hfits : sink.contents.size + (spell lines).length ≤ limit) :
    writeAll blame sink lines = (.ok (), sink.append (spell lines)) := by
  induction lines generalizing sink with
  | nil => simp [writeAll]
  | cons entry rest ih =>
    obtain ⟨label, line⟩ := entry
    rw [spell_cons, List.length_append] at hfits
    have hline := Sink.writeLine_of_fits hlimit line (by omega)
    have hsize := sink.size_append (Bytes.ofText (line ++ "\n"))
    have hrest : writeAll blame (sink.append (Bytes.ofText (line ++ "\n"))) rest = _ :=
      ih hlimit (by omega)
    simp only [writeAll, hline, hrest, Sink.append_append, spell_cons]

/-- A limit that is not reached makes no difference. -/
theorem onto_of_fits (t : Transcript α ε) (hlimit : sink.limit = some limit)
    (hfits : sink.contents.size + t.output.length ≤ limit) :
    t.onto blame sink = (settle blame sink t.ending, sink.append t.output) := by
  rw [onto_of_written (writeAll_of_fits blame hlimit hfits), settle_append]
  rfl

/-- The line at which a row of lines crosses a number of bytes. -/
structure CrossesAt (lines before : List (α × String)) (room : Nat) (label : α) (line : String) :
    Prop where
  split : before ++ [(label, line)] <+: lines
  fits : (spell before).length ≤ room
  crosses : room < (spell (before ++ [(label, line)])).length

/-- Lines that do not all fit: one of them is the first that does not, and it is
where writing them ends. -/
theorem writeAll_of_overruns (hlimit : sink.limit = some limit)
    (hheld : sink.contents.size ≤ limit) {lines : List (α × String)}
    (hover : limit < sink.contents.size + (spell lines).length) :
    ∃ before label line, CrossesAt lines before (limit - sink.contents.size) label line ∧
      writeAll blame sink lines = (.error (blame label (.output .full)),
        sink.append ((spell lines).take (limit - sink.contents.size))) := by
  induction lines generalizing sink with
  | nil =>
    rw [spell_nil, List.length_nil] at hover
    omega
  | cons entry rest ih =>
    obtain ⟨label, line⟩ := entry
    by_cases hline : sink.contents.size + (Bytes.ofText (line ++ "\n")).length ≤ limit
    · -- the line fits, so the crossing is further on
      have hsize := sink.size_append (Bytes.ofText (line ++ "\n"))
      rw [spell_cons, List.length_append] at hover
      obtain ⟨before, label', line', hcross, hwrite⟩ :=
        @ih (sink.append (Bytes.ofText (line ++ "\n"))) hlimit (by omega) (by omega)
      rw [hsize] at hcross hwrite
      refine ⟨(label, line) :: before, label', line', ⟨?_, ?_, ?_⟩, ?_⟩
      · exact List.cons_prefix_cons.mpr ⟨rfl, hcross.split⟩
      · have hfits := hcross.fits
        rw [spell_cons, List.length_append]
        omega
      · have hcrosses := hcross.crosses
        rw [List.cons_append, spell_cons, List.length_append]
        omega
      · have hwhole : (Bytes.ofText (line ++ "\n")).take (limit - sink.contents.size) =
            Bytes.ofText (line ++ "\n") := List.take_of_length_le (by omega)
        simp only [writeAll, Sink.writeLine_of_fits hlimit line hline, hwrite, Sink.append_append,
          spell_cons]
        rw [List.take_append, hwhole, Nat.sub_add_eq]
    · have hover' := Nat.lt_of_not_le hline
      refine ⟨[], label, line, ⟨⟨rest, rfl⟩, Nat.zero_le _, ?_⟩, ?_⟩
      · simp only [List.nil_append, spell_cons, spell_nil, List.append_nil]
        omega
      · simp only [writeAll, Sink.writeLine_of_overruns hlimit hheld line hover', spell_cons]
        rw [List.take_append_of_le_length (by omega)]

end Transcript

/-! ## 3. Where lines come from -/

namespace Machine

variable {constants : List String} {procedure : String} {i : Instruction} {m m' : Machine}
variable {last offset : Nat} {rest : List Placed}

theorem lines_of_next (h : step constants i (m.withSink {}) = .ok .next m') :
    (transcript constants procedure last ((offset, i) :: rest) m).lines =
      (m.line? i).toList.map (Prod.mk offset) ++
        (transcript constants procedure offset rest m').lines := by
  rw [transcript, h]
  cases m.line? i <;> rfl

/-- A run that stops or returns prints no more. -/
theorem lines_of_stop (h : ∀ m', step constants i (m.withSink {}) ≠ .ok .next m') :
    (transcript constants procedure last ((offset, i) :: rest) m).lines = [] := by
  rw [transcript]
  cases hstep : step constants i (m.withSink {}) with
  | error fault m' => rfl
  | ok outcome m' =>
    cases outcome with
    | next => exact absurd hstep (h m')
    | returned => rfl

theorem eq_println_of_line? {line : String} (h : m.line? i = some line) : i = .println := by
  unfold line? at h
  split at h
  · rfl
  · cases h

/-- Code that is cut off prints a first part of what the whole prints. -/
theorem lines_take_isPrefix (constants : List String) (procedure : String) (n last : Nat)
    (code : List Placed) (m : Machine) :
    (transcript constants procedure last (code.take n) m).lines <+:
      (transcript constants procedure last code m).lines := by
  induction code generalizing n last m with
  | nil => simp
  | cons placed rest ih =>
    obtain ⟨offset, i⟩ := placed
    cases n with
    | zero => exact List.nil_prefix
    | succ n =>
      rw [List.take_succ_cons]
      by_cases hnext : ∃ m', step constants i (m.withSink {}) = .ok .next m'
      · obtain ⟨m', hstep⟩ := hnext
        rw [lines_of_next hstep, lines_of_next hstep]
        exact (List.prefix_append_right_inj _).mpr (ih n offset m')
      · rw [lines_of_stop fun m' hstep => hnext ⟨m', hstep⟩]
        exact List.nil_prefix

/-- A line is written by one instruction, and the instructions before it write the
lines before it. -/
theorem exists_println_of_line {code : List Placed} {before : List (Nat × String)} {line : String}
    (h : before ++ [(offset, line)] <+: (transcript constants procedure last code m).lines) :
    ∃ n, code[n]? = some (offset, .println) ∧
      (transcript constants procedure last (code.take n) m).lines = before ∧
      (transcript constants procedure last (code.take (n + 1)) m).lines =
        before ++ [(offset, line)] := by
  induction code generalizing last m before with
  | nil => simp [transcript] at h
  | cons placed rest ih =>
    obtain ⟨place, i⟩ := placed
    by_cases hnext : ∃ m', step constants i (m.withSink {}) = .ok .next m'
    · obtain ⟨m', hstep⟩ := hnext
      rw [lines_of_next hstep] at h
      cases hline : m.line? i with
      | none =>
        rw [hline] at h
        obtain ⟨n, hget, hbefore, hwith⟩ := ih h
        refine ⟨n + 1, hget, ?_, ?_⟩
        · rw [List.take_succ_cons, lines_of_next hstep, hline]
          exact hbefore
        · rw [List.take_succ_cons, lines_of_next hstep, hline]
          exact hwith
      | some first =>
        rw [hline] at h
        cases before with
        | nil =>
          -- the line is the first of all, so this instruction writes it
          obtain ⟨heq, -⟩ := List.cons_prefix_cons.mp h
          cases heq
          obtain rfl := eq_println_of_line? hline
          refine ⟨0, rfl, rfl, ?_⟩
          rw [List.take_succ_cons, lines_of_next hstep, hline]
          rfl
        | cons entry before =>
          obtain ⟨rfl, hrest⟩ := List.cons_prefix_cons.mp h
          obtain ⟨n, hget, hbefore, hwith⟩ := ih hrest
          refine ⟨n + 1, hget, ?_, ?_⟩
          · rw [List.take_succ_cons, lines_of_next hstep, hline, hbefore]
            rfl
          · rw [List.take_succ_cons, lines_of_next hstep, hline, hwith]
            rfl
    · rw [lines_of_stop fun m' hstep => hnext ⟨m', hstep⟩] at h
      simp at h

theorem pushed_ne_returned (value : Value) (m m' : Machine) :
    m.pushed value ≠ .ok .returned m' := by
  unfold pushed
  split <;> simp

theorem eq_ret_of_step (h : step constants i m = .ok .returned m') : i = .ret := by
  cases i with
  | ret => rfl
  | pushInt value =>
    rw [step_pushInt] at h
    exact absurd h (pushed_ne_returned _ _ _)
  | getStdout =>
    rw [step_getStdout] at h
    exact absurd h (pushed_ne_returned _ _ _)
  | pushConst index =>
    rw [step_pushConst] at h
    split at h
    · exact absurd h (pushed_ne_returned _ _ _)
    · cases h
  | loadLocal slot =>
    rw [step_loadLocal] at h
    split at h
    · exact absurd h (pushed_ne_returned _ _ _)
    · cases h
    · cases h
  | storeLocal slot =>
    rw [step_storeLocal] at h
    split at h
    · cases h
    · split at h <;> cases h
  | arith op =>
    rw [step_arith] at h
    split at h
    · cases h
    · cases h
    · split at h
      · exact absurd h (pushed_ne_returned _ _ _)
      · cases h
  | println =>
    rw [step_println] at h
    split at h
    · cases h
    · cases h
    · split at h
      · split at h <;> cases h
      · cases h

/-- A run returns at a return. -/
theorem mem_of_returned {code : List Placed}
    (h : (transcript constants procedure last code m).ending = .ok offset) :
    (offset, .ret) ∈ code := by
  induction code generalizing last m with
  | nil => cases h
  | cons placed rest ih =>
    obtain ⟨place, i⟩ := placed
    rw [transcript] at h
    cases hstep : step constants i (m.withSink {}) with
    | error fault m' =>
      rw [hstep] at h
      cases h
    | ok outcome m' =>
      rw [hstep] at h
      cases outcome with
      | next =>
        have hrest : (transcript constants procedure place rest m').ending = .ok offset := by
          cases hline : m.line? i <;> rw [hline] at h <;> exact h
        exact List.mem_cons_of_mem _ (ih hrest)
      | returned =>
        cases h
        obtain rfl := eq_ret_of_step hstep
        exact List.mem_cons_self

end Machine

/-! ## 4. Loaded units -/

namespace Loaded

/-- What the first `n` instructions of a unit print to a sink that refuses
nothing. -/
def printedBy (loaded : Loaded) (n : Nat) : Bytes :=
  (Machine.run loaded.constants loaded.procedure 0 (loaded.code.take n)
    (loaded.machine {})).2.contents.toList

/-- The instruction at `offset` writes the first line that does not fit into so
many bytes. -/
def OverrunsAt (loaded : Loaded) (room offset : Nat) : Prop :=
  ∃ n, loaded.code[n]? = some (offset, .println) ∧
    IsLeast {k | room < (loaded.printedBy (k + 1)).length} n

variable {loaded : Loaded}

theorem printedBy_eq_spell (loaded : Loaded) (n : Nat) :
    loaded.printedBy n = Transcript.spell (Machine.transcript loaded.constants loaded.procedure 0
      (loaded.code.take n) (loaded.machine {})).lines := by
  rw [printedBy, Machine.run_eq_onto, Transcript.onto_unlimited _ rfl,
    Sink.toList_contents_append]
  rfl

/-- More instructions print no less. -/
theorem printedBy_isPrefix {k n : Nat} (h : k ≤ n) : loaded.printedBy k <+: loaded.printedBy n := by
  have hlines := Machine.lines_take_isPrefix loaded.constants loaded.procedure k 0
    (loaded.code.take n) (loaded.machine {})
  rw [List.take_take, Nat.min_eq_left h] at hlines
  obtain ⟨more, hmore⟩ := hlines
  rw [printedBy_eq_spell, printedBy_eq_spell, ← hmore, Transcript.spell_append]
  exact List.prefix_append _ _

/-- The line at which the transcript crosses a number of bytes is the first whose
instruction does. -/
theorem overrunsAt_of_crossesAt {before : List (Nat × String)} {room offset : Nat} {line : String}
    (h : Transcript.CrossesAt loaded.transcript.lines before room offset line) :
    loaded.OverrunsAt room offset := by
  obtain ⟨n, hget, hbefore, hwith⟩ := Machine.exists_println_of_line h.split
  refine ⟨n, hget, ?_, fun k hk => ?_⟩
  · show room < (loaded.printedBy (n + 1)).length
    rw [printedBy_eq_spell, hwith]
    exact h.crosses
  · by_contra hlt
    have hle : (loaded.printedBy (k + 1)).length ≤ (loaded.printedBy n).length :=
      (printedBy_isPrefix (by omega)).length_le
    have hfits := h.fits
    rw [printedBy_eq_spell loaded n, hbefore] at hle
    have hover : room < (loaded.printedBy (k + 1)).length := hk
    omega

/-- Checked code returns with its last instruction. -/
theorem getLast?_of_returned {u : CodeUnit} (hload : u.load = .ok loaded) {offset : Nat}
    (h : loaded.transcript.ending = .ok offset) :
    loaded.code.getLast? = some (offset, .ret) := by
  obtain ⟨code, hcheck, rfl⟩ := CodeUnit.load_eq_ok_iff.mp hload
  obtain ⟨-, hdemands⟩ := Procedure.check_eq_ok_iff_demands.mp hcheck
  obtain ⟨k, hk⟩ := List.mem_iff_getElem?.mp (Machine.mem_of_returned h)
  have hlast : k + 1 = (code.map Prod.snd).length :=
    hdemands.once k (by rw [List.getElem?_map, hk]; rfl)
  rw [List.length_map] at hlast
  rw [List.getLast?_eq_getElem?, ← hlast]
  exact hk

end Loaded

/-! ## 5. Calls -/

/-- **A limit cuts the output, and changes nothing else.** Let a call of a checked
unit end with `result` and leave `free` behind if the sink holds nothing and
refuses nothing. On a sink with a limit, if what it holds and what is printed fit
together, all of it is printed and the call ends the same way; only a refused
flush makes a failure, at the return, out of a call that would succeed. If they
do not fit, the sink is filled up to its limit and the call fails at the
instruction whose line is the first to cross it. -/
theorem Engine.call_limited {engine free : Engine} {entry : EntryPoint} {u : CodeUnit}
    {loaded : Loaded} {limit : Nat} {result : Except CallFailure Unit}
    (hload : u.load = .ok loaded) (hunit : engine.unit? entry.unit = some loaded)
    (hlimit : engine.sink.limit = some limit) (hheld : engine.sink.contents.size ≤ limit)
    (hfree : { engine with sink := {} }.call entry = (result, free)) :
    (engine.sink.contents.size + free.sink.contents.size ≤ limit →
      (engine.call entry).2 =
        { engine with sink.contents := engine.sink.contents ++ free.sink.contents } ∧
      (result = .ok () → engine.sink.flushFails = true →
        ∃ offset, loaded.code.getLast? = some (offset, .ret) ∧
          (engine.call entry).1 = .error ⟨offset, .output .flushRefused⟩) ∧
      ((result = .ok () → engine.sink.flushFails = false) → (engine.call entry).1 = result)) ∧
    (limit < engine.sink.contents.size + free.sink.contents.size →
      (engine.call entry).2 =
        { engine with sink.contents :=
            (engine.sink.contents ++ free.sink.contents).take limit } ∧
      ∃ offset, loaded.OverrunsAt (limit - engine.sink.contents.size) offset ∧
        (engine.call entry).1 = .error ⟨offset, .output .full⟩) := by
  have hcall : engine.call entry = _ := Engine.call_of_unit? hunit
  have hfree' : { engine with sink := {} }.call entry = _ := Engine.call_of_unit? hunit
  rw [loaded.run_eq_onto] at hcall
  rw [loaded.run_eq_onto, Transcript.onto_open _ rfl rfl, hfree] at hfree'
  cases hfree'
  have hprinted : (Sink.append {} loaded.transcript.output).contents.toList =
      Transcript.spell loaded.transcript.lines := Sink.toList_contents_append {} _
  generalize (Sink.append {} loaded.transcript.output).contents = printed at hprinted ⊢
  have hsize : printed.size = (Transcript.spell loaded.transcript.lines).length := by
    rw [← hprinted, Array.length_toList]
  rw [hcall, hsize]
  constructor
  · intro hfits
    have hheld' : engine.sink.append loaded.transcript.output =
        { engine.sink with contents := engine.sink.contents ++ printed } := by
      rw [Transcript.output, ← hprinted]
      exact Sink.append_eq_of_toList (Array.toList_append ..)
    rw [Transcript.onto_of_fits CallFailure.mk loaded.transcript hlimit hfits, hheld']
    by_cases hrefused : loaded.transcript.result = .ok () ∧ engine.sink.flushFails = true
    · obtain ⟨hok, hrefuses⟩ := hrefused
      obtain ⟨offset, hending⟩ := Transcript.ending_of_result hok
      rw [hending, Transcript.settle_of_refused offset hrefuses]
      refine ⟨rfl, fun _ _ => ⟨offset, Loaded.getLast?_of_returned hload hending, rfl⟩, ?_⟩
      intro hflush
      rw [hflush hok] at hrefuses
      cases hrefuses
    · have hflush : loaded.transcript.result = .ok () → engine.sink.flushFails = false := by
        intro hok
        simpa [hok] using hrefused
      rw [Transcript.settle_eq_result hflush]
      exact ⟨rfl, fun hok hrefuses => absurd ⟨hok, hrefuses⟩ hrefused, fun _ => rfl⟩
  · intro hover
    obtain ⟨before, offset, line, hcross, hwrite⟩ :=
      Transcript.writeAll_of_overruns CallFailure.mk hlimit hheld hover
    rw [← hprinted, Sink.append_take_eq hheld] at hwrite
    rw [Transcript.onto_of_error hwrite]
    exact ⟨rfl, offset, Loaded.overrunsAt_of_crossesAt hcross, rfl⟩

/-- A unit that prints one and twenty-two. -/
def CodeUnit.printingTwo : CodeUnit where
  version := Version.current
  name := "A"
  entry := ⟨"main", 2, 0, Instruction.encodeAll
    [.getStdout, .pushInt 1, .println, .getStdout, .pushInt 22, .println, .ret]⟩
  constants := []

/-- The same unit as an engine holds it. -/
def Loaded.printingTwo : Loaded :=
  ⟨"main", 2, 0, Instruction.placeFrom 0
    [.getStdout, .pushInt 1, .println, .getStdout, .pushInt 22, .println, .ret], []⟩

theorem CodeUnit.load_printingTwo : CodeUnit.printingTwo.load = .ok Loaded.printingTwo :=
  CodeUnit.load_eq_ok_iff.mpr ⟨_, Procedure.check_eq_ok_iff.mpr
    ⟨Instruction.decodeAll_encodeAll _, ⟨0, #[], true⟩, rfl, rfl⟩, rfl⟩

/-- An engine with that unit, whose sink holds two bytes, has a limit and refuses
to be flushed. -/
def Engine.limitedTo (limit : Nat) : Engine :=
  (Engine.new { contents := #[97, 98], limit := some limit, flushFails := true }).add "A"
    Loaded.printingTwo

/-- Six bytes have room for all but the last line feed, and the second line fails.
In seven bytes everything fits, and the return fails. -/
theorem Engine.call_limited_printingTwo :
    Loaded.printingTwo.OverrunsAt 4 26 ∧
    (Engine.limitedTo 6).call ⟨"A", "main"⟩ = (.error ⟨26, .output .full⟩,
      { Engine.limitedTo 6 with sink.contents := #[97, 98, 49, 10, 50, 50] }) ∧
    Loaded.printingTwo.code.getLast? = some (28, .ret) ∧
    (Engine.limitedTo 7).call ⟨"A", "main"⟩ = (.error ⟨28, .output .flushRefused⟩,
      { Engine.limitedTo 7 with sink.contents := #[97, 98, 49, 10, 50, 50, 10] }) := by
  have hfree (limit : Nat) : { Engine.limitedTo limit with sink := {} }.call ⟨"A", "main"⟩ =
      (.ok (), { Engine.limitedTo limit with sink := { contents := #[49, 10, 50, 50, 10] } }) := rfl
  obtain ⟨-, hover⟩ := Engine.call_limited CodeUnit.load_printingTwo
    (show (Engine.limitedTo 6).unit? "A" = _ from rfl) rfl (by decide) (hfree 6)
  obtain ⟨hfits, -⟩ := Engine.call_limited CodeUnit.load_printingTwo
    (show (Engine.limitedTo 7).unit? "A" = _ from rfl) rfl (by decide) (hfree 7)
  obtain ⟨hsink, place, hoverruns, hresult⟩ := hover (by decide)
  obtain ⟨hsink', hrefused, -⟩ := hfits (by decide)
  obtain ⟨place', hlast, hresult'⟩ := hrefused rfl rfl
  cases hresult
  cases hresult'
  exact ⟨hoverruns, Prod.ext rfl hsink, hlast, Prod.ext rfl hsink'⟩

end Printlet
