/-
Printlet.Proofs.Appending — more statements at the end.

A program that goes on after `p` starts as `p` does. What the compiler has when it
gets to the end of `p` only grows from there on: code and constants at their ends,
the bounds upwards, so `p` compiles by itself (`Program.compiled_of_append`). A run of
`p` and a run of the longer program execute the same instructions on machines that
differ in their bounds and constants. Both machines stand for the same desk, so one
instruction does the same on both (`Answers.both`), and the runs part at the end of
`p` at the earliest (`runs_part`).

`Program.compile_append`: units and runs of the two programs, side by side.
-/
import Printlet.Proofs.Defects
import Printlet.Proofs.Simulation
import Printlet.Proofs.MachineTranscript

namespace Printlet

/-! ## 1. Compiling -/

section Compiling

variable {names : UnitNames} {p q : List (Statement Nat)} {label label' : Nat}

/-- Compiling the longer program goes through the end of the shorter one. -/
theorem Program.emit_append (label : Nat) {em' : Emission}
    (h : Program.emit ⟨label', p ++ q⟩ = .ok em') :
    ∃ em more, Program.emit ⟨label, p⟩ = .ok em ∧
      Emits em (q.flatMap Statement.moves) more em' := by
  rw [Program.emit_eq_moves, Program.moves, List.flatMap_append, List.foldlM_append] at h
  rw [Program.emit_eq_moves, Program.moves]
  cases hp : (p.flatMap Statement.moves).foldlM Move.emit Emission.empty with
  | error e =>
    rw [hp] at h
    cases h
  | ok em =>
    rw [hp] at h
    obtain ⟨more, hmore⟩ := emits_of_foldlM h
    exact ⟨em, more, rfl, hmore⟩

/-- A program compiles if it does with more statements at its end. The code of the
longer program starts with its code, and the bounds and constants cover it. -/
theorem Program.compiled_of_append (label : Nat) {u' : CodeUnit} {origins' : Origins}
    (h : Program.compile names ⟨label', p ++ q⟩ = .ok (u', origins')) :
    ∃ u origins em code more, Program.compile names ⟨label, p⟩ = .ok (u, origins) ∧
      Program.Compiled ⟨label, p⟩ names u em code ∧
      u'.entry.text = Instruction.encodeAll (code ++ more) ∧
      em.Fits u'.entry.maxStack.toNat u'.entry.maxLocals.toNat u'.constants := by
  obtain ⟨em', whole, hwhole⟩ := Program.compiled_of_compile h
  obtain ⟨em, more, hemit, hmore⟩ := Program.emit_append label hwhole.emit
  obtain ⟨-, hat, -⟩ := Program.emit_ok hemit
  have hfits := hmore.fits hat.scope hwhole.fits
  -- the deepest stack of the longer program is one that a header can hold
  have hdeep : em.assembly.maxDepth ≤ 65535 := by
    have hstack := hfits.stack
    have hlt := u'.entry.maxStack.toNat_lt
    omega
  obtain ⟨⟨u, origins⟩, hcompile⟩ := (Program.compile_of_emit names hemit hat).2 hdeep
  obtain ⟨em₁, code, hcompiled⟩ := Program.compiled_of_compile hcompile
  obtain rfl : em₁ = em := Except.ok.inj (hcompiled.emit.symm.trans hemit)
  have hcode : whole = code ++ more := by
    have hall := hwhole.emits.code_eq
    rw [hmore.code_eq, hcompiled.emits.code_eq] at hall
    simpa [Emission.empty] using hall.symm
  refine ⟨u, origins, em₁, code, more ++ [.ret], hcompile, hcompiled, ?_, hfits⟩
  rw [hwhole.text_eq, hcode, List.append_assoc]

/-- The bounds and constants of a unit are the smallest that cover its program. -/
theorem Program.Compiled.le_of_fits {p : Program Nat} {u : CodeUnit} {em : Emission}
    {code : List Instruction} (h : p.Compiled names u em code) {maxStack maxLocals : UInt16}
    {constants : List String} (hfits : em.Fits maxStack.toNat maxLocals.toNat constants) :
    u.entry.maxStack ≤ maxStack ∧ u.entry.maxLocals ≤ maxLocals ∧ u.constants <+: constants := by
  rw [UInt16.le_iff_toNat_le, UInt16.le_iff_toNat_le, h.maxStack_eq, h.maxLocals_eq,
    h.constants_eq]
  exact ⟨hfits.stack, hfits.locals, hfits.constants⟩

end Compiling

/-! ## 2. Running -/

section Running

variable {constants constants' : List String}
variable {em em' : Emission} {names : List String} {desk : Desk} {m m' : Machine}

/-- Two machines that stand for the same desk and print to the same sink do the same
with an instruction. -/
theorem Answers.both {move : Move Nat} {i : Instruction}
    (h : Answers constants i m em' names move desk)
    (h' : Answers constants' i m' em' names move desk) (hsink : m'.sink = m.sink) :
    (∃ cause n n', Machine.step constants i m = .error cause n ∧
      Machine.step constants' i m' = .error cause n' ∧ n'.sink = n.sink) ∨
    ∃ desk' n n', Machine.step constants i m = .ok .next n ∧
      Machine.step constants' i m' = .ok .next n' ∧ n'.sink = n.sink ∧
      n.maxStack = m.maxStack ∧ n.locals.size = m.locals.size ∧
      n'.maxStack = m'.maxStack ∧ n'.locals.size = m'.locals.size ∧
      Simulates em' names desk' n ∧ Simulates em' names desk' n' := by
  cases h with
  | @next line desk₁ n hperform hstep hsay hmax hsize hsim =>
    cases h' with
    | @next line' desk₂ n' hperform' hstep' hsay' hmax' hsize' hsim' =>
      rw [hperform] at hperform'
      cases hperform'
      rw [hsink, hsay] at hsay'
      exact .inr ⟨desk₁, n, n', hstep, hstep', (Prod.mk.inj hsay').2.symm, hmax, hsize, hmax',
        hsize', hsim, hsim'⟩
    | unwritten hperform' hstep' hsay' =>
      rw [hperform] at hperform'
      cases hperform'
      rw [hsink, hsay] at hsay'
      cases hsay'
    | fault hperform' hstep' hsink' =>
      rw [hperform] at hperform'
      cases hperform'
  | @unwritten line desk₁ e n hperform hstep hsay =>
    cases h' with
    | next hperform' hstep' hsay' =>
      rw [hperform] at hperform'
      cases hperform'
      rw [hsink, hsay] at hsay'
      cases hsay'
    | @unwritten line' desk₂ e' n' hperform' hstep' hsay' =>
      rw [hperform] at hperform'
      cases hperform'
      rw [hsink, hsay] at hsay'
      obtain ⟨herror, hsame⟩ := Prod.mk.inj hsay'
      cases herror
      exact .inl ⟨_, n, n', hstep, hstep', hsame.symm⟩
    | fault hperform' hstep' hsink' =>
      rw [hperform] at hperform'
      cases hperform'
  | @fault cause n hperform hstep hkept =>
    cases h' with
    | next hperform' hstep' hsay' =>
      rw [hperform] at hperform'
      cases hperform'
    | unwritten hperform' hstep' hsay' =>
      rw [hperform] at hperform'
      cases hperform'
    | @fault cause' n' hperform' hstep' hkept' =>
      rw [hperform] at hperform'
      cases hperform'
      exact .inl ⟨cause, n, n', hstep, hstep', by rw [hkept, hkept', hsink]⟩

/-- **Two runs of one row of code.** They fail together, at the same place, or come to
the end of the row together; the sinks are the same throughout. What follows the row
plays no part. -/
theorem runs_part (procedure procedure' : String) {moves : List (Move Nat)} {code : List Instruction}
    (hemits : Emits em moves code em')
    (hfits : em'.Fits m.maxStack m.locals.size constants)
    (hfits' : em'.Fits m'.maxStack m'.locals.size constants')
    (hsim : Simulates em names desk m) (hsim' : Simulates em names desk m')
    (hsink : m'.sink = m.sink) (tail tail' : List Instruction) (last offset : Nat) :
    (∃ failure sink,
      Machine.run constants procedure last (Instruction.placeFrom offset (code ++ tail)) m =
        (.error failure, sink) ∧
      Machine.run constants' procedure' last (Instruction.placeFrom offset (code ++ tail')) m' =
        (.error failure, sink)) ∨
    ∃ last' offset' n n', n'.sink = n.sink ∧
      Machine.run constants procedure last (Instruction.placeFrom offset (code ++ tail)) m =
        Machine.run constants procedure last' (Instruction.placeFrom offset' tail) n ∧
      Machine.run constants' procedure' last (Instruction.placeFrom offset (code ++ tail')) m' =
        Machine.run constants' procedure' last' (Instruction.placeFrom offset' tail') n' := by
  induction hemits generalizing names desk m m' last offset with
  | nil em => exact .inr ⟨last, offset, m, m', hsink, rfl, rfl⟩
  | @cons em em₁ em₂ move moves i code hlow hrest ih =>
    have hlists := hlow.lists hsim.scope
    have hstep := step_simulates hlow (hrest.fits hlists hfits) hsim
    have hstep' := step_simulates hlow (hrest.fits hlists hfits') hsim'
    simp only [List.cons_append, Instruction.placeFrom]
    rcases hstep.both hstep' hsink with ⟨cause, n, n', hn, hn', hsame⟩ |
      ⟨desk₁, n, n', hn, hn', hsame, hmax, hsize, hmax', hsize', hsim₁, hsim₁'⟩
    · refine .inl ⟨⟨offset, cause⟩, n.sink, Machine.run_fault hn, ?_⟩
      rw [Machine.run_fault hn', hsame]
    · rw [Machine.run_next hn, Machine.run_next hn']
      exact ih (by rw [hmax, hsize]; exact hfits) (by rw [hmax', hsize']; exact hfits') hsim₁ hsim₁'
        hsame offset (offset + i.size)

/-- Whatever code is left, a run adds to the sink at its end. -/
theorem Machine.run_grows (constants : List String) (procedure : String) (last : Nat)
    (code : List Placed) (m : Machine) :
    ∃ bytes, (Machine.run constants procedure last code m).2 = m.sink.append bytes := by
  rw [Machine.run_eq_onto]
  exact Transcript.onto_grows CallFailure.mk _ m.sink

/-- The return at the end of the code prints nothing. It fails where the sink refuses
to be flushed and nowhere else. -/
theorem Machine.run_ret (constants : List String) (procedure : String) (last offset : Nat)
    (m : Machine) :
    (Machine.run constants procedure last [(offset, .ret)] m).2 = m.sink ∧
      (m.sink.flushFails = false →
        (Machine.run constants procedure last [(offset, .ret)] m).1 = .ok ()) := by
  simp only [Machine.run, Machine.step_ret]
  cases hflush : m.sink.flush with
  | ok u => exact ⟨rfl, fun _ => rfl⟩
  | error e =>
    refine ⟨rfl, fun hopen => ?_⟩
    simp [Sink.flush, hopen] at hflush

end Running

/-! ## 3. The longer program -/

/-- A unit whose code starts as that of a program, and whose bounds and constants cover
it, prints all that the program prints, and fails where the program fails. -/
theorem Program.Compiled.run?_extended {p : Program Nat} {names : UnitNames} {u u' : CodeUnit}
    {em : Emission} {code more : List Instruction} (h : p.Compiled names u em code)
    (htext : u'.entry.text = Instruction.encodeAll (code ++ more))
    (hfits : em.Fits u'.entry.maxStack.toNat u'.entry.maxLocals.toNat u'.constants)
    (sink : Sink) :
    ∃ result result' out out', u.run? sink = some (result, sink.append out) ∧
      u'.run? sink = some (result', sink.append out') ∧ out <+: out' ∧
      (sink.flushFails = false → ∀ failure, result = .error failure →
        result' = .error failure ∧ out' = out) := by
  let m := Machine.start u.entry.maxStack.toNat u.entry.maxLocals.toNat sink
  let m' := Machine.start u'.entry.maxStack.toNat u'.entry.maxLocals.toNat sink
  let run := Machine.run u.constants u.entry.name 0 (Instruction.placeFrom 0 (code ++ [.ret])) m
  let run' := Machine.run u'.constants u'.entry.name 0 (Instruction.placeFrom 0 (code ++ more)) m'
  have hrun : u.run? sink = some run := CodeUnit.run?_of_text h.text_eq sink
  have hrun' : u'.run? sink = some run' := CodeUnit.run?_of_text htext sink
  obtain ⟨out, hout⟩ : ∃ out, run.2 = sink.append out := Machine.run_grows _ _ _ _ m
  rcases runs_part u.entry.name u'.entry.name h.emits (h.fits.start sink) (hfits.start sink)
    (Simulates.start _ _ sink) (Simulates.start _ _ sink) rfl [.ret] more 0 0 with
    ⟨failure, left, hfails, hfails'⟩ | ⟨last, offset, n, n', hsame, hreach, hreach'⟩
  · -- both runs fail before the end of the program
    have hends : run = (.error failure, left) := hfails
    have hends' : run' = (.error failure, left) := hfails'
    obtain rfl : left = sink.append out := by rw [← hout, hends]
    refine ⟨.error failure, .error failure, out, out, ?_, ?_, List.prefix_refl out, ?_⟩
    · rw [hrun, hends]
    · rw [hrun', hends']
    · intro _ failure' hfailure
      exact ⟨hfailure, rfl⟩
  · -- both get there; what is left of the second run only adds to the sink
    have hends : run = Machine.run u.constants u.entry.name last [(offset, .ret)] n := hreach
    have hends' : run' = Machine.run u'.constants u'.entry.name last
      (Instruction.placeFrom offset more) n' := hreach'
    obtain ⟨hquiet, hreturns⟩ := Machine.run_ret u.constants u.entry.name last offset n
    rw [← hends] at hquiet hreturns
    have hn : n.sink = sink.append out := hquiet.symm.trans hout
    obtain ⟨rest, hrest⟩ := Machine.run_grows u'.constants u'.entry.name last
      (Instruction.placeFrom offset more) n'
    rw [← hends', hsame, hn, Sink.append_append] at hrest
    refine ⟨run.1, run'.1, out, out ++ rest, ?_, ?_, List.prefix_append out rest, ?_⟩
    · rw [hrun, ← hout]
    · rw [hrun', ← hrest]
    · intro hopen failure hfailure
      rw [hreturns (by rw [hn]; exact hopen)] at hfailure
      cases hfailure

/-- **More statements at the end never disturb the earlier ones.** If a program compiles
then so does each row of statements it starts with. The code of the shorter program,
up to its return, starts the code of the longer one, and so do its constants; the
bounds do not decrease. On every sink the longer program prints what the shorter one
does and goes on from there. If the shorter one fails, and not because a flush is
refused at its end, the longer one fails at the same offset, with the same fault and
the same output. -/
theorem Program.compile_append {names : UnitNames} {p q : List (Statement Nat)}
    {label' : Nat} {u' : CodeUnit} {origins' : Origins}
    (h : Program.compile names ⟨label', p ++ q⟩ = .ok (u', origins')) (label : Nat) :
    ∃ u origins, Program.compile names ⟨label, p⟩ = .ok (u, origins) ∧
      (∃ body, u.entry.text = body ++ Instruction.ret.encode ∧ body <+: u'.entry.text) ∧
      u.constants <+: u'.constants ∧
      u.entry.maxStack ≤ u'.entry.maxStack ∧ u.entry.maxLocals ≤ u'.entry.maxLocals ∧
      ∀ sink : Sink, ∃ result result' out out',
        u.run? sink = some (result, sink.append out) ∧
        u'.run? sink = some (result', sink.append out') ∧ out <+: out' ∧
        (sink.flushFails = false → ∀ failure, result = .error failure →
          result' = .error failure ∧ out' = out) := by
  obtain ⟨u, origins, em, code, more, hcompile, hcompiled, htext, hfits⟩ :=
    Program.compiled_of_append label h
  obtain ⟨hstack, hlocals, hconstants⟩ := hcompiled.le_of_fits hfits
  refine ⟨u, origins, hcompile, ⟨Instruction.encodeAll code, ?_, ?_⟩, hconstants, hstack, hlocals,
    hcompiled.run?_extended htext hfits⟩
  · simp [hcompiled.text_eq, Instruction.encodeAll]
  · simp [htext, Instruction.encodeAll]

/-- `print 1 let x = 0 print 7 / x`, which fails after its first line. -/
def Statement.failing : List (Statement Nat) := [
  .print 1 (.mk 2 [.mk 3 [.int 4 1] []] []),
  .bind 5 "x" (.mk 6 [.mk 7 [.int 8 0] []] []),
  .print 9 (.mk 10 [.mk 11 [.int 12 7, .name 13 "x"] [.div]] [])]

/-- `let y = "b" print y + "c"`. -/
def Statement.joining : List (Statement Nat) := [
  .bind 14 "y" (.mk 15 [.mk 16 [.text 17 "\"b\""] []] []),
  .print 18 (.mk 19 [.mk 20 [.name 21 "y"] [], .mk 22 [.text 23 "\"c\""] []] [.add])]

theorem Program.compile_append_failing :
    ∃ u origins u' origins',
      Program.compile {} ⟨0, Statement.failing⟩ = .ok (u, origins) ∧
      Program.compile {} ⟨0, Statement.failing ++ Statement.joining⟩ = .ok (u', origins') ∧
      u.run? {} = some (.error ⟨44, .divisionByZero⟩, { contents := #[49, 10] }) ∧
      u'.run? {} = some (.error ⟨44, .divisionByZero⟩, { contents := #[49, 10] }) := by
  have hlonger : Program.compile {} ⟨0, Statement.failing ++ Statement.joining⟩ = .ok (_, _) := rfl
  have hshorter : Program.compile {} ⟨0, Statement.failing⟩ = .ok (_, _) := rfl
  obtain ⟨u, origins, hcompile, -, -, -, -, hruns⟩ := Program.compile_append hlonger 0
  obtain ⟨result, result', out, out', hrun, hrun', -, hfails⟩ := hruns {}
  obtain ⟨rfl, -⟩ := Prod.mk.inj (Except.ok.inj (hshorter.symm.trans hcompile))
  have hends := hrun.symm.trans (show _ = some (Except.error ⟨44, .divisionByZero⟩,
    ({ contents := #[49, 10] } : Sink)) by decide +kernel)
  obtain ⟨rfl, hout⟩ := Prod.mk.inj (Option.some.inj hends)
  obtain ⟨rfl, rfl⟩ := hfails rfl _ rfl
  rw [hout] at hrun hrun'
  exact ⟨_, _, _, _, hshorter, hlonger, hrun, hrun'⟩

end Printlet
