/-
Printlet.Proofs.RunOutcome — what running a source can come to.

Between the text and the call lie reading, compiling, the image, the check and
the look-up of the procedure. Of these only three can fail for a source: it may
not be readable, it may not compile, and its unit may be installed already.
The others were settled on the way: a unit is read back from its image if it is
small enough, which it is (`compileSource_sized`), and compiled code passes the
check and is found under its names (`Program.Compiled.install_eq`). All three
failures come before anything changes. `runSource_outcome` is the whole of it.
-/
import Printlet.Proofs.LoadFailure
import Printlet.Proofs.Loading
import Printlet.Proofs.SourceSize

namespace Printlet

namespace Engine

variable {engine engine' : Engine} {names : UnitNames} {u : CodeUnit}

/-! ## Compiled units -/

section Compiled

variable {p : Program Nat} {em : Emission} {code : List Instruction}

/-- Where its name is taken a compiled unit is refused for it. -/
theorem loadAndInvoke_of_compiled_taken (h : p.Compiled names u em code) (hsized : u.Sized)
    (htaken : engine.isInstalled names.unit = true) :
    engine.loadAndInvoke u.toImage names =
      (.error (.load (.duplicateUnit names.unit)), engine) := by
  have hname : u.name = names.unit := by rw [h.unit]
  have hversion : u.version = Version.current := by rw [h.unit]
  rw [← hname] at htaken ⊢
  exact loadAndInvoke_of_refuses (.taken (CodeUnit.ofImage_toImage hsized) hversion htaken) names

/-- Where its name is free a compiled unit is installed and run. -/
theorem loadAndInvoke_of_compiled_free (h : p.Compiled names u em code) (hsized : u.Sized)
    (hfree : engine.isInstalled names.unit = false) :
    ∃ loaded, u.load = .ok loaded ∧
      engine.loadAndInvoke u.toImage names =
        ((loaded.run engine.sink).1.mapError .call,
          { engine.add names.unit loaded with sink := (loaded.run engine.sink).2 }) := by
  have hnone : engine.unit? names.unit = none := by simpa [isInstalled] using hfree
  refine ⟨_, h.load_eq, ?_⟩
  exact loadAndInvoke_of_unit? (h.install_eq hsized hnone) (unit?_add_self ..) rfl

end Compiled

/-! ## Sources -/

/-- **What running a source comes to.** Loading fails just if the source compiles
and its unit is installed already, and then for that reason. As a whole: a
source that cannot be read or compiled, and one whose unit is installed, leave
the engine as it was. Any other is run: the engine holds the compiled unit in
addition to what it held, and outcome and sink are those of that unit run on
its own. -/
theorem runSource_outcome {source : String} {result : Except RunError Unit}
    (hsource : (Bytes.ofText source).length < 2 ^ 58)
    (hunit : (Bytes.ofText names.unit).length < 2 ^ 64)
    (hentry : (Bytes.ofText names.entry).length < 2 ^ 64)
    (h : engine.runSource source names = (result, engine')) :
    (∀ e, result = .error (.execution (.load e)) ↔
      (∃ compiled, compileSource source names = .ok compiled) ∧
        engine.isInstalled names.unit = true ∧ e = .duplicateUnit names.unit) ∧
    match compileSource source names with
    | .error e => result = .error e ∧ engine' = engine ∧
      ((∃ cause, Program.parse source = .error cause ∧ e = .syntaxError source cause) ∨
        ∃ parsed cause, Program.parse source = .ok parsed ∧
          parsed.program.compile names = .error cause ∧ e = .compile cause)
    | .ok (u, _) =>
      if engine.isInstalled names.unit then
        result = .error (.execution (.load (.duplicateUnit names.unit))) ∧ engine' = engine
      else
        ∃ loaded outcome, u.load = .ok loaded ∧
          result = outcome.mapError (fun failure => .execution (.call failure)) ∧
          engine'.units = (names.unit, loaded) :: engine.units ∧
          u.run? engine.sink = some (outcome, engine'.sink) := by
  cases hcompile : compileSource source names with
  | error e =>
    simp only [runSource, hcompile] at h
    cases h
    have hcause := compileSource_eq_error_iff.mp hcompile
    refine ⟨fun e' => ?_, rfl, rfl, hcause⟩
    obtain ⟨cause, -, rfl⟩ | ⟨parsed, cause, -, -, rfl⟩ := hcause <;> simp
  | ok compiled =>
    obtain ⟨u, origins⟩ := compiled
    have hsized := compileSource_sized hsource hunit hentry hcompile
    obtain ⟨parsed, -, hprogram⟩ := compileSource_eq_ok_iff.mp hcompile
    obtain ⟨em, code, hcompiled⟩ := Program.compiled_of_compile hprogram
    rw [runSource_of_compile hcompile] at h
    cases htaken : engine.isInstalled names.unit with
    | true =>
      rw [loadAndInvoke_of_compiled_taken hcompiled hsized htaken] at h
      cases h
      refine ⟨fun e => ⟨?_, ?_⟩, rfl, rfl⟩
      · intro hresult
        cases hresult
        exact ⟨⟨_, rfl⟩, rfl, rfl⟩
      · rintro ⟨-, -, rfl⟩
        rfl
    | false =>
      obtain ⟨loaded, hload, hinvoke⟩ := loadAndInvoke_of_compiled_free hcompiled hsized htaken
      rw [hinvoke] at h
      cases h
      refine ⟨fun e => ⟨?_, ?_⟩, loaded, (loaded.run engine.sink).1, hload, ?_, rfl, ?_⟩
      · intro hresult
        cases hrun : (loaded.run engine.sink).1 with
        | ok v => rw [hrun] at hresult; cases hresult
        | error failure => rw [hrun] at hresult; cases hresult
      · rintro ⟨-, hinstalled, -⟩
        exact absurd hinstalled Bool.false_ne_true
      · cases (loaded.run engine.sink).1 <;> rfl
      · exact Loaded.run_of_load hload engine.sink

/-- A source that prints and then divides by zero, in an engine that holds `A`:
its own unit stays although its run fails, and under the name `A` it is not
installed at all. -/
theorem runSource_outcome_division :
    (∃ u origins loaded, ∃ outcome : Except CallFailure Unit,
      compileSource "print 2 print 1 / 0" ⟨"P", "main"⟩ = .ok (u, origins) ∧
      u.load = .ok loaded ∧
      (holdingOne.runSource "print 2 print 1 / 0" ⟨"P", "main"⟩).1 =
        outcome.mapError (fun failure => .execution (.call failure)) ∧
      (holdingOne.runSource "print 2 print 1 / 0" ⟨"P", "main"⟩).2.units =
        [("P", loaded), ("A", Loaded.printing 1)]) ∧
    (holdingOne.runSource "print 2 print 1 / 0" ⟨"A", "main"⟩).1 =
      .error (.execution (.load (.duplicateUnit "A"))) := by
  have hcompiles : ∀ unit ∈ ["P", "A"],
      ∃ compiled, compileSource "print 2 print 1 / 0" ⟨unit, "main"⟩ = .ok compiled := by
    intro unit hunit
    have hok : ∀ unit ∈ ["P", "A"],
        (compileSource "print 2 print 1 / 0" ⟨unit, "main"⟩).isOk = true := by decide +kernel
    specialize hok unit hunit
    cases hcompile : compileSource "print 2 print 1 / 0" ⟨unit, "main"⟩ with
    | ok compiled => exact ⟨compiled, rfl⟩
    | error e => rw [hcompile] at hok; cases hok
  refine ⟨?_, ?_⟩
  · obtain ⟨⟨u, origins⟩, hcompile⟩ := hcompiles "P" (by simp)
    rcases hrun : holdingOne.runSource "print 2 print 1 / 0" ⟨"P", "main"⟩ with ⟨result, engine'⟩
    obtain ⟨-, houtcome⟩ := runSource_outcome (by decide +kernel) (by decide +kernel)
      (by decide +kernel) hrun
    rw [hcompile] at houtcome
    obtain ⟨loaded, outcome, hload, hresult, hunits, -⟩ := houtcome
    exact ⟨u, origins, loaded, outcome, hcompile, hload, hresult, hunits⟩
  · rcases hrun : holdingOne.runSource "print 2 print 1 / 0" ⟨"A", "main"⟩ with ⟨result, engine'⟩
    obtain ⟨hload, -⟩ := runSource_outcome (by decide +kernel) (by decide +kernel)
      (by decide +kernel) hrun
    exact (hload _).mpr ⟨hcompiles "A" (by simp), rfl, rfl⟩

end Engine

end Printlet
