/-
Printlet.Proofs.Invocation — which procedure loading an image runs.

`Engine.loadAndInvoke` installs an image and then runs the procedure with the
given names. The two are tied together by names only: if the image holds a
unit of another name, the procedure is that of a unit that was there before.
So an image does not always run (`loadAndInvoke_not_own`), and what is run is
told by comparing the two names (`loadAndInvoke_runs`): the image's own
procedure if they agree, and the older unit's if not.
-/
import Printlet.Proofs.EngineSteps
import Printlet.Proofs.ImageRoundTrip

namespace Printlet

namespace Engine

variable {engine engine' : Engine} {image : Bytes} {names : UnitNames} {loaded : Loaded}
variable {result : Except ExecutionError Unit}

/-! ## Getting as far as a call -/

/-- The image is installed and the procedure is found. -/
theorem loadAndInvoke_of_unit? {name : String} (hinstall : engine.install image = .ok (name, engine'))
    (hunit : engine'.unit? names.unit = some loaded) (hname : loaded.procedure = names.entry) :
    engine.loadAndInvoke image names =
      ((loaded.run engine'.sink).1.mapError .call,
        { engine' with sink := (loaded.run engine'.sink).2 }) := by
  have hresolve := resolve_eq_ok_iff.mpr ⟨loaded, hunit, hname, rfl⟩
  have hcall : engine'.call ⟨names.unit, names.entry⟩ = _ := call_of_unit? hunit
  simp only [loadAndInvoke, hinstall, hresolve, hcall]
  cases (loaded.run engine'.sink).1 <;> rfl

/-- What loading an image under given names can come to: the image is refused,
the procedure is not found, or it is run. -/
inductive Invokes (engine : Engine) (image : Bytes) (names : UnitNames) :
    Except ExecutionError Unit → Engine → Prop
  | refused {e : LoadError} (hinstall : engine.install image = .error e) :
      Invokes engine image names (.error (.load e)) engine
  | unresolved {name : String} {installed : Engine} {e : LoadError}
      (hinstall : engine.install image = .ok (name, installed))
      (hresolve : installed.resolve names.unit names.entry = .error e) :
      Invokes engine image names (.error (.load e)) installed
  | called {name : String} {installed : Engine} {loaded : Loaded}
      (hinstall : engine.install image = .ok (name, installed))
      (hunit : installed.unit? names.unit = some loaded)
      (hname : loaded.procedure = names.entry) :
      Invokes engine image names ((loaded.run installed.sink).1.mapError .call)
        { installed with sink := (loaded.run installed.sink).2 }

/-- There is no fourth way. -/
theorem invokes_loadAndInvoke (engine : Engine) (image : Bytes) (names : UnitNames) :
    engine.Invokes image names (engine.loadAndInvoke image names).1
      (engine.loadAndInvoke image names).2 := by
  cases hinstall : engine.install image with
  | error e =>
    simp only [loadAndInvoke, hinstall]
    exact .refused hinstall
  | ok installed =>
    obtain ⟨name, installed⟩ := installed
    cases hresolve : installed.resolve names.unit names.entry with
    | error e =>
      simp only [loadAndInvoke, hinstall, hresolve]
      exact .unresolved hinstall hresolve
    | ok entry =>
      obtain ⟨loaded, hunit, hname, -⟩ := resolve_eq_ok_iff.mp hresolve
      rw [loadAndInvoke_of_unit? hinstall hunit hname]
      exact .called hinstall hunit hname

theorem invokes_of_loadAndInvoke (h : engine.loadAndInvoke image names = (result, engine')) :
    engine.Invokes image names result engine' := by
  have hinvokes := invokes_loadAndInvoke engine image names
  rwa [h] at hinvokes

/-- Only a procedure that was found is called. -/
theorem unit?_of_loadAndInvoke (h : engine.loadAndInvoke image names = (result, engine'))
    (hcall : ∀ e, result ≠ .error (.load e)) :
    ∃ name installed loaded, engine.install image = .ok (name, installed) ∧
      installed.unit? names.unit = some loaded ∧ loaded.procedure = names.entry := by
  cases invokes_of_loadAndInvoke h with
  | refused hinstall => exact absurd rfl (hcall _)
  | unresolved hinstall hresolve => exact absurd rfl (hcall _)
  | called hinstall hunit hname => exact ⟨_, _, _, hinstall, hunit, hname⟩

end Engine

/-! ## Two units -/

/-- A unit that prints a number. -/
def CodeUnit.printing (name : String) (value : Int64) : CodeUnit where
  version := Version.current
  name := name
  entry := ⟨"main", 2, 0, Instruction.encodeAll [.getStdout, .pushInt value, .println, .ret]⟩
  constants := []

/-- The unit that prints a number, as an engine holds it. -/
def Loaded.printing (value : Int64) : Loaded :=
  ⟨"main", 2, 0, Instruction.placeFrom 0 [.getStdout, .pushInt value, .println, .ret], []⟩

theorem CodeUnit.load_printing (name : String) (value : Int64) :
    (CodeUnit.printing name value).load = .ok (Loaded.printing value) :=
  CodeUnit.load_eq_ok_iff.mpr ⟨_, Procedure.check_eq_ok_iff.mpr
    ⟨Instruction.decodeAll_encodeAll _, ⟨0, #[], true⟩, rfl, rfl⟩, rfl⟩

theorem CodeUnit.sized_printing {name : String} (value : Int64)
    (hname : (Bytes.ofText name).length < 2 ^ 64) : (CodeUnit.printing name value).Sized where
  name := hname
  entry := show (Bytes.ofText "main").length < 2 ^ 64 by decide +kernel
  text := by
    rw [CodeUnit.printing, Instruction.length_encodeAll]
    simp [Instruction.sizeAll, Instruction.size]
  count := Nat.two_pow_pos 64
  constants := by simp [CodeUnit.printing]

theorem Engine.install_printing {engine : Engine} {name : String} (value : Int64)
    (hname : (Bytes.ofText name).length < 2 ^ 64) (hfree : engine.unit? name = none) :
    engine.install (CodeUnit.printing name value).toImage =
      .ok (name, engine.add name (Loaded.printing value)) :=
  Engine.install_eq_ok_iff.mpr ⟨_, _,
    CodeUnit.ofImage_toImage (CodeUnit.sized_printing value hname), rfl, hfree,
    CodeUnit.load_printing name value, rfl, rfl⟩

/-- An engine that holds a unit `A`, which prints one. -/
def Engine.holdingOne : Engine :=
  (Engine.new {}).add "A" (Loaded.printing 1)

theorem Engine.reachable_holdingOne : Engine.holdingOne.Reachable := by
  refine ⟨{}, [.install (CodeUnit.printing "A" 1).toImage], ?_⟩
  have hinstall : (Engine.new {}).install (CodeUnit.printing "A" 1).toImage = _ :=
    Engine.install_printing 1 (by decide +kernel) rfl
  simp only [List.foldl, Engine.handle, hinstall]
  rfl

/-- Loading the image of a unit `B` under the name `A` runs `A`. -/
theorem Engine.loadAndInvoke_printing :
    Engine.holdingOne.loadAndInvoke (CodeUnit.printing "B" 2).toImage ⟨"A", "main"⟩ =
      (.ok (), ⟨[("B", Loaded.printing 2), ("A", Loaded.printing 1)],
        { contents := #[49, 10] }⟩) := by
  have hinstall : Engine.holdingOne.install (CodeUnit.printing "B" 2).toImage = _ :=
    Engine.install_printing 2 (by decide +kernel) rfl
  have hunit : (Engine.holdingOne.add "B" (Loaded.printing 2)).unit?
      (UnitNames.mk "A" "main").unit = some (Loaded.printing 1) := rfl
  rw [Engine.loadAndInvoke_of_unit? hinstall hunit rfl]
  rfl

/-- Loading an image does not always run its own procedure: requests lead to the
engine above, and there `B` would have printed two. -/
theorem Engine.loadAndInvoke_not_own :
    ¬ ∀ (engine engine' : Engine) (image : Bytes) (names : UnitNames) (u : CodeUnit)
        (result : Except ExecutionError Unit),
      engine.Reachable → CodeUnit.ofImage image = .ok u →
      engine.loadAndInvoke image names = (result, engine') →
      (∀ e, result ≠ .error (.load e)) →
      ∃ outcome, result = outcome.mapError .call ∧
        u.run? engine.sink = some (outcome, engine'.sink) := by
  intro h
  obtain ⟨outcome, -, hrun⟩ := h _ _ _ _ _ _ Engine.reachable_holdingOne
    (CodeUnit.ofImage_toImage (CodeUnit.sized_printing 2 (by decide +kernel)))
    Engine.loadAndInvoke_printing (by simp)
  rw [Loaded.run_of_load (CodeUnit.load_printing "B" 2)] at hrun
  have hcontents : ((Loaded.printing 2).run {}).2.contents = #[49, 10] :=
    congrArg (fun run => run.2.contents) (Option.some.inj hrun)
  exact absurd hcontents (by decide +kernel)

section Runs

variable {engine engine' : Engine} {image : Bytes} {names : UnitNames}
variable {result : Except ExecutionError Unit}

/-- **What is run.** An image that gets as far as a call runs its own procedure if
its unit has the name asked for. If not, the unit of that name was installed
before, and its procedure is run instead. -/
theorem Engine.loadAndInvoke_runs {u : CodeUnit} (hu : CodeUnit.ofImage image = .ok u)
    (h : engine.loadAndInvoke image names = (result, engine'))
    (hcall : ∀ e, result ≠ .error (.load e)) :
    ∃ outcome, result = outcome.mapError .call ∧
      (u.name = names.unit → u.run? engine.sink = some (outcome, engine'.sink)) ∧
      (u.name ≠ names.unit → ∃ older, engine.unit? names.unit = some older ∧
        older.procedure = names.entry ∧ older.run engine.sink = (outcome, engine'.sink)) := by
  obtain ⟨name, installed, loaded, hinstall, hunit, hname⟩ :=
    Engine.unit?_of_loadAndInvoke h hcall
  rw [Engine.loadAndInvoke_of_unit? hinstall hunit hname] at h
  cases h
  obtain ⟨v, own, hv, -, -, hload, -, rfl⟩ := Engine.install_eq_ok_iff.mp hinstall
  rw [hu] at hv
  cases hv
  refine ⟨(loaded.run engine.sink).1, rfl, ?_, ?_⟩
  · intro hsame
    rw [← hsame, Engine.unit?_add_self] at hunit
    cases hunit
    exact Loaded.run_of_load hload engine.sink
  · intro hother
    rw [Engine.unit?_add_of_ne _ _ (Ne.symm hother)] at hunit
    exact ⟨loaded, hunit, hname, rfl⟩

end Runs

theorem Engine.loadAndInvoke_runs_older :
    ∃ u, CodeUnit.ofImage (CodeUnit.printing "B" 2).toImage = .ok u ∧ u.name ≠ "A" ∧
      ∃ older, Engine.holdingOne.unit? "A" = some older ∧ older.procedure = "main" ∧
        older.run {} = (.ok (), { contents := #[49, 10] }) := by
  have hu : CodeUnit.ofImage (CodeUnit.printing "B" 2).toImage = _ :=
    CodeUnit.ofImage_toImage (CodeUnit.sized_printing 2 (by decide +kernel))
  obtain ⟨outcome, hresult, -, holder⟩ :=
    Engine.loadAndInvoke_runs hu Engine.loadAndInvoke_printing (by simp)
  obtain ⟨older, hunit, hname, hrun⟩ := holder (by decide)
  refine ⟨_, hu, by decide, older, hunit, hname, ?_⟩
  cases outcome with
  | ok v => exact hrun
  | error e => cases hresult

end Printlet
