/-
Printlet.Proofs.LoadFailure — what a failed loading leaves behind.

Loading an image takes two steps that can fail: the image is installed, then
the procedure is looked up under the given names. A complaint about the image
comes from the first step and finds the engine as it was. A complaint about the
names (`LoadError.AboutNames`) comes after the first step has succeeded, and an
engine never gives a unit up again: so not every failure leaves the engine as
it was (`loadAndInvoke_load_error_not_atomic`). What does hold is
`loadAndInvoke_load_error`: nothing is printed, no older unit changes, and what
is new is the image's own unit or nothing.
-/
import Printlet.Proofs.Invocation

namespace Printlet

/-- Complaints about the names under which a procedure was asked for. All
others are about the image. -/
def LoadError.AboutNames : LoadError → Prop
  | .unknownUnit _ => True
  | .unknownProcedure _ _ => True
  | .image _ => False
  | .versionMismatch _ _ => False
  | .duplicateUnit _ => False
  | .check _ _ _ => False

namespace Engine

variable {engine engine' : Engine} {image : Bytes} {names : UnitNames} {e : LoadError}

/-! ## The two steps -/

theorem Refuses.not_aboutNames (h : engine.Refuses image e) : ¬ e.AboutNames := by
  intro habout
  cases h <;> exact habout

theorem aboutNames_of_resolve {unit procedure : String}
    (h : engine.resolve unit procedure = .error e) : e.AboutNames := by
  obtain ⟨-, rfl⟩ | ⟨loaded, -, -, rfl⟩ := resolve_eq_error_iff.mp h
  · trivial
  · trivial

theorem loadAndInvoke_of_refuses (h : engine.Refuses image e) (names : UnitNames) :
    engine.loadAndInvoke image names = (.error (.load e), engine) := by
  simp only [loadAndInvoke, install_eq_error_iff.mpr h]

/-- Once its unit is installed an image is refused for its name. -/
theorem refuses_of_unit? {u : CodeUnit} {loaded : Loaded} (hu : CodeUnit.ofImage image = .ok u)
    (hversion : u.version = Version.current) (h : engine.unit? u.name = some loaded) :
    engine.Refuses image (.duplicateUnit u.name) := by
  refine .taken hu hversion ?_
  rw [isInstalled, h]
  rfl

/-- A call ends well or with a failure of its own. -/
theorem mapError_call_ne_load (outcome : Except CallFailure Unit) (e : LoadError) :
    outcome.mapError ExecutionError.call ≠ .error (.load e) := by
  intro h
  cases outcome <;> cases h

/-! ## A procedure under a wrong name -/

/-- Loading a unit `A` that has a procedure `main` and asking for `start`. -/
theorem loadAndInvoke_wrong_entry :
    (Engine.new {}).loadAndInvoke (CodeUnit.printing "A" 1).toImage ⟨"A", "start"⟩ =
      (.error (.load (.unknownProcedure "A" "start")),
        (Engine.new {}).add "A" (Loaded.printing 1)) := by
  have hinstall : (Engine.new {}).install (CodeUnit.printing "A" 1).toImage = _ :=
    Engine.install_printing 1 (by decide +kernel) rfl
  have hresolve : ((Engine.new {}).add "A" (Loaded.printing 1)).resolve "A" "start" =
      .error (.unknownProcedure "A" "start") := by
    refine resolve_eq_error_iff.mpr (.inr ⟨_, unit?_add_self .., ?_, rfl⟩)
    decide
  simp only [loadAndInvoke, hinstall, hresolve]

/-- A failure to load does not always leave the engine as it was: a new engine
has a unit more after the request above. -/
theorem loadAndInvoke_load_error_not_atomic :
    ¬ ∀ (engine engine' : Engine) (image : Bytes) (names : UnitNames) (e : LoadError),
      engine.Reachable → engine.loadAndInvoke image names = (.error (.load e), engine') →
      (∀ name, engine'.unit? name = engine.unit? name) ∧ engine'.sink = engine.sink := by
  intro h
  have hnew : (Engine.new {}).Reachable := ⟨{}, [], rfl⟩
  obtain ⟨hunits, -⟩ := h _ _ _ _ _ hnew loadAndInvoke_wrong_entry
  have hunit := hunits "A"
  rw [unit?_add_self] at hunit
  cases hunit

/-! ## What holds of every failure -/

/-- **What a failed loading leaves behind.** The sink and all units that were
installed are as before. After a complaint about the image the engine is as
before altogether. After a complaint about the names it holds the image's own
unit in addition, and for that reason refuses the image from then on, under
whatever names it is to be run. -/
theorem loadAndInvoke_load_error
    (h : engine.loadAndInvoke image names = (.error (.load e), engine')) :
    engine'.sink = engine.sink ∧
    (∀ name loaded, engine.unit? name = some loaded → engine'.unit? name = some loaded) ∧
    (¬ e.AboutNames → engine' = engine) ∧
    (e.AboutNames → ∃ u loaded, CodeUnit.ofImage image = .ok u ∧ u.load = .ok loaded ∧
      engine.unit? u.name = none ∧ engine' = engine.add u.name loaded ∧
      ∀ names', engine'.loadAndInvoke image names' =
        (.error (.load (.duplicateUnit u.name)), engine')) := by
  generalize hresult : (.error (.load e) : Except ExecutionError Unit) = result at h
  cases invokes_of_loadAndInvoke h with
  | refused hinstall =>
    cases hresult
    have hrefuses := install_eq_error_iff.mp hinstall
    exact ⟨rfl, fun _ _ hunit => hunit, fun _ => rfl,
      fun habout => absurd habout hrefuses.not_aboutNames⟩
  | unresolved hinstall hresolve =>
    cases hresult
    have habout := aboutNames_of_resolve hresolve
    obtain ⟨u, loaded, hu, hversion, hfree, hload, -, rfl⟩ := install_eq_ok_iff.mp hinstall
    have hagain := refuses_of_unit? hu hversion (unit?_add_self engine u.name loaded)
    exact ⟨rfl, fun _ _ hunit => unit?_add_of_some loaded hfree hunit,
      fun hnot => absurd habout hnot,
      fun _ => ⟨u, loaded, hu, hload, hfree, rfl, loadAndInvoke_of_refuses hagain⟩⟩
  | called hinstall hunit hname =>
    exact absurd hresult.symm (mapError_call_ne_load _ e)

/-- After the wrong name the right one comes too late: `A` is installed. -/
theorem loadAndInvoke_load_error_retried :
    (LoadError.unknownProcedure "A" "start").AboutNames ∧
      ((Engine.new {}).add "A" (Loaded.printing 1)).loadAndInvoke
        (CodeUnit.printing "A" 1).toImage ⟨"A", "main"⟩ =
        (.error (.load (.duplicateUnit "A")), (Engine.new {}).add "A" (Loaded.printing 1)) := by
  obtain ⟨-, -, -, hnames⟩ := loadAndInvoke_load_error loadAndInvoke_wrong_entry
  obtain ⟨u, loaded, hu, -, -, -, hagain⟩ := hnames trivial
  rw [CodeUnit.ofImage_toImage (CodeUnit.sized_printing 1 (by decide +kernel))] at hu
  cases hu
  exact ⟨trivial, hagain ⟨"A", "main"⟩⟩

end Engine

end Printlet
