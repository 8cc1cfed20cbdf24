/-
Printlet.Proofs.EngineSteps — what each operation of an engine does.

One lemma per operation says exactly when it succeeds and which engine it
leaves behind: `load_eq_ok_iff`, `install_eq_ok_iff`, `resolve_eq_ok_iff`,
`call_of_unit?`; and one when and with what it fails: `load_eq_error_iff`,
`install_eq_error_iff`, `resolve_eq_error_iff`, `call_of_missing`. Proofs about
engines go through them and do not unfold an operation. `Loaded.run` is the run
that a call makes; by `run_of_load` it is the run of the unit on its own, so
nothing of the engine but its sink enters. `Engine.Reachable` is what requests,
in any order and with any outcome, can make of a new engine.
-/
import Printlet.Engine.Run
import Printlet.Proofs.CheckSound

namespace Printlet

/-! ## Loading -/

/-- Runs a loaded unit. -/
def Loaded.run (loaded : Loaded) (sink : Sink) : Except CallFailure Unit × Sink :=
  Machine.run loaded.constants loaded.procedure 0 loaded.code (loaded.machine sink)

theorem CodeUnit.load_eq_ok_iff {u : CodeUnit} {loaded : Loaded} :
    u.load = .ok loaded ↔ ∃ code, u.entry.check u.constants.length = .ok code ∧
      loaded = ⟨u.entry.name, u.entry.maxStack.toNat, u.entry.maxLocals.toNat, code,
        u.constants⟩ := by
  rw [CodeUnit.load]
  cases u.entry.check u.constants.length with
  | error failure => simp
  | ok code =>
    constructor
    · intro h
      cases h
      exact ⟨code, rfl, rfl⟩
    · rintro ⟨_, hcode, rfl⟩
      cases hcode
      rfl

theorem CodeUnit.load_eq_error_iff {u : CodeUnit} {e : LoadError} :
    u.load = .error e ↔ ∃ failure, u.entry.check u.constants.length = .error failure ∧
      e = .check u.name u.entry.name failure := by
  rw [CodeUnit.load]
  cases u.entry.check u.constants.length with
  | ok code => simp
  | error failure =>
    constructor
    · intro h
      cases h
      exact ⟨failure, rfl, rfl⟩
    · rintro ⟨_, hfailure, rfl⟩
      cases hfailure
      rfl

/-- A loaded unit runs as the unit does on its own. -/
theorem Loaded.run_of_load {u : CodeUnit} {loaded : Loaded} (h : u.load = .ok loaded)
    (sink : Sink) : u.run? sink = some (loaded.run sink) := by
  obtain ⟨code, hcheck, rfl⟩ := CodeUnit.load_eq_ok_iff.mp h
  obtain ⟨hdecode, -⟩ := Procedure.check_eq_ok_iff.mp hcheck
  simp only [CodeUnit.run?, hdecode]
  rfl

/-! ## Engines -/

namespace Engine

variable {engine engine' : Engine} {name : String} {loaded : Loaded}

/-- An engine with one more unit. -/
def add (engine : Engine) (name : String) (loaded : Loaded) : Engine :=
  { engine with units := (name, loaded) :: engine.units }

@[simp] theorem unit?_add_self (engine : Engine) (name : String) (loaded : Loaded) :
    (engine.add name loaded).unit? name = some loaded := by
  simp [add, unit?]

theorem unit?_add_of_ne {other : String} (engine : Engine) (loaded : Loaded) (h : other ≠ name) :
    (engine.add name loaded).unit? other = engine.unit? other := by
  have hne : (other == name) = false := by simpa using h
  rw [unit?, add, List.lookup_cons, hne]
  rfl

/-- A new unit under a free name leaves the others as they are. -/
theorem unit?_add_of_some {other : String} {older : Loaded} (loaded : Loaded)
    (hfree : engine.unit? name = none) (h : engine.unit? other = some older) :
    (engine.add name loaded).unit? other = some older := by
  have hne : other ≠ name := by
    rintro rfl
    rw [hfree] at h
    cases h
  rw [unit?_add_of_ne engine loaded hne]
  exact h

/-- The image decodes, has the engine's version, its name is free and its code
passes the check. -/
theorem install_eq_ok_iff {image : Bytes} :
    engine.install image = .ok (name, engine') ↔
      ∃ u loaded, CodeUnit.ofImage image = .ok u ∧ u.version = Version.current ∧
        engine.unit? u.name = none ∧ u.load = .ok loaded ∧ name = u.name ∧
        engine' = engine.add u.name loaded := by
  rw [install]
  cases CodeUnit.ofImage image with
  | error e => simp
  | ok u =>
    dsimp only
    by_cases hversion : u.version = Version.current
    · rw [if_neg (not_not_intro hversion)]
      cases hunit : engine.unit? u.name with
      | some other => simp [isInstalled, hunit]
      | none =>
        rw [isInstalled, hunit, if_neg (by simp)]
        cases hload : u.load with
        | error e => simp [hload]
        | ok loaded =>
          constructor
          · intro h
            cases h
            exact ⟨u, loaded, rfl, hversion, hunit, hload, rfl, rfl⟩
          · rintro ⟨v, other, hv, -, -, hother, rfl, rfl⟩
            cases hv
            rw [hload] at hother
            cases hother
            rfl
    · rw [if_pos hversion]
      simp [hversion]

/-- Why an image is not installed: the first of the four checks that fails. -/
inductive Refuses (engine : Engine) (image : Bytes) : LoadError → Prop
  | image {cause : ImageError} (h : CodeUnit.ofImage image = .error cause) :
      Refuses engine image (.image cause)
  | version {u : CodeUnit} (hu : CodeUnit.ofImage image = .ok u)
      (h : u.version ≠ Version.current) :
      Refuses engine image (.versionMismatch u.version Version.current)
  | taken {u : CodeUnit} (hu : CodeUnit.ofImage image = .ok u)
      (hversion : u.version = Version.current) (h : engine.isInstalled u.name = true) :
      Refuses engine image (.duplicateUnit u.name)
  | check {u : CodeUnit} {failure : CheckFailure} (hu : CodeUnit.ofImage image = .ok u)
      (hversion : u.version = Version.current) (hfree : engine.isInstalled u.name = false)
      (h : u.entry.check u.constants.length = .error failure) :
      Refuses engine image (.check u.name u.entry.name failure)

theorem install_eq_error_iff {image : Bytes} {e : LoadError} :
    engine.install image = .error e ↔ engine.Refuses image e := by
  constructor
  · intro h
    rw [install] at h
    cases hu : CodeUnit.ofImage image with
    | error cause =>
      rw [hu] at h
      cases h
      exact .image hu
    | ok u =>
      simp only [hu] at h
      by_cases hversion : u.version = Version.current
      · rw [if_neg (not_not_intro hversion)] at h
        cases htaken : engine.isInstalled u.name with
        | true =>
          rw [htaken, if_pos rfl] at h
          cases h
          exact .taken hu hversion htaken
        | false =>
          rw [htaken, if_neg (by simp)] at h
          cases hload : u.load with
          | ok loaded => rw [hload] at h; cases h
          | error e' =>
            rw [hload] at h
            cases h
            obtain ⟨failure, hcheck, rfl⟩ := CodeUnit.load_eq_error_iff.mp hload
            exact .check hu hversion htaken hcheck
      · rw [if_pos hversion] at h
        cases h
        exact .version hu hversion
  · intro h
    cases h with
    | image hcause => simp only [install, hcause]
    | version hu hversion => simp only [install, hu, if_pos hversion]
    | taken hu hversion htaken =>
      simp only [install, hu, if_neg (not_not_intro hversion), if_pos htaken]
    | check hu hversion hfree hcheck =>
      have hload := CodeUnit.load_eq_error_iff.mpr ⟨_, hcheck, rfl⟩
      simp only [install, hu, if_neg (not_not_intro hversion), hfree, hload]
      rfl

theorem resolve_eq_ok_iff {unit procedure : String} {entry : EntryPoint} :
    engine.resolve unit procedure = .ok entry ↔
      ∃ loaded, engine.unit? unit = some loaded ∧ loaded.procedure = procedure ∧
        entry = ⟨unit, procedure⟩ := by
  rw [resolve]
  cases engine.unit? unit with
  | none => simp
  | some loaded =>
    dsimp only
    by_cases hname : loaded.procedure = procedure
    · rw [if_pos hname]
      constructor
      · intro h
        cases h
        exact ⟨loaded, rfl, hname, rfl⟩
      · rintro ⟨_, _, _, rfl⟩
        rfl
    · rw [if_neg hname]
      simp [hname]

theorem resolve_eq_error_iff {unit procedure : String} {e : LoadError} :
    engine.resolve unit procedure = .error e ↔
      (engine.unit? unit = none ∧ e = .unknownUnit unit) ∨
      ∃ loaded, engine.unit? unit = some loaded ∧ loaded.procedure ≠ procedure ∧
        e = .unknownProcedure unit procedure := by
  rw [resolve]
  cases engine.unit? unit with
  | none =>
    constructor
    · intro h
      cases h
      exact .inl ⟨rfl, rfl⟩
    · rintro (⟨-, rfl⟩ | ⟨_, hsome, -⟩)
      · rfl
      · cases hsome
  | some loaded =>
    dsimp only
    by_cases hname : loaded.procedure = procedure
    · rw [if_pos hname]
      simp [hname]
    · rw [if_neg hname]
      constructor
      · intro h
        cases h
        exact .inr ⟨loaded, rfl, hname, rfl⟩
      · rintro (⟨hnone, -⟩ | ⟨_, -, -, rfl⟩)
        · cases hnone
        · rfl

/-- A call runs the unit of that name and changes nothing but the sink. -/
theorem call_of_unit? {entry : EntryPoint} (h : engine.unit? entry.unit = some loaded) :
    engine.call entry =
      ((loaded.run engine.sink).1, { engine with sink := (loaded.run engine.sink).2 }) := by
  rw [call, h]
  rfl

/-- A call of a unit that is not there changes nothing. -/
theorem call_of_missing {entry : EntryPoint} (h : engine.unit? entry.unit = none) :
    engine.call entry = (.error ⟨0, .notInstalled entry.unit⟩, engine) := by
  rw [call, h]

end Engine

/-! ## Sources -/

/-- A source is not compiled because it cannot be read, or because what is read
cannot be compiled. -/
theorem compileSource_eq_error_iff {source : String} {names : UnitNames} {e : RunError} :
    compileSource source names = .error e ↔
      (∃ cause, Program.parse source = .error cause ∧ e = .syntaxError source cause) ∨
      ∃ parsed cause, Program.parse source = .ok parsed ∧
        parsed.program.compile names = .error cause ∧ e = .compile cause := by
  rw [compileSource]
  cases Program.parse source with
  | error cause =>
    constructor
    · intro h
      cases h
      exact .inl ⟨cause, rfl, rfl⟩
    · rintro (⟨_, hcause, rfl⟩ | ⟨_, _, hparsed, -⟩)
      · cases hcause
        rfl
      · cases hparsed
  | ok parsed =>
    dsimp only
    cases hcompile : parsed.program.compile names with
    | error cause =>
      constructor
      · intro h
        cases h
        exact .inr ⟨parsed, cause, rfl, hcompile, rfl⟩
      · rintro (⟨_, hcause, -⟩ | ⟨_, _, hparsed, hcause, rfl⟩)
        · cases hcause
        · cases hparsed
          rw [hcompile] at hcause
          cases hcause
          rfl
    | ok result =>
      refine ⟨fun h => (by cases h), ?_⟩
      rintro (⟨_, hcause, -⟩ | ⟨_, _, hparsed, hcause, -⟩)
      · cases hcause
      · cases hparsed
        rw [hcompile] at hcause
        cases hcause

theorem compileSource_eq_ok_iff {source : String} {names : UnitNames}
    {result : CodeUnit × Origins} :
    compileSource source names = .ok result ↔
      ∃ parsed, Program.parse source = .ok parsed ∧
        parsed.program.compile names = .ok result := by
  rw [compileSource]
  cases Program.parse source with
  | error cause => simp
  | ok parsed =>
    simp only [Except.ok.injEq, exists_eq_left']
    cases parsed.program.compile names <;> simp

/-- A source that compiles is run by loading its image. -/
theorem Engine.runSource_of_compile {engine : Engine} {source : String} {names : UnitNames}
    {u : CodeUnit} {origins : Origins} (h : compileSource source names = .ok (u, origins)) :
    engine.runSource source names =
      ((engine.loadAndInvoke u.toImage names).1.mapError .execution,
        (engine.loadAndInvoke u.toImage names).2) := by
  simp only [Engine.runSource, h]
  rcases engine.loadAndInvoke u.toImage names with ⟨result, engine'⟩
  cases result <;> rfl

/-! ## Histories -/

/-- What can be asked of an engine. -/
inductive Request where
  | install (image : Bytes)
  | isInstalled (name : String)
  | resolve (unit procedure : String)
  | call (entry : EntryPoint)
  | loadAndInvoke (image : Bytes) (names : UnitNames)
  | runSource (source : String) (names : UnitNames)

/-- The engine after a request, whether or not it succeeds. -/
def Engine.handle (engine : Engine) : Request → Engine
  | .install image =>
    match engine.install image with
    | .ok (_, engine) => engine
    | .error _ => engine
  | .isInstalled _ => engine
  | .resolve _ _ => engine
  | .call entry => (engine.call entry).2
  | .loadAndInvoke image names => (engine.loadAndInvoke image names).2
  | .runSource source names => (engine.runSource source names).2

/-- An engine that a new one can become. -/
def Engine.Reachable (engine : Engine) : Prop :=
  ∃ sink requests, engine = List.foldl Engine.handle (Engine.new sink) requests

end Printlet
