/-
Printlet.Proofs.History — what holds of an engine after any requests.

A request does two things at most: it takes the unit of an image in, and then
calls a unit. `handle_cases` says so once for all six kinds of request
(`Admits`, `Performs`); no later proof goes through them again. From it come
three steps, each kept up along a history by induction on the requests: a unit
stays as it is (`unit?_after`), the sink only grows (`sink_after`), and a unit
has come in with the image of a request (`cameFrom_of_unit?`).

The main theorem puts them together for histories of a new engine, whatever
succeeds or fails on the way.
-/
import Mathlib.Data.List.Induction
import Printlet.Proofs.Invocation
import Printlet.Proofs.MachineTranscript

namespace Printlet

/-! ## Runs of a loaded unit -/

/-- What a unit would print, and how it would end. -/
def Loaded.transcript (loaded : Loaded) : Transcript Nat CallFailure :=
  Machine.transcript loaded.constants loaded.procedure 0 loaded.code (loaded.machine {})

theorem Loaded.run_eq_onto (loaded : Loaded) (sink : Sink) :
    loaded.run sink = loaded.transcript.onto .mk sink := by
  have hmachine : loaded.machine sink = (loaded.machine {}).withSink sink := rfl
  rw [Loaded.run, Machine.run_eq_onto, hmachine, Machine.transcript_withSink]
  rfl

/-! ## What requests ask for -/

/-- The image that a request brings along. -/
def Request.image? : Request → Option Bytes
  | .install image => some image
  | .isInstalled _ => none
  | .resolve _ _ => none
  | .call _ => none
  | .loadAndInvoke image _ => some image
  | .runSource source names =>
    match compileSource source names with
    | .ok (u, _) => some u.toImage
    | .error _ => none

/-- How the call ended, if loading an image came to one. -/
def invokedOutcome? : Except ExecutionError Unit → Option (Except CallFailure Unit)
  | .ok () => some (.ok ())
  | .error (.call failure) => some (.error failure)
  | .error (.load _) => none

/-- How the call ended, if running a source came to one. -/
def ranOutcome? : Except RunError Unit → Option (Except CallFailure Unit)
  | .ok () => some (.ok ())
  | .error (.execution e) => invokedOutcome? (.error e)
  | .error (.syntaxError _ _) => none
  | .error (.compile _) => none

theorem invokedOutcome?_mapError (outcome : Except CallFailure Unit) :
    invokedOutcome? (outcome.mapError .call) = some outcome := by
  cases outcome <;> rfl

theorem ranOutcome?_mapError (result : Except ExecutionError Unit) :
    ranOutcome? (result.mapError .execution) = invokedOutcome? result := by
  cases result <;> rfl

namespace Engine

/-- The call that a request comes to, if it does: the name of the unit, and how
the call ends. -/
def called? (engine : Engine) : Request → Option (String × Except CallFailure Unit)
  | .install _ => none
  | .isInstalled _ => none
  | .resolve _ _ => none
  | .call entry => some (entry.unit, (engine.call entry).1)
  | .loadAndInvoke image names =>
    (invokedOutcome? (engine.loadAndInvoke image names).1).map fun outcome => (names.unit, outcome)
  | .runSource source names =>
    (ranOutcome? (engine.runSource source names).1).map fun outcome => (names.unit, outcome)

variable {engine engine' : Engine} {image : Bytes} {names : UnitNames} {request : Request}
variable {name : String} {loaded : Loaded}

/-! ## One request -/

/-- The engine takes in the unit of the image that it is offered, or nothing. -/
inductive Admits (engine : Engine) (offer : Option Bytes) : Engine → Prop
  | nothing : Admits engine offer engine
  | unit {image : Bytes} {u : CodeUnit} {loaded : Loaded} (hoffer : offer = some image)
      (hu : CodeUnit.ofImage image = .ok u) (hversion : u.version = Version.current)
      (hfree : engine.unit? u.name = none) (hload : u.load = .ok loaded) :
      Admits engine offer (engine.add u.name loaded)

/-- The engine makes a call that ends as told, or none. -/
inductive Performs (engine : Engine) : Option (String × Except CallFailure Unit) → Engine → Prop
  | nothing : Performs engine none engine
  | run {name : String} {loaded : Loaded} (hunit : engine.unit? name = some loaded) :
      Performs engine (some (name, (loaded.run engine.sink).1))
        { engine with sink := (loaded.run engine.sink).2 }
  | missing {name : String} (hunit : engine.unit? name = none) :
      Performs engine (some (name, .error ⟨0, .notInstalled name⟩)) engine

theorem admits_of_install (h : engine.install image = .ok (name, engine')) :
    engine.Admits (some image) engine' := by
  obtain ⟨u, loaded, hu, hversion, hfree, hload, -, rfl⟩ := install_eq_ok_iff.mp h
  exact .unit rfl hu hversion hfree hload

theorem loadAndInvoke_cases (engine : Engine) (image : Bytes) (names : UnitNames) :
    ∃ admitted, engine.Admits (some image) admitted ∧
      admitted.Performs
        ((invokedOutcome? (engine.loadAndInvoke image names).1).map
          fun outcome => (names.unit, outcome))
        (engine.loadAndInvoke image names).2 := by
  have hinvokes := invokes_loadAndInvoke engine image names
  generalize (engine.loadAndInvoke image names).1 = result at hinvokes
  generalize (engine.loadAndInvoke image names).2 = engine' at hinvokes
  cases hinvokes with
  | refused hinstall => exact ⟨engine, .nothing, .nothing⟩
  | unresolved hinstall hresolve => exact ⟨engine', admits_of_install hinstall, .nothing⟩
  | called hinstall hunit hname =>
    refine ⟨_, admits_of_install hinstall, ?_⟩
    rw [invokedOutcome?_mapError]
    exact .run hunit

/-- **One request.** Whatever is asked of an engine, it takes in the unit of the
image it is offered, or nothing, and then makes a call, or none. -/
theorem handle_cases (engine : Engine) (request : Request) :
    ∃ admitted, engine.Admits request.image? admitted ∧
      admitted.Performs (engine.called? request) (engine.handle request) := by
  cases request with
  | isInstalled name => exact ⟨engine, .nothing, .nothing⟩
  | resolve unit procedure => exact ⟨engine, .nothing, .nothing⟩
  | install image =>
    simp only [handle]
    cases hinstall : engine.install image with
    | error e => exact ⟨engine, .nothing, .nothing⟩
    | ok installed => exact ⟨installed.2, admits_of_install hinstall, .nothing⟩
  | call entry =>
    refine ⟨engine, .nothing, ?_⟩
    simp only [called?, handle]
    cases hunit : engine.unit? entry.unit with
    | none =>
      rw [call_of_missing hunit]
      exact .missing hunit
    | some loaded =>
      rw [call_of_unit? hunit]
      exact .run hunit
  | loadAndInvoke image names => exact loadAndInvoke_cases engine image names
  | runSource source names =>
    simp only [Request.image?, called?, handle]
    cases hcompile : compileSource source names with
    | error e =>
      simp only [runSource, hcompile]
      obtain ⟨cause, -, rfl⟩ | ⟨parsed, cause, -, -, rfl⟩ := compileSource_eq_error_iff.mp hcompile
      · exact ⟨engine, .nothing, .nothing⟩
      · exact ⟨engine, .nothing, .nothing⟩
    | ok result =>
      rw [runSource_of_compile hcompile, ranOutcome?_mapError]
      exact loadAndInvoke_cases engine result.1.toImage names

/-- A call leaves the units alone. -/
theorem Performs.units_eq {call : Option (String × Except CallFailure Unit)}
    (h : engine.Performs call engine') : engine'.units = engine.units := by
  cases h <;> rfl

theorem Performs.unit?_eq {call : Option (String × Except CallFailure Unit)}
    (h : engine.Performs call engine') (name : String) :
    engine'.unit? name = engine.unit? name := by
  rw [unit?, h.units_eq]
  rfl

/-- A call adds to the sink, at its end. -/
theorem Performs.sink_grows {call : Option (String × Except CallFailure Unit)}
    (h : engine.Performs call engine') : ∃ bytes, engine'.sink = engine.sink.append bytes := by
  cases h with
  | nothing => exact ⟨[], (Sink.append_nil _).symm⟩
  | missing hunit => exact ⟨[], (Sink.append_nil _).symm⟩
  | @run name loaded hunit =>
    obtain ⟨bytes, hbytes⟩ := loaded.transcript.onto_grows .mk engine.sink
    rw [← loaded.run_eq_onto] at hbytes
    exact ⟨bytes, hbytes⟩

/-- Taking a unit in does not print. -/
theorem Admits.sink_eq {offer : Option Bytes} (h : engine.Admits offer engine') :
    engine'.sink = engine.sink := by
  cases h <;> rfl

/-- Taking a unit in leaves the others as they are. -/
theorem Admits.unit?_of_some {offer : Option Bytes} (h : engine.Admits offer engine')
    (hunit : engine.unit? name = some loaded) : engine'.unit? name = some loaded := by
  cases h with
  | nothing => exact hunit
  | unit hoffer hu hversion hfree hload => exact unit?_add_of_some _ hfree hunit

/-- A unit that is new has come in with the image on offer. -/
theorem Admits.eq_of_new {offer : Option Bytes} (h : engine.Admits offer engine')
    (hnew : engine.unit? name = none) (hunit : engine'.unit? name = some loaded) :
    ∃ image u, offer = some image ∧ CodeUnit.ofImage image = .ok u ∧ u.name = name ∧
      u.version = Version.current ∧ u.load = .ok loaded := by
  cases h with
  | nothing =>
    rw [hnew] at hunit
    cases hunit
  | @unit image u added hoffer hu hversion hfree hload =>
    by_cases hname : name = u.name
    · subst hname
      rw [unit?_add_self] at hunit
      cases hunit
      exact ⟨image, u, hoffer, hu, rfl, hversion, hload⟩
    · rw [unit?_add_of_ne engine added hname, hnew] at hunit
      cases hunit

theorem unit?_handle (hunit : engine.unit? name = some loaded) (request : Request) :
    (engine.handle request).unit? name = some loaded := by
  obtain ⟨admitted, hadmits, hperforms⟩ := handle_cases engine request
  rw [hperforms.unit?_eq]
  exact hadmits.unit?_of_some hunit

theorem sink_handle (engine : Engine) (request : Request) :
    ∃ bytes, (engine.handle request).sink = engine.sink.append bytes := by
  obtain ⟨admitted, hadmits, hperforms⟩ := handle_cases engine request
  obtain ⟨bytes, hbytes⟩ := hperforms.sink_grows
  rw [hadmits.sink_eq] at hbytes
  exact ⟨bytes, hbytes⟩

/-! ## Histories -/

/-- The engine after requests. -/
def after (engine : Engine) (requests : List Request) : Engine :=
  requests.foldl handle engine

@[simp] theorem after_nil (engine : Engine) : engine.after [] = engine := rfl

@[simp] theorem after_cons (engine : Engine) (request : Request) (rest : List Request) :
    engine.after (request :: rest) = (engine.handle request).after rest := rfl

@[simp] theorem after_append (engine : Engine) (before later : List Request) :
    engine.after (before ++ later) = (engine.after before).after later :=
  List.foldl_append

/-- **Units stay.** What is installed under a name is the same after any
requests. -/
theorem unit?_after (hunit : engine.unit? name = some loaded) (requests : List Request) :
    (engine.after requests).unit? name = some loaded := by
  induction requests generalizing engine with
  | nil => exact hunit
  | cons request rest ih => exact ih (unit?_handle hunit request)

theorem isInstalled_after (h : engine.isInstalled name = true) (requests : List Request) :
    (engine.after requests).isInstalled name = true := by
  obtain ⟨loaded, hunit⟩ := Option.isSome_iff_exists.mp h
  rw [isInstalled, unit?_after hunit]
  rfl

theorem resolve_after {procedure : String} {entry : EntryPoint}
    (h : engine.resolve name procedure = .ok entry) (requests : List Request) :
    (engine.after requests).resolve name procedure = .ok entry := by
  obtain ⟨loaded, hunit, hname, hentry⟩ := resolve_eq_ok_iff.mp h
  exact resolve_eq_ok_iff.mpr ⟨loaded, unit?_after hunit requests, hname, hentry⟩

/-- **Sinks grow.** What a sink holds stays at its front after any requests. -/
theorem sink_after (engine : Engine) (requests : List Request) :
    ∃ bytes, (engine.after requests).sink = engine.sink.append bytes := by
  induction requests generalizing engine with
  | nil => exact ⟨[], (Sink.append_nil _).symm⟩
  | cons request rest ih =>
    obtain ⟨first, hfirst⟩ := sink_handle engine request
    obtain ⟨more, hmore⟩ := ih (engine.handle request)
    refine ⟨first ++ more, ?_⟩
    rw [after_cons, hmore, hfirst, Sink.append_append]

/-- In a history a name was first known after a request that brought this image
along. -/
def CameFrom (engine : Engine) (requests : List Request) (name : String) (image : Bytes) : Prop :=
  ∃ before request later, requests = before ++ request :: later ∧
    (engine.after before).isInstalled name = false ∧
    (engine.after (before ++ [request])).isInstalled name = true ∧
    request.image? = some image

theorem CameFrom.append {requests : List Request} (h : engine.CameFrom requests name image)
    (more : List Request) : engine.CameFrom (requests ++ more) name image := by
  obtain ⟨before, request, later, rfl, hbefore, hafter, hoffer⟩ := h
  refine ⟨before, request, later ++ more, ?_, hbefore, hafter, hoffer⟩
  simp

/-- **Units come from images.** What an engine without units holds after
requests is what the check made of the image that the unit came from. -/
theorem cameFrom_of_unit? {sink : Sink} {requests : List Request}
    (h : ((new sink).after requests).unit? name = some loaded) :
    ∃ image u, (new sink).CameFrom requests name image ∧ CodeUnit.ofImage image = .ok u ∧
      u.name = name ∧ u.version = Version.current ∧ u.load = .ok loaded := by
  induction requests using List.reverseRecOn generalizing loaded with
  | nil => cases h
  | append_singleton before request ih =>
    cases hold : ((new sink).after before).unit? name with
    | some older =>
      -- known before this request, so still the same unit
      have hsame := unit?_after hold [request]
      rw [after_append, hsame] at h
      cases h
      obtain ⟨image, u, hfrom, hrest⟩ := ih hold
      exact ⟨image, u, hfrom.append [request], hrest⟩
    | none =>
      have hhandle : (((new sink).after before).handle request).unit? name = some loaded := by
        simpa using h
      obtain ⟨admitted, hadmits, hperforms⟩ := handle_cases ((new sink).after before) request
      rw [hperforms.unit?_eq] at hhandle
      obtain ⟨image, u, hoffer, hrest⟩ := hadmits.eq_of_new hold hhandle
      refine ⟨image, u, ⟨before, request, [], rfl, ?_, ?_, hoffer⟩, hrest⟩
      · rw [isInstalled, hold]
        rfl
      · rw [isInstalled, h]
        rfl

/-- An install that fails leaves the engine as it was. -/
theorem handle_install_of_refuses {e : LoadError} (h : engine.Refuses image e) :
    engine.handle (.install image) = engine := by
  simp only [handle, install_eq_error_iff.mpr h]

/-- **What holds after any requests.** Each unit holds the checked code of the
image that it came from. What is installed, and what names resolve to, is so
after all later requests too. The next install succeeds just if the image
decodes, has the engine's version, a free name and code that passes the check;
if not, the first of the four that fails is reported and nothing changes. And
what later requests do to the sink is to append to it. -/
theorem after_new_keeps (sink : Sink) (requests : List Request) :
    (∀ name loaded, ((new sink).after requests).unit? name = some loaded →
      ∃ image u code, (new sink).CameFrom requests name image ∧
        CodeUnit.ofImage image = .ok u ∧ u.name = name ∧
        u.entry.check u.constants.length = .ok code ∧
        loaded = ⟨u.entry.name, u.entry.maxStack.toNat, u.entry.maxLocals.toNat, code,
          u.constants⟩) ∧
    (∀ later name,
      (∀ loaded, ((new sink).after requests).unit? name = some loaded →
        ((new sink).after (requests ++ later)).unit? name = some loaded) ∧
      (((new sink).after requests).isInstalled name = true →
        ((new sink).after (requests ++ later)).isInstalled name = true) ∧
      ∀ procedure entry, ((new sink).after requests).resolve name procedure = .ok entry →
        ((new sink).after (requests ++ later)).resolve name procedure = .ok entry) ∧
    (∀ image,
      (∀ name engine', ((new sink).after requests).install image = .ok (name, engine') ↔
        ∃ u loaded, CodeUnit.ofImage image = .ok u ∧ u.version = Version.current ∧
          ((new sink).after requests).unit? u.name = none ∧ u.load = .ok loaded ∧
          name = u.name ∧ engine' = ((new sink).after requests).add u.name loaded) ∧
      ∀ e, (((new sink).after requests).install image = .error e ↔
          ((new sink).after requests).Refuses image e) ∧
        (((new sink).after requests).install image = .error e →
          ((new sink).after requests).handle (.install image) = (new sink).after requests)) ∧
    ∀ later, ∃ bytes,
      ((new sink).after (requests ++ later)).sink =
        ((new sink).after requests).sink.append bytes := by
  refine ⟨?_, ?_, ?_, ?_⟩
  · intro name loaded hunit
    obtain ⟨image, u, hfrom, hu, hname, -, hload⟩ := cameFrom_of_unit? hunit
    obtain ⟨code, hcheck, hloaded⟩ := CodeUnit.load_eq_ok_iff.mp hload
    exact ⟨image, u, code, hfrom, hu, hname, hcheck, hloaded⟩
  · intro later name
    rw [after_append]
    exact ⟨fun _ hunit => unit?_after hunit later, fun h => isInstalled_after h later,
      fun _ _ h => resolve_after h later⟩
  · intro image
    refine ⟨fun _ _ => install_eq_ok_iff, fun e => ⟨install_eq_error_iff, ?_⟩⟩
    intro h
    exact handle_install_of_refuses (install_eq_error_iff.mp h)
  · intro later
    rw [after_append]
    exact sink_after _ later

/-- A history of two requests: `A` is installed, and `B` is loaded but `A` asked
for. -/
def twoRequests : List Request :=
  [.install (CodeUnit.printing "A" 1).toImage,
    .loadAndInvoke (CodeUnit.printing "B" 2).toImage ⟨"A", "main"⟩]

theorem after_twoRequests :
    (new {}).after twoRequests =
      ⟨[("B", Loaded.printing 2), ("A", Loaded.printing 1)], { contents := #[49, 10] }⟩ := by
  have hinstall : (new {}).install (CodeUnit.printing "A" 1).toImage = _ :=
    install_printing 1 (by decide +kernel) rfl
  simp only [twoRequests, after_cons, after_nil, handle, hinstall]
  exact congrArg Prod.snd loadAndInvoke_printing

/-- `B` was not run, yet it came in for good, with its own image. -/
theorem after_new_keeps_twoRequests :
    (∃ image u, (new {}).CameFrom twoRequests "B" image ∧ CodeUnit.ofImage image = .ok u ∧
      u.name = "B") ∧
    ∀ later, ((new {}).after (twoRequests ++ later)).unit? "B" = some (Loaded.printing 2) := by
  obtain ⟨hfrom, hlater, -⟩ := after_new_keeps {} twoRequests
  have hunit : ((new {}).after twoRequests).unit? "B" = some (Loaded.printing 2) := by
    rw [after_twoRequests]
    rfl
  obtain ⟨image, u, code, hcame, hu, hname, -⟩ := hfrom "B" _ hunit
  exact ⟨⟨image, u, hcame, hu, hname⟩, fun later => (hlater later "B").1 _ hunit⟩

end Engine

end Printlet
