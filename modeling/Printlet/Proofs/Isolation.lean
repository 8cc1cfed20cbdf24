/-
Printlet.Proofs.Isolation — calls do not influence each other.

An engine keeps its units and its sink between calls, and nothing else. Units
stay as their images made them, and a run adds its transcript to a sink that
refuses nothing, whatever that sink holds. So a call comes to the same in any
history as it does in a new engine that has been given the unit's image and
nothing else (`RunsAlone`); and what a history prints is what its calls print,
one after the other (`calls_isolated`).
-/
import Printlet.Proofs.History

namespace Printlet

/-! ## Sinks that refuse nothing -/

/-- There is no limit, and a flush works. -/
def Sink.Open (sink : Sink) : Prop :=
  sink.limit = none ∧ sink.flushFails = false

theorem Sink.Open.append {sink : Sink} (h : sink.Open) (bytes : Bytes) :
    (sink.append bytes).Open := h

theorem Loaded.run_of_open (loaded : Loaded) {sink : Sink} (h : sink.Open) :
    loaded.run sink = (loaded.transcript.result, sink.append loaded.transcript.output) := by
  rw [loaded.run_eq_onto, Transcript.onto_open _ h.1 h.2]

/-! ## Calls -/

/-- A call that was made: of which unit, how it ended and what it wrote. -/
structure Call where
  unit : String
  outcome : Except CallFailure Unit
  written : Bytes

namespace Engine

/-- The call that a request comes to, if it does. -/
def call? (engine : Engine) (request : Request) : Option Call :=
  (engine.called? request).map fun (unit, outcome) =>
    { unit, outcome
      written := (engine.handle request).sink.contents.toList.drop engine.sink.contents.size }

/-- The calls that requests come to, in order. -/
def calls (engine : Engine) : List Request → List Call
  | [] => []
  | request :: rest => (engine.call? request).toList ++ (engine.handle request).calls rest

/-- What a call of a unit comes to in a new engine that holds nothing else. -/
def RunsAlone (unit : String) (image : Bytes) (outcome : Except CallFailure Unit)
    (written : Bytes) : Prop :=
  ∃ procedure entry engine engine', (new {}).install image = .ok (unit, engine) ∧
    engine.resolve unit procedure = .ok entry ∧ engine.call entry = (outcome, engine') ∧
    engine'.sink.contents.toList = written

variable {engine engine' : Engine} {image : Bytes} {request : Request} {call : Call}
variable {loaded : Loaded}

theorem written_of_sink_eq (h : engine.call? request = some call) {bytes : Bytes}
    (hsink : (engine.handle request).sink = engine.sink.append bytes) :
    call.written = bytes := by
  obtain ⟨made, -, rfl⟩ := Option.map_eq_some_iff.mp h
  rw [hsink, Sink.toList_contents_append, ← Array.length_toList, List.drop_left]

theorem performs_of_call? (h : engine.call? request = some call) :
    ∃ admitted, engine.Admits request.image? admitted ∧
      admitted.Performs (some (call.unit, call.outcome)) (engine.handle request) := by
  obtain ⟨made, hmade, rfl⟩ := Option.map_eq_some_iff.mp h
  obtain ⟨admitted, hadmits, hperforms⟩ := handle_cases engine request
  rw [hmade] at hperforms
  exact ⟨admitted, hadmits, hperforms⟩

/-- A call comes to the transcript of its unit, or finds no unit. Nothing else
of the engine enters. -/
theorem call?_cases (hopen : engine.sink.Open) (h : engine.call? request = some call) :
    (∃ loaded, (engine.handle request).unit? call.unit = some loaded ∧
      call.outcome = loaded.transcript.result ∧ call.written = loaded.transcript.output) ∨
    ((engine.handle request).unit? call.unit = none ∧
      call.outcome = .error ⟨0, .notInstalled call.unit⟩ ∧ call.written = []) := by
  obtain ⟨admitted, hadmits, hperforms⟩ := performs_of_call? h
  have hsink := hadmits.sink_eq
  generalize hmade : some (call.unit, call.outcome) = made at hperforms
  generalize hafter : engine.handle request = after at hperforms
  cases hperforms with
  | nothing => cases hmade
  | @run name loaded hunit =>
    obtain ⟨rfl, houtcome⟩ := Prod.mk.inj (Option.some.inj hmade)
    rw [hsink, loaded.run_of_open hopen] at houtcome hafter
    refine .inl ⟨loaded, hunit, houtcome, written_of_sink_eq h ?_⟩
    rw [hafter]
  | missing hunit =>
    obtain ⟨rfl, houtcome⟩ := Prod.mk.inj (Option.some.inj hmade)
    refine .inr ⟨hunit, houtcome, written_of_sink_eq h ?_⟩
    rw [hafter, hsink, Sink.append_nil]

/-- A unit that loads comes to its transcript in an engine of its own. -/
theorem runsAlone_of_load {u : CodeUnit} (hu : CodeUnit.ofImage image = .ok u)
    (hversion : u.version = Version.current) (hload : u.load = .ok loaded) :
    RunsAlone u.name image loaded.transcript.result loaded.transcript.output := by
  have hinstall : (new {}).install image = .ok (u.name, (new {}).add u.name loaded) :=
    install_eq_ok_iff.mpr ⟨u, loaded, hu, hversion, rfl, hload, rfl, rfl⟩
  have hunit := unit?_add_self (new {}) u.name loaded
  have hresolve := resolve_eq_ok_iff.mpr ⟨loaded, hunit, rfl, rfl⟩
  have hcall : ((new {}).add u.name loaded).call ⟨u.name, loaded.procedure⟩ = _ :=
    call_of_unit? hunit
  have hopen : ((new {}).add u.name loaded).sink.Open := ⟨rfl, rfl⟩
  rw [loaded.run_of_open hopen] at hcall
  refine ⟨loaded.procedure, _, _, _, hinstall, hresolve, hcall, ?_⟩
  exact Sink.toList_contents_append {} _

/-! ## What a history prints -/

/-- Only calls write. -/
theorem sink_handle_eq (engine : Engine) (request : Request) :
    (engine.handle request).sink =
      engine.sink.append ((engine.call? request).toList.flatMap Call.written) := by
  cases hcall : engine.call? request with
  | some call =>
    obtain ⟨bytes, hbytes⟩ := sink_handle engine request
    simp [hbytes, written_of_sink_eq hcall hbytes]
  | none =>
    have hnone : engine.called? request = none := Option.map_eq_none_iff.mp hcall
    obtain ⟨admitted, hadmits, hperforms⟩ := handle_cases engine request
    rw [hnone] at hperforms
    generalize engine.handle request = after at hperforms
    cases hperforms
    simp [hadmits.sink_eq]

theorem sink_after_eq (engine : Engine) (requests : List Request) :
    (engine.after requests).sink =
      engine.sink.append ((engine.calls requests).flatMap Call.written) := by
  induction requests generalizing engine with
  | nil => exact (Sink.append_nil _).symm
  | cons request rest ih =>
    rw [after_cons, ih, sink_handle_eq, Sink.append_append, calls, List.flatMap_append]

theorem open_after (hopen : engine.sink.Open) (requests : List Request) :
    (engine.after requests).sink.Open := by
  rw [sink_after_eq]
  exact hopen.append _

/-- **Calls do not influence each other.** Where the sink refuses nothing, a call
of an installed unit ends and prints as in a new engine that holds only the
unit's image, whatever was asked before; a call of any other unit fails and
prints nothing. And all that is printed is what the calls print, in order. -/
theorem calls_isolated {sink : Sink} (hopen : sink.Open) :
    (∀ before request call, ((new sink).after before).call? request = some call →
      (((new sink).after (before ++ [request])).isInstalled call.unit = true →
        ∃ image, (new sink).CameFrom (before ++ [request]) call.unit image ∧
          RunsAlone call.unit image call.outcome call.written) ∧
      (((new sink).after (before ++ [request])).isInstalled call.unit = false →
        call.outcome = .error ⟨0, .notInstalled call.unit⟩ ∧ call.written = [])) ∧
    ∀ requests, ((new sink).after requests).sink.contents.toList =
      sink.contents.toList ++ ((new sink).calls requests).flatMap Call.written := by
  refine ⟨?_, ?_⟩
  · intro before request call hcall
    have hafter : (new sink).after (before ++ [request]) =
        ((new sink).after before).handle request := after_append _ _ _
    have hopen' : ((new sink).after before).sink.Open := open_after hopen before
    rw [isInstalled, hafter]
    obtain ⟨loaded, hunit, houtcome, hwritten⟩ | ⟨hnone, hrest⟩ := call?_cases hopen' hcall
    · rw [hunit]
      refine ⟨fun _ => ?_, fun hfree => absurd hfree.symm Bool.false_ne_true⟩
      rw [← hafter] at hunit
      obtain ⟨image, u, hfrom, hu, hname, hversion, hload⟩ := cameFrom_of_unit? hunit
      refine ⟨image, hfrom, ?_⟩
      rw [← hname, houtcome, hwritten]
      exact runsAlone_of_load hu hversion hload
    · rw [hnone]
      exact ⟨fun hinstalled => absurd hinstalled Bool.false_ne_true, fun _ => hrest⟩
  · intro requests
    rw [sink_after_eq, Sink.toList_contents_append]
    rfl

/-- After `A` has run, `B` prints as it does alone; that the call names a
procedure of some other engine makes no difference. -/
theorem calls_isolated_twoRequests :
    Sink.Open {} ∧ ∃ image,
      (new {}).CameFrom (twoRequests ++ [.call ⟨"B", "start"⟩]) "B" image ∧
      RunsAlone "B" image (.ok ()) [50, 10] := by
  have hopen : Sink.Open {} := ⟨rfl, rfl⟩
  have hcall : ((new {}).after twoRequests).call? (.call ⟨"B", "start"⟩) =
      some ⟨"B", .ok (), [50, 10]⟩ := by
    rw [after_twoRequests]
    rfl
  have hinstalled :
      ((new {}).after (twoRequests ++ [.call ⟨"B", "start"⟩])).isInstalled "B" = true := by
    rw [after_append, after_twoRequests]
    rfl
  obtain ⟨hcalls, -⟩ := calls_isolated hopen
  exact ⟨hopen, (hcalls twoRequests _ _ hcall).1 hinstalled⟩

end Engine

end Printlet
