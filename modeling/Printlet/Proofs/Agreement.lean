/-
Printlet.Proofs.Agreement — the command does what the engine does.

The command reads, compiles and runs a script by steps of its own, since it has to
draw complaints at their places; an engine does the same in one request. The two
agree (`Script.command_agrees`): the script's output and whether it succeeds are
those of the request in a new engine. `Performance.Mirrors` is what agreeing
means, and there is one lemma for each step of the command.

That the command never complains about loading is known from the engine; what has
to be added is that no other complaint reads like one. A drawn complaint starts
with the margin of its drawing, one of the compiler says so, and a failure to load
starts with other words.
-/
import Printlet.Proofs.Blame

namespace Printlet

/-! ## How complaints start -/

namespace Diagnostic

theorem head_frame (n : Nat) (pos : LineCol) (drawn : List String) (message : String) :
    (frame (blanks n) pos drawn message).toList.head? = some ' ' ∨
      (frame (blanks n) pos drawn message).toList.head? = some '-' := by
  simp only [frame, List.cons_append, String.intercalate_cons_cons, toString, String.toList_append,
    List.head?_append]
  cases n with
  | zero => exact .inr rfl
  | succ n => exact .inl (by simp [blanks, List.replicate_succ])

/-- A drawing starts with its margin, or with its arrow if there is no margin. -/
theorem head_render (d : Diagnostic) :
    d.render.toList.head? = some ' ' ∨ d.render.toList.head? = some '-' := by
  obtain ⟨source, place, message⟩ := d
  cases place with
  | point offset =>
    simp only [render, renderPoint]
    apply head_frame
  | range span =>
    simp only [render, renderRange]
    apply head_frame

end Diagnostic

/-- A complaint starts with its message. -/
theorem toList_fatal (message : String) (cause : Option String) :
    ∃ rest, (fatal message cause).toList = "Error: ".toList ++ (message.toList ++ rest) := by
  have hfatal : ∃ rest, fatal message cause = "Error: " ++ message ++ rest := by
    cases cause with
    | none => exact ⟨"\n", rfl⟩
    | some cause =>
      refine ⟨"\n\nCaused by:\n    " ++ cause ++ "\n", ?_⟩
      rw [← String.append_assoc, ← String.append_assoc]
      rfl
  obtain ⟨rest, hrest⟩ := hfatal
  refine ⟨rest.toList, ?_⟩
  rw [hrest, String.toList_append, String.toList_append, List.append_assoc]

namespace Script

/-- The complaint about a script that could not be loaded. -/
def loadingComplaint (e : LoadError) : String :=
  fatal (ExecutionError.load e).message (some e.message)

theorem toList_loadingComplaint (e : LoadError) :
    ∃ rest, (loadingComplaint e).toList =
      "Error: ".toList ++ ("loading failed: ".toList ++ rest) := by
  have hmessage : (ExecutionError.load e).message = "loading failed: " ++ e.message := rfl
  obtain ⟨rest, hrest⟩ := toList_fatal (ExecutionError.load e).message (some e.message)
  refine ⟨e.message.toList ++ rest, ?_⟩
  rw [loadingComplaint, hrest, hmessage, String.toList_append, List.append_assoc]

/-- A complaint about a script that cannot be read is not one about loading. -/
theorem fatal_render_ne_loadingComplaint (d : Diagnostic) (e : LoadError) :
    fatal d.render none ≠ loadingComplaint e := by
  intro heq
  obtain ⟨rest, hfatal⟩ := toList_fatal d.render none
  obtain ⟨rest', hloading⟩ := toList_loadingComplaint e
  have hafter : "loading failed: ".toList ++ rest' = d.render.toList ++ rest := by
    rw [heq, hloading] at hfatal
    exact List.append_cancel_left hfatal
  have hhead := congrArg List.head? hafter
  rcases d.head_render with hblank | harrow
  · simp [List.head?_append, hblank] at hhead
  · simp [List.head?_append, harrow] at hhead

/-- A complaint that is drawn at a place of the script is not one about loading. -/
theorem Drawn.ne_loadingComplaint {source : String} {spans : List Span} {complaint : String}
    (h : Drawn source spans complaint) (e : LoadError) : complaint ≠ loadingComplaint e := by
  intro heq
  obtain ⟨rest, hloading⟩ := toList_loadingComplaint e
  have hhead : complaint.toList.head? = some 'E' := by
    rw [heq, hloading]
    rfl
  obtain ⟨span, -, message, rfl | rfl⟩ := h
  · simp at hhead
  · rcases Diagnostic.head_render ⟨source, .range span, "Runtime error: " ++ message⟩ with
      hblank | harrow
    · simp [List.head?_append, hblank] at hhead
    · simp [List.head?_append, harrow] at hhead

/-! ## Step by step -/

/-- What the command comes to agrees with the outcome of a request and the engine
after it. -/
structure Performance.Mirrors (performance : Performance) (outcome : Except RunError Unit)
    (engine : Engine) : Prop where
  stdout : performance.stdout = engine.sink.contents.toList
  silent : performance.complaint = none ↔ outcome = .ok ()
  spoken : performance.complaint ≠ some ""

variable {source : String} {names : UnitNames} {u : CodeUnit} {origins : Origins}

theorem mirrors_of_complaint {performance : Performance} {engine : Engine} {complaint : String}
    (e : RunError) (hstdout : performance.stdout = engine.sink.contents.toList)
    (hcomplaint : performance.complaint = some complaint) (h : complaint ≠ "") :
    performance.Mirrors (.error e) engine where
  stdout := hstdout
  silent := by simp [hcomplaint]
  spoken := by simpa [hcomplaint] using h

theorem fatal_ne_empty (message : String) (cause : Option String) : fatal message cause ≠ "" := by
  intro heq
  obtain ⟨rest, hfatal⟩ := toList_fatal message cause
  rw [heq] at hfatal
  simp at hfatal

/-- Running a compiled script. -/
theorem invoke_mirrors {outcome : Except ExecutionError Unit} {engine : Engine}
    (h : (Engine.new {}).loadAndInvoke u.toImage names = (outcome, engine)) (spans : List Span)
    (events : List Event) :
    (invoke source spans names u origins events).Mirrors (outcome.mapError .execution) engine := by
  simp only [invoke, h]
  cases outcome with
  | ok v => exact ⟨rfl, iff_of_true rfl rfl, by simp⟩
  | error e =>
    cases e with
    | call failure => exact mirrors_of_complaint (.execution (.call failure)) rfl rfl (by simp)
    | load e => exact mirrors_of_complaint (.execution (.load e)) rfl rfl (fatal_ne_empty _ _)

/-- Running a text, with the output of the script and nothing else asked for. -/
theorem runText_mirrors (path source unit : String) :
    (runText { unitName := unit } path source).Mirrors
      ((Engine.new {}).runSource source { unit := unit }).1
      ((Engine.new {}).runSource source { unit := unit }).2 := by
  cases hparse : Program.parse source with
  | error e =>
    simp only [runText, Engine.runSource, compileSource, hparse]
    exact mirrors_of_complaint _ rfl rfl (fatal_ne_empty _ _)
  | ok parsed =>
    cases hcompile : parsed.program.compile { unit := unit } with
    | error e =>
      simp only [runText, perform, Engine.runSource, compileSource, hparse, hcompile]
      exact mirrors_of_complaint _ rfl rfl (by simp [toString])
    | ok compiled =>
      obtain ⟨u, origins⟩ := compiled
      have hsource : compileSource source { unit := unit } = .ok (u, origins) := by
        simp only [compileSource, hparse, hcompile]
      rw [Engine.runSource_of_compile hsource]
      simp only [runText, perform, hparse, hcompile]
      exact invoke_mirrors rfl _ _

/-! ## The command -/

/-- A script in its file is read as it was written. -/
theorem runFile_ofText (options : Options) (path source : String) :
    runFile options path (some (.file (Bytes.ofText source))) = runText options path source := by
  simp only [runFile, FileEntry.readText, Bytes.toText?_ofText]

theorem length_main : (Bytes.ofText "main").length < 2 ^ 64 := by
  decide +kernel

/-- No complaint about a script is about loading. -/
theorem runText_complaint_ne_loading {source unit : String}
    (hsource : (Bytes.ofText source).length < 2 ^ 58)
    (hunit : (Bytes.ofText unit).length < 2 ^ 64) (path : String) (e : LoadError) :
    (runText { unitName := unit } path source).complaint ≠ some (loadingComplaint e) := by
  intro h
  cases hparse : Program.parse source with
  | error cause =>
    simp only [runText, hparse] at h
    exact fatal_render_ne_loadingComplaint _ e (Option.some.inj h)
  | ok parsed =>
    simp only [runText, hparse] at h
    have hsized : ∀ u origins, parsed.program.compile { unit := unit } = .ok (u, origins) →
        u.Sized := fun u origins hcompile =>
      compileSource_sized hsource hunit length_main
        (compileSource_eq_ok_iff.mpr ⟨parsed, hparse, hcompile⟩)
    exact (drawn_of_perform hparse hsized h).ne_loadingComplaint e rfl

/-- **The command agrees with the engine.** Whatever the text of a script and the
name of its unit, the command prints what the request to run that source prints
into a new engine without a limit. It exits with 0 if that request succeeds, and
else with 1 and a complaint. The complaint is never about loading (the source and
the name must not be too long to be written as an image). -/
theorem command_agrees {filter : LogFilter} {path source unit : String}
    {outcome : Except RunError Unit} {engine : Engine} {result : CommandResult}
    (hran : (Engine.new {}).runSource source { unit := unit } = (outcome, engine))
    (hresult : command { unitName := unit } filter path (some (.file (Bytes.ofText source))) =
      result) :
    result.stdout = engine.sink.contents.toList ∧
    (result.exit = 0 ↔ outcome = .ok ()) ∧
    (outcome ≠ .ok () → result.exit = 1 ∧ result.stderr ≠ "") ∧
    ((Bytes.ofText source).length < 2 ^ 58 → (Bytes.ofText unit).length < 2 ^ 64 → ∀ e,
      outcome ≠ .error (.execution (.load e)) ∧
      (runFile { unitName := unit } path (some (.file (Bytes.ofText source)))).complaint ≠
        some (loadingComplaint e)) := by
  have hmirrors := runText_mirrors path source unit
  rw [hran] at hmirrors
  obtain ⟨hstdout, hsilent, hspoken⟩ := hmirrors
  subst hresult
  simp only [command, runFile_ofText]
  refine ⟨hstdout, ?_, ?_, ?_⟩
  · rw [← hsilent]
    cases (runText { unitName := unit } path source).complaint <;> simp
  · intro hfails
    rw [Ne, ← hsilent] at hfails
    obtain ⟨complaint, hcomplaint⟩ := Option.ne_none_iff_exists'.mp hfails
    rw [hcomplaint] at hspoken ⊢
    refine ⟨rfl, fun hempty => hspoken ?_⟩
    exact congrArg some (String.append_eq_empty_iff.mp hempty).2
  · intro hsource hunit e
    obtain ⟨hload, -⟩ := Engine.runSource_outcome hsource hunit length_main hran
    refine ⟨?_, runText_complaint_ne_loading hsource hunit path e⟩
    intro he
    obtain ⟨-, htaken, -⟩ := (hload e).mp he
    cases htaken

/-- A script that prints a line and then divides by zero: the line is there, and
the exit code tells of the failure. -/
theorem command_agrees_division :
    (command { unitName := "P" } LogFilter.fallback "division"
        (some (.file (Bytes.ofText "print 2 print 1 / 0")))).stdout = Bytes.ofText "2\n" ∧
      (command { unitName := "P" } LogFilter.fallback "division"
        (some (.file (Bytes.ofText "print 2 print 1 / 0")))).exit = 1 := by
  rcases hran : (Engine.new {}).runSource "print 2 print 1 / 0" { unit := "P" } with
    ⟨outcome, engine⟩
  have hprinted : ((Engine.new {}).runSource "print 2 print 1 / 0"
      { unit := "P" }).2.sink.contents.toList = Bytes.ofText "2\n" := by decide +kernel
  have hfails : ((Engine.new {}).runSource "print 2 print 1 / 0"
      { unit := "P" }).1.isOk = false := by decide +kernel
  rw [hran] at hprinted hfails
  obtain ⟨hstdout, -, hexit, -⟩ := command_agrees hran rfl
  refine ⟨hstdout.trans hprinted, (hexit ?_).1⟩
  rintro rfl
  cases hfails

end Script

end Printlet
