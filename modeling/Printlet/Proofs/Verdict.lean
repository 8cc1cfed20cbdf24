/-
Printlet.Proofs.Verdict — the suite's verdict on a directory of scripts.

A script passes if it does what its directory expects of it, which is said here
without the suite and without the command: in terms of what its path and the path
of its expected output lead to, and of the request to run its text in a new engine
(`Workspace.Passing`). Each way not to pass has its own condition
(`Workspace.Fails`). One of them holds of every script (`passing_or_fails`), and the
check of a script answers accordingly (`check_of_passing`, `check_of_fails`). What
the command prints and how it exits is carried over from the engine by
`Script.runText_mirrors`.

The scripts are reported in the order of the bytes of their names. The suite sorts
them by their characters, which comes to the same (`Bytes.ofText_lt`).
-/
import Mathlib.Data.Set.Card
import Mathlib.Data.String.Basic
import Mathlib.Tactic.SplitIfs
import Printlet.Proofs.Agreement
import Printlet.Proofs.ByteOrder
import Printlet.Script.Suite

namespace Printlet

/-! ## 1. Texts in files -/

namespace Bytes

theorem toText?_eq_some_iff {bytes : Bytes} {text : String} :
    toText? bytes = some text ↔ bytes = ofText text := by
  constructor
  · intro h
    rw [toText?, String.fromUTF8?] at h
    split at h
    · cases h
      rfl
    · cases h
  · rintro rfl
    exact toText?_ofText text

end Bytes

/-- What can be read as a text is a file with the bytes of that text. -/
theorem FileEntry.readText_eq_ok_iff {entry : Option FileEntry} {text : String} :
    FileEntry.readText entry = .ok text ↔ entry = some (.file (Bytes.ofText text)) := by
  cases entry with
  | none => simp [readText]
  | some entry =>
    cases entry with
    | directory => simp [readText]
    | file contents =>
      rw [Option.some.injEq, FileEntry.file.injEq, ← Bytes.toText?_eq_some_iff]
      simp only [readText]
      cases Bytes.toText? contents <;> simp

namespace Suite

/-! ## 2. Scripts -/

/-- Among names in order, the first of each kind are strictly in order. -/
theorem pairwise_eraseDups {names : List String} (h : names.Pairwise (· ≤ ·)) :
    names.eraseDups.Pairwise (· < ·) := by
  -- on the length, since behind the first name the others are filtered before they are looked at
  induction hlength : names.length using Nat.strong_induction_on generalizing names with
  | _ n ih =>
    cases names with
    | nil => exact List.Pairwise.nil
    | cons first rest =>
      obtain ⟨hfirst, hrest⟩ := List.pairwise_cons.mp h
      rw [List.eraseDups_cons, List.pairwise_cons]
      constructor
      · intro name hname
        obtain ⟨hmem, hne⟩ := List.mem_filter.mp (List.mem_eraseDups.mp hname)
        refine lt_of_le_of_ne (hfirst name hmem) ?_
        rintro rfl
        simp at hne
      · have hshorter : (rest.filter fun name => !name == first).length < n := by
          rw [← hlength, List.length_cons]
          exact Nat.lt_succ_of_le (List.length_filter_le _ _)
        exact ih _ hshorter (hrest.filter _) rfl

/-- The members of a list without doubles are as many as it is long. -/
theorem ncard_of_nodup {names : List String} {P : String → Prop} (h : names.Nodup)
    (hmem : ∀ name, name ∈ names ↔ P name) : {name | P name}.ncard = names.length := by
  have hset : {name | P name} = ↑names.toFinset := by
    ext name
    simp [hmem]
  rw [hset, Set.ncard_coe_finset, List.toFinset_card_of_nodup h]

theorem isScript_iff {name : String} : isScript name = true ↔ ∃ stem, name = stem ++ ".alm" := by
  rw [isScript, List.isSuffixOf_iff_suffix]
  constructor
  · rintro ⟨front, hfront⟩
    refine ⟨String.ofList front, ?_⟩
    rw [← String.toList_inj, String.toList_append, String.toList_ofList, hfront]
  · rintro ⟨stem, rfl⟩
    exact ⟨stem.toList, String.toList_append.symm⟩

theorem entryName?_eq_some_iff {path name : String} :
    entryName? path = some name ↔ ∃ rest, steps path = "tests" :: name :: rest := by
  rw [entryName?]
  match steps path with
  | [] => simp
  | [_] => simp
  | first :: second :: rest =>
    by_cases hfirst : first = directory
    · subst hfirst
      simp [directory]
    · have hother : first ≠ "tests" := hfirst
      simp [hfirst, hother]

/-! A step of a path has no slash in it, so that the path of an entry leads there. -/

theorem slash_notMem_splitOn {cs piece : List Char} (h : piece ∈ cs.splitOn '/') :
    '/' ∉ piece := by
  induction cs generalizing piece with
  | nil =>
    rw [List.splitOn_nil, List.mem_singleton] at h
    rw [h]
    exact List.not_mem_nil
  | cons c cs ih =>
    rw [List.splitOn_cons_eq_if_modifyHead] at h
    by_cases hc : c = '/'
    · rw [if_pos (beq_iff_eq.mpr hc), List.mem_cons] at h
      rcases h with rfl | hlater
      · exact List.not_mem_nil
      · exact ih hlater
    · rw [if_neg (by simpa using hc)] at h
      cases hpieces : cs.splitOn '/' with
      | nil => exact absurd hpieces (List.splitOn_ne_nil '/' cs)
      | cons first later =>
        rw [hpieces, List.modifyHead_cons, List.mem_cons] at h
        rw [hpieces] at ih
        rcases h with rfl | hlater
        · rw [List.mem_cons, not_or]
          exact ⟨fun heq => hc heq.symm, ih List.mem_cons_self⟩
        · exact ih (List.mem_cons_of_mem _ hlater)

theorem mem_foldl_follow {done pieces : List String} {step : String}
    (h : step ∈ pieces.foldl follow done) : step ∈ done ∨ step ∈ pieces := by
  induction pieces generalizing done with
  | nil => exact .inl h
  | cons piece pieces ih =>
    rcases ih h with hdone | hlater
    · have hfollow : step ∈ done ∨ step = piece := by
        rw [follow] at hdone
        split at hdone
        · exact .inl hdone
        · split at hdone
          · exact .inl (List.mem_of_mem_drop hdone)
          · exact (List.mem_cons.mp hdone).symm
      rcases hfollow with hearlier | rfl
      · exact .inl hearlier
      · exact .inr List.mem_cons_self
    · exact .inr (List.mem_cons_of_mem _ hlater)

theorem slash_notMem_steps {path step : String} (h : step ∈ steps path) : '/' ∉ step.toList := by
  rw [steps, List.mem_reverse] at h
  rcases mem_foldl_follow h with hnil | hpiece
  · cases hnil
  · obtain ⟨piece, hmem, rfl⟩ := List.mem_map.mp hpiece
    rw [String.toList_ofList]
    exact slash_notMem_splitOn hmem

theorem steps_pathOf {name : String} (hslash : '/' ∉ name.toList) (hscript : isScript name = true) :
    steps (pathOf name) = ["tests", name] := by
  have hsplit : (pathOf name).toList.splitOn '/' = ["tests".toList, name.toList] := by
    have hpath : (pathOf name).toList = "tests".toList ++ '/' :: name.toList := by
      simp [pathOf, directory]
    rw [hpath, List.splitOn_append_cons_self_of_not_mem (by decide),
      List.splitOn_eq_singleton hslash]
  have hfollow : follow ["tests"] name = [name, "tests"] := by
    obtain ⟨stem, rfl⟩ := isScript_iff.mp hscript
    have hlong (short : String) (hshort : short.length < 4) : stem ++ ".alm" ≠ short := by
      rintro rfl
      rw [String.length_append] at hshort
      exact absurd hshort (Nat.not_lt.mpr (Nat.le_add_left 4 _))
    have hdot := hlong "." (by decide)
    rw [follow, if_neg (by simp [hdot]), if_neg (hlong ".." (by decide))]
  have hfirst : follow [] "tests" = ["tests"] := by decide
  rw [steps, hsplit]
  simp only [List.map_cons, List.map_nil, String.ofList_toList, List.foldl_cons, List.foldl_nil,
    hfirst, hfollow, List.reverse_cons, List.reverse_nil, List.nil_append, List.singleton_append]

/-- Where the expected output of a script stands. The name without `.alm` gets
another ending. If nothing is left of it, the dot was no start of an ending; if a
dot is left, the path leads out of the directory. -/
theorem withExtension_script (stem : String) :
    withExtension (stem ++ ".alm") "out" =
      if stem = "" then ".alm.out" else if stem = "." then ".." else stem ++ ".out" := by
  by_cases hempty : stem = ""
  · rw [if_pos hempty, hempty]
    rfl
  by_cases hdot : stem = "."
  · rw [if_neg hempty, if_pos hdot, hdot]
    rfl
  have hdrop : (stem ++ ".alm").toList.reverse.dropWhile (· ≠ '.') =
      '.' :: stem.toList.reverse := by
    simp [String.toList_append]
  rw [if_neg hempty, if_neg hdot, withExtension, hdrop]
  split
  next heq => cases heq
  next heq =>
    exact absurd (by simpa using (List.cons.inj heq).2) hempty
  next heq =>
    have hone : stem.toList = ['.'] := by simpa using congrArg List.reverse (List.cons.inj heq).2
    exact absurd (String.toList_inj.mp hone) hdot
  next heq =>
    rw [← (List.cons.inj heq).2, List.reverse_reverse, String.ofList_toList, String.append_assoc]
    rfl

namespace Workspace

/-- The name is that of an entry of the directory and ends as names of scripts do. -/
def IsScript (w : Workspace) (name : String) : Prop :=
  (∃ path entry rest, (path, entry) ∈ w.files ∧ steps path = "tests" :: name :: rest) ∧
    ∃ stem, name = stem ++ ".alm"

theorem mem_scripts {w : Workspace} {name : String} : name ∈ w.scripts ↔ w.IsScript name := by
  simp only [scripts, List.mem_eraseDups, List.mem_mergeSort, List.mem_filter, List.mem_filterMap,
    entryName?_eq_some_iff, isScript_iff, IsScript, Prod.exists, exists_and_left]

theorem pairwise_scripts (w : Workspace) : w.scripts.Pairwise (· < ·) := by
  apply pairwise_eraseDups
  refine (List.pairwise_mergeSort ?_ ?_ _).imp of_decide_eq_true
  · intro a b c hab hbc
    exact decide_eq_true (le_trans (of_decide_eq_true hab) (of_decide_eq_true hbc))
  · intro a b
    simpa using le_total a b

/-- There is something at the path of a script. -/
theorem exists_entry {w : Workspace} {name : String} (h : w.IsScript name) :
    ∃ entry, w.entry? (pathOf name) = some entry := by
  obtain ⟨⟨path, entry, rest, hmem, hsteps⟩, hstem⟩ := h
  have hname : name ∈ steps path := by simp [hsteps]
  have hpath : steps (pathOf name) = ["tests", name] :=
    steps_pathOf (slash_notMem_steps hname) (isScript_iff.mpr hstem)
  unfold entry?
  rw [hpath]
  split
  next found hfound => exact ⟨_, rfl⟩
  next hnone =>
    refine ⟨.directory, if_pos ?_⟩
    rw [List.any_eq_true]
    exact ⟨(path, entry), hmem, by simp [hsteps]⟩

/-! ## 3. What a script does, and what is expected of it -/

/-- The path leads to a file that holds the text. -/
def HoldsText (w : Workspace) (path text : String) : Prop :=
  w.entry? path = some (.file (Bytes.ofText text))

/-- The script can be read, and running it in a new engine succeeds and prints
these bytes. -/
def Prints (w : Workspace) (name : String) (printed : Bytes) : Prop :=
  ∃ source engine, w.HoldsText (pathOf name) source ∧
    (Engine.new {}).runSource source {} = (.ok (), engine) ∧
    engine.sink.contents.toList = printed

/-- The script cannot be read as a text, or running it in a new engine fails. -/
def Breaks (w : Workspace) (name : String) : Prop :=
  (∀ source, ¬ w.HoldsText (pathOf name) source) ∨
    ∃ source e engine, w.HoldsText (pathOf name) source ∧
      (Engine.new {}).runSource source {} = (.error e, engine)

/-- The path of the expected output of a script. -/
def expectation (name : String) : String :=
  pathOf (withExtension name "out")

/-- The script does what is expected of it. -/
inductive Passing (w : Workspace) (name : String) : Prop
  /-- It prints what its expected output says. -/
  | asExpected {expected : String} (hexpected : w.HoldsText (expectation name) expected)
      (hprints : w.Prints name (Bytes.ofText expected))
  /-- It has no expected output, and fails. -/
  | asMeant (hnone : w.entry? (expectation name) = none) (hbreaks : w.Breaks name)

/-- The script does not do what is expected of it, for a reason. -/
inductive Fails (w : Workspace) (name : String) : Failure → Prop
  | shouldFail {printed : Bytes} (hnone : w.entry? (expectation name) = none)
      (hprints : w.Prints name printed) : Fails w name (.shouldFail printed)
  | noExpectation {entry : FileEntry} {e : FileError}
      (hentry : w.entry? (expectation name) = some entry)
      (hread : FileEntry.readText (some entry) = .error e) :
      Fails w name (.noExpectation (expectation name) e)
  | exited {expected : String} (hexpected : w.HoldsText (expectation name) expected)
      (hbreaks : w.Breaks name) : Fails w name (.exited 1 (w.run name).stderr)
  | differs {expected : String} {printed : Bytes}
      (hexpected : w.HoldsText (expectation name) expected) (hprints : w.Prints name printed)
      (hdiffers : printed ≠ Bytes.ofText expected) : Fails w name (.differs printed)

variable {w : Workspace} {name : String}

/-! ## 4. What the command makes of a script -/

/-- A script that can be read does under the command what it does in an engine. -/
theorem run_of_holdsText {source : String} {outcome : Except RunError Unit} {engine : Engine}
    (h : w.HoldsText (pathOf name) source)
    (hran : (Engine.new {}).runSource source {} = (outcome, engine)) :
    (w.run name).stdout = engine.sink.contents.toList ∧
      (w.run name).exit = if outcome = .ok () then 0 else 1 := by
  have hmirrors := Script.runText_mirrors (pathOf name) source "Program"
  rw [hran] at hmirrors
  have hrun : w.run name = Script.command {} LogFilter.fallback (pathOf name)
      (some (.file (Bytes.ofText source))) := by
    rw [run, h]
  rw [hrun]
  simp only [Script.command, Script.runFile_ofText]
  refine ⟨hmirrors.stdout, ?_⟩
  by_cases hok : outcome = .ok ()
  · rw [if_pos hok, hmirrors.silent.mpr hok]
    rfl
  · rw [if_neg hok]
    obtain ⟨complaint, hcomplaint⟩ :=
      Option.ne_none_iff_exists'.mp fun hnone => hok (hmirrors.silent.mp hnone)
    rw [hcomplaint]
    rfl

theorem exit_of_unreadable (h : ∀ source, ¬ w.HoldsText (pathOf name) source) :
    (w.run name).exit = 1 := by
  cases hread : FileEntry.readText (w.entry? (pathOf name)) with
  | ok source => exact absurd (FileEntry.readText_eq_ok_iff.mp hread) (h source)
  | error e => simp only [run, Script.command, Script.runFile, hread, Option.isSome_some, if_true]

theorem prints_iff {printed : Bytes} :
    w.Prints name printed ↔ (w.run name).exit = 0 ∧ (w.run name).stdout = printed := by
  constructor
  · rintro ⟨source, engine, hholds, hran, rfl⟩
    obtain ⟨hstdout, hexit⟩ := run_of_holdsText hholds hran
    exact ⟨hexit, hstdout⟩
  · rintro ⟨hexit, rfl⟩
    by_cases hreadable : ∃ source, w.HoldsText (pathOf name) source
    · obtain ⟨source, hholds⟩ := hreadable
      rcases hran : (Engine.new {}).runSource source {} with ⟨outcome, engine⟩
      obtain ⟨hstdout, hexit'⟩ := run_of_holdsText hholds hran
      by_cases hok : outcome = .ok ()
      · subst hok
        exact ⟨source, engine, hholds, hran, hstdout.symm⟩
      · rw [if_neg hok, hexit] at hexit'
        cases hexit'
    · rw [exit_of_unreadable (not_exists.mp hreadable)] at hexit
      cases hexit

theorem breaks_iff : w.Breaks name ↔ (w.run name).exit = 1 := by
  constructor
  · rintro (hunreadable | ⟨source, e, engine, hholds, hran⟩)
    · exact exit_of_unreadable hunreadable
    · exact (run_of_holdsText hholds hran).2
  · intro hexit
    by_cases hreadable : ∃ source, w.HoldsText (pathOf name) source
    · obtain ⟨source, hholds⟩ := hreadable
      rcases hran : (Engine.new {}).runSource source {} with ⟨outcome, engine⟩
      cases outcome with
      | ok u =>
        rw [(run_of_holdsText hholds hran).2] at hexit
        cases hexit
      | error e => exact .inr ⟨source, e, engine, hholds, hran⟩
    · exact .inl (not_exists.mp hreadable)

/-- A script prints and succeeds, or it breaks. -/
theorem prints_or_breaks (w : Workspace) (name : String) :
    w.Prints name (w.run name).stdout ∨ w.Breaks name := by
  have hexit : (w.run name).exit = 0 ∨ (w.run name).exit = 1 := by
    simp only [run, Script.command]
    split
    · exact .inr rfl
    · exact .inl rfl
  rcases hexit with hzero | hone
  · exact .inl (prints_iff.mpr ⟨hzero, rfl⟩)
  · exact .inr (breaks_iff.mpr hone)

/-! ## 5. The check of a script -/

section Checking

variable (hinterpreter : w.interpreter = true)
include hinterpreter

/-- The check of a script that has no expected output. -/
theorem check_of_none (hnone : w.entry? (expectation name) = none) :
    w.check name =
      if (w.run name).exit = 0 then .error (.shouldFail (w.run name).stdout) else .ok () := by
  have hentry : w.entry? (pathOf (withExtension name "out")) = none := hnone
  simp only [check, if_pos hinterpreter, hentry, CommandResult.succeeded, decide_eq_true_eq]

/-- The check of a script that has expected output, which can be read. -/
theorem check_of_holdsText {expected : String}
    (hexpected : w.HoldsText (expectation name) expected) :
    w.check name =
      if (w.run name).exit = 0 then
        if (w.run name).stdout = Bytes.ofText expected then .ok ()
        else .error (.differs (w.run name).stdout)
      else .error (.exited (w.run name).exit (w.run name).stderr) := by
  have hentry : w.entry? (pathOf (withExtension name "out")) =
      some (.file (Bytes.ofText expected)) := hexpected
  simp only [check, if_pos hinterpreter, hentry, FileEntry.readText_eq_ok_iff.mpr rfl]
  by_cases hexit : (w.run name).exit = 0 <;> simp [CommandResult.succeeded, hexit]

/-- The check of a script that has expected output, which cannot be read. -/
theorem check_of_unreadable {entry : FileEntry} {e : FileError}
    (hentry : w.entry? (expectation name) = some entry)
    (hread : FileEntry.readText (some entry) = .error e) :
    w.check name = .error (.noExpectation (expectation name) e) := by
  have hentry' : w.entry? (pathOf (withExtension name "out")) = some entry := hentry
  simp only [check, if_pos hinterpreter, hentry', hread]
  rfl

theorem check_of_passing (h : w.Passing name) : w.check name = .ok () := by
  cases h with
  | asExpected hexpected hprints =>
    obtain ⟨hexit, hstdout⟩ := prints_iff.mp hprints
    rw [check_of_holdsText hinterpreter hexpected, if_pos hexit, if_pos hstdout]
  | asMeant hnone hbreaks =>
    rw [check_of_none hinterpreter hnone, breaks_iff.mp hbreaks]
    rfl

theorem check_of_fails {failure : Failure} (h : w.Fails name failure) :
    w.check name = .error failure := by
  cases h with
  | shouldFail hnone hprints =>
    obtain ⟨hexit, rfl⟩ := prints_iff.mp hprints
    rw [check_of_none hinterpreter hnone, if_pos hexit]
  | noExpectation hentry hread => exact check_of_unreadable hinterpreter hentry hread
  | exited hexpected hbreaks =>
    rw [check_of_holdsText hinterpreter hexpected, breaks_iff.mp hbreaks]
    rfl
  | differs hexpected hprints hdiffers =>
    obtain ⟨hexit, rfl⟩ := prints_iff.mp hprints
    rw [check_of_holdsText hinterpreter hexpected, if_pos hexit, if_neg hdiffers]

end Checking

/-- A script passes, or there is a reason why it does not. -/
theorem passing_or_fails (w : Workspace) (name : String) :
    w.Passing name ∨ ∃ failure, w.Fails name failure := by
  cases hentry : w.entry? (expectation name) with
  | none =>
    rcases w.prints_or_breaks name with hprints | hbreaks
    · exact .inr ⟨_, .shouldFail hentry hprints⟩
    · exact .inl (.asMeant hentry hbreaks)
  | some entry =>
    cases hread : FileEntry.readText (some entry) with
    | error e => exact .inr ⟨_, .noExpectation hentry hread⟩
    | ok expected =>
      have hexpected : w.HoldsText (expectation name) expected :=
        hentry.trans (FileEntry.readText_eq_ok_iff.mp hread)
      rcases w.prints_or_breaks name with hprints | hbreaks
      · by_cases hsame : (w.run name).stdout = Bytes.ofText expected
        · exact .inl (.asExpected hexpected (hsame ▸ hprints))
        · exact .inr ⟨_, .differs hexpected hprints hsame⟩
      · exact .inr ⟨_, .exited hexpected hbreaks⟩

section Reporting

variable (hinterpreter : w.interpreter = true)
include hinterpreter

theorem not_passing_of_fails {failure : Failure} (h : w.Fails name failure) :
    ¬ w.Passing name := by
  intro hpassing
  have hcheck := check_of_passing hinterpreter hpassing
  rw [check_of_fails hinterpreter h] at hcheck
  cases hcheck

theorem passes_iff : w.passes name = true ↔ w.Passing name := by
  rcases w.passing_or_fails name with hpassing | ⟨failure, hfails⟩
  · simp [passes, check_of_passing hinterpreter hpassing, hpassing]
  · simp [passes, check_of_fails hinterpreter hfails, not_passing_of_fails hinterpreter hfails]

/-- What is reported about a script. -/
theorem report_cases (name : String) :
    (w.Passing name ∧ w.report name = Bytes.ofText (pathOf name ++ ": passed\n")) ∨
      (¬ w.Passing name ∧ ∃ failure, w.Fails name failure ∧
        w.report name = Bytes.ofText (pathOf name ++ ": failed\n") ++ failure.message ++
          Bytes.ofText "\n") := by
  rcases w.passing_or_fails name with hpassing | ⟨failure, hfails⟩
  · refine .inl ⟨hpassing, ?_⟩
    rw [report, check_of_passing hinterpreter hpassing]
    rfl
  · refine .inr ⟨not_passing_of_fails hinterpreter hfails, failure, hfails, ?_⟩
    rw [report, check_of_fails hinterpreter hfails]
    rfl

end Reporting

/-! ## 6. The verdict -/

/-- A script that does not pass shows in the exit code. -/
theorem exit_runAll (w : Workspace) :
    w.runAll.exit = 0 ↔ (w.scripts.filter w.passes).length = w.scripts.length := by
  have hle := List.length_filter_le w.passes w.scripts
  simp only [runAll]
  split
  next hnone => exact iff_of_true rfl (by omega)
  next hsome => exact iff_of_false Nat.one_ne_zero (by omega)

end Workspace

/-- The last line of a run that came to the scripts. -/
def summary (passed all : Nat) : Bytes :=
  Bytes.ofText s!"{passed} of {all} scripts passed\n"

/-- **The verdict is right.** For any files and whatever the build prints, if the
interpreter was built and is there: the suite exits with 0 just if every script passes. It prints what the
build prints, then a report on each script, once and in the order of the bytes of
their names, and then how many scripts pass and how many there are. At the path of
a script there is something. The report says that the script has passed just if it
has, and else why not. The expected output is looked for under the script's name
with another ending. -/
theorem command_verdict {w : Workspace} (hbuild : w.build = some 0)
    (hinterpreter : w.interpreter = true) :
    ((command w).exit = 0 ↔ ∀ name, w.IsScript name → w.Passing name) ∧
    (∃ names : List String, names.Pairwise (fun a b => Bytes.ofText a < Bytes.ofText b) ∧
      (∀ name, name ∈ names ↔ w.IsScript name) ∧
      (command w).stdout = w.buildOutput ++ names.flatMap w.report ++
        summary {name | w.IsScript name ∧ w.Passing name}.ncard {name | w.IsScript name}.ncard) ∧
    (∀ name, w.IsScript name → ∃ entry, w.entry? (pathOf name) = some entry) ∧
    (∀ name,
      (w.Passing name ∧ w.report name = Bytes.ofText (pathOf name ++ ": passed\n")) ∨
      (¬ w.Passing name ∧ ∃ failure, w.Fails name failure ∧
        w.report name = Bytes.ofText (pathOf name ++ ": failed\n") ++ failure.message ++
          Bytes.ofText "\n")) ∧
    ∀ stem, Workspace.expectation (stem ++ ".alm") =
      if stem = "" then "tests/.alm.out" else if stem = "." then "tests/.."
      else "tests/" ++ stem ++ ".out" := by
  have hcommand : command w = w.runAll := by
    simp only [command, hbuild]
  have hmem (name : String) : name ∈ w.scripts ↔ w.IsScript name := Workspace.mem_scripts
  have hpassing (name : String) :
      name ∈ w.scripts.filter w.passes ↔ w.IsScript name ∧ w.Passing name := by
    rw [List.mem_filter, hmem, Workspace.passes_iff hinterpreter]
  have hnodup : w.scripts.Nodup := w.pairwise_scripts.imp ne_of_lt
  refine ⟨?_, ⟨w.scripts, ?_, hmem, ?_⟩, fun name hname => Workspace.exists_entry hname,
    Workspace.report_cases hinterpreter, ?_⟩
  · rw [hcommand, Workspace.exit_runAll, List.length_filter_eq_length_iff]
    simp only [hmem, Workspace.passes_iff hinterpreter]
  · exact w.pairwise_scripts.imp Bytes.ofText_lt
  · rw [hcommand, ncard_of_nodup hnodup hmem,
      ncard_of_nodup (hnodup.filter _) hpassing]
    rfl
  · intro stem
    rw [Workspace.expectation, withExtension_script]
    split_ifs
    · rfl
    · rfl
    · rw [pathOf, ← String.append_assoc]
      rfl

/-- A script with expected output, and one that is meant to fail and prints before
it does. -/
def sampled : Workspace where
  files := [("tests/zero.alm", .file (Bytes.ofText "print 2 print 1 / 0")),
    ("tests/sum.out", .file (Bytes.ofText "3\n")),
    ("tests/sum.alm", .file (Bytes.ofText "print 1 + 2"))]

/-- The same with a script that cannot pass, since its expected output would be the
directory above. -/
def sampledAbove : Workspace where
  files := ("tests/..alm", .file []) :: sampled.files

theorem isScript_sampled {name : String} (h : sampled.IsScript name) :
    name = "zero.alm" ∨ name = "sum.alm" := by
  obtain ⟨⟨path, entry, rest, hmem, hsteps⟩, hstem⟩ := h
  have hpath : path ∈ ["tests/zero.alm", "tests/sum.out", "tests/sum.alm"] :=
    List.mem_map_of_mem (f := Prod.fst) hmem
  have hname : entryName? path = some name := entryName?_eq_some_iff.mpr ⟨rest, hsteps⟩
  have hnames : ∀ path ∈ ["tests/zero.alm", "tests/sum.out", "tests/sum.alm"],
      ∀ name ∈ entryName? path, isScript name = true → name = "zero.alm" ∨ name = "sum.alm" := by
    decide +kernel
  exact hnames path hpath name hname (isScript_iff.mpr hstem)

theorem command_verdict_sampled :
    (command sampled).exit = 0 ∧ (command sampledAbove).exit ≠ 0 := by
  obtain ⟨hverdict, -⟩ := command_verdict (rfl : sampled.build = some 0) rfl
  obtain ⟨hverdict', -⟩ := command_verdict (rfl : sampledAbove.build = some 0) rfl
  constructor
  · apply hverdict.mpr
    intro name hscript
    rw [← Workspace.passes_iff rfl]
    rcases isScript_sampled hscript with rfl | rfl <;> decide +kernel
  · rw [Ne, hverdict']
    intro hall
    have hscript : sampledAbove.IsScript "..alm" :=
      ⟨⟨"tests/..alm", _, [], .head _, by decide +kernel⟩, ".", rfl⟩
    have hpasses := (Workspace.passes_iff rfl).mpr (hall _ hscript)
    revert hpasses
    decide +kernel

end Suite

end Printlet
