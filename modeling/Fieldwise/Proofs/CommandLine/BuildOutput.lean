import Fieldwise.BuildScript
import Fieldwise.Proofs.Location.Joining
import Fieldwise.Proofs.Pass.Accounting
import Fieldwise.Proofs.Round.Verdicts

set_option autoImplicit false

/-! # What a build reads

A build reads what a run prints line by line, and does what a line says. So whatever stands in the
names of files and types and in the reasons of failures, no part of it may become a line of its own.
By `BuildScript.run_prints` the lines are one for the directory to watch and one for each problem
that was reported, and there are as many of these as the run says. A run that ends without an answer
has printed such lines as well, for the problems of its pass.
-/

namespace Fieldwise

/-! ## The directory to watch -/

/-- The crate in the directory of a package is read from the directory of its sources. -/
theorem Crate.directory_of_package {t : FileTree} {package : Location} {conditions : Conditions}
    {c : Crate} (h : ofPackage t package conditions = .ok c) :
    c.directory = package.child "src" := by
  have hsources : IsName "src" := ⟨by decide, by decide, by decide⟩
  obtain ⟨init, helements⟩ := Location.elements_child package hsources
  have hparent {name : String} (hname : IsName name) :
      ((package.child "src").child name).parent? = some (package.child "src") :=
    Location.parent?_child helements hsources.idle hname
  unfold ofPackage at h
  dsimp only at h
  split at h
  · rename_i entry hfound
    -- either of the two entry files lies there
    have hentry : entry.parent? = some (package.child "src") := by
      have hmem := List.mem_of_find?_eq_some hfound
      rw [List.map_cons, List.map_cons, List.map_nil, List.mem_pair] at hmem
      rcases hmem with rfl | rfl
      · exact hparent ⟨by decide, by decide, by decide⟩
      · exact hparent ⟨by decide, by decide, by decide⟩
    unfold ofEntry at h
    split at h
    · cases h
      rw [hentry, Option.getD_some]
    · cases h
  · cases h

namespace BuildScript

/-! ## Lines -/

theorem newline_not_mem_onOneLine (text : String) : '\n' ∉ (onOneLine text).toList := by
  rw [onOneLine, String.toList_ofList]
  intro hmem
  obtain ⟨c, -, hc⟩ := List.mem_map.mp hmem
  split at hc
  · cases hc
  · exact absurd hc (by assumption)

/-- The lines that a run prints, without the newlines that end them. -/
def lines (directory : Location) (reports : List Diagnostic) : List String :=
  ("cargo:rerun-if-changed=" ++ directory.text)
    :: reports.map fun d => "cargo:warning=error: " ++ onOneLine d.text

/-- No line holds a newline unless the location of the directory does. -/
theorem newline_not_mem_lines {directory : Location} (h : '\n' ∉ directory.text.toList)
    (reports : List Diagnostic) : ∀ line ∈ lines directory reports, '\n' ∉ line.toList := by
  intro line hline
  rcases List.mem_cons.mp hline with rfl | hline
  · rw [String.toList_append, List.mem_append, not_or]
    exact ⟨by decide, h⟩
  · obtain ⟨d, -, rfl⟩ := List.mem_map.mp hline
    rw [String.toList_append, List.mem_append, not_or]
    exact ⟨by decide, newline_not_mem_onOneLine d.text⟩

/-- **What is printed is taken apart into these lines.** -/
theorem splitText_output {directory : Location} (h : '\n' ∉ directory.text.toList)
    (reports : List Diagnostic) :
    Text.splitText '\n' (printedLines directory reports) = lines directory reports ++ [""] := by
  -- every line is printed with the newline that ends it
  have houtput : printedLines directory reports
      = String.join ((lines directory reports).map (· ++ String.singleton '\n')) := by
    rw [printedLines, lines, List.map_cons, String.join_cons, List.map_map]
    rfl
  rw [houtput, Text.splitText_join_lines (newline_not_mem_lines h reports)]

/-! ## Runs -/

-- what a round does to a crate is not for unification to try
attribute [local irreducible] round Crate.declarations

/-- What a run inside a build starts from. -/
theorem inputs_eq_ok {e : Environment} {files : FileTree} {crate : Crate}
    {output : OutputDirectory} (h : inputs e files = .ok (crate, output)) :
    ∃ package, e.get? "CARGO_MANIFEST_DIR" = some package
      ∧ Crate.ofPackage files ⟨package⟩ (Conditions.current e) = .ok crate := by
  unfold inputs variableLocation at h
  cases hpackage : e.get? "CARGO_MANIFEST_DIR" with
  | none =>
      rw [hpackage] at h
      cases h
  | some package =>
      rw [hpackage] at h
      cases houtput : e.get? "OUT_DIR" with
      | none =>
          rw [houtput] at h
          cases h
      | some directory =>
          rw [houtput] at h
          dsimp only [bind, Except.bind] at h
          split at h
          · rename_i found hcrate
            cases h
            exact ⟨package, rfl, hcrate⟩
          · cases h

/-- The output of a run is what it prints. -/
theorem output_of_run {settings : Settings} {e : Environment} {files : FileTree}
    {outcome : Outcome} (h : run settings e files = .ok outcome) :
    outcome.output = printed settings e files := by
  unfold run at h
  unfold printed
  split at h
  · cases h
    rfl
  · rename_i crate output _
    unfold roundReports
    split at h
    · cases h
    · rename_i ended hround
      cases h
      rw [hround]

/-- What a run inside a build prints for a package, when these problems were reported. -/
structure Prints (a : Assignment) (package : Location) (reports : List Diagnostic)
    (outcome : Outcome) : Prop where
  /-- The lines are one for the sources of the package and one for each problem; each is ended by a
  newline, and nothing follows the last. -/
  lines : Text.splitText '\n' outcome.output = lines (package.child "src") reports ++ [""]
  /-- If the run fails with a number of problems, there are as many. -/
  counted : ∀ count, outcome.result = .error (.diagnostics count) → reports.length = count
  /-- If it fails because nothing could be stored, that is the last, after those of the pass. -/
  refused : ∀ reason, outcome.result = .error (.emit reason) → ∃ p, a.outcome? = some p
    ∧ reports = p.diagnostics ++ [.generationFailed reason.message]

/-- **A build reads what a run reports and nothing else.** Whatever the settings and the files are,
and whatever stands in their names, if a run gets as far as its round, then it prints the line of
the directory to watch and a line for each problem, or the round has no answer; then these are the
problems of its pass, if it came so far. The package directory alone must be free of newlines. -/
theorem run_prints {settings : Settings} {e : Environment} {files : FileTree} {crate : Crate}
    {output : OutputDirectory} {package : String}
    (hpackage : e.get? "CARGO_MANIFEST_DIR" = some package) (hline : '\n' ∉ package.toList)
    (hinputs : inputs e files = .ok (crate, output)) :
    (∃ halt, run settings e files = .error halt
        ∧ Stuck output.emitter ⟨settings, fun _ => crate.declarations files⟩ files halt
        ∧ Text.splitText '\n' (printed settings e files)
          = lines (Location.child ⟨package⟩ "src")
            ((Assignment.outcome? ⟨settings, fun _ => crate.declarations files⟩).map
              PassOutcome.diagnostics |>.getD []) ++ [""])
      ∨ ∃ ended outcome,
        round settings (fun _ => crate.declarations files) output.emitter files = .ok ended
        ∧ run settings e files = .ok outcome
        ∧ Prints ⟨settings, fun _ => crate.declarations files⟩ ⟨package⟩ ended.trace.reports
          outcome := by
  let work : Assignment := ⟨settings, fun _ => crate.declarations files⟩
  have hdirectory : crate.directory = Location.child ⟨package⟩ "src" := by
    obtain ⟨found, hfound, hcrate⟩ := inputs_eq_ok hinputs
    rw [hpackage] at hfound
    cases hfound
    exact Crate.directory_of_package hcrate
  have hwatched : '\n' ∉ crate.directory.text.toList := by
    rw [hdirectory]
    exact Location.not_mem_child ⟨by decide, by decide, by decide⟩ hline (by decide) (by decide)
  unfold run printed
  rw [hinputs]
  dsimp only
  cases hround : round work.settings work.source output.emitter files with
  | error halt =>
      have hstuck : Stuck output.emitter work files halt := stuck_iff_round.mpr hround
      refine .inl ⟨halt, rfl, hstuck, ?_⟩
      rw [← hdirectory, ← hstuck.roundReports_eq]
      exact splitText_output hwatched _
  | ok ended =>
      have hexit := exit_of_round hround
      refine .inr ⟨ended, _, rfl, rfl, ?_, fun count h => ?_, fun reason h => ?_⟩
      · rw [← hdirectory]
        exact splitText_output hwatched ended.trace.reports
      · rcases failOnReports_eq_error h with hresult | hcount
        · rw [hresult] at hexit
          cases hexit
        · exact (RunError.diagnostics.inj hcount).symm
      · rcases failOnReports_eq_error h with hresult | hcount
        · rw [hresult] at hexit
          exact hexit.reports_of_refused
        · cases hcount

/-- A package with a struct that can be used and one that cannot, and a file whose name has two
lines. -/
def splitTree : FileTree where
  entries :=
    [(["pkg"], .directory), (["pkg", "src"], .directory), (["out\nput"], .file "".toUTF8),
      (["pkg", "src", "lib.rs"], .file ("pub mod model \x7b #[static_string_util] pub struct User; "
        ++ "#[static_string_util] struct Hidden; \x7d").toUTF8)]

/-- An environment in which that file is to be the output directory. -/
def splitEnvironment : Environment where
  bindings := [("CARGO_MANIFEST_DIR", "pkg"), ("OUT_DIR", "out\nput")]

def splitCrate : Crate := ⟨⟨"pkg/src"⟩, "lib.rs", Conditions.current splitEnvironment⟩

def splitOutput : OutputDirectory := ⟨⟨"out\nput"⟩⟩

/-- The run fails, and says so on one line, after the problem with the struct. -/
theorem splitEnvironment_prints :
    splitEnvironment.get? "CARGO_MANIFEST_DIR" = some "pkg" ∧ '\n' ∉ "pkg".toList
      ∧ inputs splitEnvironment splitTree = .ok (splitCrate, splitOutput)
      ∧ ∃ outcome, run {} splitEnvironment splitTree = .ok outcome
        ∧ Text.splitText '\n' outcome.output = ["cargo:rerun-if-changed=pkg/src",
          "cargo:warning=error: pkg/src/lib.rs:1: Classes annotated with #[static_string_util] "
            ++ "must be public.",
          "cargo:warning=error: Couldn't generate class: I/O error at out put: Not a directory "
            ++ "(os error 20)", ""] := by
  have hpackage : splitEnvironment.get? "CARGO_MANIFEST_DIR" = some "pkg" := by decide +kernel
  have hinputs : inputs splitEnvironment splitTree = .ok (splitCrate, splitOutput) :=
    eq_ok_of_toOption (by decide +kernel)
  obtain ⟨ended, hround, hreports⟩ : ∃ ended,
      round {} (fun _ => splitCrate.declarations splitTree) splitOutput.emitter splitTree
        = .ok ended
      ∧ ended.trace.reports.map Diagnostic.text =
        ["pkg/src/lib.rs:1: Classes annotated with #[static_string_util] must be public.",
          "Couldn't generate class: I/O error at out\nput: Not a directory (os error 20)"] :=
    exists_ok_of_view (by decide +kernel)
  refine ⟨hpackage, by decide, hinputs, ?_⟩
  rcases @run_prints {} _ _ _ _ _ hpackage (by decide) hinputs with
    ⟨halt, -, hstuck, -⟩ | ⟨found, outcome, hfound, hrun, hprints⟩
  · have herror := stuck_iff_round.mp hstuck
    rw [hround] at herror
    cases herror
  · obtain rfl : found = ended := Except.ok.inj (hfound.symm.trans hround)
    have hwarnings : found.trace.reports.map (fun d => "cargo:warning=error: " ++ onOneLine d.text)
        = ["cargo:warning=error: pkg/src/lib.rs:1: Classes annotated with #[static_string_util] "
            ++ "must be public.",
          "cargo:warning=error: Couldn't generate class: I/O error at out put: Not a directory "
            ++ "(os error 20)"] := by
      have hmapped := congrArg (List.map fun text => "cargo:warning=error: " ++ onOneLine text)
        hreports
      rw [List.map_map] at hmapped
      exact hmapped.trans (by decide +kernel)
    refine ⟨outcome, hrun, hprints.lines.trans ?_⟩
    rw [lines, hwarnings]
    rfl

end BuildScript

end Fieldwise
