import ScenarioCheck.Cli.Check
import ScenarioCheck.Proofs.Report.Sections
import ScenarioCheck.Proofs.Validation.Outcome

/-! Runs of the command. Every finding of the validator is an error, so the code tells whether a run
that gets to the end has findings to report. -/
namespace ScenarioCheck

namespace Validation

theorem severity_of_diagnostic? {t : Trace} {d : Diagnostic} (h : t.diagnostic? = some d) :
    d.severity = .error := by
  unfold Trace.diagnostic? at h
  split at h
  · cases h
    rfl
  · split at h
    · cases h
    · cases h
      rfl
  · cases h
    rfl

theorem severity_of_mem_ofText {r : Rules} {s : Snapshot} {text uri : String} {d : Diagnostic}
    (h : d ∈ (ofText r s text uri).diagnostics) : d.severity = .error := by
  unfold ofText at h
  split at h
  · rw [validate_eq] at h
    obtain ⟨t, -, ht⟩ := List.mem_filterMap.mp (List.mem_filter.mp h).1
    exact severity_of_diagnostic? ht
  · cases h

end Validation

namespace Cli

open Project
open Report (Finding Presents)

def loading (w : Workplace) (o : Options) : Session.Turn :=
  Session.loadAll w { start? := startOf w o, file? := o.config? }

def configurationOf (w : Workplace) (o : Options) : Configuration :=
  (loading w o).session.configuration?.getD {}

/-- The findings that a run reports: those of its documents, one document after the other. -/
def reported (w : Workplace) (o : Options) (paths : List Path) : List Finding :=
  paths.flatMap fun path =>
    (findingsIn w (configurationOf w o).settings.rules (loading w o).session.registry path).1

/-! Reports that get out whole. -/

/-- Nothing is in the way of a report: the standard output refuses no entry of it, or not its data,
or the file that is named for it can be written. -/
def CanPresent (w : Workplace) (c : Console) (o : Options) (report : Contents) : Prop :=
  match o.format, o.output? with
  | .terminal, _ => ∀ entry ∈ report.entries, c.refusal? entry = none
  | .json, none => c.refusal? report.data.pretty = none
  | .json, some file => ∃ disk, w.disk.save (w.absolute file) report.data.pretty.toUTF8 = .ok disk

def whole (o : Options) (report : Contents) : Delivery :=
  match o.format, o.output? with
  | .terminal, _ => .printed (Report.textOf report.entries)
  | .json, none => .printed (report.data.pretty ++ "\n")
  | .json, some file => .saved file report.data.pretty

theorem Console.takeWhile_eq_self {c : Console} {entries : List String}
    (h : ∀ entry ∈ entries, c.refusal? entry = none) :
    entries.takeWhile (fun entry => (c.refusal? entry).isNone) = entries :=
  List.takeWhile_eq_self_iff.mpr fun entry hentry => by simp [h entry hentry]

theorem Console.print_of_forall {c : Console} {entries : List String}
    (h : ∀ entry ∈ entries, c.refusal? entry = none) :
    c.print entries = (.printed (Report.textOf entries), none) := by
  have htake := takeWhile_eq_self h
  have hfind : entries.findSome? c.refusal? = none := List.findSome?_eq_none_iff.mpr h
  rw [print, htake, hfind, Option.map_none]

@[simp] theorem Console.print_snd_eq_none_iff {c : Console} {entries : List String} :
    (c.print entries).2 = none ↔ ∀ entry ∈ entries, c.refusal? entry = none := by
  rw [print, Option.map_eq_none_iff, List.findSome?_eq_none_iff]

section Present

variable {w : Workplace} {c : Console} {o : Options} {report : Contents}

@[simp] theorem present_snd_eq_none_iff :
    (present w c o report).2 = none ↔ CanPresent w c o report := by
  unfold present CanPresent
  cases o.format with
  | terminal => exact Console.print_snd_eq_none_iff
  | json =>
    unfold emit
    cases o.output? with
    | none => simp
    | some file =>
      dsimp only
      cases w.disk.save (w.absolute file) report.data.pretty.toUTF8 <;> simp

theorem present_of_canPresent (h : CanPresent w c o report) :
    present w c o report = (whole o report, none) := by
  unfold CanPresent at h
  unfold present whole
  cases hf : o.format with
  | terminal =>
    rw [hf] at h
    exact Console.print_of_forall h
  | json =>
    unfold emit
    cases hfile : o.output? with
    | none =>
      rw [hf, hfile] at h
      have hprint : c.print [report.data.pretty] = (.printed (Report.textOf [_]), none) :=
        Console.print_of_forall (by simpa using h)
      simp [hprint, Report.textOf, String.join]
    | some file =>
      rw [hf, hfile] at h
      obtain ⟨disk, hdisk⟩ := h
      simp only [hdisk]

theorem conclusion_of_canPresent (h : CanPresent w c o report) (code : Nat) (notices : List Notice) :
    conclusion code notices (present w c o report) =
      { code, delivery := whole o report, notices } := by
  rw [present_of_canPresent h, conclusion]

theorem code_conclusion_of_not_canPresent (h : ¬CanPresent w c o report) (code : Nat)
    (notices : List Notice) : (conclusion code notices (present w c o report)).code = 2 := by
  rw [← present_snd_eq_none_iff] at h
  unfold conclusion
  split
  · rename_i hpresent
    simp [hpresent] at h
  · rfl

/-- Of a report with an entry that is refused, what comes before the entry gets out. -/
theorem conclusion_of_refusal (hterminal : o.format = .terminal) {before after : List String}
    {entry reason : String} (hreport : report.entries = before ++ entry :: after)
    (hbefore : ∀ e ∈ before, c.refusal? e = none) (hentry : c.refusal? entry = some reason)
    (code : Nat) (notices : List Notice) :
    conclusion code notices (present w c o report) =
      { failure notices (.output (.refused reason)) with
        delivery := .printed (Report.textOf before) } := by
  have htake := Console.takeWhile_eq_self hbefore
  have hfind : before.findSome? c.refusal? = none := List.findSome?_eq_none_iff.mpr hbefore
  simp [present, hterminal, hreport, Console.print, List.takeWhile_append, htake,
    List.findSome?_append, hfind, hentry, conclusion]

end Present

/-! What a run reports. -/

theorem severity_of_mem_findingsIn {w : Workplace} {r : Validation.Rules} {registry : Snapshot}
    {path : Path} {f : Finding} (h : f ∈ (findingsIn w r registry path).1) : f.severity = .error := by
  unfold findingsIn at h
  split at h
  · cases h
  · obtain ⟨d, hd, rfl⟩ := List.mem_map.mp h
    exact Validation.severity_of_mem_ofText hd

theorem codeOf_reported (w : Workplace) (o : Options) (paths : List Path) :
    codeOf (reported w o paths) = if reported w o paths = [] then 0 else 1 := by
  have herror : ∀ f ∈ reported w o paths, f.severity = .error := by
    intro f hf
    obtain ⟨path, -, hmem⟩ := List.mem_flatMap.mp hf
    exact severity_of_mem_findingsIn hmem
  generalize reported w o paths = findings at herror
  cases findings with
  | nil => rfl
  | cons f rest =>
    have hf := herror f (.head _)
    simp [codeOf, hf]

/-! Runs that get to the end. -/

section Run

variable {w : Workplace} {arguments : List String} {o : Options} (c : Console)
  (ho : Options.ofArguments arguments = .ok o) (hload : (loading w o).fault? = none)

include ho hload

theorem execute_listing (hlists : o.listsSteps = true) :
    ∃ notices, execute w c arguments = conclusion 0 notices
      (present w c o (stepsReport (isColored c o) (loading w o).session.registry.definitions)) := by
  rw [loading] at hload
  simp only [execute, ho, run, hload, hlists, if_true, listSteps]
  exact ⟨_, rfl⟩

theorem execute_validating (hlists : o.listsSteps = false) {paths : List Path}
    (hpaths : documents w (configurationOf w o) o.paths = .ok paths) :
    ∃ notices, execute w c arguments = conclusion (codeOf (reported w o paths)) notices
      (present w c o (findingsReport (isColored c o) (reported w o paths))) := by
  rw [loading] at hload
  rw [configurationOf, loading] at hpaths
  simp only [execute, ho, run, hload, hlists, validate, hpaths, List.flatMap_map]
  exact ⟨_, rfl⟩

end Run

/-- A report shows every finding once, and the code tells whether there are findings. Whatever
findings there are, if any, the report for people is made of them, sorted stably by file and line. A
run for which there are a configuration, steps and documents presents the findings of its documents,
and its code is 1 if there are some and 0 if there are none. A run that lists steps presents no
findings, and its code is 0. If the report does not get out, the code is 2. -/
theorem reports_every_finding :
    (∀ (isColored : Bool) (findings : List Finding), findings ≠ [] →
      Presents isColored findings (Report.sections findings) (Report.counts findings)
        (Report.findingsEntries isColored findings)) ∧
    ∀ (w : Workplace) (c : Console) (arguments : List String) (o : Options),
      Options.ofArguments arguments = .ok o → (loading w o).fault? = none →
      let outcome := execute w c arguments
      (o.listsSteps = true →
        let report := stepsReport (isColored c o) (loading w o).session.registry.definitions
        (CanPresent w c o report →
          outcome.fault? = none ∧ outcome.code = 0 ∧ outcome.delivery = whole o report) ∧
        (¬CanPresent w c o report → outcome.code = 2)) ∧
      (o.listsSteps = false → ∀ paths, documents w (configurationOf w o) o.paths = .ok paths →
        let findings := reported w o paths
        let report := findingsReport (isColored c o) findings
        (CanPresent w c o report →
          outcome.fault? = none ∧ outcome.delivery = whole o report ∧
          (outcome.code = 1 ↔ findings ≠ []) ∧ (outcome.code = 0 ↔ findings = [])) ∧
        (¬CanPresent w c o report → outcome.code = 2)) := by
  refine ⟨fun isColored _ => Report.presents_findingsEntries isColored, ?_⟩
  intro w c arguments o ho hload outcome
  constructor
  · intro hlists report
    obtain ⟨notices, hrun⟩ := execute_listing c ho hload hlists
    refine ⟨fun hcan => ?_, fun hnot => ?_⟩
    · rw [show outcome = _ from hrun, conclusion_of_canPresent hcan]
      exact ⟨rfl, rfl, rfl⟩
    · rw [show outcome = _ from hrun, code_conclusion_of_not_canPresent hnot]
  · intro hlists paths hpaths findings report
    obtain ⟨notices, hrun⟩ := execute_validating c ho hload hlists hpaths
    rw [codeOf_reported] at hrun
    refine ⟨fun hcan => ?_, fun hnot => ?_⟩
    · rw [show outcome = _ from hrun, conclusion_of_canPresent hcan]
      refine ⟨rfl, rfl, ?_⟩
      by_cases hnone : findings = [] <;> simp [findings] at hnone <;> simp [findings, hnone]
    · rw [show outcome = _ from hrun, code_conclusion_of_not_canPresent hnot]

def samplePlace : Workplace where
  disk := [("pyproject.toml", ""), ("a.feature", "Given a\n"), ("b.feature", "\nWhen b\n")].foldl
    (fun d (name, text) => d.write [name] text.toUTF8) {}
  current := ⟨"/", []⟩

def sampleOptions : Options := { paths := [⟨"", ["b.feature"]⟩, ⟨"", ["a.feature"]⟩] }

theorem reports_every_finding_samplePlace :
    (reported samplePlace sampleOptions sampleOptions.paths).map (·.file) =
        ["b.feature", "a.feature"] ∧
      Presents true (reported samplePlace sampleOptions sampleOptions.paths)
        (Report.sections (reported samplePlace sampleOptions sampleOptions.paths))
        (Report.counts (reported samplePlace sampleOptions sampleOptions.paths))
        (Report.findingsEntries true (reported samplePlace sampleOptions sampleOptions.paths)) ∧
      (execute samplePlace { isTerminal := true } ["b.feature", "a.feature"]).code = 1 ∧
      (execute samplePlace { isTerminal := true } ["--list-steps"]).code = 0 := by
  have hfiles : (reported samplePlace sampleOptions sampleOptions.paths).map (·.file) =
      ["b.feature", "a.feature"] := by decide +kernel
  have hsome : reported samplePlace sampleOptions sampleOptions.paths ≠ [] :=
    fun h => by simp [h] at hfiles
  have hload : (loading samplePlace sampleOptions).fault? = none :=
    Option.isNone_iff_eq_none.mp (by decide +kernel)
  have hload' : (loading samplePlace { listsSteps := true }).fault? = none :=
    Option.isNone_iff_eq_none.mp (by decide +kernel)
  obtain ⟨hpresents, hruns⟩ := reports_every_finding
  have hcheck := ((hruns samplePlace { isTerminal := true } ["b.feature", "a.feature"] sampleOptions
    (by decide +kernel) hload).2 rfl sampleOptions.paths rfl).1 fun _ _ => rfl
  have hlist := ((hruns samplePlace { isTerminal := true } ["--list-steps"] { listsSteps := true }
    (by decide +kernel) hload').1 rfl).1 fun _ _ => rfl
  exact ⟨hfiles, hpresents true _ hsome, hcheck.2.2.1.mpr hsome, hlist.2.1⟩

/-- A run with findings may have another code, since its report may not get to where it is to go. -/
theorem code_of_unwritten_report :
    let o : Options :=
      { paths := [⟨"", ["a.feature"]⟩], format := .json, output? := some ⟨"", ["gone", "out.json"]⟩ }
    Options.ofArguments ["--format", "json", "-o", "gone/out.json", "a.feature"] = .ok o ∧
      (loading samplePlace o).fault? = none ∧
      documents samplePlace (configurationOf samplePlace o) o.paths = .ok o.paths ∧
      reported samplePlace o o.paths ≠ [] ∧
      (execute samplePlace {}
        ["--format", "json", "-o", "gone/out.json", "a.feature"]).code = 2 := by
  intro o
  have hsome : reported samplePlace o o.paths ≠ [] := by
    have hfiles : (reported samplePlace o o.paths).map (·.file) = ["a.feature"] := by decide +kernel
    exact fun h => by simp [h] at hfiles
  exact ⟨by decide +kernel, Option.isNone_iff_eq_none.mp (by decide +kernel), rfl, hsome,
    by decide +kernel⟩

end Cli
end ScenarioCheck
