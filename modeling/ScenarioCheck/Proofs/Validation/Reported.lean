import ScenarioCheck.Proofs.Document.Malformed
import ScenarioCheck.Proofs.Validation.Outcome

/-! What is reported for a text. A text that cannot be split has a warning and nothing else; one that
can be has no warning, and its findings stand on its steps, at most one on each. -/
namespace ScenarioCheck.Validation

open Step (Kind Definition)
open Document (StepLine Feature Malformed QuotesStand featureHeaders quotes)

/-! Texts that cannot be split. -/

section Malformed

variable (r : Rules) (s : Snapshot) {text uri : String}

theorem ofText_of_error {fault : Document.Fault} (h : Document.ofText text uri = .error fault) :
    ofText r s text uri = {
      warnings := ["Could not parse " ++ (if uri.isEmpty then "document" else uri) ++ ": " ++
        fault.message] } := by
  unfold ofText
  rw [h]

theorem ofText_of_ok {f : Feature} (h : Document.ofText text uri = .ok f) :
    ofText r s text uri = { traces := traces s f, diagnostics := diagnostics r (traces s f) } := by
  unfold ofText
  rw [h]
  exact validate_eq r s f

/-- A text is refused for what its visible feature headers and its quoted texts are. Then there is a
warning with the line at fault, and nothing else; otherwise there is no warning. -/
theorem ofText_refuses_malformed (text uri : String) :
    QuotesStand text ∧
      (∀ fault, Document.ofText text uri = .error fault ↔ Malformed text fault) ∧
      ((∃ fault, Document.ofText text uri = .error fault) ↔
        2 ≤ (featureHeaders text).length ∨ ∃ q ∈ (quotes text).getLast?, q.closed? = none) ∧
      (∀ fault, Document.ofText text uri = .error fault → ofText r s text uri = {
        warnings := ["Could not parse " ++ (if uri.isEmpty then "document" else uri) ++ ": " ++
          fault.message] }) ∧
      ((∀ fault, Document.ofText text uri ≠ .error fault) → (ofText r s text uri).warnings = []) := by
  have hiff := Document.ofText_eq_error_iff text uri
  refine ⟨Document.quotesStand text, hiff, ?_, fun fault h => ofText_of_error r s h, fun hnone => ?_⟩
  · simp only [hiff]
    exact Document.exists_malformed_iff text
  · cases h : Document.ofText text uri with
    | error fault => exact absurd h (hnone fault)
    | ok f => rw [ofText_of_ok r s h]

end Malformed

/-! Findings on steps. -/

def Outcome.Reports (o : Outcome) (step : StepLine) (code : Code) : Prop :=
  ∃ x ∈ o.diagnostics, x.range = rangeOf step ∧ x.code = code

theorem Trace.exists_code_iff {t : Trace} :
    ((∃ x, t.diagnostic? = some x ∧ x.code = .undefinedStep) ↔ t.found.length = 0) ∧
      ((∃ x, t.diagnostic? = some x ∧ x.code = .ambiguousStep) ↔ 2 ≤ t.found.length) := by
  unfold diagnostic?
  match t.found with
  | [] => simp [Diagnostic.undefinedStep]
  | [d] => cases h : missingFrom d t.before <;> simp [h, Diagnostic.missingDependency]
  | _ :: _ :: _ => simp [Diagnostic.ambiguousStep]

@[simp] theorem mem_diagnostics_rules {r : Rules} {walk : List Trace} {x : Diagnostic} :
    x ∈ diagnostics r walk ↔ r.InForce x.code ∧ ∃ t ∈ walk, t.diagnostic? = some x := by
  rw [diagnostics_eq_filter, List.mem_filter, mem_diagnostics, decide_eq_true_iff, and_comm]

section Accepted

variable {text uri : String} {f : Feature} (hf : Document.ofText text uri = .ok f)
include hf

theorem pairwise_diagnostics (r : Rules) (s : Snapshot) :
    (diagnostics r (traces s f)).Pairwise (·.range.startLine < ·.range.startLine) := by
  unfold diagnostics
  apply List.Pairwise.filter
  apply (pairwise_traces hf s).filterMap
  intro t t' hlt x hx x' hx'
  rw [Trace.range_of_diagnostic? hx, Trace.range_of_diagnostic? hx']
  exact Int.ofNat_lt.mpr hlt

theorem reports_iff (r : Rules) (s : Snapshot) (site : Site f) {kind : Kind}
    (hk : site.step.kind? = some kind) (code : Code) :
    (ofText r s text uri).Reports site.step code ↔
      r.InForce code ∧ ∃ x, (site.trace s kind).diagnostic? = some x ∧ x.code = code := by
  rw [ofText_of_ok r s hf]
  constructor
  · rintro ⟨x, hx, hrange, rfl⟩
    obtain ⟨hforce, t, ht, htx⟩ := mem_diagnostics_rules.mp hx
    rw [Trace.range_of_diagnostic? htx] at hrange
    have hline := Int.ofNat.inj (congrArg Range.startLine hrange)
    exact ⟨hforce, x, site.eq_trace hf s hk ht hline ▸ htx, rfl⟩
  · rintro ⟨hforce, x, hx, rfl⟩
    have hmem := mem_diagnostics_rules.mpr ⟨hforce, _, site.trace_mem s hk, hx⟩
    exact ⟨x, hmem, Trace.range_of_diagnostic? hx, rfl⟩

theorem exists_step_of_mem_diagnostics (r : Rules) (s : Snapshot) {x : Diagnostic}
    (hx : x ∈ (ofText r s text uri).diagnostics) :
    ∃ step ∈ f.steps, step.kind?.isSome ∧ x.range = rangeOf step := by
  rw [ofText_of_ok r s hf] at hx
  obtain ⟨-, t, ht, htx⟩ := mem_diagnostics_rules.mp hx
  have hstep := List.mem_map_of_mem (f := (·.step)) ht
  rw [traces, walkScenarios_steps, List.mem_filter] at hstep
  exact ⟨t.step, hstep.1, hstep.2, Trace.range_of_diagnostic? htx⟩

theorem startLine_ne_of_kind?_eq_none (r : Rules) (s : Snapshot) {step : StepLine}
    (hs : step ∈ f.steps) (hk : step.kind? = none) {x : Diagnostic}
    (hx : x ∈ (ofText r s text uri).diagnostics) : x.range.startLine ≠ step.line := by
  intro hline
  obtain ⟨other, hother, hkind, hrange⟩ := exists_step_of_mem_diagnostics hf r s hx
  rw [hrange] at hline
  have hnodup := (Document.pairwise_steps hf).imp Nat.ne_of_lt
  have heq := List.inj_on_of_nodup_map hnodup hother hs (Int.ofNat.inj hline)
  simp [heq, hk] at hkind

/-- Steps stand on their lines as they say, and findings on steps, in the order of the lines and at
most one on each. A step with a kind is undefined if no definition matches and ambiguous if several
do; nothing is reported at a step without one. -/
theorem ofText_points_at_steps (r : Rules) (s : Snapshot) :
    let o := ofText r s text uri
    (∀ step ∈ f.steps,
        ∃ raw, (Text.splitLines text.toList)[step.line]? = some raw ∧ step.StandsOn raw) ∧
      (o.diagnostics.map (·.range.startLine)).Pairwise (· < ·) ∧
      (∀ x ∈ o.diagnostics, ∃ step ∈ f.steps, x.range = rangeOf step) ∧
      (∀ step ∈ f.steps, ∀ kind, step.kind? = some kind →
        let n := s.definitions.countP fun d => d.kind == kind && Pattern.accepts d.pattern step.text
        (o.Reports step .undefinedStep ↔ r.InForce .undefinedStep ∧ n = 0) ∧
          (o.Reports step .ambiguousStep ↔ r.InForce .ambiguousStep ∧ 2 ≤ n)) ∧
      ∀ step ∈ f.steps, step.kind? = none → ∀ x ∈ o.diagnostics, x.range.startLine ≠ step.line := by
  intro o
  refine ⟨fun step hs => Document.standsOn_of_mem_steps hf hs, ?_, ?_, ?_, ?_⟩
  · rw [List.pairwise_map, show o = _ from ofText_of_ok r s hf]
    exact pairwise_diagnostics hf r s
  · intro x hx
    obtain ⟨step, hs, -, hrange⟩ := exists_step_of_mem_diagnostics hf r s hx
    exact ⟨step, hs, hrange⟩
  · intro step hs kind hk n
    obtain ⟨site, rfl⟩ := Site.exists_step_eq hs
    have hn : (site.trace s kind).found.length = n := List.countP_eq_length_filter.symm
    rw [reports_iff hf r s site hk, reports_iff hf r s site hk, ← hn]
    exact ⟨and_congr_right' Trace.exists_code_iff.1, and_congr_right' Trace.exists_code_iff.2⟩
  · exact fun step hs hk x hx => startLine_ne_of_kind?_eq_none hf r s hs hk hx

end Accepted

theorem ofText_points_at_steps_sampleText :
    let s : Snapshot := { definitions := [⟨"b", .given, ⟨"", 2, 1⟩, [], none⟩,
      ⟨"b", .given, ⟨"", 3, 1⟩, [], none⟩] }
    Document.ofText sampleText = .ok sampleFeature ∧
      (ofText {} s sampleText).Reports (sampleStep .given "a" 1) .undefinedStep ∧
        (ofText {} s sampleText).Reports (sampleStep .given "b" 3) .ambiguousStep := by
  intro s
  have h := (ofText_points_at_steps ofText_sampleText {} s).2.2.2.1
  refine ⟨ofText_sampleText, ?_, ?_⟩
  · exact (h _ (by decide) .given rfl).1.mpr (by decide +kernel)
  · exact (h _ (by decide) .given rfl).2.mpr (by decide +kernel)

end ScenarioCheck.Validation
