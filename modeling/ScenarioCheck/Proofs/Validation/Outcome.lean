import ScenarioCheck.Proofs.Validation.Site
import ScenarioCheck.Validation.Outcome

/-! The pass over a document without its course: it traces the walk, whatever the rules are, and
reports the findings along the walk whose rules are in force. Hence a rule that is switched off takes
its own findings away and leaves everything else as it is. -/
namespace ScenarioCheck.Validation

open Step (Kind Definition)
open Document (StepLine Scenario Feature)

/-- A rule is in force unless it is named among the disabled ones. Ambiguity has a switch besides. -/
def Rules.InForce (r : Rules) (code : Code) : Prop :=
  code.name ∉ r.disabled ∧ (code = .ambiguousStep → r.reportAmbiguous = true)

instance (r : Rules) (code : Code) : Decidable (r.InForce code) :=
  inferInstanceAs (Decidable (_ ∧ _))

@[simp] theorem Rules.enables_iff {r : Rules} {code : Code} :
    r.enables code = true ↔ r.InForce code := by
  unfold enables InForce isDisabled
  cases code <;> simp

@[simp] theorem diagnostics_cons (r : Rules) (t : Trace) (walk : List Trace) :
    diagnostics r (t :: walk) =
      (t.diagnostic?.filter fun x => r.enables x.code).toList ++ diagnostics r walk := by
  unfold diagnostics
  cases ht : t.diagnostic? with
  | none => simp [ht]
  | some x =>
    rw [List.filterMap_cons_some ht, List.filter_cons, Option.filter_some]
    cases hx : r.enables x.code <;> simp

@[simp] theorem diagnostics_append (r : Rules) (walk walk' : List Trace) :
    diagnostics r (walk ++ walk') = diagnostics r walk ++ diagnostics r walk' := by
  simp [diagnostics]

variable (r : Rules) (s : Snapshot)

theorem judge_eq (step : StepLine) (kind : Kind) (found : List Definition) (state : Names) :
    judge r step kind found state =
      ((Trace.diagnostic? ⟨step, kind, found, state, stateAfter found state⟩).filter
        fun x => r.enables x.code, stateAfter found state) := by
  unfold judge Trace.diagnostic?
  match found with
  | [] => rfl
  | [d] =>
    -- whether something is missing matters to the finding only
    cases hmissing : missingFrom d state with
    | nil => simp [stateAfter, hmissing]
    | cons e rest =>
      simp only [hmissing, List.isEmpty_cons, Bool.not_false, Bool.true_and]
      rfl
  | d :: d' :: rest =>
    have hcode : (Diagnostic.ambiguousStep step (d :: d' :: rest)).code = .ambiguousStep := rfl
    simp only [Option.filter_some, hcode, stateAfter]
    split <;> rfl

@[simp] theorem foldl_visit (p : Pass) (steps : List StepLine) :
    steps.foldl (Pass.visit r s) p =
      { traces := p.traces ++ (walkSteps s p.state steps).1
        diagnostics := p.diagnostics ++ diagnostics r (walkSteps s p.state steps).1
        state := (walkSteps s p.state steps).2 } := by
  induction steps generalizing p with
  | nil => simp [walkSteps, diagnostics]
  | cons step rest ih =>
    rw [List.foldl_cons, ih]
    cases hk : step.kind? with
    | none => simp [Pass.visit, hk]
    | some kind => simp [Pass.visit, hk, judge_eq]

theorem enter_eq (p : Pass) (backgrounds : Backgrounds) (c : Scenario) :
    Pass.enter r s (p, backgrounds) c =
      let walked := walkSteps s (startOf backgrounds c.rule?) c.steps
      ({ traces := p.traces ++ walked.1
         diagnostics := p.diagnostics ++ diagnostics r walked.1
         state := walked.2 }, learn s backgrounds c) := by
  simp only [Pass.enter, foldl_visit, learn]

theorem foldl_enter (p : Pass) (backgrounds : Backgrounds) (cs : List Scenario) :
    let walk := walkScenarios s backgrounds cs
    let p' := (cs.foldl (Pass.enter r s) (p, backgrounds)).1
    p'.traces = p.traces ++ walk ∧ p'.diagnostics = p.diagnostics ++ diagnostics r walk := by
  induction cs generalizing p backgrounds with
  | nil => simp [walkScenarios, diagnostics]
  | cons c rest ih =>
    have hrest := ih (Pass.enter r s (p, backgrounds) c).1 (learn s backgrounds c)
    rw [enter_eq] at hrest
    simpa [enter_eq] using hrest

theorem validate_eq (f : Feature) :
    validate r s f = { traces := traces s f, diagnostics := diagnostics r (traces s f) } := by
  have h := foldl_enter r s {} [] f.scenarios
  unfold validate traces
  simpa using h

theorem diagnostics_eq_filter (walk : List Trace) :
    diagnostics r walk = (diagnostics {} walk).filter fun x => decide (r.InForce x.code) := by
  unfold diagnostics
  rw [List.filter_filter]
  apply List.filter_congr
  intro x _
  rw [Rules.enables_default, Bool.and_true, Bool.eq_iff_iff, Rules.enables_iff, decide_eq_true_iff]

theorem ofText_eq (text uri : String) :
    (ofText r s text uri).traces = (ofText {} s text uri).traces ∧
      (ofText r s text uri).warnings = (ofText {} s text uri).warnings ∧
        (ofText r s text uri).diagnostics =
          (ofText {} s text uri).diagnostics.filter fun x => decide (r.InForce x.code) := by
  unfold ofText
  cases Document.ofText text uri with
  | error fault => simp
  | ok f => simp [validate_eq, ← diagnostics_eq_filter]

/-- Rules only filter. The traces of a text are those with every rule in force, and its findings are
those with every rule in force whose own rule is. So the findings of one rule do not depend on the
others. -/
theorem rules_only_filter (text uri : String) :
    (ofText r s text uri).traces = (ofText {} s text uri).traces ∧
      (ofText r s text uri).diagnostics =
        (ofText {} s text uri).diagnostics.filter (fun x => decide (r.InForce x.code)) ∧
      ∀ (r' : Rules) (code : Code), (r.InForce code ↔ r'.InForce code) →
        (ofText r s text uri).diagnostics.filter (·.code = code) =
          (ofText r' s text uri).diagnostics.filter (·.code = code) := by
  have h := ofText_eq r s text uri
  refine ⟨h.1, h.2.2, ?_⟩
  intro r' code hcode
  rw [h.2.2, (ofText_eq r' s text uri).2.2, List.filter_filter, List.filter_filter]
  apply List.filter_congr
  intro x _
  by_cases hx : x.code = code
  · simp [hx, hcode]
  · simp [hx]

theorem rules_only_filter_sampleText :
    let r : Rules := { disabled := ["undefined-step"], reportAmbiguous := false }
    let s : Snapshot := { definitions := sampleSnapshot.definitions.tail }
    (r.InForce .missingDependency ↔ ({} : Rules).InForce .missingDependency) ∧
      (ofText {} s sampleText).diagnostics.map (·.code) = [.undefinedStep, .missingDependency] ∧
        (ofText r s sampleText).diagnostics.filter (·.code = .missingDependency) =
          (ofText {} s sampleText).diagnostics.filter (·.code = .missingDependency) := by
  intro r s
  have hforce : r.InForce .missingDependency ↔ ({} : Rules).InForce .missingDependency := by decide
  have hcodes : (ofText {} s sampleText).diagnostics.map (·.code) =
      [.undefinedStep, .missingDependency] := by decide +kernel
  exact ⟨hforce, hcodes, (rules_only_filter r s sampleText "").2.2 {} .missingDependency hforce⟩

end ScenarioCheck.Validation
