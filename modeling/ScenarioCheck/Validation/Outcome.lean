import ScenarioCheck.Validation.Trace

/-! The validation of a document in one pass. At each step the pass decides what is reported under
the rules in force and which names are set from there on. -/
namespace ScenarioCheck.Validation

open Step (Kind Definition)
open Document (StepLine Scenario Feature)

/-- What is reported at a step, and the names set after it. A finding that is switched off is left
out; what is set does not ask for it. -/
def judge (r : Rules) (step : StepLine) (kind : Kind) (found : List Definition) (state : Names) :
    Option Diagnostic × Names :=
  match found with
  | [] => (if r.enables .undefinedStep then some (.undefinedStep step kind) else none, state)
  | [d] =>
    let missing := missingFrom d state
    (if !missing.isEmpty && r.enables .missingDependency then
      some (.missingDependency step d missing) else none,
      addNames state d.producedNames)
  | found =>
    if r.enables .ambiguousStep then (some (.ambiguousStep step found), state) else (none, state)

structure Pass where
  traces : List Trace := []
  diagnostics : List Diagnostic := []
  state : Names := []

namespace Pass

/-- Goes over one step. Continuations of nothing are skipped. -/
def visit (r : Rules) (s : Snapshot) (p : Pass) (step : StepLine) : Pass :=
  match step.kind? with
  | none => p
  | some kind =>
    let found := s.matching kind step.text
    let (report?, after) := judge r step kind found p.state
    { traces := p.traces ++ [⟨step, kind, found, p.state, after⟩]
      diagnostics := p.diagnostics ++ report?.toList
      state := after }

/-- Goes over one scenario from where it starts. A background is remembered with what it leaves. -/
def enter (r : Rules) (s : Snapshot) : Pass × Backgrounds → Scenario → Pass × Backgrounds
  | (p, backgrounds), scenario =>
    let p := scenario.steps.foldl (visit r s) { p with state := startOf backgrounds scenario.rule? }
    (p, if scenario.isBackground then Ordered.put scenario.rule? p.state backgrounds
      else backgrounds)

end Pass

structure Outcome where
  traces : List Trace := []
  diagnostics : List Diagnostic := []
  warnings : List String := []

def validate (r : Rules) (s : Snapshot) (f : Feature) : Outcome :=
  let (p, _) := f.scenarios.foldl (Pass.enter r s) ({}, [])
  { traces := p.traces, diagnostics := p.diagnostics }

/-- Validates a text. One that cannot be split has no findings. -/
def ofText (r : Rules) (s : Snapshot) (text : String) (uri : String := "") : Outcome :=
  match Document.ofText text uri with
  | .ok feature => validate r s feature
  | .error fault =>
    let name := if uri.isEmpty then "document" else uri
    { warnings := ["Could not parse " ++ name ++ ": " ++ fault.message] }

end ScenarioCheck.Validation
