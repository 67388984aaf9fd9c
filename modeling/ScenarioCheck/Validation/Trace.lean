import ScenarioCheck.Validation.Diagnostic

/-! Validation of documents. Each scenario is walked with the names of the properties that are set;
what a background sets is where the scenarios after it start. -/
namespace ScenarioCheck.Validation

open Step (Kind Definition)
open Document (StepLine Scenario Feature)

abbrev Names := List String

structure Trace where
  step : StepLine
  kind : Kind
  found : List Definition
  before : Names
  after : Names

namespace Trace

/-- The finding at a step, if there is one: no definition, several of them, or a single one that
requires more than is set. -/
def diagnostic? (t : Trace) : Option Diagnostic :=
  match t.found with
  | [] => some (.undefinedStep t.step t.kind)
  | [d] =>
    match missingFrom d t.before with
    | [] => none
    | missing => some (.missingDependency t.step d missing)
  | found => some (.ambiguousStep t.step found)

end Trace

def addNames (state names : Names) : Names := Snapshot.firsts (state ++ names)

/-- The names set after a step: what its definition produces is added, if there is exactly one. -/
def stateAfter (found : List Definition) (state : Names) : Names :=
  match found with
  | [d] => addNames state d.producedNames
  | _ => state

/-- Walks the steps of a scenario. Continuations of nothing are skipped. -/
def walkSteps (s : Snapshot) (state : Names) : List StepLine → List Trace × Names
  | [] => ([], state)
  | step :: rest =>
    match step.kind? with
    | none => walkSteps s state rest
    | some kind =>
      let found := s.matching kind step.text
      let after := stateAfter found state
      let (traces, final) := walkSteps s after rest
      (⟨step, kind, found, state, after⟩ :: traces, final)

/-- The names set after the backgrounds seen so far, by the line of the enclosing rule. -/
abbrev Backgrounds := List (Option Nat × Names)

/-- Where a scenario starts: after the background of its rule, else of the document. -/
def startOf (backgrounds : Backgrounds) (rule? : Option Nat) : Names :=
  match Ordered.get? rule? backgrounds with
  | some state => state
  | none => (Ordered.get? none backgrounds).getD []

def walkScenarios (s : Snapshot) (backgrounds : Backgrounds) : List Scenario → List Trace
  | [] => []
  | scenario :: rest =>
    let (traces, state) := walkSteps s (startOf backgrounds scenario.rule?) scenario.steps
    let backgrounds' :=
      if scenario.isBackground then Ordered.put scenario.rule? state backgrounds else backgrounds
    traces ++ walkScenarios s backgrounds' rest

def traces (s : Snapshot) (f : Feature) : List Trace := walkScenarios s [] f.scenarios

structure Rules where
  disabled : List String := []
  reportAmbiguous : Bool := true
  deriving Inhabited

namespace Rules

def isDisabled (r : Rules) (rule : String) : Bool := r.disabled.contains rule

def enables (r : Rules) (code : Code) : Bool :=
  !r.isDisabled code.name && (code != .ambiguousStep || r.reportAmbiguous)

end Rules

def diagnostics (r : Rules) (walk : List Trace) : List Diagnostic :=
  (walk.filterMap Trace.diagnostic?).filter fun d => r.enables d.code

end ScenarioCheck.Validation
