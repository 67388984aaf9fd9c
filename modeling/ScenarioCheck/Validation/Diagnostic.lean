import ScenarioCheck.Document.Basic
import ScenarioCheck.Registry.Snapshot

/-! Findings of the validator. -/
namespace ScenarioCheck.Validation

open Step (Kind Definition Location)

structure Range where
  startLine : Int
  startCharacter : Int
  endLine : Int
  endCharacter : Int
  deriving DecidableEq, Inhabited, Repr

inductive Severity where
  | error
  | warning
  | info
  deriving DecidableEq, Inhabited, Repr

namespace Severity

def name : Severity → String
  | error => "error"
  | warning => "warning"
  | info => "info"

def ofName? (text : String) : Option Severity := [error, warning, info].find? (·.name == text)

end Severity

inductive Code where
  | undefinedStep
  | missingDependency
  | ambiguousStep
  deriving DecidableEq, Inhabited, Repr

def Code.name : Code → String
  | undefinedStep => "undefined-step"
  | missingDependency => "missing-dependency"
  | ambiguousStep => "ambiguous-step"

inductive Detail where
  | undefinedStep (kind : Kind) (text : String)
  | missing (names : List (Kind × List String)) (definition : Location)
  | ambiguous (candidates : List Location)
  deriving DecidableEq, Inhabited, Repr

structure Diagnostic where
  range : Range
  message : String
  code : Code
  severity : Severity := .error
  detail : Detail
  deriving DecidableEq, Inhabited, Repr

/-- The line of a step from its word to its last character that is not blank. -/
def rangeOf (s : Document.StepLine) : Range :=
  ⟨s.line, s.column, s.line, s.endColumn⟩

def missingFrom (d : Definition) (state : List String) : List (Kind × List String) :=
  d.required.filterMap fun (phase, names) =>
    let absent := names.filter (· ∉ state)
    if absent.isEmpty then none else some (phase, absent)

/-- The text of a finding about missing properties: one line per phase. -/
def missingMessage (missing : List (Kind × List String)) : String :=
  "\n".intercalate
    (["Scenario state is missing required properties.\n"] ++
      missing.map (fun (phase, names) => phase.title ++ ": " ++ ", ".intercalate names) ++
      ["\nThese properties must be set by previous steps, " ++
        "but no steps in this scenario set them."])

def ambiguousMessage (text : String) (found : List Definition) : String :=
  "Step \"" ++ text ++ "\" matches " ++ toString found.length ++ " step definitions:\n" ++
    "\n".intercalate (found.map fun d => d.pattern ++ " (" ++ d.location.shown ++ ")")

namespace Diagnostic

def undefinedStep (step : Document.StepLine) (kind : Kind) : Diagnostic where
  range := rangeOf step
  message := "No step definition found for: \"" ++ step.text ++ "\""
  code := .undefinedStep
  detail := .undefinedStep kind step.text

def missingDependency (step : Document.StepLine) (d : Definition)
    (missing : List (Kind × List String)) : Diagnostic where
  range := rangeOf step
  message := missingMessage missing
  code := .missingDependency
  detail := .missing missing d.location

def ambiguousStep (step : Document.StepLine) (found : List Definition) : Diagnostic where
  range := rangeOf step
  message := ambiguousMessage step.text found
  code := .ambiguousStep
  detail := .ambiguous (found.map (·.location))

end Diagnostic

end ScenarioCheck.Validation
