import ScenarioCheck.Text.Blank
import ScenarioCheck.Text.Quoted

/-! The three kinds of steps, which are also the three phases of a scenario's state. -/
namespace ScenarioCheck.Step

/-- Given, when, then: in this order. -/
inductive Kind where
  | given
  | when
  | then
  deriving DecidableEq, Inhabited, Repr

namespace Kind

def all : List Kind := [.given, .when, .then]

def name : Kind → String
  | .given => "given"
  | .when => "when"
  | .then => "then"

def title : Kind → String
  | .given => "Given"
  | .when => "When"
  | .then => "Then"

def rank : Kind → Nat
  | .given => 0
  | .when => 1
  | .then => 2

def ofName? (text : String) : Option Kind := all.find? (·.name == text)

/-- The kind of a keyword: white space around it and case do not matter. -/
def ofKeyword? (keyword : String) : Option Kind :=
  ofName? (Text.lowerAscii (Text.trimmed keyword))

/-- A step may depend on its own phase and the earlier ones. -/
def mayDependOn (step phase : Kind) : Bool := phase.rank ≤ step.rank

end Kind

inductive Requirement where
  | required
  | optional
  deriving DecidableEq, Inhabited, Repr

namespace Requirement

def name : Requirement → String
  | .required => "required"
  | .optional => "optional"

def ofName? (text : String) : Option Requirement := [required, optional].find? (·.name == text)

end Requirement

inductive BadName where
  | kind (text : String)
  | requirement (text : String)
  | severity (text : String)

def BadName.message : BadName → String
  | .kind text => Text.quoted text ++ " is not a valid StepKind"
  | .requirement text => Text.quoted text ++ " is not a valid Requirement"
  | .severity text => Text.quoted text ++ " is not a valid DiagnosticSeverity"

/-- The properties a step declares, per phase and in the order of declaration. -/
abbrev Dependencies := List (Kind × List (String × Requirement))

end ScenarioCheck.Step
