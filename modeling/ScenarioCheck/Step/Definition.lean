import ScenarioCheck.Ordered
import ScenarioCheck.Step.Kind

/-! Step definitions: what is known about a step without running it. -/
namespace ScenarioCheck.Step

/-- Where a step is declared; lines and columns count from 1. -/
structure Location where
  file : String
  line : Int
  column : Int
  deriving DecidableEq, Inhabited, Repr

def Location.shown (l : Location) : String :=
  l.file ++ ":" ++ toString l.line ++ ":" ++ toString l.column

/-- The type of a produced property, and whether it may be missing. -/
structure Shape where
  type : String
  isOptional : Bool := false
  deriving DecidableEq, Inhabited, Repr

/-- A declared step. `produces` is `none` if the state it adds is not known. -/
structure Definition where
  pattern : String
  kind : Kind
  location : Location
  dependencies : Dependencies := []
  produces : Option (List (String × Shape)) := none
  deriving DecidableEq, Inhabited, Repr

namespace Definition

def producedNames (d : Definition) : List String :=
  match d.produces with
  | some shapes => Ordered.keys shapes
  | none => []

def requiredIn (d : Definition) (phase : Kind) : List String :=
  ((Ordered.get? phase d.dependencies).getD []).filterMap fun (name, requirement) =>
    if requirement = .required then some name else none

/-- The required names per phase, phases in order, phases without any left out. -/
def required (d : Definition) : List (Kind × List String) :=
  Kind.all.filterMap fun phase =>
    let names := d.requiredIn phase
    if names.isEmpty then none else some (phase, names)

def brief (d : Definition) : String :=
  d.kind.name ++ " " ++ d.pattern ++ " @ " ++ d.location.shown

end Definition
end ScenarioCheck.Step
