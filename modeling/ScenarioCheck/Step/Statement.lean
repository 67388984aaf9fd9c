import ScenarioCheck.State.Value

/-! Statements of steps: a text, or a template over the values a step captures. -/
namespace ScenarioCheck.Step

/-- A parameter of a template, with the text of its default. A collecting one takes all arguments
from its position on. -/
inductive Parameter where
  | single (name : String) (default? : Option String)
  | collecting (name : String)
  deriving DecidableEq

def Parameter.isCollecting : Parameter → Bool
  | collecting _ => true
  | single .. => false

/-- A part of a template: fixed text, or the text of the parameter at a position. -/
inductive Part where
  | text (s : String)
  | parameter (index : Nat)

inductive Statement where
  | text (s : String)
  | template (parameters : List Parameter) (parts : List Part)

namespace Statement

/-- What stands for every captured value when a template is written out as a pattern. -/
def argumentSlot : String := "\x7bstring\x7d"

/-- The text of a parameter when there is one argument per parameter, each the argument slot.
Parameters after a collecting one get no argument and keep their default. -/
def parameterText (parameters : List Parameter) (index : Nat) : String :=
  match parameters[index]? with
  | some (.collecting _) =>
    (State.Value.tuple (List.replicate (parameters.length - index) (.text argumentSlot))).shown
  | some (.single _ default?) =>
    if (parameters.take index).any Parameter.isCollecting then default?.getD argumentSlot
    else argumentSlot
  | none => argumentSlot

/-- The pattern of a statement: one argument slot for each use of a parameter. -/
def pattern : Statement → String
  | .text s => s
  | .template parameters parts =>
    parts.foldl (fun acc part =>
      acc ++ match part with
        | .text s => s
        | .parameter index => parameterText parameters index) ""

end Statement
end ScenarioCheck.Step
