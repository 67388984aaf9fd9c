import ScenarioCheck.Source.Syntax

/-! Mappings written out with texts as keys. -/
namespace ScenarioCheck.Chain

open Source

def text? : Expr → Option String
  | .constant _ (.text s) => some s
  | _ => none

def textEntries? : List (Option Expr × Expr) → Option (List (String × Expr))
  | [] => some []
  | (key?, value) :: rest => do
    let key ← key?.bind text?
    return (key, value) :: (← textEntries? rest)

/-- The arguments given by name; none if a mapping is spread over them. -/
def namedArguments? : List (Keyword Expr) → Option (List (String × Expr))
  | [] => some []
  | k :: rest => do
    let name ← k.name?
    return (name, k.value) :: (← namedArguments? rest)

end ScenarioCheck.Chain
