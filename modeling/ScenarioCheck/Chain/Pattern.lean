import ScenarioCheck.Chain.Mapping
import ScenarioCheck.Chain.Resolver
import ScenarioCheck.Source.Printer

/-! The pattern of a declared step, as the argument of its builder gives it. -/
namespace ScenarioCheck.Chain

open Source Scope

def templateParts? : List Expr → Option (List String)
  | [] => some []
  | .formatted _ value _ _ :: rest => do
    return ("\x7b" ++ value.shown ++ "\x7d") :: (← templateParts? rest)
  | e :: rest => do
    return (← text? e) :: (← templateParts? rest)

def template? : Expr → Option String
  | .joined _ parts => (templateParts? parts).map String.join
  | e => text? e

def firstReturn? (body : List Stmt) : Option Expr :=
  (body.findSome? fun
    | .return _ value? => some value?
    | _ => none).join

/-- The pattern is the argument itself, or what the function it names returns. -/
def pattern? (r : Resolver) (argument : Located Expr) : Option String :=
  (template? argument.value).or
    ((r.function? argument).bind fun
      | .function f => (firstReturn? f.value.body).bind template?
      | .lambda l => template? l.value.body
      | .empty => none)

end ScenarioCheck.Chain
