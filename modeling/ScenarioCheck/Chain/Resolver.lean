import ScenarioCheck.Infer.Expression

/-! What a chain asks about the expressions in it. -/
namespace ScenarioCheck.Chain

open Source Scope Infer

structure Resolver where
  infer? : Located Expr → Option Value
  ancestors : Located ClassDecl → List (Located ClassDecl)
  lookup : Site → String → List Binding

def Resolver.ofLibrary (lib : Library) : Resolver where
  infer? := lib.infer?
  ancestors := lib.ancestors
  lookup := lib.lookup

/-- A function as far as a chain needs it: a property counts as a function without a body. -/
inductive Body where
  | function (f : Located Function)
  | lambda (l : Located Lambda)
  | empty

def Body.ofValue? : Value → Option Body
  | .callable (.function f) => some (.function f)
  | .callable (.lambda l) => some (.lambda l)
  | .property _ => some .empty
  | _ => none

def Resolver.function? (r : Resolver) (e : Located Expr) : Option Body :=
  match e.value with
  | .lambda p parameters body => some (.lambda ⟨e.site, ⟨p, parameters, body⟩⟩)
  | .name .. | .attribute .. => (r.infer? e).bind Body.ofValue?
  | _ => none

end ScenarioCheck.Chain
