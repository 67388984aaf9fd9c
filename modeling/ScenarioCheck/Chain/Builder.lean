import ScenarioCheck.Chain.Origin
import ScenarioCheck.Step.Kind

/-! Which calls start the declaration of a step. -/
namespace ScenarioCheck.Chain

open Source Scope Infer Step

def builderKind? (name : String) : Option Kind :=
  match name with
  | "GivenBuilder" => some .given
  | "WhenBuilder" => some .when
  | "ThenBuilder" => some .then
  | _ => none

def definition? : Value → Option (String × String)
  | .callable (.function f) => some (f.value.name, f.site.home.name)
  | .property f => some (f.value.name, f.site.home.name)
  | .class c => some (c.value.name, c.site.home.name)
  | _ => none

def kindOf? (modules : List String) (name module : String) : Option Kind :=
  (builderKind? name).filter fun _ => ModuleName.isWithin module modules

/-- The kind of the steps that a called name or attribute declares. A definition that is found
decides; else the import that bound the name does. -/
def calledKind? (r : Resolver) (modules : List String) (callee : Located Expr) : Option Kind :=
  match callee.value with
  | .name .. | .attribute .. =>
    match (r.infer? callee).bind definition? with
    | some (name, module) => kindOf? modules name module
    | none => (origin? r callee).bind fun o => kindOf? modules o.name o.module
  | _ => none

end ScenarioCheck.Chain
