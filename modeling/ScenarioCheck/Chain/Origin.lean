import ScenarioCheck.Chain.Resolver
import ScenarioCheck.Project.ModuleName

/-! Where a name was imported from, told by the import statements alone: the modules themselves need
not exist. -/
namespace ScenarioCheck.Chain

open Source Scope

structure Origin where
  module : String
  name : String
  deriving DecidableEq, Inhabited, Repr

/-- The first so many of some components; a negative number leaves out so many at the end. -/
def leading (parts : List String) (n : Int) : List String :=
  if n < 0 then parts.take (parts.length - n.natAbs) else parts.take n.toNat

/-- The module that a relative import means; the level counts leading dots. -/
def relativeModule (home : Module) (level : Nat) (module : String) : String :=
  let parts := ModuleName.components home.name
  let package := if home.isPackage then parts else parts.dropLast
  let kept := if level > 1 then leading package (package.length - (level - 1 : Nat)) else package
  ".".intercalate (kept.filter (· != "") ++ (if module.isEmpty then [] else [module]))

/-- Of several names bound by one statement the first one speaks for it. -/
def speaker (all : List Binding) (b : Binding) : Binding :=
  (all.find? fun c => c.site.place == b.site.place).getD b

def importedModule? (all : List Binding) : Option String :=
  all.reverse.findSome? fun b => match (speaker all b).origin with
    | .module name => some name
    | _ => none

/-- Names are followed through so many assignments. -/
def maxRebindings : Nat := 5

/-- The origin of a name, or of an attribute of an imported module. Assignments of names are
followed, so many at most. -/
def originFrom (r : Resolver) (fuel : Nat) (e : Located Expr) : Option Origin :=
  match e.value with
  | .attribute _ (.name _ owner) name =>
    (importedModule? (r.lookup e.site owner)).map (⟨·, name⟩)
  | .name _ id =>
    let all := r.lookup e.site id
    let next : Binding → Option (Option Origin) := fun b => match (speaker all b).origin with
      | .member module? level real =>
        let module := module?.getD ""
        some (some ⟨if level = 0 then module else relativeModule b.site.home level module,
          if real == "*" then id else real⟩)
      | .value value [] => match value with
        | .name .. | .attribute .. => match fuel with
          | 0 => some none
          | fuel + 1 => some (originFrom r fuel ⟨b.site, value⟩)
        | _ => none
      | _ => none
    (all.reverse.findSome? next).join
  | _ => none

def origin? (r : Resolver) (e : Located Expr) : Option Origin := originFrom r maxRebindings e

end ScenarioCheck.Chain
