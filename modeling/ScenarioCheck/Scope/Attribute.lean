import ScenarioCheck.Scope.Binding

/-! The attributes that the statements of a module assign, each with the expression of its owner. -/
namespace ScenarioCheck.Scope

open Source

/-- An assigned attribute: the owner is an expression of the binding's statement. -/
structure Assigned where
  owner : Expr
  binding : Binding
  deriving Inhabited, Repr

mutual

def targetAttributes (make : List Nat → Origin) (s : Site) (path : List Nat) :
    Expr → List Assigned
  | .attribute p owner name => [⟨owner, ⟨name, s, p.line, make path⟩⟩]
  | .tuple _ items => targetAttributesOfAll make s path 0 items
  | .list _ items => targetAttributesOfAll make s path 0 items
  | .starred _ value => targetAttributes (fun _ => .annotated none) s path value
  | _ => []

def targetAttributesOfAll (make : List Nat → Origin) (s : Site) (path : List Nat) (i : Nat) :
    List Expr → List Assigned
  | [] => []
  | e :: rest =>
    targetAttributes make s (path ++ [i]) e ++ targetAttributesOfAll make s path (i + 1) rest

end

mutual

/-- The attributes assigned by the statement at a site, nested definitions included. -/
def attributes (s : Site) : Stmt → List Assigned
  | .assign _ targets value => targets.flatMap (targetAttributes (.value value) s [])
  | .augmented _ target operator value =>
    targetAttributes (fun _ => .augmented target operator value) s [] target
  | .annotated _ target _ value? => targetAttributes (fun _ => .annotated value?) s [] target
  | .if _ _ body orelse => attributesOfBlock s .yes body ++ attributesOfBlock s .no orelse
  | .while _ _ body orelse => attributesOfBlock s .body body ++ attributesOfBlock s .body orelse
  | .for _ isAsync target source body orelse =>
    targetAttributes (.element isAsync source) s [] target ++ attributesOfBlock s .body body ++
      attributesOfBlock s .body orelse
  | .try _ body handlers orelse final =>
    attributesOfBlock s .tried body ++ attributesOfHandlers s 0 handlers ++
      attributesOfBlock s .unfailed orelse ++ attributesOfBlock s .final final
  | .with _ _ resources body =>
    (resources.flatMap fun r =>
      ((r.target?.map (targetAttributes (.entered r.value) s []))).getD []) ++
      attributesOfBlock s .body body
  | .match _ _ cases => attributesOfCases s 0 cases
  | .function p isAsync name parameters returns? decorators body =>
    attributesOfBlock (s.enter (.function ⟨p, isAsync, name, parameters, returns?, decorators, body⟩))
      .body body
  | .class p name bases keywords decorators body =>
    attributesOfBlock (s.enter (.class ⟨p, name, bases, keywords, decorators, body⟩)) .body body
  | _ => []

def attributesOfBlock (s : Site) (b : Branch) : List Stmt → List Assigned
  | [] => []
  | st :: rest => attributes (s.inner b st.position (lineOf st)) st ++ attributesOfBlock s b rest

def attributesOfHandlers (s : Site) (i : Nat) : List (Handler Stmt) → List Assigned
  | [] => []
  | ⟨p, _, _, body⟩ :: rest =>
    attributesOfBlock (s.inner (.handler i) p p.line) .body body ++
      attributesOfHandlers s (i + 1) rest

def attributesOfCases (s : Site) (i : Nat) : List (Case Stmt) → List Assigned
  | [] => []
  | ⟨_, _, body⟩ :: rest =>
    attributesOfBlock s (.case i) body ++ attributesOfCases s (i + 1) rest

end

def Module.attributes (m : Module) : List Assigned := attributesOfBlock (.ofModule m) .whole m.body

def Binding.inside? (b : Binding) : Option Function :=
  match frame b.site.levels with
  | l :: _ => match l.opening with
    | .function f => some f
    | _ => none
  | [] => none

/-- Attributes assigned where an instance is made come first. -/
def initialFirst (all : List Assigned) : List Assigned :=
  let isInitial (a : Assigned) : Bool := a.binding.inside?.any (·.name == "__init__")
  all.filter isInitial ++ all.filter (!isInitial ·)

end ScenarioCheck.Scope
