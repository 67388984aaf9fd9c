import ScenarioCheck.Chain.Issue
import ScenarioCheck.Chain.Mapping
import ScenarioCheck.Chain.Resolver
import ScenarioCheck.Infer.Arithmetic
import ScenarioCheck.Scope.Return
import ScenarioCheck.Step.Definition

/-! The state a declared step produces: what the chain declares, else the fields of the class that
the body's result is declared to be, else the keys of the dictionaries that the body returns. -/
namespace ScenarioCheck.Chain

open Source Scope Infer Step

abbrev Shapes := List (String × Shape)

/-- A subscript on a name: the last part of the name, and what is between the brackets. -/
def subscript? : Expr → Option (String × List Expr)
  | .subscript _ value index =>
    let arguments := match index with
      | .tuple _ items => items
      | e => [e]
    match value with
    | .name _ id => some (id, arguments)
    | .attribute _ _ id => some (id, arguments)
    | _ => none
  | _ => none

def typeText (e : Expr) : String := (text? e).getD e.shown

/-- The shape of a property of a declared type; two wrappers say whether it may be missing. -/
def declaredShape (isOptional : Bool) (e : Expr) : Shape :=
  match subscript? e with
  | some ("NotRequired", inner :: _) => ⟨typeText inner, true⟩
  | some ("Required", inner :: _) => ⟨typeText inner, false⟩
  | _ => ⟨typeText e, isOptional⟩

/-- The types that the call of the stage declares: one dictionary, and named arguments. -/
def declaredTypes? (call : Application) : Option (List (String × Expr)) := do
  let listed ← match call.arguments with
    | [] => some []
    | [.dict _ entries] => textEntries? entries
    | _ => none
  return listed ++ (← namedArguments? call.keywords)

def declaredSchema? (call : Application) : Option Shapes :=
  (declaredTypes? call).map fun types =>
    Ordered.ofList (types.map fun (name, e) => (name, declaredShape false e))

/-- Wrappers whose last argument is the type that is produced. -/
def awaitables : List String := ["Awaitable", "Coroutine", "Future", "Task"]

def unwrapped : Nat → Expr → Expr
  | 0, e => e
  | n + 1, e => match subscript? e with
    | some (name, arguments) => match awaitables.contains name, arguments.getLast? with
      | true, some inner => unwrapped n inner
      | _, _ => e
    | none => e

def maxWrappers : Nat := 5

/-- Modules whose classes describe containers and not the state of a step. -/
def opaqueModules : List String :=
  ["builtins", "typing", "typing_extensions", "collections.abc", "_collections_abc"]

def isOpaque (c : Located ClassDecl) : Bool := opaqueModules.contains c.site.home.name

/-- The fields of a class are required unless it says otherwise with a literal. -/
def isTotal (c : ClassDecl) : Bool :=
  (c.keywords.findSome? fun k => match k.name?, k.value with
    | some "total", .constant _ value => some (isTrue value)
    | _, _ => none).getD true

/-- The fields that the body of a class declares. -/
def ownFields (c : ClassDecl) : Shapes :=
  c.body.filterMap fun
    | .annotated _ (.name _ name) type _ =>
      if (subscript? type).any (·.1 == "ClassVar") then none
      else some (name, declaredShape (!isTotal c) type)
    | _ => none

/-- The fields of a class and its ancestors, the furthest ones first. -/
def classFields (r : Resolver) (c : Located ClassDecl) : Shapes :=
  let lineage := c :: (r.ancestors c).filter (!isOpaque ·)
  lineage.reverse.foldl (fun fields d => Ordered.putAll fields (ownFields d.value)) []

def typeShapes? (r : Resolver) (type : Located Expr) : Option Shapes :=
  match r.infer? ⟨type.site, unwrapped maxWrappers type.value⟩ with
  | some (.class c) => if isOpaque c then none else some (classFields r c)
  | _ => none

def valueType (r : Resolver) (i : Item) : String :=
  match i with
  | .value v => v.typeName
  | .expr e => ((r.infer? e).map (·.typeName)).getD "Any"

def keyText? : Item → Option String
  | .expr e => text? e.value
  | .value (.constant (.text s)) => some s
  | .value _ => none

def itemEntries? : List (Item × Item) → Option (List (String × Item))
  | [] => some []
  | (key, value) :: rest => do
    let key ← keyText? key
    return (key, value) :: (← itemEntries? rest)

/-- The keys that one return gives: none if it returns nothing. A dictionary is read as it is
written; anything else has to be known to be one. -/
def returnedKeys? (r : Resolver) (v : Located (Option Expr)) : Option (List (String × Item)) :=
  match v.value with
  | none | some (.constant _ .none) => some []
  | some (.dict _ entries) =>
    (textEntries? entries).map fun all =>
      Ordered.ofList (all.map fun (name, e) => (name, .expr ⟨v.site, e⟩))
  | some e => match r.infer? ⟨v.site, e⟩ with
    | some (.dict entries) => (itemEntries? entries).map Ordered.ofList
    | _ => none

/-- The first value of a key among all returns, and whether some return lacks it. -/
def keyShape (r : Resolver) (returned : List (List (String × Item))) (name : String) : Shape :=
  let present := returned.filterMap (Ordered.get? name)
  ⟨((present.head?).map (valueType r)).getD "Any", decide (present.length < returned.length)⟩

/-- Every key of some return, in the order of first appearance. -/
def mergedKeys (r : Resolver) (returned : List (List (String × Item))) : Shapes :=
  returned.foldl (fun shapes keys => keys.foldl (fun shapes k =>
    if (Ordered.get? k.1 shapes).isSome then shapes
    else Ordered.put k.1 (keyShape r returned k.1) shapes) shapes) []

def Body.returns : Body → List (Located (Option Expr))
  | .function f => f.returns
  | .lambda l => [⟨l.site.enter (.lambda l.value), some l.value.body⟩]
  | .empty => []

def returnedShapes? (r : Resolver) (body : Body) : Option Shapes :=
  (body.returns.mapM (returnedKeys? r)).map (mergedKeys r)

def Body.typeShapes? (r : Resolver) : Body → Option Shapes
  | .function f => f.value.returns?.bind fun type =>
    Chain.typeShapes? r ⟨f.site.header (.function f.value), type⟩
  | _ => none

def bodyShapes (r : Resolver) (argument : Located Expr) : Except StateFault Shapes :=
  match r.function? argument with
  | none => .error .body
  | some body => match (body.typeShapes? r).or (returnedShapes? r body) with
    | some shapes => .ok shapes
    | none => .error .returned

end ScenarioCheck.Chain
