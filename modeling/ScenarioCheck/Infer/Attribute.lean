import ScenarioCheck.Infer.Names
import ScenarioCheck.Scope.Attribute

/-! Attributes. A class offers what its body binds, then what is assigned to it, then what its
ancestors offer; an instance offers first what is assigned to it or declared as a field. A function
taken from a class becomes a method, and a property is called when it is taken from an instance. -/
namespace ScenarioCheck.Infer

open Source Scope

/-- What an attribute is bound to: an assignment, or a field with an annotation. -/
inductive Held where
  | binding (b : Binding)
  | field (hint : Located Expr) (value? : Option (Located Expr))

def sameScope (a b : Binding) : Bool :=
  a.site.home.name == b.site.home.name && a.site.levels.length == b.site.levels.length &&
    a.site.levels.head?.map (·.place) == b.site.levels.head?.map (·.place)

/-- Bindings after the first count if they are of its scope; of several functions the last one
counts, and properties. -/
def attributeBindings (all : List Binding) : List Binding :=
  let kept := match all with
    | [] => []
    | b :: rest => b :: rest.filter (sameScope b)
  let function? (b : Binding) : Option Function := match b.origin with
    | .function f => some f
    | _ => none
  let lastLine? := (kept.filterMap function?).getLast?.map (·.position)
  kept.filter fun b => match function? b with
    | some f => some f.position == lastLine? || Rules.isProperty f
    | none => true

/-- A definition without a value is no attribute of a class. -/
def isDeclaration (b : Binding) : Bool := match b.origin with
  | .annotated none => true
  | _ => false

def fieldDefault? (keywords : List (Keyword Expr)) : Option Expr :=
  let last? (name : String) := (keywords.filter (·.name? == some name)).getLast?.map (·.value)
  match last? "default", last? "default_factory" with
  | some d, none => some d
  | none, some f => some (.call f.position f [] [])
  | _, _ => none

namespace Rules

def lineage (r : Rules) (env : Env) (c : Located ClassDecl) : List (Located ClassDecl) :=
  c :: r.ancestors env c

/-- A decorator makes a class a data class if it is the one known for that, or has its name and is
not known at all. -/
def isDataDecorator (r : Rules) (env : Env) (s : Site) (d : Expr) : Bool :=
  let d := match d with
    | .call _ f _ _ => f
    | d => d
  match (r.expr env.fresh ⟨s.decorator, d⟩).values.head?.join with
  | some (.callable (.function f)) =>
    f.value.name == "dataclass" && f.site.home.name == "dataclasses"
  | some _ => false
  | none => match d with
    | .name _ id | .attribute _ _ id => id == "dataclass"
    | _ => false

def isDataClass (r : Rules) (env : Env) (c : Located ClassDecl) : Bool :=
  c.value.decorators.any fun d => r.isDataDecorator env c.site d.value

def field? (r : Rules) (env : Env) (c : Located ClassDecl) (name : String) : Option Held :=
  let declared := c.value.body.filterMap fun
    | .annotated p (.name _ id) hint value? =>
      if id == name then
        let s := c.classSite.inner .body p p.line
        some (Held.field ⟨s, hint⟩ (value?.map fun v => ⟨s, v⟩))
      else none
    | _ => none
  match declared.getLast? with
  | some f => if r.isDataClass env c then some f else none
  | none => none

def assignedTo (r : Rules) (env : Env) (home : Module) (name : String) (isOwner : Value → Bool) :
    List Binding :=
  (initialFirst (home.attributes.filter fun a => a.binding.name == name)).filterMap fun a =>
    let owners := (r.expr env.fresh ⟨a.binding.site, a.owner⟩).values
    if owners.any fun v? => v?.any isOwner then some a.binding else none

def heldBy (r : Rules) (env : Env) (name : String) (c : Located ClassDecl) : List Held :=
  (r.field? env c name).toList ++
    (r.assignedTo env c.site.home name fun
      | .instance d => sameClass c d
      | _ => false).map .binding

def boundBy (r : Rules) (lib : Library) (env : Env) (name : String) (c : Located ClassDecl) :
    List Binding :=
  named (provides lib maxStars) c.site.home c.classSite.levels name ++
    r.assignedTo env c.site.home name fun
      | .class d => sameClass c d
      | _ => false

def annotated (r : Rules) (env : Env) (hint : Located Expr) : Answers :=
  match (r.expr env hint).values.head?.join with
  | some (.class c) =>
    if ["typing", "_typing", ""].contains c.site.home.name then .unknown else .one (.instance c)
  | _ => .unknown

/-- The value of a field: its default, then an instance of its annotation. -/
def held (r : Rules) (lib : Library) (env : Env) (name : String) : Held → Answers
  | .binding b => r.binding lib maxImports env name b
  | .field hint value? =>
    let byDefault : Answers := match value? with
      | none => .none
      | some ⟨s, .call p f args keywords⟩ =>
        match (r.expr env ⟨s, f⟩).values.head?.join with
        | some (.callable (.function g)) =>
          if g.value.name == "field" && g.site.home.name == "dataclasses" then
            match fieldDefault? keywords with
            | some d => r.expr env ⟨s, d⟩
            | none => .unknown
          else r.expr env ⟨s, .call p f args keywords⟩
        | _ => r.expr env ⟨s, .call p f args keywords⟩
      | some e => r.expr env e
    byDefault ++ r.annotated env hint

def asMethod (c : Located ClassDecl) (f : Located Function) : Value :=
  match mode f with
  | .onClass => .method (.function f) (some (.class c))
  | .static => .callable (.function f)
  | _ => .method (.function f) none

/-- Names that a class has without binding them. -/
def classText? (c : Located ClassDecl) (name : String) : Option String :=
  match name with
  | "__name__" | "__qualname__" => some c.value.name
  | "__module__" => some c.site.home.name
  | _ => none

def ofClass (r : Rules) (lib : Library) (env : Env) (c : Located ClassDecl) (instance? : Option Value)
    (name : String) : Answers :=
  let lineage := r.lineage env c
  let all := (lineage.flatMap (r.boundBy lib env name)).filter (!isDeclaration ·)
  if all.isEmpty then
    match classText? c name, instance? with
    | some s, none => .one (.constant (.text s))
    | _, _ =>
      let isDynamic := !name.startsWith "__" && lineage.any fun d =>
        d.site.home.name != "builtins" &&
          !((r.boundBy lib env "__getattr__" d) ++ (r.boundBy lib env "__getattribute__" d)).isEmpty
      if isDynamic then .unknown else .failed
  else
    (Answers.settle ((attributeBindings all).map (r.binding lib maxImports env name))).bind fun
      | .instance d =>
        if (r.lineage env d).any fun e => !(r.boundBy lib env "__get__" e).isEmpty then .unknown
        else .one (.instance d)
      | .property f => match instance? with
        | some v => r.call env (.method (.function f) (some v)) {}
        | none => .one (.property f)
      | .callable (.function f) => .one (asMethod c f)
      | v => .one v

/-- Taken from an instance, functions are bound to it. -/
def bound (owner : Value) : Value → Value
  | .method f none => .method f (some owner)
  | .callable (.lambda l) =>
    if (firstParameter? l.value.parameters).any (·.name == "self") then
      .method (.lambda l) (some owner)
    else .callable (.lambda l)
  | v => v

def ofInstance (r : Rules) (lib : Library) (env : Env) (c : Located ClassDecl) (owner : Value)
    (name : String) : Answers :=
  let own := match owner with
    | .instance _ => (r.lineage env c).flatMap (r.heldBy env name)
    | _ => []
  if own.isEmpty then
    if name == "__class__" then .one (.class c)
    else (r.ofClass lib env c (some owner) name).bind fun v => .one (bound owner v)
  else .settle (own.map (r.held lib env name))

def ofFunction (r : Rules) (lib : Library) (env : Env) (f : Callable) (name : String) : Answers :=
  let own := r.assignedTo env f.home name fun
    | .callable g => g.home.name == f.home.name && g.position == f.position
    | _ => false
  if own.isEmpty then
    if name == "__name__" || name == "__qualname__" then .one (.constant (.text f.name)) else .failed
  else .settle (own.map (r.binding lib maxImports env name))

def attributeOf (r : Rules) (lib : Library) (env : Env) (v : Value) (name : String) : Answers :=
  let env := { env with owner? := some v }
  match v with
  | .module m => match name, member lib (r.binding lib maxImports env name) m false name with
    | "__name__", ⟨[], .failed⟩ => .one (.constant (.text m.name))
    | _, a => a
  | .class c => r.ofClass lib env c none name
  | .instance c => r.ofInstance lib env c v name
  | .constant _ | .row .. | .dict _ => match v.builtinType? with
    | some c => r.ofInstance lib env c v name
    | none => .failed
  | .callable f | .method f _ => r.ofFunction lib env f name
  | .property _ | .generator _ | .union | .slice .. => .failed

/-- The ancestors of a class, depth first, each once. What is not resolved is left out. -/
def ancestorsOf (r : Rules) (env : Env) (c : Located ClassDecl) : List (Located ClassDecl) :=
  let isObject := c.value.name == "object" && c.site.home.name == "builtins"
  if c.value.bases.isEmpty then
    if isObject then [] else (builtinClass? "object").toList
  else
    c.value.bases.foldl (fun met base =>
      (r.expr env.fresh ⟨c.site.before, base⟩).values.foldl (fun met v? =>
        match v? with
        | some (.class d) | some (.instance d) =>
          let found := (d :: r.ancestors env d).takeWhile (!sameClass c ·)
          found.foldl (fun met e => if met.any (sameClass e) then met else met ++ [e]) met
        | _ => met) met) []

end Rules

end ScenarioCheck.Infer
