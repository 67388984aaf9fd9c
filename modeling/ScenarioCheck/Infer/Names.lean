import ScenarioCheck.Infer.Arithmetic
import ScenarioCheck.Infer.Rules

/-! What names are bound to. -/
namespace ScenarioCheck.Infer

open Source Scope

/-- The part of a value at a place of a target: of a dictionary it is the key. -/
def partAt? (v : Value) (i : Nat) : Option Item :=
  match v with
  | .row .list items | .row .tuple items => items[i]?
  | .dict entries => entries[i]?.map (·.1)
  | .constant (.text s) => s.toList[i]?.map fun c => .value (.constant (.text (.singleton c)))
  | .constant (.bytes s) => s[i]?.map fun n => .value (.constant (.int n))
  | _ => none

namespace Rules

/-- Follows a path into values; the first value without such a part ends the search. -/
def unpack (r : Rules) (env : Env) : List Nat → List (Option Value) → List Item
  | [], _ => []
  | i :: path, values =>
    let rec go : List (Option Value) → List Item
      | [] => []
      | none :: _ => []
      | some v :: rest =>
        match partAt? v i with
        | none => []
        | some part =>
          if path.isEmpty then part :: go rest
          else unpack r env path (r.item env part).values ++ go rest
    go values

def parts (r : Rules) (env : Env) (path : List Nat) (a : Answers) : Answers :=
  match a.ending with
  | .complete =>
    let items := r.unpack env path a.values
    if items.isEmpty then .failed else r.items env items
  | e => ⟨[], e⟩

def iterated? (v : Value) : Option (List Item) :=
  match v with
  | .row _ items => some items
  | .dict entries => some (entries.map (·.1))
  | .constant (.text s) =>
    some (s.toList.map fun c => .value (.constant (.text (.singleton c))))
  | _ => none

/-- The item of a row is given as one plain name or literal. -/
def isPlain (i : Item) : Bool :=
  match i with
  | .expr ⟨_, .name ..⟩ | .expr ⟨_, .constant ..⟩ | .value (.constant _) => true
  | _ => false

def unpackItems (r : Rules) (env : Env) : List Nat → List (Option Value) → List Item
  | [], _ => []
  | i :: path, values =>
    values.flatMap fun v? =>
      match v?.bind fun v => (iterated? v).map fun items => (v, items) with
      | none => []
      | some (v, items) =>
        let rows := if (items[i]?).any isPlain then [.value v] else items
        rows.flatMap fun row =>
          let inner := match row with
            | .value w => some w
            | .expr e => directRow? e
          match inner.bind (partAt? · i) with
          | none => []
          | some part =>
            if path.isEmpty then [part] else unpackItems r env path (r.item env part).values
where
  /-- Displays are looked into as they stand. -/
  directRow? (e : Located Expr) : Option Value :=
    match e.value with
    | .list _ items => some (.row .list (items.map fun x => .expr ⟨e.site, x⟩))
    | .tuple _ items => some (.row .tuple (items.map fun x => .expr ⟨e.site, x⟩))
    | .constant _ c => some (.constant c)
    | _ => none

/-- The items a loop variable takes: those of lists and tuples. -/
def element (r : Rules) (env : Env) (source : Located Expr) (path : List Nat) : Answers :=
  let a := r.expr env source
  let items := if path.isEmpty then
      a.values.flatMap fun v? => match v? with
        | some (.row .list items) | some (.row .tuple items) => items
        | _ => []
    else r.unpackItems env path a.values
  match a.ending with
  | .complete => if items.isEmpty then .failed else r.items env items
  | e => if items.isEmpty then ⟨[], e⟩ else ⟨[], .failed⟩

def remainder (r : Rules) (env : Env) (e : Located Expr) (before after : Nat) : Answers :=
  match (r.expr env e).values.head?.join.bind iterated? with
  | none => .unknown
  | some items => .one (.row .list ((items.drop before).take (items.length - before - after)))

def entered (r : Rules) (env : Env) (e : Located Expr) (path : List Nat) : Answers :=
  match (r.expr env e).values.head?.join with
  | some (.instance c) =>
    match (r.access env (.instance c) "__enter__").values.head?.join with
    | some m@(.method ..) =>
      let a := r.call env m {}
      if path.isEmpty then a.orFailed
      else r.parts env path a
    | _ => .failed
  | _ => .failed

/-- The exceptions a handler may catch: one of a class, or of any class of a tuple. -/
def caught (r : Rules) (env : Env) (type : Located Expr) : Answers :=
  let asInstance : Value → Answers
    | .class c => .one (.instance c)
    | v => .one v
  (r.expr env.fresh type).bind fun
    | .row _ items => (r.items env.fresh items).bind asInstance
    | v => asInstance v

def classAround? (s : Site) : Option (Located ClassDecl) :=
  match s.levels with
  | l :: outer => match l.opening with
    | .class c => some ⟨⟨s.home, outer, l.place, l.line, false, false, false⟩, c⟩
    | _ => none
  | [] => none

def owner? (s : Site) : Option Callable :=
  match s.levels with
  | l :: outer =>
    let site : Site := ⟨s.home, outer, l.place, l.line, false, false, false⟩
    match l.opening with
    | .function f => some (.function ⟨site, f⟩)
    | .lambda f => some (.lambda ⟨site, f⟩)
    | _ => none
  | [] => none

/-- A default, where it stands: a bare name is looked up before the definition. -/
def defaultAt (s : Site) (e : Expr) : Located Expr :=
  match e with
  | .name .. => ⟨{ s with levels := s.levels.drop 1, isHeader := false, isBefore := true }, e⟩
  | _ => ⟨s, e⟩

/-- An instance of what a method is bound to; without one, of the class it stands in. -/
def boundInstance? (owner? : Option Value) (around? : Option (Located ClassDecl)) : Option Value :=
  match owner? with
  | some (.class c) => some (.instance c)
  | some v => some v
  | none => around?.map .instance

def argument (r : Rules) (env : Env) (call : Call) (f : Callable) (b : Binding) (how : Passed)
    (default? : Option Expr) : Answers :=
  let args := call.arguments
  let ps := f.parameters
  let inner := env.outside
  if args.repeated.contains b.name then .failed
  else match args.keywords.find? (·.1 == b.name) with
    | some (_, i) => r.item inner i
    | none =>
      let given := args.positional.filterMap id
      if given.length > ps.positional.length && ps.rest?.isNone && ps.positionalOnly.isEmpty then
        .failed
      else
        let kind := f.mode
        let around? := classAround? f.site
        let byDefault : Answers := match default? with
          | some e => r.expr inner (defaultAt b.site e)
          | none => .failed
        match how with
        | .positional i =>
          if i = 0 && kind == .onInstance then
            match call.owner?, given.head? with
            | none, some first => r.item inner first
            | owner?, _ => ((boundInstance? owner? around?).map Answers.one).getD .failed
          else if i = 0 && kind == .onClass then
            ((call.owner?.or (around?.map .class)).map Answers.one).getD .failed
          else
            let shift := (kind == .onInstance || kind == .onClass) && call.owner?.isSome
            match nth? given ((i : Int) - (if shift then 1 else 0)) with
            | some g => r.item inner g
            | none => byDefault
        | .rest =>
          if args.positional.any (·.isNone) then .failed
          else .one (.row .tuple (given.drop ps.positional.length))
        | .keywords =>
          if args.isPartial then .failed
          else
            let names := (ps.positional ++ ps.keywordOnly).map (·.name)
            .one (.dict ((args.keywords.filter fun k => !names.contains k.1).map fun (k, v) =>
              (.value (.constant (.text k)), v)))
        | .keyword => match (f.parameters.inOrder.findIdx? (·.name == b.name)).bind (given[·]?) with
          | some g => r.item inner g
          | none => byDefault

/-- A parameter outside of a call: the instance or class a method is for, empty collections, or a
default that may be replaced. -/
def uncalled (r : Rules) (env : Env) (f : Callable) (b : Binding) (how : Passed)
    (default? : Option Expr) : Answers :=
  let kind := f.mode
  let around? := classAround? f.site
  let isFirst := (firstParameter? f.parameters).any (·.name == b.name)
  let class? := match env.owner? with
    | some (.instance c) => some c
    | _ => around?
  match isFirst, kind, class? with
  | true, .onClass, some c => .one (.class c)
  | true, .onInstance, some c => .one (.instance c)
  | _, _, _ =>
    match how with
    | .rest => .one (.row .tuple [])
    | .keywords => .one (.dict [])
    | _ => match default? with
      | some e => r.expr env (defaultAt b.site e) ++ .unknown
      | none => .unknown

/-- A parameter: the call under way binds those of the function it calls. -/
def parameter (r : Rules) (env : Env) (b : Binding) (how : Passed) (default? : Option Expr) :
    Answers :=
  match owner? b.site with
  | none => .failed
  | some f =>
    match env.call? with
    | some call =>
      if call.callee.name == f.name then r.argument env call f b how default?
      else r.uncalled env f b how default?
    | none => r.uncalled env f b how default?

/-- A class whose fields are those of a named tuple keeps no annotations of its own. -/
def definedClass (c : ClassDecl) : ClassDecl :=
  if hasBase c "NamedTuple" then
    { c with body := c.body.filter fun
        | .annotated .. => false
        | _ => true }
  else c

def propertyNames : List String :=
  ["property", "cached_property", "cachedproperty", "lazyproperty", "lazy_property", "reify",
    "lazyattribute", "lazy_attribute", "LazyProperty", "lazy", "cache_readonly",
    "DynamicClassAttribute", "abstractproperty"]

def isProperty (f : Function) : Bool :=
  f.decorators.any fun d => match d.value with
    | .name _ id | .attribute _ _ id => propertyNames.contains id
    | _ => false

def member (lib : Library) (infer : Binding → Answers) (m : Module) (isOwn : Bool)
    (name : String) : Answers :=
  let all := if isOwn then [] else (lib.namedIn m name).filter fun b => match b.origin with
    | .deleted => false
    | _ => true
  if !all.isEmpty then .settle (all.map infer)
  else match lib.inside? m name with
    | some sub => .one (.module sub)
    | none => .failed

/-- What a binding gives under a name. Members of modules are followed by further bindings, so far
as `fuel` reaches. -/
def binding (r : Rules) (lib : Library) (fuel : Nat) (env : Env) (name : String) (b : Binding) :
    Answers :=
  let at_ (e : Expr) : Located Expr := ⟨b.site, e⟩
  match b.origin with
  | .value e path =>
    if path.isEmpty then .settle [r.expr env (at_ e)] else r.parts env path (r.expr env (at_ e))
  | .remainder e before after => r.remainder env (at_ e) before after
  | .annotated value? => match value? with
    | some e => .settle [r.expr env (at_ e)]
    | none => .unknown
  | .augmented target operator value =>
    r.expr env (at_ (.binary target.position operator target value))
  | .element isAsync source path | .drawn isAsync source path =>
    if isAsync then .failed else r.element env (at_ source) path
  | .entered value path => r.entered env (at_ value) path
  | .caught type? => match type? with
    | some t => r.caught env (at_ t)
    | none => .failed
  | .captured _ | .deleted => .failed
  | .named value => .settle [r.expr env (at_ value)]
  | .parameter how default? => r.parameter env b how default?
  | .function f =>
    if isProperty f then .one (.property ⟨b.site, f⟩) else .one (.callable (.function ⟨b.site, f⟩))
  | .class c => .one (.class ⟨b.site, definedClass c⟩)
  | .module target => match lib.import? b.site.home target 0 with
    | some m => .one (.module m)
    | none => .failed
  | .member module? level real =>
    let visit : Visit := ⟨b.site.home.name, ⟨b.line, 0⟩, 0, name⟩
    if env.visits.contains visit then .failed
    else match fuel, lib.import? b.site.home (module?.getD "") level with
      | fuel + 1, some m =>
        let real := if real == "*" then name else real
        let env := { env with visits := visit :: env.visits }
        member lib (fun b' => binding r lib fuel env real b') m (m.name == b.site.home.name) real
      | _, _ => .failed

/-- Chains of imports are followed this far. -/
def maxImports : Nat := 50

def name (r : Rules) (lib : Library) (env : Env) (s : Site) (id : String) : Answers :=
  match lib.lookup s id with
  | [] =>
    match named (fun _ _ => false) Known.builtins topLevels id with
    | [] =>
      if id == "__name__" || id == "__file__" then .one (.constant (.text s.home.name)) else .unbound
    | bs => .settle (bs.map (r.binding lib maxImports env id))
  | bs => .settle (bs.map (r.binding lib maxImports env id))

end Rules

end ScenarioCheck.Infer
