import ScenarioCheck.Infer.Attribute
import ScenarioCheck.Scope.Return
import ScenarioCheck.Text.Blank

/-! Calls. A function gives what it returns, a class an instance, an instance what its call method
gives. The constructors of collections and plain values are known by their names. -/
namespace ScenarioCheck.Infer

open Source Scope

/-- Where something is unknown or fails after its first answers, a gap takes its place. -/
def Answers.gapped (a : Answers) : Answers :=
  match a.ending with
  | .complete => a
  | _ => ⟨a.values ++ [Option.none], .complete⟩

def Answers.head? (a : Answers) : Option Value := a.values.head?.join

def Value.plainTruth? : Value → Option Bool
  | .constant c => some (isTrue c)
  | .row _ items => some !items.isEmpty
  | .dict entries => some !entries.isEmpty
  | .instance _ | .slice .. => none
  | .callable _ | .method .. | .property _ | .class _ | .generator _ | .module _ | .union => some true

/-- Classes whose instances have a truth of their own that is not known. -/
def valueClasses : List String :=
  ["int", "float", "complex", "bool", "str", "bytes", "bytearray", "memoryview", "list", "tuple",
    "set", "frozenset", "dict", "range"]

namespace Rules

/-- What calling a method without arguments says about the truth of an instance; without such a
method it says nothing. -/
def methodTruth (r : Rules) (env : Env) (v : Value) (name : String) : Option (Option Bool) :=
  match (r.access env v name).values with
  | [] => none
  | none :: _ => some none
  | some m :: _ => some ((r.call env m {}).head?.bind (·.plainTruth?))

/-- The truth of a value: instances are asked, and are true if they do not say. -/
def truth? (r : Rules) (env : Env) (v : Value) : Option Bool :=
  match v with
  | .instance c =>
    if c.site.home.name == "builtins" && valueClasses.contains c.value.name then none
    else ((r.methodTruth env v "__bool__").or (r.methodTruth env v "__len__")).getD (some true)
  | v => v.plainTruth?

def positional (r : Rules) (env : Env) (s : Site) (args : List Expr) : List (Option Item) :=
  args.flatMap fun
    | .starred _ e => match (r.expr env ⟨s, e⟩).only? with
      | some (.row _ items) => items.map some
      | _ => [none]
    | e => [some (.expr ⟨s, e⟩)]

/-- The names that a spread mapping gives to its values; none if one of them is not known. -/
def spread? (r : Rules) (env : Env) (s : Site) (e : Expr) : Option (List (String × Item)) :=
  match (r.expr env ⟨s, e⟩).only? with
  | some (.dict entries) => entries.mapM fun (key, value) =>
    match (r.item env key).only? with
    | some (.constant (.text k)) => some (k, value)
    | _ => none
  | _ => none

def arguments (r : Rules) (env : Env) (s : Site) (args : List Expr)
    (keywords : List (Keyword Expr)) : Arguments :=
  keywords.foldl (fun (a : Arguments) k => match k.name? with
      | some name => { a with keywords := a.keywords ++ [(name, .expr ⟨s, k.value⟩)] }
      | none => match r.spread? env s k.value with
        | none => { a with isPartial := true }
        | some entries => entries.foldl (fun (a : Arguments) (name, value) =>
            if a.keywords.any (·.1 == name) then
              { a with
                keywords := a.keywords.filter (·.1 != name)
                isPartial := true
                repeated := a.repeated ++ [name] }
            else { a with keywords := a.keywords ++ [(name, value)] }) a)
    { positional := r.positional env s args }

/-- Runs a function: generators are made, functions without a value return give nothing. -/
def run (r : Rules) (env : Env) (f : Callable) (owner? : Option Value) (args : Arguments) :
    Answers :=
  let env := { env with call? := some ⟨f, owner?, args⟩, owner? := owner? }
  match f with
  | .lambda l => r.expr env ⟨l.site.enter (.lambda l.value), l.value.body⟩
  | .function f =>
    if f.yields then .one (.generator f.value.isAsync)
    else match f.returns with
      | [] => match withoutDocument f.value.body with
        | [] => .failed
        | .raise .. :: _ | .pass _ :: _ => .unknown
        | _ => if f.value.isDecorated ["abstractmethod"] then .unknown else .one (.constant .none)
      | all => .join (all.map fun v => match v.value with
        | none => .one (.constant .none)
        | some e => (r.expr env ⟨v.site, e⟩).gapped)

def callOf (r : Rules) (lib : Library) (env : Env) (v : Value) (args : Arguments) : Answers :=
  match v with
  | .callable f => r.run env f none args
  | .method f owner? => r.run env f owner? args
  | .class c => .one (.instance c)
  | .instance c =>
    (r.ofClass lib { env with owner? := some v } c none "__call__").values.foldl (fun (a : Answers) (m? : Option Value) =>
      match m? with
      | some (.method f none) => a ++ ⟨(r.run env f (some v) args).values, .complete⟩
      | some (.callable f) => a ++ ⟨(r.run env f (some v) args).values, .complete⟩
      | some (.method f owner?) => a ++ ⟨(r.run env f owner? args).values, .complete⟩
      | some (.class d) => a ++ .one (.instance d)
      | _ => a) .none |>.orFailed
  | _ => .failed

def asItems? (v : Value) : Option (List Item) :=
  match v with
  | .row _ items => some items
  | .dict entries => some (entries.map (·.1))
  | .constant (.text s) =>
    some (s.toList.map fun c => .value (.constant (.text (.singleton c))))
  | .constant (.bytes s) => some (s.map fun (n : Nat) => .value (.constant (.int n)))
  | _ => none

def collection? (r : Rules) (env : Env) (s : Site) (kind : Row) (args : List Expr) :
    Option Answers :=
  match args with
  | [] => some (.one (.row kind []))
  | [e] => match (r.expr env ⟨s, e⟩).head? with
    | some v => (asItems? v).map fun items => .one (.row kind items)
    | none => none
  | _ => none

def pair? (i : Item) : Option (Item × Item) :=
  match i with
  | .expr ⟨s, .list _ [k, v]⟩ | .expr ⟨s, .tuple _ [k, v]⟩ | .expr ⟨s, .set _ [k, v]⟩ =>
    match k with
    | .tuple .. | .constant .. | .name .. => some (.expr ⟨s, k⟩, .expr ⟨s, v⟩)
    | _ => none
  | .value (.row _ [k, v]) => some (k, v)
  | _ => none

def asEntries? (v : Value) : Option (List (Item × Item)) :=
  match v with
  | .dict entries => some entries
  | .row .frozenset _ => none
  | .row _ items => items.mapM pair?
  | _ => none

def mapping? (r : Rules) (env : Env) (args : Arguments) : Option Answers :=
  let named := args.keywords.map fun (k, v) => (Item.value (.constant (.text k)), v)
  if args.isPartial || args.positional.any (·.isNone) then none
  else match args.positional.filterMap id with
    | [] => some (.one (.dict named))
    | [i] => match (r.item env i).head? with
      | some v => (asEntries? v).map fun entries => .one (.dict (entries ++ named))
      | none => none
    | _ => none

/-- A whole number read from a literal value; what is no number counts as zero. -/
def wholeNumber? (r : Rules) (env : Env) (args : Arguments) : Option Answers :=
  if !args.keywords.isEmpty then none
  else match args.positional.findSome? id with
    | none => some (.one (.constant (.int 0)))
    | some i => match (r.item env i).head? with
      | none => none
      | some (.constant (.text s)) => some (.one (.constant (.int ((wholeText? s).getD 0))))
      | some (.constant c) => some (.one (.constant (.int ((asInt? c).getD 0))))
      | some _ => some (.one (.constant (.int 0)))
where
  wholeText? (s : String) : Option Int :=
    match Text.trim s.toList with
    | '-' :: digits => (String.ofList digits).toNat?.map fun n => -(n : Int)
    | '+' :: digits => (String.ofList digits).toNat?.map fun n => (n : Int)
    | digits => (String.ofList digits).toNat?.map fun n => (n : Int)

def count? (v : Value) : Option Nat :=
  match v with
  | .constant (.text s) => some s.length
  | .constant (.bytes s) => some s.length
  | .row _ items => some items.length
  | .dict entries => some entries.length
  | _ => none

/-- A format is filled in only from literal values. -/
def formattedText (r : Rules) (env : Env) (owner : Located Expr) (args : Arguments) : Answers :=
  let isConstant (i : Item) : Bool := match (r.item env i).only? with
    | some (.constant _) => true
    | _ => false
  let template? : Option Constant := match owner.value with
    | .constant _ c => some c
    | .name .. => match (r.expr env.fresh owner).only? with
      | some (.constant c) => some c
      | _ => none
    | _ => none
  match template? with
  | some (.text s) =>
    if (args.positional.filterMap id).all isConstant && args.keywords.all (isConstant ·.2) then
      .one (.constant (.text s))
    else .unknown
  | _ => .unknown

/-- Calls that are known by the way they are written. -/
def special? (r : Rules) (env : Env) (s : Site) (f : Expr) (args : List Expr)
    (all : Arguments) : Option Answers :=
  match f with
  | .name _ "list" => r.collection? env s .list args
  | .name _ "tuple" => r.collection? env s .tuple args
  | .name _ "set" => r.collection? env s .set args
  | .name _ "frozenset" => r.collection? env s .frozenset args
  | .name _ "dict" => r.mapping? env all
  | .name _ "str" => if all.keywords.isEmpty then some (.one (.constant (.text ""))) else none
  | .name _ "int" => r.wholeNumber? env all
  | .name _ "bool" => match args with
    | [] => some (.one (.constant (.bool false)))
    | [e] => some (match (r.expr env ⟨s, e⟩).head?.bind (r.truth? env) with
      | some b => .one (.constant (.bool b))
      | none => .unknown)
    | _ => none
  | .name _ "len" => match args with
    | [e] => ((r.expr env ⟨s, e⟩).only?.bind count?).map fun n => .one (.constant (.int n))
    | _ => none
  | .attribute _ owner "format" => some (r.formattedText env ⟨s, owner⟩ all)
  | .attribute _ owner "copy" =>
    let a := r.expr env ⟨s, owner⟩
    let isCopied (v? : Option Value) : Bool := match v? with
      | some (.dict _) | some (.row .list _) | some (.row .set _) | some (.row .frozenset _) => true
      | _ => false
    if a.ending == .complete && a.values.all isCopied then some a else none
  | .name _ id | .attribute _ _ id =>
    if id == "TypeVar" || id == "NewType" then
      match (r.expr env ⟨s, f⟩).head?, args with
      | some (.class c), .constant _ (.text name) :: _ =>
        if c.site.home.name == "typing" then some (.one (.class (bareClass "" name))) else none
      | _, _ => none
    else none
  | _ => none

/-- A call where it stands: what cannot be called is left out. -/
def application (r : Rules) (env : Env) (s : Site) (f : Expr) (args : List Expr)
    (keywords : List (Keyword Expr)) : Answers :=
  let all := r.arguments env s args keywords
  match r.special? env s f args all with
  | some a => a.orFailed
  | none =>
    let callees := r.expr env ⟨s, f⟩
    let values := callees.values.flatMap fun
      | none => [none]
      | some v => (r.call env v all).values
    Answers.orFailed ⟨values, callees.ending⟩

end Rules

end ScenarioCheck.Infer
