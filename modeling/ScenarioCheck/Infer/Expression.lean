import ScenarioCheck.Infer.Operator

/-! Expressions. What is already under way is not evaluated again but fails. -/
namespace ScenarioCheck.Infer

open Source Scope

/-- How many expressions that start at the same place an expression holds at its left edge. -/
def leftDepth : Expr → Nat
  | .attribute _ v _ => leftDepth v + 1
  | .call _ f _ _ => leftDepth f + 1
  | .subscript _ v _ => leftDepth v + 1
  | .binary _ _ l _ => leftDepth l + 1
  | .compare _ l _ => leftDepth l + 1
  | .boolean _ _ (e :: _) => leftDepth e + 1
  | .conditional _ _ yes _ => leftDepth yes + 1
  | .tuple _ (e :: _) => leftDepth e + 1
  | _ => 0

def Visit.of (e : Located Expr) : Visit :=
  ⟨e.site.home.name, e.value.position, leftDepth e.value, ""⟩

def typeForm (name : String) : Value := .class (bareClass "" name)

/-- Subscripted names of types are types of their own, but for those that stand for classes. -/
def isTypeForm : Value → Bool
  | .callable (.function f) => f.site.home.name == "typing"
  | .class c => c.site.home.name == "typing" && !hasBase c.value "_Alias"
  | _ => false

def Value.nameOf : Value → String
  | .callable f => f.name
  | .class c => c.value.name
  | _ => ""

def keyText : Value → String
  | .constant c => c.shown
  | .class c => c.value.name
  | v => v.typeName

/-- Puts an entry in the place of an earlier one with its key. -/
def replaceEntry (entries : List (Value × Item)) (e : Value × Item) : List (Value × Item) :=
  if entries.any (keyText ·.1 == keyText e.1) then
    entries.map fun d => if keyText d.1 == keyText e.1 then e else d
  else entries ++ [e]

/-- A format is filled in by plain conversion; one that is spelt out has to suit its value. -/
def formatOne (v : Value) (spec : String) : Option String :=
  match v with
  | .constant c => match c, spec with
    | .text s, "" => some s
    | c, "" => some c.shown
    | .none, _ | .ellipsis, _ | .bytes _, _ => none
    | .text s, spec => if (spec.toList.getLast?.any fun c => c.isAlpha && c != 's') then none else some s
    | c, spec => if spec.endsWith "s" then none else some c.shown
  | v => if spec.isEmpty then some v.typeName else none

namespace Rules

/-- A display with stars spread out; stars need exactly one answer. -/
def row (r : Rules) (env : Env) (s : Site) (kind : Row) (items : List Expr) : Answers :=
  let parts := items.mapM fun
    | .starred _ e => match (r.expr env ⟨s, e⟩).only? with
      | some (.row _ inner) => some inner
      | _ => none
    | .bind _ _ e => ((r.expr env ⟨s, e⟩).only?).map fun v => [.value v]
    | e => some [.expr ⟨s, e⟩]
  match parts with
  | some parts => .one (.row kind parts.flatten)
  | none => .failed

/-- The entries of a dictionary that spreads others; all of them need exactly one answer. -/
def spreadEntries (r : Rules) (env : Env) (s : Site) (entries : List (Option Expr × Expr)) :
    Option (List (Value × Item)) :=
  entries.foldlM (fun (met : List (Value × Item)) (e : Option Expr × Expr) => do
    let v ← (r.expr env ⟨s, e.2⟩).only?
    match e.1, v with
    | some key, v =>
      return replaceEntry met (← (r.expr env ⟨s, key⟩).only?, .value v)
    | none, .dict inner =>
      let inner ← inner.mapM fun (k, i) => do
        return (← (r.item env k).only?, Item.value (← (r.item env i).only?))
      return inner.foldl replaceEntry met
    | _, _ => none) []

def dict (r : Rules) (env : Env) (s : Site) (entries : List (Option Expr × Expr)) : Answers :=
  if entries.all (·.1.isSome) then
    .one (.dict (entries.filterMap fun (key?, value) =>
      key?.map fun key => (.expr ⟨s, key⟩, .expr ⟨s, value⟩)))
  else match r.spreadEntries env s entries with
    | some all => .one (.dict (all.map fun (k, i) => (.value k, i)))
    | none => .failed

def formattedPart (r : Rules) (env : Env) (s : Site) (value : Expr) (spec? : Option Expr) :
    List (Option String) :=
  let specs : Answers := match spec? with
    | none => .one (.constant (.text ""))
    | some spec => r.expr env ⟨s, spec⟩
  let a := r.expr env ⟨s, value⟩
  let all := specs.values.flatMap fun (spec? : Option Value) => match spec? with
    | some (.constant (.text spec)) => a.values.map (·.bind (formatOne · spec))
    | _ => [none]
  if a.ending == .complete && specs.ending == .complete then all else all ++ [none]

def joined (r : Rules) (env : Env) (s : Site) (parts : List Expr) : Answers :=
  let texts := parts.map fun
    | .constant _ (.text t) => [some t]
    | .formatted _ value _ spec? => r.formattedPart env s value spec?
    | _ => [none]
  let all := ((choices texts).take maxAnswers).map fun (c : List (Option String)) =>
    (c.mapM id).map fun ts => Value.constant (.text (String.join ts))
  ⟨(all.foldl (fun (met : List (Option Value) × Bool) v? => match v? with
    | some v => (some v :: met.1, met.2)
    | none => if met.2 then met else (none :: met.1, true)) ([], false)).1.reverse, .complete⟩

def bound? (r : Rules) (env : Env) (s : Site) : Option Expr → Option (Option Int)
  | none => some none
  | some e => match (r.expr env ⟨s, e⟩).head? with
    | some (.constant .none) => some none
    | some (.constant c) => (asInt? c).map some
    | _ => none

def indexed (r : Rules) (env : Env) (v index : Value) : Answers :=
  match v, index with
  | .row kind items, .slice start stop step =>
    if kind == .list || kind == .tuple then
      match sliced? items start stop step with
      | some part => .one (.row kind part)
      | none => .failed
    else .failed
  | .row kind items, .constant c =>
    if kind == .list || kind == .tuple then
      match (asInt? c).bind (nth? items) with
      | some i => r.item env i
      | none => .failed
    else .failed
  | .constant (.text t), .slice start stop step =>
    match sliced? t.toList start stop step with
    | some part => .one (.constant (.text (String.ofList part)))
    | none => .failed
  | .constant (.bytes t), .slice start stop step =>
    match sliced? t start stop step with
    | some part => .one (.constant (.bytes part))
    | none => .failed
  | .constant (.text t), .constant c => match (asInt? c).bind (nth? t.toList) with
    | some x => .one (.constant (.text (.singleton x)))
    | none => .failed
  | .constant (.bytes t), .constant c => match (asInt? c).bind (nth? t) with
    | some x => .one (.constant (.int x))
    | none => .failed
  | .dict entries, .constant c =>
    let found := entries.find? fun (key, _) => (r.item env key).values.any fun
      | some (.constant d) => sameConstant c d
      | _ => false
    match found with
    | some (_, value) => r.item env value
    | none => .failed
  | .class c, index =>
    match (r.access env (.class c) "__class_getitem__").values with
    | some m :: _ =>
      let a := r.call env m { positional := [some (.value index)] }
      match a.values with
      | v? :: _ => ⟨[v?], .complete⟩
      | [] => .unknown
    | _ => .failed
  | .instance c, index =>
    match (r.access env (.instance c) "__getitem__").values with
    | some m@(.method ..) :: _ =>
      match (r.call env m { positional := [some (.value index)] }).values with
      | v? :: _ => ⟨[v?], .complete⟩
      | [] => .failed
    | _ => .failed
  | _, _ => .failed

/-- Every value with every index, up to the first that is not known. -/
def indexedAll (r : Rules) (env : Env) : List (Option Value × Option Value) → Answers
  | [] => .none
  | (some v, some i) :: rest => r.indexed env v i ++ indexedAll r env rest
  | _ => .unknown

def isTypeName (lib : Library) : Expr → Bool
  | .name _ id | .attribute _ _ id =>
    (lib.find? "typing").any fun m => !(lib.namedIn m id).isEmpty
  | .subscript _ v _ => isTypeName lib v
  | _ => false

def subscript (r : Rules) (lib : Library) (env : Env) (s : Site) (value index : Expr) : Answers :=
  let a := r.expr env ⟨s, value⟩
  let form? : Option Value :=
    if isTypeName lib value then a.head?.filter isTypeForm else none
  match form? with
  | some v => match v with
    | .class c =>
      if ["Generic", "Protocol", "Annotated"].contains c.value.name then .one v
      else .one (typeForm c.value.name)
    | v => .one (typeForm v.nameOf)
  | none =>
    let indices := r.expr env ⟨s, index⟩
    match a.values, indices.ending with
    | [], _ => ⟨[], if a.ending == .complete then .failed else a.ending⟩
    | none :: _, _ => .unknown
    | _, .complete =>
      (r.indexedAll env (pairs a.values indices.values) ++ ⟨[], a.ending⟩).orFailed
    | _, e => ⟨[], e⟩

def taken (r : Rules) (env : Env) (owner : Located Expr) (name : String) : Answers :=
  let a := r.expr env owner
  let values := a.values.flatMap fun
    | none => [none]
    | some v => (r.access env v name).values
  Answers.orFailed ⟨values, a.ending⟩

/-- No more answers than the limit, and a gap in place of the others. -/
def limited (a : Answers) : Answers :=
  if a.values.length > maxAnswers then ⟨a.values.take maxAnswers ++ [none], .complete⟩ else a

def expression (r : Rules) (lib : Library) (env : Env) (s : Site) (e : Expr) : Answers :=
  match e with
  | .constant _ c => .one (.constant c)
  | .name _ id => r.name lib env s id
  | .joined _ parts => r.joined env s parts
  | .list _ items => r.row env s .list items
  | .tuple _ items => r.row env s .tuple items
  | .set _ items => r.row env s .set items
  | .dict _ entries => r.dict env s entries
  | .attribute _ value name => r.taken env ⟨s, value⟩ name
  | .call _ f args keywords => r.application env s f args keywords
  | .subscript _ value index => r.subscript lib env s value index
  | .slice _ lower? upper? step? =>
    match r.bound? env s lower?, r.bound? env s upper?, r.bound? env s step? with
    | some a, some b, some c => .one (.slice a b c)
    | _, _, _ => .failed
  | .unary _ o operand => r.unary env o ⟨s, operand⟩
  | .binary _ o left right => r.binary env o ⟨s, left⟩ ⟨s, right⟩
  | .boolean _ o operands => r.boolean env o (operands.map (⟨s, ·⟩))
  | .compare _ left rest => r.compare env s left rest
  | .conditional _ test yes no => r.conditional env s test yes no
  | .lambda p parameters body => .one (.callable (.lambda ⟨s, ⟨p, parameters, body⟩⟩))
  | .formatted .. | .starred .. | .comprehension .. | .dictComprehension .. | .await .. | .yield ..
  | .yieldFrom .. | .bind .. => .failed

def evaluate (r : Rules) (lib : Library) (env : Env) (e : Located Expr) : Answers :=
  match e.value with
  | .constant _ c => .one (.constant c)
  | _ =>
    let visit := Visit.of e
    if env.visits.contains visit then .failed
    else limited (r.expression lib { env with visits := visit :: env.visits } e.site e.value)

end Rules

def rules (lib : Library) : Nat → Rules
  | 0 => ⟨fun _ _ => .failed, fun _ _ _ => .failed, fun _ _ _ => .failed, fun _ _ => []⟩
  | depth + 1 =>
    let r := rules lib depth
    ⟨r.evaluate lib, r.attributeOf lib, r.callOf lib, r.ancestorsOf⟩

/-- Evaluation is nested no deeper than this. -/
def maxDepth : Nat := 300

def Library.infer? (lib : Library) (e : Located Expr) : Option Value :=
  ((rules lib maxDepth).expr {} e).first?

def Library.ancestors (lib : Library) (c : Located ClassDecl) : List (Located ClassDecl) :=
  (rules lib maxDepth).ancestors {} c

end ScenarioCheck.Infer
