import ScenarioCheck.Infer.Call
import ScenarioCheck.Infer.Literal

/-! Operators. Every combination of what the operands may be is tried; the first one that is not
known ends the answers of an operator on two values. -/
namespace ScenarioCheck.Infer

open Source Scope

/-- The names of the methods behind an operator, for the left and for the right operand. -/
def methodNames (o : BinaryOperator) : String × String :=
  let name := match o with
    | .add => "add"
    | .subtract => "sub"
    | .multiply => "mul"
    | .matrixMultiply => "matmul"
    | .divide => "truediv"
    | .modulo => "mod"
    | .power => "pow"
    | .shiftLeft => "lshift"
    | .shiftRight => "rshift"
    | .bitOr => "or"
    | .bitXor => "xor"
    | .bitAnd => "and"
    | .floorDivide => "floordiv"
  ("__" ++ name ++ "__", "__r" ++ name ++ "__")

/-- Types and `None` combine to alternatives. -/
def isAlternative : Value → Bool
  | .class _ | .union | .constant .none => true
  | _ => false

/-- Longer rows are cut. -/
def maxRowLength : Nat := 100000

inductive Attempt where
  | answers (a : Answers)
  | unsupported
  | unknown

def Attempt.ofOutcome : Outcome → Attempt
  | .value c => .answers (.one (.constant c))
  | .unsupported => .unsupported
  | .broken => .unknown

/-- All pairs, the first component varying slowest. -/
def pairs {α β : Type} (as : List α) (bs : List β) : List (α × β) :=
  as.flatMap fun a => bs.map fun b => (a, b)

def choices {α : Type} : List (List α) → List (List α)
  | [] => [[]]
  | as :: rest => as.flatMap fun a => (choices rest).map (a :: ·)

/-- Every combination of choices beyond this is left out. -/
def maxAnswers : Nat := 100

namespace Rules

/-- The values of the items of a row; an item that is not known stays as it is, and one that fails
makes all fail. -/
def itemValues? (r : Rules) (env : Env) (items : List Item) : Option (List Item) :=
  (items.mapM fun (i : Item) =>
    let a := r.item env i
    if a.ending == .complete then
      some (a.values.map fun (v? : Option Value) => (v?.map Item.value).getD i)
    else none).map List.flatten

def repeatedRow (r : Rules) (env : Env) (kind : Row) (items : List Item) (n : Int) : Answers :=
  let once := items.map fun i => ((r.item env i).only?.map Item.value).getD i
  .one (.row kind
    ((List.replicate (min n.toNat maxRowLength) once).flatten.take maxRowLength))

/-- What a text is formatted with. A tuple with an item that is no literal value counts as `None`. -/
def supply? (r : Rules) (env : Env) (v : Value) : Option Supply :=
  let constant? (i : Item) : Option Constant := match (r.item env i).only? with
    | some (.constant c) => some c
    | _ => none
  match v with
  | .row .tuple items => some (.row ((items.mapM constant?).getD [.none]))
  | .dict entries =>
    (entries.mapM fun (k, v) => do return (← constant? k, ← constant? v)).map .mapping
  | .constant c => some (.row [c])
  | _ => none

def byMethod (r : Rules) (env : Env) (owner other : Value) (name : String) : Attempt :=
  match (r.access env owner name).values with
  | some m :: _ =>
    let a := r.call env m { positional := [some (.value other)] }
    if a.ending != .complete || a.values.any (·.isNone) then .unknown else .answers a
  | _ => .unsupported

def byLeft (r : Rules) (env : Env) (o : BinaryOperator) (a b : Value) : Attempt :=
  match a, b with
  | .constant (.text s), b =>
    if o == .modulo then match r.supply? env b with
      | some supply => match formatted s supply with
        | .value c => .answers (.one (.constant c))
        | _ => .unknown
      | none => .unknown
    else match b with
      | .constant c => .ofOutcome (constantOperation o (.text s) c)
      | _ => .unsupported
  | .constant c, .constant d => .ofOutcome (constantOperation o c d)
  | .row kind items, .row kind' items' =>
    match o, kind, kind' with
    | .add, .list, .list | .add, .tuple, .tuple =>
      match r.itemValues? env items, r.itemValues? env items' with
      | some x, some y => .answers (.one (.row kind (x ++ y)))
      | _, _ => .unknown
    | _, .set, _ | _, .frozenset, _ => .unknown
    | _, _, _ => .unsupported
  | .row kind items, .constant c =>
    match o, kind, asInt? c with
    | .multiply, .list, some n | .multiply, .tuple, some n =>
      .answers (r.repeatedRow env kind items n)
    | _, _, _ => .unsupported
  | .dict _, .dict _ => .unknown
  | .instance _, b => r.byMethod env a b (methodNames o).1
  | _, _ => .unsupported

def byRight (r : Rules) (env : Env) (o : BinaryOperator) (a b : Value) : Attempt :=
  match a, b with
  | .constant c, .row kind items =>
    match o, kind, asInt? c with
    | .multiply, .list, some n | .multiply, .tuple, some n =>
      .answers (r.repeatedRow env kind items n)
    | _, _, _ => .unsupported
  | a, .instance _ => r.byMethod env b a (methodNames o).2
  | _, _ => .unsupported

/-- Operands of one type are not asked on the right. -/
def sameType (a b : Value) : Bool :=
  match a, b with
  | .instance c, .instance d => sameClass c d
  | _, _ => false

def operation (r : Rules) (env : Env) (o : BinaryOperator) (a b : Value) : Answers :=
  let byBoth : Attempt := match a, b with
    | .constant (.int m), .constant (.bool n) => .ofOutcome (constantOperation o (.bool n) (.int m))
    | _, _ => match r.byLeft env o a b with
      | .unsupported => if sameType a b then .unsupported else r.byRight env o a b
      | t => t
  match byBoth with
  | .answers a => a
  | .unknown => .unknown
  | .unsupported =>
    if o == .bitOr && isAlternative a && isAlternative b then .one .union else .unknown

/-- An operator on every pair of values, up to the first that is not known. -/
def operations (r : Rules) (env : Env) (o : BinaryOperator) :
    List (Option Value × Option Value) → Answers
  | [] => .none
  | (some a, some b) :: rest => r.operation env o a b ++ operations r env o rest
  | _ => .unknown

def binary (r : Rules) (env : Env) (o : BinaryOperator) (left right : Located Expr) : Answers :=
  let a := r.expr env left
  let b := r.expr env right
  match a.ending, b.ending with
  | .complete, .complete =>
    let all := r.operations env o (pairs a.values b.values)
    if all.values.isEmpty then .unknown else all
  | .complete, e => ⟨[], e⟩
  | e, _ => ⟨[], e⟩

def signed (r : Rules) (env : Env) (o : UnaryOperator) (v : Value) : Answers :=
  match v, o with
  | .constant c, o => match constantSign o c with
    | .value d => .one (.constant d)
    | _ => .unknown
  | v, .not => match r.truth? env v with
    | some b => .one (.constant (.bool !b))
    | none => .unknown
  | .instance c, o =>
    let name := match o with
      | .plus => "__pos__"
      | .minus => "__neg__"
      | _ => "__invert__"
    match (r.access env (.instance c) name).values with
    | some m :: _ =>
      let a := r.call env m {}
      match a.values with
      | [] => .unknown
      | v? :: _ => ⟨[v?], .complete⟩
    | _ => .unknown
  | _, _ => .unknown

def unary (r : Rules) (env : Env) (o : UnaryOperator) (operand : Located Expr) : Answers :=
  ((r.expr env operand).bind (r.signed env o)).orFailed

def decided (isOr : Bool) : List (Value × Bool) → Option Value
  | [] => none
  | [(v, _)] => some v
  | (v, b) :: rest => if b == isOr then some v else decided isOr rest

/-- One combination of the operands of `and` or `or`; all of them have to be known. -/
def choice (r : Rules) (env : Env) (isOr : Bool) (vs : List (Option Value)) : Option Value :=
  (vs.mapM fun (v? : Option Value) => do
    let v ← v?
    return (v, ← r.truth? env v)).bind (decided isOr)

def boolean (r : Rules) (env : Env) (o : BooleanOperator) (operands : List (Located Expr)) :
    Answers :=
  let all := operands.map (r.expr env)
  match all.find? (·.ending != .complete) with
  | some a => ⟨[], a.ending⟩
  | none =>
    Answers.orFailed
      ⟨((choices (all.map (·.values))).take maxAnswers).map (r.choice env (o == .or)), .complete⟩

/-- One comparison of all that two operands may be: all of them have to agree. -/
def comparison (o : Comparison) (a b : List (Option Value)) : Option Bool :=
  let results := (pairs a b).map fun (v?, w?) => do
    compare? o (← (← v?).literal?) (← (← w?).literal?)
  match results with
  | [] => none
  | first :: rest => if rest.all (· == first) then first else none

/-- A chain of comparisons stops at the first that is not true. -/
def comparisons (r : Rules) (env : Env) (s : Site) (left : List (Option Value)) :
    List (Comparison × Expr) → Answers
  | [] => .one (.constant (.bool true))
  | (o, e) :: rest =>
    let a := r.expr env ⟨s, e⟩
    match a.ending with
    | .complete => match comparison o left a.values with
      | some true => comparisons r env s a.values rest
      | some false => .one (.constant (.bool false))
      | none => .unknown
    | e => ⟨[], e⟩

def compare (r : Rules) (env : Env) (s : Site) (left : Expr) (rest : List (Comparison × Expr)) :
    Answers :=
  let a := r.expr env ⟨s, left⟩
  match a.ending with
  | .complete => r.comparisons env s a.values rest
  | e => ⟨[], e⟩

/-- A condition that is known takes one branch, another both. -/
def conditional (r : Rules) (env : Env) (s : Site) (test yes no : Expr) : Answers :=
  match (r.expr env ⟨s, test⟩).head?.bind (r.truth? env) with
  | some true => r.expr env ⟨s, yes⟩
  | some false => r.expr env ⟨s, no⟩
  | none => r.expr env ⟨s, yes⟩ ++ r.expr env ⟨s, no⟩

end Rules

end ScenarioCheck.Infer
