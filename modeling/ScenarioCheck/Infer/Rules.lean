import ScenarioCheck.Infer.Library
import ScenarioCheck.Infer.Value

/-! What evaluation goes on: the call that is being run, the owner of the attribute that is being
taken, and the expressions already under way. The rules for expressions, attributes, calls and
classes refer to each other; each of them takes the others as given. -/
namespace ScenarioCheck.Infer

open Source Scope

/-- The arguments of a call after stars are spread out; a gap is an argument that is not known. -/
structure Arguments where
  positional : List (Option Item) := []
  keywords : List (String × Item) := []
  /-- Some spread mapping is not known. -/
  isPartial : Bool := false
  repeated : List String := []
  deriving Inhabited

structure Call where
  callee : Callable
  owner? : Option Value
  arguments : Arguments
  deriving Inhabited

/-- An expression under way: expressions that start together differ in depth. -/
structure Visit where
  home : String
  position : Position
  depth : Nat
  name : String
  deriving DecidableEq

structure Env where
  call? : Option Call := none
  owner? : Option Value := none
  visits : List Visit := []
  deriving Inhabited

namespace Env

def outside (env : Env) : Env := { env with call? := none }

def fresh (env : Env) : Env := { env with call? := none, owner? := none }

end Env

structure Rules where
  expr : Env → Located Expr → Answers
  access : Env → Value → String → Answers
  call : Env → Value → Arguments → Answers
  ancestors : Env → Located ClassDecl → List (Located ClassDecl)

namespace Rules

def item (r : Rules) (env : Env) : Item → Answers
  | .expr e => r.expr env e
  | .value v => .one v

def items (r : Rules) (env : Env) (all : List Item) : Answers :=
  .settle (all.map (r.item env))

end Rules

def builtinClass? (name : String) : Option (Located ClassDecl) :=
  (named (fun _ _ => false) Known.builtins topLevels name).findSome? fun b => match b.origin with
    | .class c => some ⟨b.site, c⟩
    | _ => none

def bareClass (home name : String) : Located ClassDecl :=
  ⟨.ofModule ⟨home, false, [], none⟩, ⟨⟨0, 0⟩, name, [], [], [], []⟩⟩

def Value.builtinType? (v : Value) : Option (Located ClassDecl) :=
  match v with
  | .constant .none | .constant .ellipsis => none
  | .constant _ | .row .. | .dict _ => builtinClass? v.typeName
  | _ => none

/-- Whether a class has the name among its bases, written plainly or as an attribute. -/
def hasBase (c : ClassDecl) (name : String) : Bool :=
  c.bases.any fun
    | .name _ id => id == name
    | .attribute _ _ id => id == name
    | _ => false

/-- An item of a row; negative positions count from the end. -/
def nth? {α : Type} (items : List α) (i : Int) : Option α :=
  let j := if i < 0 then i + items.length else i
  if j < 0 then none else items[j.toNat]?

def sliceIndices (start? stop? : Option Int) (step : Int) (length : Nat) : List Nat :=
  let n : Int := length
  let clip (low high i : Int) : Int := max low (min high (if i < 0 then i + n else i))
  if step > 0 then
    let start := (start?.map (clip 0 n)).getD 0
    let stop := (stop?.map (clip 0 n)).getD n
    (List.range length).filter fun (i : Nat) =>
      start ≤ (i : Int) && (i : Int) < stop && ((i : Int) - start) % step == 0
  else
    let start := (start?.map (clip (-1) (n - 1))).getD (n - 1)
    let stop := (stop?.map (clip (-1) (n - 1))).getD (-1)
    ((List.range length).filter fun (i : Nat) =>
      stop < (i : Int) && (i : Int) ≤ start && (start - (i : Int)) % (-step) == 0).reverse

/-- A slice of a list; a step of zero selects nothing. -/
def sliced? {α : Type} (items : List α) (start? stop? step? : Option Int) : Option (List α) :=
  let step := step?.getD 1
  if step = 0 then none
  else some ((sliceIndices start? stop? step items.length).filterMap (items[·]?))

end ScenarioCheck.Infer
