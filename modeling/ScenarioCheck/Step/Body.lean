import ScenarioCheck.Ordered
import ScenarioCheck.State.World

/-! Bodies of steps: pure functions of what a step receives. -/
namespace ScenarioCheck.Step

open State (Value Entries)

structure Context where
  captures : List String
  phase : Kind → Entries

inductive BodyError where
  | noVariable
  | noProperty (name : String)
  | raised (message : String)

def BodyError.message : BodyError → String
  | .noVariable => "list index out of range"
  | .noProperty name => Text.quoted name
  | .raised message => message

/-- The body of a step. An asynchronous one gives its value only when it is awaited. -/
structure Body where
  isAsync : Bool := false
  run : Context → Except BodyError Value

inductive Template where
  | value (v : Value)
  | variable (index : Int)
  | property (phase : Kind) (name : String)
  | context
  | list (items : List Template)
  | tuple (items : List Template)
  | dict (entries : List (String × Template))
  deriving Inhabited

namespace Template

/-- A position counted from the front, or from the end if negative. -/
def position? (length : Nat) (index : Int) : Option Nat :=
  if 0 ≤ index then some index.toNat
  else if -(length : Int) ≤ index then some (length - index.natAbs) else none

mutual

def eval (ctx : Context) : Template → Except BodyError Value
  | .value v => .ok v
  | .variable index =>
    match (position? ctx.captures.length index).bind (ctx.captures[·]?) with
    | some text => .ok (.text text)
    | none => .error .noVariable
  | .property phase name =>
    match Ordered.get? name (ctx.phase phase) with
    | some v => .ok v
    | none => .error (.noProperty name)
  | .context =>
    .ok (.dict (("variables", .list (ctx.captures.map .text)) ::
      Kind.all.map fun phase => (phase.name, .dict (ctx.phase phase))))
  | .list items => (evalItems ctx items).map .list
  | .tuple items => (evalItems ctx items).map .tuple
  | .dict entries => (evalEntries ctx entries).map fun es => .dict (Ordered.ofList es)

def evalItems (ctx : Context) : List Template → Except BodyError (List Value)
  | [] => .ok []
  | item :: rest => do
    let v ← eval ctx item
    let vs ← evalItems ctx rest
    return v :: vs

def evalEntries (ctx : Context) : List (String × Template) → Except BodyError Entries
  | [] => .ok []
  | (key, item) :: rest => do
    let v ← eval ctx item
    let vs ← evalEntries ctx rest
    return (key, v) :: vs

end

end Template
end ScenarioCheck.Step
