import ScenarioCheck.Pattern.Matching
import ScenarioCheck.Step.Build

/-! Running steps against a world, alone or found by their text in a collection. -/
namespace ScenarioCheck.Step

open State (Value World Missing Conflict Entries)

/-- Why a run fails. A failed run leaves the world as it was. -/
inductive RunError where
  | missing (e : Missing)
  | conflict (e : Conflict)
  | body (e : BodyError)
  | asynchronous (statement : String)
  | notAMapping (statement typeName : String)
  | notUnique (count : Nat) (kind : Kind) (text : String)

def RunError.message : RunError → String
  | .missing e => e.message
  | .conflict e => e.message
  | .body e => e.message
  | .asynchronous statement => "Step " ++ Text.quoted statement ++ " is asynchronous, use arun()"
  | .notAMapping statement typeName =>
    "Step " ++ Text.quoted statement ++ " returned " ++ typeName ++ ", expected a mapping"
  | .notUnique count kind text =>
    toString count ++ " " ++ kind.name ++ " step(s) match " ++ Text.quoted text ++
      ", expected exactly one"

namespace Runnable

def declared (s : Runnable) (phase : Kind) : List (String × Requirement) :=
  (Ordered.get? phase s.dependencies).getD []

/-- What the body receives of one phase: the declared properties that are present. Every required
one has to be there. -/
def contextOf (s : Runnable) (w : World) (phase : Kind) : Except RunError Entries :=
  let names := s.declared phase
  let missing? := names.findSome? fun (name, requirement) =>
    if requirement = .required then
      match w.require phase name with
      | .error e => some e
      | .ok _ => none
    else none
  match missing? with
  | some e => .error (.missing e)
  | none => .ok (w.narrowed phase (names.map (·.1)))

def context (s : Runnable) (w : World) (captures : List String) : Except RunError Context := do
  let given ← s.contextOf w .given
  let «when» ← s.contextOf w .when
  let outcome ← s.contextOf w .then
  return ⟨captures, fun
    | .given => given
    | .when => «when»
    | .then => outcome⟩

def mergeResult (s : Runnable) (w : World) : Value → Except RunError World
  | .none => .ok w
  | .dict update =>
    match w.merge s.kind update with
    | .ok w' => .ok w'
    | .error e => .error (.conflict e)
  | v => .error (.notAMapping s.statement.pattern v.typeName)

/-- Runs a step. `awaits` tells whether an asynchronous body is waited for. -/
def run (s : Runnable) (w : World) (captures : List String) (awaits : Bool := false) :
    Except RunError World := do
  let ctx ← s.context w captures
  if s.body.isAsync && !awaits then .error (.asynchronous s.statement.pattern)
  else
    match s.body.run ctx with
    | .ok v => s.mergeResult w v
    | .error e => .error (.body e)

end Runnable

abbrev Collection := List Runnable

namespace Collection

def find (c : Collection) (kind : Kind) (text : String) : List Runnable :=
  c.filter fun s => s.kind == kind && Pattern.accepts s.statement.pattern text

/-- Runs the single step of a kind that matches a text with the values it captures. -/
def runText (c : Collection) (w : World) (kind : Kind) (text : String) :
    Except RunError (Runnable × World) :=
  match c.find kind text with
  | [s] => (s.run w ((Pattern.captures? s.statement.pattern text).getD [])).map (s, ·)
  | found => .error (.notUnique found.length kind text)

end Collection
end ScenarioCheck.Step
