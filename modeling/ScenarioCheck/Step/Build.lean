import ScenarioCheck.Step.Body
import ScenarioCheck.Step.Statement

/-! Building steps: a kind and a statement, then dependencies, declared output and a body. -/
namespace ScenarioCheck.Step

inductive BuildError where
  | notAStatement
  | unknownPhase (name : String)
  | phaseNotAllowed (kind phase : Kind)
  | badName (e : BadName)
  | repeatedArgument (stage name : String)
  | notABody

def BuildError.message : BuildError → String
  | .notAStatement => "A step statement must be a string or a function returning one"
  | .unknownPhase name => "Unknown dependency phase '" ++ name ++ "'"
  | .phaseNotAllowed kind phase =>
    "A " ++ kind.name ++ " step cannot depend on " ++ phase.name ++ " state"
  | .badName e => e.message
  | .repeatedArgument stage name =>
    "StepBuilder." ++ stage ++ "() got multiple values for argument '" ++ name ++ "'"
  | .notABody => "step() expects a callable"

/-- A declaration of dependencies as it is written: phase names with the entries of the phase, or
with nothing. -/
abbrev Declared := List (String × Option (List (String × String)))

def readRequirements (entries : List (String × String)) :
    Except BuildError (List (String × Requirement)) :=
  entries.mapM fun (name, text) =>
    match Requirement.ofName? text with
    | some requirement => .ok (name, requirement)
    | none => .error (.badName (.requirement text))

/-- The dependencies a declaration stands for. Phases without entries are left out; the first
fault in the order of the declaration is reported. -/
def readDependencies (kind : Kind) : Declared → Except BuildError Dependencies
  | [] => .ok []
  | (_, none) :: rest => readDependencies kind rest
  | (name, some entries) :: rest =>
    match Kind.ofName? name with
    | none => .error (.unknownPhase name)
    | some phase =>
      if kind.mayDependOn phase then do
        let requirements ← readRequirements entries
        let others ← readDependencies kind rest
        return (phase, requirements) :: others
      else .error (.phaseNotAllowed kind phase)

structure Builder where
  kind : Kind
  statement : Statement
  dependencies : Dependencies := []
  produces : Option (List (String × State.Value)) := none

namespace Builder

/-- Declares dependencies: a map, then phases that replace the map's entries of the same name. -/
def withDependencies (b : Builder) (declared phases : Declared) : Except BuildError Builder := do
  let dependencies ← readDependencies b.kind (Ordered.putAll (Ordered.ofList declared) phases)
  return { b with dependencies }

/-- Declares the output: a map, then fields that replace the map's entries of the same name. -/
def withProduces (b : Builder) (schema fields : List (String × State.Value)) : Builder :=
  { b with produces := some (Ordered.putAll (Ordered.ofList schema) fields) }

/-- The first argument by name that names a parameter which is given by position. -/
def repeated? {α : Type} (given : List String) (named : List (String × α)) : Option String :=
  (named.map (·.1)).find? given.contains

/-- The call of the stage with a map and phases by name. No phase by name can be called as the
parameters of the stage are, the builder among them. -/
def declareDependencies (b : Builder) (declared phases : Declared) : Except BuildError Builder :=
  match repeated? ["self", "declared"] phases with
  | some name => .error (.repeatedArgument "dependencies" name)
  | none => b.withDependencies declared phases

def declareProduces (b : Builder) (schema fields : List (String × State.Value)) :
    Except BuildError Builder :=
  match repeated? ["self", "schema"] fields with
  | some name => .error (.repeatedArgument "produces" name)
  | none => .ok (b.withProduces schema fields)

end Builder

structure Runnable where
  kind : Kind
  statement : Statement
  dependencies : Dependencies
  body : Body
  produces : Option (List (String × State.Value)) := none

def Builder.step (b : Builder) (body : Option Body) : Except BuildError Runnable :=
  match body with
  | some body => .ok ⟨b.kind, b.statement, b.dependencies, body, b.produces⟩
  | none => .error .notABody

def Runnable.shown (s : Runnable) : String :=
  "Step(" ++ s.kind.name ++ ", " ++ Text.quoted s.statement.pattern ++ ")"

end ScenarioCheck.Step
