import ScenarioCheck.Source.Syntax
import ScenarioCheck.Step.Kind

/-! What can be wrong with the declaration of a step. -/
namespace ScenarioCheck.Chain

open Source (Position)
open Step (Kind)

inductive DependencyFault where
  | notSingle
  | notMapping
  | phaseNames
  | spread
  | unknownPhase (name : String)
  | laterPhase (kind phase : Kind)
  | phaseNotMapping (phase : Kind)
  | propertyNames (phase : Kind)
  | requirement (name : String)
  deriving DecidableEq, Repr

def DependencyFault.message : DependencyFault → String
  | .notSingle => "expected a single dict literal"
  | .notMapping => "expected a dict literal"
  | .phaseNames => "phase names must be string literals"
  | .spread => "'**' arguments are not supported"
  | .unknownPhase name => "unknown phase '" ++ name ++ "'"
  | .laterPhase kind phase => "a " ++ kind.name ++ " step cannot depend on " ++ phase.name ++ " state"
  | .phaseNotMapping phase => "'" ++ phase.name ++ "' must be a dict literal"
  | .propertyNames phase => "'" ++ phase.name ++ "' keys must be string literals"
  | .requirement name => "'" ++ name ++ "' must be 'required' or 'optional'"

inductive StateFault where
  | schema
  | body
  | returned
  deriving DecidableEq, Repr

def StateFault.message : StateFault → String
  | .schema => "invalid produces() schema"
  | .body => "step body is not a function"
  | .returned => "returned value is not a dict literal"

/-- Causes that hang on the builder know the text it is written as. -/
inductive Cause where
  | pattern (builder : String)
  | unregistered (builder : String)
  | dependencies (fault : DependencyFault)
  | stage (name : String)
  | state (fault : StateFault)
  deriving DecidableEq, Repr

namespace Cause

def symbol : Cause → String
  | .pattern _ => "step-forge-unparsable-pattern"
  | .unregistered _ => "step-forge-missing-register"
  | .dependencies _ => "step-forge-invalid-dependencies"
  | .stage _ => "step-forge-unknown-chain-stage"
  | .state _ => "step-forge-unresolved-produced-state"

def detail : Cause → String
  | .pattern builder | .unregistered builder => builder
  | .dependencies fault => fault.message
  | .stage name => name
  | .state fault => fault.message

end Cause

structure Issue where
  position : Position
  cause : Cause
  deriving DecidableEq, Repr

end ScenarioCheck.Chain
