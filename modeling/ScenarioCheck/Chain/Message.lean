import ScenarioCheck.Chain.Analysis

/-! Messages about the declarations of steps. A pattern may be declared once for a kind; what was
declared is remembered over all modules of a run. -/
namespace ScenarioCheck.Chain

open Source Scope Step

inductive Finding where
  | fault (cause : Cause)
  | duplicate (kind : Kind) (pattern : String) (first : Location)
  deriving DecidableEq, Repr

namespace Finding

def id : Finding → String
  | .fault (.pattern _) => "W9101"
  | .fault (.unregistered _) => "W9102"
  | .fault (.dependencies _) => "W9103"
  | .fault (.stage _) => "W9104"
  | .fault (.state _) => "W9105"
  | .duplicate .. => "W9106"

def symbol : Finding → String
  | .fault cause => cause.symbol
  | .duplicate .. => "step-forge-duplicate-pattern"

def text : Finding → String
  | .fault (.pattern builder) =>
    "Step pattern of " ++ builder ++ "() cannot be determined statically."
  | .fault (.unregistered builder) =>
    "Step chain started by " ++ builder ++ "() is never registered."
  | .fault (.dependencies f) => "Invalid step dependencies: " ++ f.message ++ "."
  | .fault (.stage name) => "Unexpected '" ++ name ++ "' stage in step builder chain."
  | .fault (.state f) =>
    "Produced state of this step cannot be determined: " ++ f.message ++ "."
  | .duplicate kind pattern first =>
    kind.title ++ " step pattern '" ++ pattern ++ "' is already declared at " ++ first.shown ++ "."

end Finding

structure Message where
  position : Position
  finding : Finding
  deriving DecidableEq, Repr

/-- Where each pattern of a kind was first declared. -/
abbrev Declared := List ((Kind × String) × Location)

def messagesOf (file : String) (declared : Declared) (a : Analysis) : List Message × Declared :=
  let faults := a.issues.map fun i => ⟨i.position, .fault i.cause⟩
  match a.definition? file with
  | none => (faults, declared)
  | some d =>
    match Ordered.get? (d.kind, d.pattern) declared with
    | none => (faults, Ordered.put (d.kind, d.pattern) d.location declared)
    | some first => (faults ++ [⟨a.position, .duplicate d.kind d.pattern first⟩], declared)

def messagesFrom (file : String) (declared : Declared) :
    List Analysis → List Message × Declared
  | [] => ([], declared)
  | a :: rest =>
    let first := messagesOf file declared a
    let others := messagesFrom file first.2 rest
    (first.1 ++ others.1, others.2)

def enabled (disabled : List String) (messages : List Message) : List Message :=
  messages.filter fun m => !disabled.contains m.finding.symbol

def runMessages (r : Resolver) (modules disabled : List String) (declared : Declared) :
    List (String × Module) → List (List Message)
  | [] => []
  | (file, m) :: rest =>
    let (messages, declared) := messagesFrom file declared (analyses r modules m)
    enabled disabled messages :: runMessages r modules disabled declared rest

end ScenarioCheck.Chain
