import ScenarioCheck.Chain.Issue
import ScenarioCheck.Chain.Mapping
import ScenarioCheck.Ordered
import ScenarioCheck.Scope.Node

/-! The dependencies a chain declares. What is wrong with one phase or property is reported and the
rest is still read; what is no mapping at all declares nothing. -/
namespace ScenarioCheck.Chain

open Source Scope Step

structure Reading (α : Type) where
  value : α
  issues : List Issue := []

def fault (p : Position) (f : DependencyFault) : Issue := ⟨p, .dependencies f⟩

def phases (call : Application) : Except Issue (List (String × Expr)) :=
  match call.arguments with
  | [] => match call.keywords.find? (·.name?.isNone) with
    | some k => .error (fault k.position .spread)
    | none => .ok (call.keywords.filterMap fun k => k.name?.map fun name => (name, k.value))
  | argument :: rest =>
    if !call.keywords.isEmpty || !rest.isEmpty then .error (fault call.position .notSingle)
    else match argument with
      | .dict p entries => match textEntries? entries with
        | some all => .ok all
        | none => .error (fault p .phaseNames)
      | e => .error (fault e.position .notMapping)

/-- The requirements of one phase; the first that is none leaves the phase empty. -/
def requirementsFrom (met : List (String × Requirement)) :
    List (String × Expr) → Reading (List (String × Requirement))
  | [] => ⟨met, []⟩
  | (name, e) :: rest =>
    match (text? e).bind Requirement.ofName? with
    | some r => requirementsFrom (Ordered.put name r met) rest
    | none => ⟨[], [fault e.position (.requirement name)]⟩

def requirements (phase : Kind) : Expr → Reading (List (String × Requirement))
  | .dict p entries => match textEntries? entries with
    | some all => requirementsFrom [] all
    | none => ⟨[], [fault p (.propertyNames phase)]⟩
  | e => ⟨[], [fault e.position (.phaseNotMapping phase)]⟩

def addPhase (kind : Kind) (met : Reading Dependencies) (declared : String × Expr) :
    Reading Dependencies :=
  let p := declared.2.position
  match Kind.ofName? declared.1 with
  | none => { met with issues := met.issues ++ [fault p (.unknownPhase declared.1)] }
  | some phase =>
    let late := if kind.mayDependOn phase then [] else [fault p (.laterPhase kind phase)]
    let read := requirements phase declared.2
    ⟨Ordered.put phase read.value met.value, met.issues ++ late ++ read.issues⟩

def readDependencies (kind : Kind) (call : Application) : Reading (Option Dependencies) :=
  match phases call with
  | .error issue => ⟨none, [issue]⟩
  | .ok declared =>
    let read := declared.foldl (addPhase kind) ⟨[], []⟩
    ⟨some read.value, read.issues⟩

end ScenarioCheck.Chain
