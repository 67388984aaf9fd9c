import ScenarioCheck.Scope.Node

/-! The stages that are called on a builder. Dependencies and products are declared in any order,
then comes the body, then the registration; each stage at most once. -/
namespace ScenarioCheck.Chain

open Source Scope

inductive Stage where
  | dependencies
  | produces
  | step
  | register
  deriving DecidableEq, Inhabited, Repr

namespace Stage

def all : List Stage := [.dependencies, .produces, .step, .register]

def name : Stage → String
  | .dependencies => "dependencies"
  | .produces => "produces"
  | .step => "step"
  | .register => "register"

def ofName? (name : String) : Option Stage := all.find? fun s => s.name == name

/-- Stages of one rank come in any order. -/
def rank : Stage → Nat
  | .dependencies | .produces => 0
  | .step => 1
  | .register => 2

@[simp] theorem ofName?_name (s : Stage) : ofName? s.name = some s := by cases s <;> rfl

end Stage

structure Break where
  position : Position
  name : String
  deriving DecidableEq, Inhabited, Repr

/-- The stages of a chain in order, up to where it breaks. -/
structure Stages where
  calls : List (Stage × Application)
  break? : Option Break
  deriving Inhabited, Repr

namespace Stages

def call? (s : Stages) (stage : Stage) : Option Application :=
  (s.calls.find? (·.1 == stage)).map (·.2)

end Stages

/-- A stage may follow others if it is not among them and none of them is of a higher rank. -/
def mayFollow (met : List (Stage × Application)) (s : Stage) : Bool :=
  met.all fun m => m.1 != s && decide (m.1.rank ≤ s.rank)

/-- Goes outward along the accesses. What is not called, no stage or out of order breaks the chain. -/
def stagesFrom (met : List (Stage × Application)) : List Access → Stages
  | [] => ⟨met, none⟩
  | a :: rest =>
    match a.call? with
    | none => ⟨met, some ⟨a.position, a.name⟩⟩
    | some call =>
      match Stage.ofName? a.name with
      | none => ⟨met, some ⟨call.position, a.name⟩⟩
      | some s =>
        if mayFollow met s then stagesFrom (met ++ [(s, call)]) rest
        else ⟨met, some ⟨call.position, a.name⟩⟩

def stagesOf (outward : List Access) : Stages := stagesFrom [] outward

end ScenarioCheck.Chain
