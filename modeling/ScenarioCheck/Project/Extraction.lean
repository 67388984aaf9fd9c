import ScenarioCheck.Chain.Analysis
import ScenarioCheck.Project.Configuration
import ScenarioCheck.Project.ModuleName
import ScenarioCheck.Project.Modules

/-! The steps that the files of a project declare. A file that cannot be read or is no module
declares none. Two things are left out: how deep a parser can go before it gives up on a module, and
paths with a NUL character, which no system call takes. -/
namespace ScenarioCheck.Project

open Step (Definition)

structure Pass where
  disk : Disk
  reading : Reading
  root : Path
  builderModules : List String
  bodies : List (Names × List Source.Stmt)
  met : List Scope.Module := []

namespace Pass

def start (w : Workplace) (c : Configuration) : Pass :=
  let root := c.root w
  { disk := w.disk, reading := w.reading, root, builderModules := c.settings.builderModules,
    bodies := bodiesBelow w.reading.named? w.disk root.parts }

/-- What an expression means at this point of a pass. A module that was read before stands for its
name, wherever its file is. -/
def resolver (p : Pass) : Chain.Resolver :=
  p.reading.resolver (libraryOf p.disk p.root p.bodies p.met)

/-- The module of a file of steps. A margin common to all its lines does not matter. -/
def module? (p : Pass) (file : Path) (text : String) : Option Scope.Module := do
  let name ← (ModuleName.ofFile file [p.root]).toOption
  let body ← Source.statements? p.reading.named? (Source.withoutMargin text.toList)
  let isPackage := file.stem == "__init__"
  return ⟨name, isPackage, body, if isPackage then none else beside? p.disk file.parts⟩

def stepsOf (p : Pass) (file : Path) : Pass × List Definition × List Notice :=
  match p.disk.readText file with
  | .error fault => (p, [], [.unreadSteps file fault])
  | .ok text => match p.module? file text with
    | none => (p, [], [.unparsedSteps file])
    | some m =>
      let p := { p with met := p.met ++ [m] }
      (p, Chain.definitions p.resolver p.builderModules file.shown m, [])

/-- The steps of some files, by file and added to what others gave; a file that comes again keeps
its place. -/
def stepsOfAll (current : Path) (p : Pass) (met : List (String × List Definition))
    (notices : List Notice) : List Path → List (String × List Definition) × List Notice
  | [] => (met, notices)
  | path :: rest =>
    let file := Path.resolve current path
    let (p, definitions, more) := p.stepsOf file
    p.stepsOfAll current (Ordered.put file.shown definitions met) (notices ++ more) rest

end Pass

def extractSteps (w : Workplace) (c : Configuration) (paths : List Path) :
    List (String × List Definition) × List Notice :=
  (Pass.start w c).stepsOfAll w.current [] [] paths

end ScenarioCheck.Project
