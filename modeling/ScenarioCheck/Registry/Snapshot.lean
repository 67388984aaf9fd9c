import ScenarioCheck.Pattern.Matching
import ScenarioCheck.Step.Definition

/-! All known step definitions at one moment. A registry is its current snapshot: every write gives
a complete new snapshot with the next version, or fails and gives none. -/
namespace ScenarioCheck

open Step (Kind Definition)

structure Snapshot where
  version : Nat := 0
  definitions : List Definition := []
  deriving DecidableEq, Inhabited

namespace Snapshot

/-- The list without repetitions, each element at its first place. -/
def firsts {α : Type} [DecidableEq α] (items : List α) : List α :=
  items.foldl (fun seen x => if x ∈ seen then seen else seen ++ [x]) []

def files (s : Snapshot) : List String := firsts (s.definitions.map (·.location.file))

def matching (s : Snapshot) (kind : Kind) (text : String) : List Definition :=
  s.definitions.filter fun d => d.kind == kind && Pattern.accepts d.pattern text

def startingWith (s : Snapshot) (kind : Kind) (typed : String) : List Definition :=
  s.definitions.filter fun d => d.kind == kind && Pattern.startsWith d.pattern typed

/-- The first definition at a place; without a column, on a line. -/
def at? (s : Snapshot) (file : String) (line : Int) (column : Option Int) : Option Definition :=
  s.definitions.find? fun d =>
    d.location.file == file && d.location.line == line &&
      (match column with
        | none => true
        | some c => d.location.column == c)

/-- A definition that is listed under another file than its own. -/
structure Misplaced where
  definition : Definition
  file : String

def Misplaced.message (m : Misplaced) : String :=
  "Definition at " ++ m.definition.location.shown ++ " does not belong to " ++ m.file

def publish (s : Snapshot) (definitions : List Definition) : Snapshot :=
  ⟨s.version + 1, definitions⟩

def misplaced? (byFile : List (String × List Definition)) : Option Misplaced :=
  byFile.findSome? fun (file, definitions) =>
    (definitions.find? (·.location.file ≠ file)).map (⟨·, file⟩)

/-- Replaces the definitions of some files. Definitions of other files stay in their place, the
new ones follow in the order given. An empty list removes a file. -/
def replaceFiles (s : Snapshot) (byFile : List (String × List Definition)) :
    Except Misplaced Snapshot :=
  match misplaced? byFile with
  | some fault => .error fault
  | none =>
    let kept := s.definitions.filter fun d => d.location.file ∉ Ordered.keys byFile
    .ok (s.publish (kept ++ byFile.flatMap (·.2)))

def replaceFile (s : Snapshot) (file : String) (definitions : List Definition) :
    Except Misplaced Snapshot := s.replaceFiles [(file, definitions)]

def removeFile (s : Snapshot) (file : String) : Snapshot :=
  s.publish (s.definitions.filter (·.location.file ≠ file))

def clear (s : Snapshot) : Snapshot := s.publish []

@[simp] theorem replaceFile_nil (s : Snapshot) (file : String) :
    s.replaceFile file [] = .ok (s.removeFile file) := by
  simp [replaceFile, replaceFiles, misplaced?, removeFile, Ordered.keys]

end Snapshot
end ScenarioCheck
