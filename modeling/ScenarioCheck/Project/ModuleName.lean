import ScenarioCheck.Project.Path
import ScenarioCheck.Text.Quoted

/-! Dotted names of modules: the name of a file below a root, and membership of one module in
another. -/
namespace ScenarioCheck.ModuleName

/-- A root that is the file itself leaves no name for it. -/
structure NoName where
  path : Path

def NoName.message (e : NoName) : String :=
  "PosixPath(" ++ Text.quoted e.path.shown ++ ") has an empty name"

def initializer : String := "__init__"

def below? (file root : Path) : Except NoName (Option String) :=
  match file.relativeTo? root with
  | none => .ok none
  | some relative =>
    if relative.parts.isEmpty then .error ⟨relative⟩
    else
      let parts := relative.withoutSuffix.parts
      let parts := if parts.getLast? = some initializer then parts.dropLast else parts
      .ok (if parts.isEmpty then none else some (".".intercalate parts))

/-- The dotted name of a file relative to the first root that gives it one, else its bare name. -/
def ofFile (file : Path) : List Path → Except NoName String
  | [] => .ok file.stem
  | root :: roots =>
    match below? file root with
    | .ok (some name) => .ok name
    | .ok none => ofFile file roots
    | .error e => .error e

def components (name : String) : List String :=
  (Text.splitOn '.' name.toList).map String.ofList

def isWithin (name : String) (modules : List String) : Bool :=
  modules.any fun m => name == m || (m ++ ".").toList.isPrefixOf name.toList

end ScenarioCheck.ModuleName
