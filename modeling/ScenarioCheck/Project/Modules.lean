import ScenarioCheck.Infer.Library
import ScenarioCheck.Project.Disk

/-! The modules that the files below a root make up. A directory with an initializer is a package,
one without still holds modules; a package comes before a file of its name, and a file before a bare
directory. -/
namespace ScenarioCheck.Project

open Source Scope

inductive Origin where
  | file (names : Names)
  | package (names : Names)
  | bare (names : Names)
  deriving DecidableEq, Repr

namespace Origin

def inside? : Origin → Option Names
  | file _ => none
  | package names => some names
  | bare names => some names

end Origin

def originIn? (d : Disk) (directory : Names) (name : String) : Option Origin :=
  let inner := directory ++ [name]
  let file := directory ++ [name ++ ".py"]
  if (d.contentAt? (inner ++ ["__init__.py"])).isSome then some (.package inner)
  else if (d.contentAt? file).isSome then some (.file file)
  else if d.isDirectoryAt inner then some (.bare inner)
  else none

/-- What a dotted name means below a directory. -/
def originOf? (d : Disk) (directory : Names) : List String → Option Origin
  | [] => none
  | [name] => originIn? d directory name
  | name :: rest => do
    originOf? d (← (← originIn? d directory name).inside?) rest

def beside? (d : Disk) (file : Names) : Option (List String) :=
  let directory := file.dropLast
  if (d.contentAt? (directory ++ ["__init__.py"])).isSome then none else some (d.entries directory)

/-- A mark of the byte order at the start of a text is no part of it. -/
def withoutMark (text : List Char) : List Char :=
  match text with
  | c :: rest => if c.toNat = 0xFEFF then rest else text
  | [] => []

/-- The statements of every file of a module below a root; a file that is no module has none. -/
def bodiesBelow (named? : CharNames) (d : Disk) (root : Names) : List (Names × List Stmt) :=
  d.files.filterMap fun (names, content) =>
    if root.isPrefixOf names && (names.getLast?.getD "").endsWith ".py" then do
      let text ← String.fromUTF8? content
      let body ← statements? named? (withoutMark text.toList)
      return (names, body)
    else none

def moduleOf? (d : Disk) (bodies : List (Names × List Stmt)) (name : String) (o : Origin) :
    Option Module :=
  match o with
  | .bare _ => some ⟨name, true, [], none⟩
  | .package names => (bodies.find? (·.1 == names ++ ["__init__.py"])).map fun b =>
    ⟨name, true, b.2, none⟩
  | .file names => (bodies.find? (·.1 == names)).map fun b => ⟨name, false, b.2, beside? d names⟩

/-- The modules that were read before, then those below a root, then those that are known anywhere. -/
def libraryOf (d : Disk) (root : Path) (bodies : List (Names × List Stmt)) (met : List Module) :
    Infer.Library :=
  .ofProject fun name =>
    (met.find? (·.name == name)).or
      ((originOf? d root.parts (Infer.components name)).bind (moduleOf? d bodies name))

end ScenarioCheck.Project
