import ScenarioCheck.Project.Path
import ScenarioCheck.Text.Quoted

/-! The files that a project is read from: contents by absolute path, and the directories around
them. -/
namespace ScenarioCheck.Project

abbrev Names := List String

structure Disk where
  files : List (Names × ByteArray) := []
  directories : List Names := [[]]
  deriving Inhabited

inductive OpenFault where
  | missing
  | notDirectory
  | isDirectory
  deriving DecidableEq, Repr

def OpenFault.message (path : Path) : OpenFault → String
  | .missing => "[Errno 2] No such file or directory: " ++ Text.quoted path.shown
  | .notDirectory => "[Errno 20] Not a directory: " ++ Text.quoted path.shown
  | .isDirectory => "[Errno 21] Is a directory: " ++ Text.quoted path.shown

namespace Disk

/-- All beginnings of a path, the empty one first. -/
def beginnings (names : Names) : List Names :=
  (List.range (names.length + 1)).map names.take

def isDirectoryAt (d : Disk) (names : Names) : Bool := d.directories.contains names

def contentAt? (d : Disk) (names : Names) : Option ByteArray :=
  (d.files.find? (·.1 == names)).map (·.2)

def addDirectory (d : Disk) (names : Names) : Disk :=
  { d with
    directories := d.directories ++ (beginnings names).filter (!d.directories.contains ·) }

def write (d : Disk) (names : Names) (content : ByteArray) : Disk :=
  let d := d.addDirectory names.dropLast
  { d with files := d.files.filter (·.1 != names) ++ [(names, content)] }

def remove (d : Disk) (names : Names) : Disk :=
  { d with files := d.files.filter (·.1 != names) }

/-- Follows names from a directory on; double dots lead back. What is no directory leads nowhere. -/
def follow (d : Disk) (at_ : Names) : List String → Except OpenFault Names
  | [] => .ok at_
  | name :: rest =>
    if d.isDirectoryAt at_ then follow d (if name == ".." then at_.dropLast else at_ ++ [name]) rest
    else if (d.contentAt? at_).isSome then .error .notDirectory
    else .error .missing

def place (d : Disk) (p : Path) : Except OpenFault Names := d.follow [] p.parts

def isDirectory (d : Disk) (p : Path) : Bool :=
  match d.place p with
  | .ok names => d.isDirectoryAt names
  | .error _ => false

def isFile (d : Disk) (p : Path) : Bool :=
  match d.place p with
  | .ok names => (d.contentAt? names).isSome
  | .error _ => false

def exists? (d : Disk) (p : Path) : Bool := d.isFile p || d.isDirectory p

def read (d : Disk) (p : Path) : Except OpenFault ByteArray :=
  match d.place p with
  | .error fault => .error fault
  | .ok names =>
    if d.isDirectoryAt names then .error .isDirectory
    else match d.contentAt? names with
      | some content => .ok content
      | none => .error .missing

def save (d : Disk) (p : Path) (content : ByteArray) : Except OpenFault Disk :=
  match d.place p with
  | .error fault => .error fault
  | .ok names => if d.isDirectoryAt names then .error .isDirectory else .ok (d.write names content)

def entries (d : Disk) (names : Names) : List String :=
  ((d.files.map (·.1)) ++ d.directories).filterMap fun n =>
    if n.dropLast == names && !n.isEmpty then n.getLast? else none

def below (d : Disk) (names : Names) : List Names :=
  d.directories.filterMap fun n =>
    (Path.dropNames? names n).bind fun way => if way.isEmpty then none else some way

end Disk

inductive ReadFault where
  | unopened (fault : OpenFault)
  | undecodable
  deriving DecidableEq, Repr

/-- The text of a file; line ends of all three kinds become line feeds. -/
def Disk.readText (d : Disk) (p : Path) : Except ReadFault String :=
  match d.read p with
  | .error fault => .error (.unopened fault)
  | .ok content =>
    match String.fromUTF8? content with
    | some text => .ok (String.ofList (Text.unifyLineEnds text.toList))
    | none => .error .undecodable

end ScenarioCheck.Project
