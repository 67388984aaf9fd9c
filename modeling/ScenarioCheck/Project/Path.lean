import ScenarioCheck.Text.Lines

/-! Paths: a root, if the path is absolute, and names. Doubled slashes and single dots vanish when a
path is read; double dots stay until it is resolved. -/
namespace ScenarioCheck

/-- A path. The root is empty for a relative path, else one slash or exactly two. -/
structure Path where
  root : String := ""
  parts : List String := []
  deriving DecidableEq, Inhabited, Repr

namespace Path

/-- The root that a text starts with: more than two slashes count as one. -/
def rootOf : List Char → String
  | '/' :: '/' :: '/' :: _ => "/"
  | '/' :: '/' :: _ => "//"
  | '/' :: _ => "/"
  | _ => ""

def namesOf (text : List Char) : List String :=
  ((Text.splitOn '/' text).map String.ofList).filter fun name => name != "" && name != "."

def ofText (text : String) : Path := ⟨rootOf text.toList, namesOf text.toList⟩

def isAbsolute (p : Path) : Bool := p.root != ""

/-- The text of a path; the empty relative path is a dot. -/
def shown (p : Path) : String :=
  match p.root ++ "/".intercalate p.parts with
  | "" => "."
  | text => text

/-- A path taken relative to another; an absolute one stands for itself. -/
def join (p q : Path) : Path := if q.isAbsolute then q else ⟨p.root, p.parts ++ q.parts⟩

def child (p : Path) (name : String) : Path := ⟨p.root, p.parts ++ [name]⟩

/-- The path without its last name. The root and the empty path are their own parents. -/
def parent (p : Path) : Path := ⟨p.root, p.parts.dropLast⟩

def name (p : Path) : String := (p.parts.getLast?).getD ""

/-- Names with each double dot applied to the name before it, collected backwards. -/
def climb (above : List String) : List String → List String
  | [] => above.reverse
  | ".." :: rest => climb (above.drop 1) rest
  | name :: rest => climb (name :: above) rest

/-- The absolute path without double dots that a path stands for in a current directory. -/
def resolve (current p : Path) : Path := ⟨"/", climb [] (current.join p).parts⟩

def dropNames? : List String → List String → Option (List String)
  | [], names => some names
  | _ :: _, [] => none
  | p :: ps, n :: ns => if p = n then dropNames? ps ns else none

def relativeTo? (p base : Path) : Option Path :=
  if p.root = base.root then (dropNames? base.parts p.parts).map (⟨"", ·⟩) else none

/-- A name cut before its last dot; a dot at either end does not count. -/
def cutSuffix (name : String) : String × String :=
  let chars := name.toList
  let after := (chars.reverse.takeWhile (· ≠ '.')).reverse
  let stem := chars.take (chars.length - after.length - 1)
  if after.length = chars.length ∨ after.isEmpty ∨ stem.isEmpty then (name, "")
  else (String.ofList stem, String.ofList ('.' :: after))

/-- The ending of the last name from its last dot on. -/
def suffix (p : Path) : String := (cutSuffix p.name).2

def stem (p : Path) : String := (cutSuffix p.name).1

def withoutSuffix (p : Path) : Path :=
  match p.parts.getLast? with
  | some name => ⟨p.root, p.parts.dropLast ++ [(cutSuffix name).1]⟩
  | none => p

end Path
end ScenarioCheck
