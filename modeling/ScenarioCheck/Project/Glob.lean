import ScenarioCheck.Project.Disk
import ScenarioCheck.Project.Wildcard

/-! Patterns for paths below a directory, component by component. Two stars stand for any number of
directories. -/
namespace ScenarioCheck.Project

/-- One component of a pattern; the last one of a pattern that ends in a slash is a directory. -/
inductive Component where
  | anyDepth
  | up
  | name (text : String)
  | matching (pattern : String)
  | directory
  deriving DecidableEq, Repr

inductive GlobFault where
  | empty
  | absolute
  | noComponent
  | onlyDirectory
  | partialDepth
  deriving DecidableEq, Repr

def GlobFault.message : GlobFault → String
  | .empty => "Unacceptable pattern: ''"
  | .absolute => "Non-relative patterns are unsupported"
  | .noComponent => "tuple index out of range"
  | .onlyDirectory => "'_TerminatingSelector' object has no attribute 'select_from'"
  | .partialDepth => "Invalid pattern: '**' can only be an entire path component"

def hasTwoStars : List Char → Bool
  | '*' :: '*' :: _ => true
  | _ :: rest => hasTwoStars rest
  | [] => false

def Component.ofName (name : String) : Except GlobFault Component :=
  if name == "**" then .ok .anyDepth
  else if name == ".." then .ok .up
  else if hasTwoStars name.toList then .error .partialDepth
  else if Wildcard.isPattern name then .ok (.matching name)
  else .ok (.name name)

def components (pattern : String) : Except GlobFault (List Component) :=
  if pattern.isEmpty then .error .empty
  else
    let path := Path.ofText pattern
    if path.isAbsolute then .error .absolute
    else
      let isClosed := pattern.toList.getLast? == some '/'
      match path.parts, isClosed with
      | [], true => .error .onlyDirectory
      | [], false => .error .noComponent
      | parts, _ => (parts.mapM Component.ofName).map (· ++ if isClosed then [.directory] else [])

/-- The paths below one that components select. Before the last component only directories count. -/
def select (d : Disk) (p : Path) : List Component → List Path
  | [] => [p]
  | c :: rest =>
    match c with
    | .directory => [p]
    | .up => select d (p.child "..") rest
    | .name text =>
      let q := p.child text
      if (if rest.isEmpty then d.exists? q else d.isDirectory q) then select d q rest else []
    | .matching pattern =>
      match d.place p with
      | .error _ => []
      | .ok names =>
        (d.entries names).flatMap fun entry =>
          let q := p.child entry
          if Wildcard.isMatch pattern entry && (rest.isEmpty || d.isDirectory q) then select d q rest
          else []
    | .anyDepth =>
      match d.place p with
      | .error _ => []
      | .ok names =>
        (p :: (d.below names).map fun way => ⟨p.root, p.parts ++ way⟩).flatMap fun q =>
          select d q rest

def isUpTo : List String → List String → Bool
  | [], _ => true
  | _ :: _, [] => false
  | a :: as, b :: bs => decide (a < b) || (a == b && isUpTo as bs)

def sortedPaths (paths : List Path) : List Path :=
  paths.mergeSort fun p q => isUpTo p.parts q.parts

def selectBelow (d : Disk) (root : Path) (cs : List Component) : List Path :=
  if d.isDirectory root then sortedPaths (select d root cs).eraseDups else []

def glob (d : Disk) (root : Path) (pattern : String) : Except GlobFault (List Path) :=
  (components pattern).map (selectBelow d root)

/-- The paths at any depth below a directory whose last name matches, in order; each starts the way
that the directory is written. -/
def globBelow (d : Disk) (current directory : Path) (pattern : String) : List Path :=
  let base := current.join directory
  (selectBelow d base [.anyDepth, .matching pattern]).map fun p =>
    ⟨directory.root, directory.parts ++ p.parts.drop base.parts.length⟩

end ScenarioCheck.Project
