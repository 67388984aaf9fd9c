import ScenarioCheck.Chain.Resolver
import ScenarioCheck.Project.Glob
import ScenarioCheck.Project.Settings
import ScenarioCheck.Toml.Document

/-! The configuration of a project: its settings and the file they come from, whose directory is the
root of the project. -/
namespace ScenarioCheck.Project

/-- How modules are read: what names of characters stand for, and what is known of expressions
among the modules of a library. -/
structure Reading where
  named? : Source.CharNames := fun _ => none
  resolver : Infer.Library → Chain.Resolver := .ofLibrary

structure Workplace where
  disk : Disk
  current : Path
  reading : Reading := {}

def Workplace.absolute (w : Workplace) (p : Path) : Path := w.current.join p

structure Configuration where
  settings : Settings := {}
  path? : Option Path := none
  deriving DecidableEq, Inhabited, Repr

inductive ConfigFault where
  | absent (start : Path)
  | unopened (path : Path) (fault : OpenFault)
  | undecodable (path : Path)
  | malformed (path : Path)
  | noTable (path : Path)
  /-- The table of all tools is no table but something of a type. -/
  | noTools (type : String)
  deriving DecidableEq, Repr

def couldNotRead (path : Path) : String := "Could not read " ++ path.shown

/-- Of what is wrong with a text only the place is told. -/
def ConfigFault.message : ConfigFault → String
  | .absent start => "Could not find pyproject.toml (searched from " ++ start.shown ++ ")"
  | .unopened path fault => couldNotRead path ++ ": " ++ fault.message path
  | .undecodable path | .malformed path => couldNotRead path
  | .noTable path => couldNotRead path ++ ": [tool.step-forge] must be a table"
  | .noTools type => "'" ++ type ++ "' object has no attribute 'get'"

/-- The type of what is no table. -/
def typeOf : Toml → String
  | .string _ => "str"
  | .bool _ => "bool"
  | .integer => "int"
  | .float => "float"
  | .moment => "datetime.datetime"
  | .date => "datetime.date"
  | .time => "datetime.time"
  | .array _ => "list"
  | .table _ => "dict"

def section? (path : Path) (members : Toml.Members) : Except ConfigFault Toml.Members :=
  match Ordered.get? "tool" members with
  | none => .ok []
  | some (.table tools) => match Ordered.get? "step-forge" tools with
    | none => .ok []
    | some (.table own) => .ok own
    | some _ => .error (.noTable path)
  | some other => .error (.noTools (typeOf other))

def readSection (w : Workplace) (path : Path) : Except ConfigFault Toml.Members :=
  match w.disk.read (w.absolute path) with
  | .error fault => .error (.unopened path fault)
  | .ok content => match String.fromUTF8? content with
    | none => .error (.undecodable path)
    | some text => match Toml.ofText? text with
      | none => .error (.malformed path)
      | some members => section? path members

namespace Configuration

/-- The directory of the configuration file, else the current one. -/
def root (w : Workplace) (c : Configuration) : Path :=
  match c.path? with
  | some path => (Path.resolve w.current path).parent
  | none => w.current

/-- The configuration of a file. A strict one fails on every fault; one that is not keeps the
defaults and tells, unless the table of all tools is none. -/
def ofFile (w : Workplace) (strict : Bool) (path : Path) :
    Except ConfigFault (Configuration × List Notice) :=
  match readSection w path with
  | .ok members =>
    let (settings, notices) := Settings.read members {}
    .ok (⟨settings, some path⟩, notices)
  | .error fault =>
    if strict then .error fault
    else match fault with
      | .noTools _ | .absent _ => .error fault
      | .unopened _ f => .ok (⟨{}, some path⟩, [.unopenedSettings path f])
      | .undecodable _ | .malformed _ | .noTable _ => .ok (⟨{}, some path⟩, [.badSettings path])

def fileName : String := "pyproject.toml"

def searchUp (d : Disk) : Nat → Names → Option Path
  | 0, _ => none
  | fuel + 1, names =>
    let p : Path := ⟨"/", names ++ [fileName]⟩
    if d.exists? p then some p
    else if names.isEmpty then none
    else searchUp d fuel names.dropLast

/-- The configuration file that a directory belongs to; a file stands for its directory. -/
def find? (w : Workplace) (start? : Option Path) : Option Path :=
  let start := Path.resolve w.current (start?.getD w.current)
  let names := if w.disk.isFile start then start.parent.parts else start.parts
  searchUp w.disk (names.length + 1) names

/-- The configuration of a file if it is there, else of the file found from a directory on, else the
defaults. -/
def load (w : Workplace) (file? start? : Option Path) (strict : Bool) :
    Except ConfigFault (Configuration × List Notice) :=
  match file?.or (find? w start?) with
  | none => .ok ({}, [])
  | some path =>
    if w.disk.exists? (w.absolute path) then ofFile w strict path
    else .ok (⟨{}, some path⟩, [])

/-- The configuration that a pass over the project depends on: without its file there is none. -/
def require (w : Workplace) (start? file? : Option Path) :
    Except ConfigFault (Configuration × List Notice) :=
  match file?.or (find? w start?) with
  | none => .error (.absent (start?.getD w.current))
  | some path =>
    if w.disk.isFile (w.absolute path) then ofFile w true path
    else .error (.absent (start?.getD w.current))

/-- The text by which a path is excluded: relative to the root, or as it is if it is not below. -/
def relativeText (w : Workplace) (c : Configuration) (p : Path) : String :=
  match (Path.resolve w.current p).relativeTo? (c.root w) with
  | some relative => relative.shown
  | none => p.shown

def isExcluded (w : Workplace) (c : Configuration) (p : Path) : Bool :=
  c.settings.exclude.any fun pattern => Wildcard.isMatch pattern (c.relativeText w p)

/-- Adds the files among some paths that are not there yet and not excluded. -/
def addFiles (w : Workplace) (c : Configuration) (met paths : List Path) : List Path :=
  paths.foldl (fun met p =>
    let resolved := Path.resolve w.current p
    if !w.disk.isFile p || met.contains resolved || c.isExcluded w p then met
    else met ++ [resolved]) met

/-- The files that some patterns select, each once: in the order of the patterns, and sorted within
one. -/
def filesOf (w : Workplace) (c : Configuration) : List String → Except GlobFault (List Path)
  | patterns => patterns.foldlM (fun met pattern => do
      return c.addFiles w met (← glob w.disk (c.root w) pattern)) []

def findSteps (w : Workplace) (c : Configuration) : Except GlobFault (List Path) :=
  (c.filesOf w c.settings.stepFiles).map (·.filter (·.suffix == ".py"))

def findDocuments (w : Workplace) (c : Configuration) : Except GlobFault (List Path) :=
  c.filesOf w c.settings.featureFiles

end Configuration

end ScenarioCheck.Project
