import ScenarioCheck.Project.Extraction
import ScenarioCheck.Registry.Completion
import ScenarioCheck.Validation.Outcome

/-! The state that a host keeps between events: the registered steps, the open documents and their
findings. After an event that succeeds every open document has been validated again. -/
namespace ScenarioCheck

open Project
open Step (Definition Location)
open Validation (Diagnostic)

/-- A project under analysis. The configuration is that of the last pass over its files. -/
structure Session where
  /-- Where the search for a configuration file starts. -/
  start? : Option Path := none
  /-- The configuration file, if the host names one. -/
  file? : Option Path := none
  registry : Snapshot := {}
  configuration? : Option Configuration := none
  /-- What stood in for a configuration before there was one. -/
  substitute? : Option Configuration := none
  documents : List (String × String) := []
  diagnostics : List (String × List Diagnostic) := []
  deriving Inhabited

namespace Session

inductive Fault where
  | configuration (fault : ConfigFault)
  | glob (fault : GlobFault)
  | misplaced (fault : Snapshot.Misplaced)

def Fault.message : Fault → String
  | .configuration fault => fault.message
  | .glob fault => fault.message
  | .misplaced fault => fault.message

structure Turn where
  session : Session
  notices : List Notice := []
  published : List (String × List Diagnostic) := []
  fault? : Option Fault := none

namespace Turn

def fail (s : Session) (fault : Fault) : Turn := { session := s, fault? := some fault }

/-- Goes on after a turn, unless it failed. -/
def andThen (t : Turn) (next : Session → Turn) : Turn :=
  match t.fault? with
  | some _ => t
  | none =>
    let u := next t.session
    { u with notices := t.notices ++ u.notices, published := t.published ++ u.published }

end Turn

/-! ### Validation -/

/-- The configuration in force. Without one, that of the current directory stands in from its first
use on. -/
def inForce (w : Workplace) (s : Session) :
    Except ConfigFault (Configuration × Session × List Notice) :=
  match s.configuration?, s.substitute? with
  | some c, _ => .ok (c, s, [])
  | none, some c => .ok (c, s, [])
  | none, none =>
    (Configuration.load w none none false).map fun (c, notices) =>
      (c, { s with substitute? := some c }, notices)

def outcomeOf (s : Session) (c : Configuration) (uri text : String) : Validation.Outcome :=
  Validation.ofText c.settings.rules s.registry text uri

def findings (s : Session) (c : Configuration) : List (String × List Diagnostic) :=
  s.documents.map fun (uri, text) => (uri, (s.outcomeOf c uri text).diagnostics)

def revalidate (w : Workplace) (s : Session) : Turn :=
  match s.inForce w with
  | .error fault => .fail s (.configuration fault)
  | .ok (c, s, notices) =>
    let found := s.findings c
    let warnings := s.documents.flatMap fun (uri, text) => (s.outcomeOf c uri text).warnings
    { session := { s with diagnostics := Ordered.putAll s.diagnostics found }
      notices := notices ++ warnings.map .document
      published := found }

/-! ### Passes over the files of steps -/

def withConfiguration (w : Workplace) (s : Session) (next : Configuration → Session → Turn) : Turn :=
  match Configuration.require w s.start? s.file? with
  | .error fault => .fail s (.configuration fault)
  | .ok (c, notices) =>
    Turn.andThen { session := { s with configuration? := some c }, notices } (next c)

def register (byFile : List (String × List Definition)) (s : Session) : Turn :=
  match s.registry.replaceFiles byFile with
  | .error fault => .fail s (.misplaced fault)
  | .ok registry => { session := { s with registry } }

/-- Registers the steps that some files declare, in place of those of other files, and validates. -/
def readSteps (w : Workplace) (c : Configuration) (others : List (String × List Definition))
    (paths : List Path) (s : Session) : Turn :=
  let (met, notices) := extractSteps w c paths
  let registered := register (Ordered.putAll others met) s
  Turn.andThen { registered with notices } (revalidate w)

/-- Rebuilds the registry from every file of steps. Files that are gone lose their steps. Extraction
itself does not fail: parsers that give up on deep nesting and paths with a NUL character are left
out. -/
def loadAll (w : Workplace) (s : Session) : Turn :=
  s.withConfiguration w fun c s =>
    match c.findSteps w with
    | .error fault => .fail s (.glob fault)
    | .ok paths => s.readSteps w c (s.registry.files.map fun file => (file, [])) paths

def stepsChanged (w : Workplace) (paths : List Path) (s : Session) : Turn :=
  s.withConfiguration w fun c s => s.readSteps w c [] paths

def stepsDeleted (w : Workplace) (path : Path) (s : Session) : Turn :=
  let file := (Path.resolve w.current path).shown
  revalidate w { s with registry := s.registry.removeFile file }

/-! ### Documents -/

def documentChanged (w : Workplace) (uri text : String) (s : Session) : Turn :=
  revalidate w { s with documents := Ordered.put uri text s.documents }

/-- Closes a document; nothing remains of its findings. -/
def documentClosed (uri : String) (s : Session) : Turn :=
  { session :=
      { s with
        documents := Ordered.erase uri s.documents
        diagnostics := Ordered.erase uri s.diagnostics }
    published := [(uri, [])] }

/-! ### Events -/

inductive Event where
  | loadAll
  | stepsChanged (paths : List Path)
  | stepsDeleted (path : Path)
  | documentChanged (uri text : String)
  | documentClosed (uri : String)

def handle (w : Workplace) (s : Session) : Event → Turn
  | .loadAll => s.loadAll w
  | .stepsChanged paths => s.stepsChanged w paths
  | .stepsDeleted path => s.stepsDeleted w path
  | .documentChanged uri text => s.documentChanged w uri text
  | .documentClosed uri => s.documentClosed uri

/-! ### Questions -/

def completions (s : Session) (uri : String) (line character : Int) : List Completion.Candidate :=
  match Ordered.get? uri s.documents with
  | some text => Completion.candidatesAt s.registry text line character
  | none => []

def definition? (s : Session) (uri : String) (line : Int) : Option Location :=
  (Ordered.get? uri s.documents).bind fun text => Completion.definitionAt? s.registry text line

end Session
end ScenarioCheck
