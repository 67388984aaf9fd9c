import ScenarioCheck.Cli.Output
import ScenarioCheck.Session

/-! The command: it validates documents against the steps of their project, or lists these steps. -/
namespace ScenarioCheck.Cli

open Project
open Report (Finding)

inductive Fault where
  | session (fault : Session.Fault)
  | noSuchPath (path : Path)
  | output (blockage : Blockage)

def Fault.message : Fault → String
  | .session fault => fault.message
  | .noSuchPath path => path.shown ++ " is not a file or directory"
  | .output blockage => blockage.message

/-- What the command leads to. The code is 0 if no finding is an error, 1 if one is, and 2 if the
command fails. -/
structure Outcome where
  code : Nat
  /-- The arguments alone decide. -/
  isEarly : Bool := false
  delivery : Delivery := .printed ""
  complaint : String := ""
  fault? : Option Fault := none
  notices : List Notice := []
  deriving Inhabited

/-- The documents named by paths, else those of the project. A directory stands for the documents
below it. -/
def documents (w : Workplace) (c : Configuration) : List Path → Except Fault (List Path)
  | [] => (c.findDocuments w).mapError fun fault => .session (.glob fault)
  | paths => do
    let found ← paths.mapM fun p =>
      if w.disk.isFile (w.absolute p) then .ok [p]
      else if w.disk.isDirectory (w.absolute p) then
        .ok (globBelow w.disk w.current p "*.feature")
      else .error (.noSuchPath p)
    return found.flatten

/-- The findings in a document. One that cannot be read has none. -/
def findingsIn (w : Workplace) (rules : Validation.Rules) (registry : Snapshot) (path : Path) :
    List Finding × List Notice :=
  match w.disk.readText (w.absolute path) with
  | .error fault => ([], [.unreadDocument path fault])
  | .ok text =>
    let outcome := Validation.ofText rules registry text path.shown
    (outcome.diagnostics.map (Finding.ofDiagnostic path.shown), outcome.warnings.map .document)

/-- Where the search for a configuration starts: at the first path. -/
def startOf (w : Workplace) (o : Options) : Option Path :=
  o.paths.head?.map fun p => if w.disk.isDirectory (w.absolute p) then p else p.parent

def codeOf (findings : List Finding) : Nat := if findings.any (·.severity == .error) then 1 else 0

def failure (notices : List Notice) (fault : Fault) : Outcome :=
  { code := 2, complaint := "Error: " ++ fault.message ++ "\n", fault? := some fault, notices }

/-- The outcome of a report, from what gets out of it. A report that does not get out whole is a
failure. -/
def conclusion (code : Nat) (notices : List Notice) : Delivery × Option Blockage → Outcome
  | (delivery, none) => { code, delivery, notices }
  | (delivery, some blockage) => { failure notices (.output blockage) with delivery }

/-- There are colours only on a terminal. -/
def isColored (c : Console) (o : Options) : Bool := c.isTerminal && !o.isPlain

def findingsReport (isColored : Bool) (findings : List Finding) : Contents :=
  ⟨Report.findingsEntries isColored findings, Report.findingsJson findings⟩

def stepsReport (isColored : Bool) (definitions : List Step.Definition) : Contents :=
  ⟨Report.stepsEntries isColored definitions, Report.stepsJson definitions⟩

def listSteps (w : Workplace) (c : Console) (o : Options) (s : Session) (notices : List Notice) :
    Outcome :=
  conclusion 0 notices (present w c o (stepsReport (isColored c o) s.registry.definitions))

def validate (w : Workplace) (c : Console) (o : Options) (s : Session) (notices : List Notice) :
    Outcome :=
  let configuration := s.configuration?.getD {}
  match documents w configuration o.paths with
  | .error fault => failure notices fault
  | .ok paths =>
    let results := paths.map (findingsIn w configuration.settings.rules s.registry)
    let findings := results.flatMap (·.1)
    conclusion (codeOf findings) (notices ++ results.flatMap (·.2))
      (present w c o (findingsReport (isColored c o) findings))

def run (w : Workplace) (c : Console) (o : Options) : Outcome :=
  let start : Session := { start? := startOf w o, file? := o.config? }
  let t := start.loadAll w
  match t.fault? with
  | some fault => failure t.notices (.session fault)
  | none =>
    if o.listsSteps then listSteps w c o t.session t.notices
    else validate w c o t.session t.notices

def execute (w : Workplace) (c : Console) (arguments : List String) : Outcome :=
  match Options.ofArguments arguments with
  | .ok o => run w c o
  | .error .help => { code := 0, isEarly := true, delivery := .printed help }
  | .error (.misuse fault) =>
    { code := 2, isEarly := true
      complaint := usage ++ programName ++ ": error: " ++ fault.message ++ "\n" }

/-- A notice as a line; only a talkative run leaves out where it comes from. -/
def noticeLine (o : Options) (n : Notice) : String :=
  if o.isVerbose then n.message else n.level ++ ":root:" ++ n.text

end ScenarioCheck.Cli
