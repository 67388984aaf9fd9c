import ScenarioCheck.Document.Line
import ScenarioCheck.Text.Lines

/-! Documents as lists of scenarios. Steps before any scenario header form a scenario without a
name; quoted text, tables of examples and descriptions are passed over. -/
namespace ScenarioCheck.Document

open Step (Kind)

/-- A step line. Lines and columns count from 0, the column is that of the step word. -/
structure StepLine where
  word : StepWord
  text : String
  line : Nat
  column : Nat
  /-- The kind after resolving continuations; none if no step with a kind precedes. -/
  kind? : Option Kind
  /-- The length of the line without surrounding blanks. -/
  length : Nat
  deriving DecidableEq, Inhabited, Repr

def StepLine.endColumn (s : StepLine) : Nat := s.column + s.length

/-- A block of steps. The header is absent where steps come before any header. -/
structure Scenario where
  name : String
  line : Nat
  header? : Option Header
  /-- The line of the enclosing rule, none outside rules. -/
  rule? : Option Nat
  steps : List StepLine := []
  deriving DecidableEq, Inhabited, Repr

namespace Scenario

def keyword (s : Scenario) : String := (s.header?.map Header.word).getD ""

def isBackground (s : Scenario) : Bool := s.header? == some .background

end Scenario

structure Feature where
  uri : String := ""
  name? : Option String
  scenarios : List Scenario
  deriving DecidableEq, Inhabited, Repr

def Feature.steps (f : Feature) : List StepLine := f.scenarios.flatMap (·.steps)

inductive Fault where
  | secondFeature (line : Nat)
  | openQuote (line : Nat)
  deriving DecidableEq, Inhabited, Repr

namespace Fault

def line : Fault → Nat
  | secondFeature line | openQuote line => line

def reason : Fault → String
  | secondFeature _ => "more than one Feature header"
  | openQuote _ => "unterminated doc string"

/-- Faults name their line counted from 1. -/
def message (f : Fault) : String := "Line " ++ toString (f.line + 1) ++ ": " ++ f.reason

end Fault

structure Progress where
  name? : Option String := none
  /-- The scenarios before the open one. -/
  closed : List Scenario := []
  /-- The scenario that takes the next step. -/
  open? : Option Scenario := none
  rule? : Option Nat := none
  lastKind? : Option Kind := none
  inExamples : Bool := false
  /-- The mark that opened quoted text, and its line. -/
  quote? : Option (List Char × Nat) := none
  deriving Inhabited

namespace Progress

def scenarios (p : Progress) : List Scenario := p.closed ++ p.open?.toList

/-- Closes the open scenario, and with it examples and the last kind. -/
def close (p : Progress) : Progress :=
  { p with closed := p.scenarios, open? := none, lastKind? := none, inExamples := false }

def header (p : Progress) (line : Nat) (h : Header) (name : List Char) : Except Fault Progress :=
  match h with
  | .feature =>
    match p.name? with
    | some _ => .error (.secondFeature line)
    | none => .ok { p.close with name? := some (String.ofList name), rule? := none }
  | .rule => .ok { p.close with rule? := some line }
  | .examples | .scenarios => .ok { p with inExamples := true }
  | h => .ok { p.close with open? := some ⟨String.ofList name, line, some h, p.rule?, []⟩ }

def step (p : Progress) (line : Nat) (raw : List Char) (word : StepWord) (text : List Char) :
    Progress :=
  let scenario := p.open?.getD ⟨"", line, none, p.rule?, []⟩
  let last? := if p.open?.isSome then p.lastKind? else none
  let kind? := word.kind?.orElse fun _ => last?
  let entry : StepLine :=
    ⟨word, String.ofList text, line, (Text.leadingBlanks raw).length, kind?, (Text.trim raw).length⟩
  { p with open? := some { scenario with steps := scenario.steps ++ [entry] }, lastKind? := kind? }

def next (p : Progress) (line : Nat) (raw : List Char) : Except Fault Progress :=
  match p.quote? with
  | some (mark, _) =>
    if (dropLiteral? mark (Text.trim raw)).isSome then .ok { p with quote? := none } else .ok p
  | none =>
    match Line.ofText raw with
    | .fence mark => .ok { p with quote? := some (mark, line) }
    | .header h name => p.header line h name
    | .step word text => if p.inExamples then .ok p else .ok (p.step line raw word text)
    | .passedOver | .description => .ok p

def readFrom (p : Progress) (line : Nat) : List (List Char) → Except Fault Progress
  | [] => .ok p
  | raw :: rest =>
    match p.next line raw with
    | .ok p' => readFrom p' (line + 1) rest
    | .error fault => .error fault

/-- The document after its last line: quoted text has to be closed. -/
def finish (p : Progress) (uri : String) : Except Fault Feature :=
  match p.quote? with
  | some (_, line) => .error (.openQuote line)
  | none => .ok ⟨uri, p.name?, p.scenarios⟩

end Progress

def ofLines (uri : String) (lines : List (List Char)) : Except Fault Feature :=
  match ({} : Progress).readFrom 0 lines with
  | .ok p => p.finish uri
  | .error fault => .error fault

def ofText (text : String) (uri : String := "") : Except Fault Feature :=
  ofLines uri (Text.splitLines text.toList)

end ScenarioCheck.Document
