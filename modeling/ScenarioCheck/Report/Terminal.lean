import ScenarioCheck.Report.Finding
import ScenarioCheck.Text.Lines

/-! Reports for people: findings file by file and line by line with a summary, and the list of
steps. A report is a list of entries, which are printed one by one; an entry may have several
lines. -/
namespace ScenarioCheck.Report

open Step (Definition)
open Validation (Severity)

/-! ### Colours -/

inductive Color where
  | red
  | yellow
  | blue
  | green
  deriving DecidableEq, Inhabited, Repr

def Color.start : Color → String
  | .red => "\x1b[91m"
  | .yellow => "\x1b[93m"
  | .blue => "\x1b[94m"
  | .green => "\x1b[92m"

def paint (isColored : Bool) (color : Color) (text : String) : String :=
  if isColored then color.start ++ text ++ "\x1b[0m" else text

/-! ### Layout -/

def blanks (n : Nat) : String := String.ofList (List.replicate n ' ')

def padStart (width : Nat) (text : String) : String := blanks (width - text.length) ++ text

def padEnd (width : Nat) (text : String) : String := text ++ blanks (width - text.length)

/-- What is printed for some entries: each ends its line. -/
def textOf (entries : List String) : String := String.join (entries.map (· ++ "\n"))

/-! ### Findings -/

/-- Findings by file, files in the order of their first finding. -/
def byFile (findings : List Finding) : List (String × List Finding) :=
  findings.foldl (fun groups f =>
    Ordered.put f.file ((Ordered.get? f.file groups).getD [] ++ [f]) groups) []

/-- Findings in the order of their first lines; those of one line stay in order. -/
def byLine (findings : List Finding) : List Finding :=
  findings.mergeSort fun f g => decide (f.range.startLine ≤ g.range.startLine)

def byKey {α : Type} (entries : List (String × α)) : List (String × α) :=
  entries.mergeSort fun e f => decide (e.1 ≤ f.1)

def sections (findings : List Finding) : List (String × List Finding) :=
  (byKey (byFile findings)).map fun (file, found) => (file, byLine found)

def counts (findings : List Finding) : List (String × Nat) :=
  byKey (findings.foldl (fun met f =>
    Ordered.put f.code ((Ordered.get? f.code met).getD 0 + 1) met) [])

def labelOf : Severity → Color × String
  | .error => (.red, "ERROR")
  | .warning => (.yellow, "WARN ")
  | .info => (.blue, "INFO ")

/-- The entries of a finding: place, severity, first line of the message and code; the other lines
of the message below it unless they are empty. Lines and columns count from 1. -/
def findingEntries (isColored : Bool) (f : Finding) : List String :=
  let place := toString (f.range.startLine + 1) ++ ":" ++ toString (f.range.startCharacter + 1)
  let (color, label) := labelOf f.severity
  let lines := (Text.splitLines f.message.toList).map String.ofList
  let first := "  " ++ padStart 7 place ++ " " ++ paint isColored color label ++ " " ++
    (lines.head?.getD "") ++ " [" ++ f.code ++ "]"
  first :: ((lines.drop 1).filter (· ≠ "")).map (blanks 16 ++ ·)

def sectionEntries (isColored : Bool) (s : String × List Finding) : List String :=
  ("\n" ++ paint isColored .blue s.1) :: s.2.flatMap (findingEntries isColored)

def summaryEntries (isColored : Bool) (findings : List Finding) : List String :=
  ("\n" ++ String.ofList (List.replicate 60 '-')) ::
    ("Found " ++ toString findings.length ++ " issue(s):") ::
    (counts findings).map fun (code, count) =>
      paint isColored .red ("  " ++ toString count ++ " " ++ code)

/-- The report of findings for people. -/
def findingsEntries (isColored : Bool) (findings : List Finding) : List String :=
  if findings.isEmpty then [paint isColored .green "✓ All scenarios are valid!"]
  else (sections findings).flatMap (sectionEntries isColored) ++ summaryEntries isColored findings

/-! ### Steps -/

def stepEntries (isColored : Bool) (d : Definition) : List String :=
  let names (names : List String) := ", ".intercalate names
  let required := d.required.map fun (phase, needed) =>
    "requires " ++ phase.name ++ ": " ++ names needed
  let produced := match d.produces with
    | none => ["produces: (unknown)"]
    | some [] => []
    | some shapes => ["produces: " ++ names (Ordered.keys shapes)]
  paint isColored .blue (padEnd 5 d.kind.title ++ " " ++ d.pattern) ::
    ([d.location.shown] ++ required ++ produced).map (blanks 6 ++ ·)

def stepsEntries (isColored : Bool) (definitions : List Definition) : List String :=
  if definitions.isEmpty then [paint isColored .yellow "No step definitions found."]
  else definitions.flatMap (stepEntries isColored)

end ScenarioCheck.Report
