import ScenarioCheck.Document.Cursor
import ScenarioCheck.Registry.Snapshot
import ScenarioCheck.Text.Lines

/-! What an editor asks for at a cursor: completions of the typed step and the place where a step
is defined. -/
namespace ScenarioCheck.Completion

open Step (Kind Definition Location)
open Document (Typed)

structure Candidate where
  label : String
  insertText : String
  detail : String
  definition : Definition
  deriving DecidableEq

def Candidate.ofDefinition (kind : Kind) (d : Definition) : Candidate :=
  ⟨d.pattern, Pattern.snippet d.pattern,
    kind.name ++ " step from " ++ d.location.file ++ ":" ++ toString d.location.line, d⟩

def candidates (s : Snapshot) (typed : String) (kind : Kind) : List Candidate :=
  (s.startingWith kind typed).map (Candidate.ofDefinition kind)

def lineOf? (document : String) (line : Int) : Option (List (List Char) × List Char) :=
  let lines := Text.splitLines document.toList
  if line < 0 then none else lines[line.toNat]?.map (lines, ·)

/-- The offers at a cursor; none outside step lines. -/
def candidatesAt (s : Snapshot) (document : String) (line character : Int) : List Candidate :=
  match lineOf? document line with
  | none => []
  | some (lines, text) =>
    match Typed.upTo? text (some character), Document.kindAt? lines line with
    | some typed, some kind => candidates s (String.ofList typed.text) kind
    | _, _ => []

def definitionOf? (s : Snapshot) (kind : Kind) (text : String) : Option Location :=
  (s.matching kind text).head?.map (·.location)

def definitionAt? (s : Snapshot) (document : String) (line : Int) : Option Location :=
  match lineOf? document line with
  | none => none
  | some (lines, text) =>
    match Typed.upTo? (Text.trimEnd text) none, Document.kindAt? lines line with
    | some typed, some kind =>
      if typed.text.isEmpty then none else definitionOf? s kind (String.ofList typed.text)
    | _, _ => none

end ScenarioCheck.Completion
