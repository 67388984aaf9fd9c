import ScenarioCheck.Step.Kind

/-! Lines of a scenario document: block headers, step lines and everything that is passed over.
What a line is depends on its text alone; what it means depends on the lines before it. -/
namespace ScenarioCheck.Document

open Step (Kind)

inductive Header where
  | feature
  | rule
  | background
  | scenarioOutline
  | scenarioTemplate
  | scenario
  | examples
  | scenarios
  | example
  deriving DecidableEq, Inhabited, Repr

namespace Header

def all : List Header :=
  [feature, rule, background, scenarioOutline, scenarioTemplate, scenario, examples, scenarios,
    .example]

def word : Header → String
  | feature => "Feature"
  | rule => "Rule"
  | background => "Background"
  | scenarioOutline => "Scenario Outline"
  | scenarioTemplate => "Scenario Template"
  | scenario => "Scenario"
  | examples => "Examples"
  | scenarios => "Scenarios"
  | .example => "Example"

/-- The header opens a table of examples, whose lines are passed over. -/
def opensExamples : Header → Bool
  | examples | scenarios => true
  | _ => false

end Header

/-- Words that start a step line: one of the three kinds, or a continuation of the step before. -/
inductive StepWord where
  | primary (kind : Kind)
  | and
  | but
  | star
  deriving DecidableEq, Inhabited, Repr

namespace StepWord

def all : List StepWord :=
  [.primary .given, .primary .when, .primary .then, .and, .but, .star]

def word : StepWord → String
  | primary kind => kind.title
  | and => "And"
  | but => "But"
  | star => "*"

def kind? : StepWord → Option Kind
  | primary kind => some kind
  | _ => none

end StepWord

/-- What is left of a text after a literal. -/
def dropLiteral? : List Char → List Char → Option (List Char)
  | [], text => some text
  | _ :: _, [] => none
  | p :: ps, t :: ts => if p = t then dropLiteral? ps ts else none

@[simp] theorem dropLiteral?_eq_some_iff {literal text rest : List Char} :
    dropLiteral? literal text = some rest ↔ text = literal ++ rest := by
  induction literal generalizing text with
  | nil => simp [dropLiteral?, eq_comm]
  | cons p ps ih =>
    cases text with
    | nil => simp [dropLiteral?]
    | cons t ts =>
      by_cases h : p = t
      · simp [dropLiteral?, h, ih]
      · simp [dropLiteral?, h, Ne.symm h]

def headerOf? (line : List Char) : Option (Header × List Char) :=
  Header.all.findSome? fun h =>
    (dropLiteral? (h.word.toList ++ [':']) (Text.trimStart line)).map (h, ·)

def stepWordOf? (line : List Char) : Option (StepWord × List Char) :=
  StepWord.all.findSome? fun w => (dropLiteral? w.word.toList (Text.trimStart line)).map (w, ·)

/-- The text of a step after its word: white space has to follow the word, and the text is what
remains without white space at either end. After two or more blanks and nothing else the last
blank is the text. -/
def stepText? (after : List Char) : Option (List Char) :=
  if (Text.leadingBlanks after).isEmpty then none
  else
    match Text.trim after with
    | [] => if 2 ≤ after.length then after.getLast?.map ([·]) else none
    | text => some text

/-- The two marks that open and close a block of quoted text. -/
def fences : List (List Char) := ["\"\"\"".toList, "```".toList]

def fenceOf? (stripped : List Char) : Option (List Char) :=
  fences.find? fun fence => (dropLiteral? fence stripped).isSome

/-- Blank lines, comments, tags and table rows. -/
def isPassedOver : List Char → Bool
  | [] => true
  | c :: _ => c == '#' || c == '@' || c == '|'

inductive Line where
  | fence (mark : List Char)
  | passedOver
  | header (header : Header) (name : List Char)
  | step (word : StepWord) (text : List Char)
  | description
  deriving DecidableEq, Inhabited, Repr

def Line.ofText (line : List Char) : Line :=
  let stripped := Text.trim line
  match fenceOf? stripped with
  | some mark => .fence mark
  | none =>
    if isPassedOver stripped then .passedOver
    else
      match headerOf? line with
      | some (h, after) => .header h (Text.trim after)
      | none =>
        match stepWordOf? line with
        | some (word, after) =>
          match stepText? after with
          | some text => .step word text
          | none => .description
        | none => .description

end ScenarioCheck.Document
