import ScenarioCheck.Document.Line

/-! Step lines under a cursor, while they are being typed. Lines are looked at as they stand and
may hold line feeds. -/
namespace ScenarioCheck.Document

open Step (Kind)

structure Typed where
  word : StepWord
  text : List Char
  /-- The column where the text starts. -/
  column : Nat
  deriving DecidableEq, Repr

/-- The text has to be a single line; one line feed may end it. -/
def singleLine? (text : List Char) : Option (List Char) :=
  match text.dropWhile (· ≠ '\n') with
  | [] | ['\n'] => some (text.takeWhile (· ≠ '\n'))
  | _ => none

def Typed.ofLine? (line : List Char) : Option Typed := do
  let (word, after) ← stepWordOf? line
  let blanks := Text.leadingBlanks after
  if blanks.isEmpty then none
  else
    let text ← singleLine? (Text.trimStart after)
    some ⟨word, text, (Text.leadingBlanks line).length + word.word.length + blanks.length⟩

/-- The first characters of a line: a count from the front, or, if negative, that many fewer than
all. -/
def upTo (line : List Char) (character : Int) : List Char :=
  if 0 ≤ character then line.take character.toNat
  else line.take (line.length - character.natAbs)

def Typed.upTo? (line : List Char) (character : Option Int) : Option Typed :=
  match character with
  | some c => Typed.ofLine? (upTo line c)
  | none => Typed.ofLine? line

/-- The line is a block header. A name that runs over several lines is none. -/
def isHeader (line : List Char) : Bool :=
  match headerOf? line with
  | some (_, after) => !(Text.trim after).contains '\n'
  | none => false

/-- The kind of the nearest step with a kind, going backwards and never past a header. -/
def kindBefore? : List (List Char) → Option Kind
  | [] => none
  | line :: earlier =>
    if isHeader line then none
    else
      match (Typed.ofLine? line).bind (·.word.kind?) with
      | some kind => some kind
      | none => kindBefore? earlier

/-- The kind of a step line: its own, or that of the step it continues. -/
def kindAt? (lines : List (List Char)) (line : Int) : Option Kind :=
  if line < 0 then none
  else
    match (lines.take (line.toNat + 1)).reverse, decide (line.toNat < lines.length) with
    | current :: earlier, true =>
      (Typed.ofLine? current).bind fun typed =>
        typed.word.kind?.orElse fun _ => kindBefore? earlier
    | _, _ => none

end ScenarioCheck.Document
