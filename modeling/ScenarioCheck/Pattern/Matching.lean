import ScenarioCheck.Pattern.Basic
import ScenarioCheck.Text.Letter

/-! Matching step texts against patterns. Literals are compared up to case; each slot captures one
or more characters of one line. Of several ways to match, the first slot is as long as possible,
then the second, and so on. -/
namespace ScenarioCheck.Pattern

/-- The first success among `n`, `n - 1`, …, 1. -/
def longest {α : Type} (attempt : Nat → Option α) : Nat → Option α
  | 0 => none
  | n + 1 => (attempt (n + 1)).orElse fun _ => longest attempt n

/-- Matches a text against slots, each followed by its literal, up to the end of the text. -/
def captureAll : List (List Char) → List Char → Option (List (List Char))
  | [], text => if text.isEmpty then some [] else none
  | literal :: literals, text =>
    longest (fun n =>
      (Text.dropAgreeing literal (text.drop n)).bind fun rest =>
        (captureAll literals rest).map (text.take n :: ·))
      (text.takeWhile (· ≠ '\n')).length

def Cut.captures? (c : Cut) (text : List Char) : Option (List (List Char)) :=
  (Text.dropAgreeing c.head text).bind (captureAll (c.tail.map (·.2)))

def captures? (pattern text : String) : Option (List String) :=
  ((cut pattern.toList).captures? text.toList).map (·.map String.ofList)

def accepts (pattern text : String) : Bool := (captures? pattern text).isSome

def startsWith (pattern typed : String) : Bool :=
  (Text.dropAgreeing typed.toList (tokenText pattern)).isSome

end ScenarioCheck.Pattern
