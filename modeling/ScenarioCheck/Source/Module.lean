import ScenarioCheck.Source.Parser.Statement
import ScenarioCheck.Text.Lines

/-! Modules from their text. -/
namespace ScenarioCheck.Source

def isMarginSpace (c : Char) : Bool := c == ' ' || c == '\t'

def commonPrefix : List Char → List Char → List Char
  | a :: as, b :: bs => if a = b then a :: commonPrefix as bs else []
  | _, _ => []

/-- The margin that all lines with something else than blanks and tabs have in common. -/
def marginOf (lines : List (List Char)) : List Char :=
  let filled := lines.filter fun line => !line.all isMarginSpace
  match filled.map (·.takeWhile isMarginSpace) with
  | [] => []
  | first :: rest => rest.foldl commonPrefix first

/-- The text without the common margin; lines of blanks and tabs become empty. -/
def withoutMargin (text : List Char) : List Char :=
  let lines := Text.splitOn '\n' text
  let margin := marginOf lines
  let cut (line : List Char) : List Char :=
    if line.all isMarginSpace then [] else line.drop margin.length
  (['\n'].intercalate (lines.map cut))

def statements? (named? : CharNames) (text : List Char) : Option (List Stmt) :=
  (Lexer.tokens? (Text.unifyLineEnds text ++ ['\n'])).bind (Parser.module? named?)

end ScenarioCheck.Source
