/-! Lines of a document. -/
namespace ScenarioCheck.Text

/-- A character that ends a line on its own. A carriage return directly before a line feed ends
the line together with it. -/
def isLineBreak (c : Char) : Bool :=
  let n := c.toNat
  (0x0A ≤ n && n ≤ 0x0D) || (0x1C ≤ n && n ≤ 0x1E) || n == 0x85 || n == 0x2028 || n == 0x2029

/-- Lines without their breaks, the current one collected in `line` backwards. A text that ends in
a break has no empty last line. -/
def splitLinesFrom (line : List Char) : List Char → List (List Char)
  | [] => if line.isEmpty then [] else [line.reverse]
  | '\r' :: '\n' :: rest => line.reverse :: splitLinesFrom [] rest
  | c :: rest =>
    if isLineBreak c then line.reverse :: splitLinesFrom [] rest
    else splitLinesFrom (c :: line) rest

/-- The lines of a text, at every kind of line break. -/
def splitLines (text : List Char) : List (List Char) := splitLinesFrom [] text

/-- The pieces of a text between occurrences of a separator character; never empty. -/
def splitOn (separator : Char) : List Char → List (List Char)
  | [] => [[]]
  | c :: rest =>
    if c = separator then [] :: splitOn separator rest
    else match splitOn separator rest with
      | [] => [[c]]
      | piece :: pieces => (c :: piece) :: pieces

/-- Line ends written in any of the three usual ways become line feeds. -/
def unifyLineEnds : List Char → List Char
  | [] => []
  | '\r' :: '\n' :: rest => '\n' :: unifyLineEnds rest
  | c :: rest => (if c = '\r' then '\n' else c) :: unifyLineEnds rest

example : splitLines "a\r\nb\n\nc\n".toList = ["a", "b", "", "c"].map String.toList := by decide

end ScenarioCheck.Text
