import ScenarioCheck.Text.Blank

/-! Slots of step patterns: the text between braces, a name and perhaps a type. -/
namespace ScenarioCheck.Pattern

/-- A slot `name` or `name:type`. -/
structure Slot where
  name : String
  type : Option String := none
  deriving DecidableEq, Repr

namespace Slot

/-- Reads the text between the braces: the name ends at the first colon, and an empty type counts
as none. -/
def ofText (text : String) : Slot :=
  let chars := text.toList
  let name := chars.takeWhile (· ≠ ':')
  let type := Text.trim ((chars.dropWhile (· ≠ ':')).drop 1)
  ⟨String.ofList (Text.trim name), if type.isEmpty then none else some (String.ofList type)⟩

def typeDefaults : List (String × String) := [
  ("number", "0"), ("int", "0"), ("integer", "0"), ("string", "example"), ("str", "example"),
  ("boolean", "true"), ("bool", "true")]

/-- The value offered for a slot: that of its type, else its name. -/
def default (s : Slot) : String :=
  (s.type.bind fun t => typeDefaults.lookup (Text.lowerAscii t)).getD s.name

end Slot
end ScenarioCheck.Pattern
