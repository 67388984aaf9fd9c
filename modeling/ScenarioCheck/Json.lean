import ScenarioCheck.Number.Shortest
import ScenarioCheck.Text.Quoted

/-! JSON values and their indented text. Members of an object keep their order. -/
namespace ScenarioCheck

open Number (Double)

inductive Json where
  | null
  | bool (b : Bool)
  | int (n : Int)
  | real (x : Double)
  | text (s : String)
  | list (items : List Json)
  | object (members : List (String × Json))
  deriving Inhabited

namespace Json

def unitEscape (unit : Nat) : List Char := '\\' :: 'u' :: Text.hexDigits 4 unit

/-- A code point in units of sixteen bits: one in the basic plane, two above it. -/
def unitEscapes (n : Nat) : List Char :=
  if n < 0x10000 then unitEscape n
  else unitEscape (0xD800 + (n - 0x10000) / 0x400) ++ unitEscape (0xDC00 + (n - 0x10000) % 0x400)

def controlLetters : List (Char × Char) := Text.controlLetters ++ [('\x08', 'b'), ('\x0c', 'f')]

/-- A character between quotes: all outside printable ASCII is escaped. -/
def escape (c : Char) : List Char :=
  if c = '"' ∨ c = '\\' then ['\\', c]
  else match controlLetters.lookup c with
    | some letter => ['\\', letter]
    | none => if 0x20 ≤ c.toNat ∧ c.toNat ≤ 0x7E then [c] else unitEscapes c.toNat

def quoted (s : String) : String := String.ofList ('"' :: s.toList.flatMap escape ++ ['"'])

/-- A new line at a depth of nesting, two blanks per level. -/
def newLine (depth : Nat) : String := String.ofList ('\n' :: List.replicate (2 * depth) ' ')

/-- Numbers that are no finite value have words of their own. -/
def realText : Double → String
  | .nan _ => "NaN"
  | .infinite negative => if negative then "-Infinity" else "Infinity"
  | x => x.shown

mutual

/-- The indented text of a value at a depth; empty lists and objects stay on one line. -/
def write (depth : Nat) : Json → String
  | null => "null"
  | bool b => if b then "true" else "false"
  | int n => toString n
  | real x => realText x
  | text s => quoted s
  | list [] => "[]"
  | list items =>
    "[" ++ newLine (depth + 1) ++ (("," ++ newLine (depth + 1)).intercalate
      (writeItems (depth + 1) items)) ++ newLine depth ++ "]"
  | object [] => "\x7b\x7d"
  | object members =>
    "\x7b" ++ newLine (depth + 1) ++ (("," ++ newLine (depth + 1)).intercalate
      (writeMembers (depth + 1) members)) ++ newLine depth ++ "\x7d"

def writeItems (depth : Nat) : List Json → List String
  | [] => []
  | item :: rest => write depth item :: writeItems depth rest

def writeMembers (depth : Nat) : List (String × Json) → List String
  | [] => []
  | (key, value) :: rest => (quoted key ++ ": " ++ write depth value) :: writeMembers depth rest

end

def pretty (j : Json) : String := j.write 0

end Json
end ScenarioCheck
