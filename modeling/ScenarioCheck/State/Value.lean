import ScenarioCheck.Number.Shortest
import ScenarioCheck.Text.Quoted

/-! Values that steps leave in the state of a scenario. -/
namespace ScenarioCheck.State

open Number (Double)

/-- A value of the state: scalars (tuples count as scalars), lists and dictionaries with text keys
in insertion order. -/
inductive Value where
  | none
  | bool (b : Bool)
  | int (n : Int)
  | float (x : Double)
  | text (s : String)
  | list (items : List Value)
  | tuple (items : List Value)
  | dict (entries : List (String × Value))
  deriving Inhabited

abbrev Entries := List (String × Value)

namespace Value

def typeName : Value → String
  | none => "NoneType"
  | bool _ => "bool"
  | int _ => "int"
  | float _ => "float"
  | text _ => "str"
  | list _ => "list"
  | tuple _ => "tuple"
  | dict _ => "dict"

/-- Equality of two numbers that are not both floats or both whole: exact. -/
def sameNumber (inside : Bool) : Double → Double → Bool
  | .nan a, .nan b => inside && a == b
  | a, b => a.equals b

mutual

/-- Equality of values. Truth values are the numbers 0 and 1, whole numbers and floats compare
exactly, lists and tuples differ. A NaN differs from everything, except that `inside` a container
it is the same as itself. -/
def same (inside : Bool) : Value → Value → Bool
  | none, none => true
  | bool a, bool b => a == b
  | bool a, int n | int n, bool a => a.toInt == n
  | bool a, float x | float x, bool a => x.equalsInt a.toInt
  | int a, int b => a == b
  | int n, float x | float x, int n => x.equalsInt n
  | float a, float b => sameNumber inside a b
  | text a, text b => a == b
  | list a, list b => sameItems a b
  | tuple a, tuple b => sameItems a b
  | dict a, dict b => a.length == b.length && sameEntries a b
  | _, _ => false

def sameItems : List Value → List Value → Bool
  | [], [] => true
  | a :: as, b :: bs => same true a b && sameItems as bs
  | _, _ => false

/-- Each entry has an equal value in the other dictionary. -/
def sameEntries : List (String × Value) → List (String × Value) → Bool
  | [], _ => true
  | (key, a) :: rest, b =>
    (match b.lookup key with
      | some v => same true a v
      | Option.none => false) && sameEntries rest b

end

mutual

/-- A value as messages show it. Integers of any length are shown; a limit that an interpreter may set
on their digits is left out. -/
def shown : Value → String
  | none => "None"
  | bool b => if b then "True" else "False"
  | int n => toString n
  | float x => x.shown
  | text s => Text.quoted s
  | list items => "[" ++ ", ".intercalate (shownItems items) ++ "]"
  | tuple items =>
    match items with
    | [] => "()"
    | [item] => "(" ++ shown item ++ ",)"
    | items => "(" ++ ", ".intercalate (shownItems items) ++ ")"
  | dict entries => "\x7b" ++ ", ".intercalate (shownEntries entries) ++ "\x7d"

def shownItems : List Value → List String
  | [] => []
  | item :: rest => shown item :: shownItems rest

def shownEntries : List (String × Value) → List String
  | [] => []
  | (key, value) :: rest => (Text.quoted key ++ ": " ++ shown value) :: shownEntries rest

end

end Value
end ScenarioCheck.State
