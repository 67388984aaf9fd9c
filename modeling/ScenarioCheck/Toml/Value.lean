import ScenarioCheck.Ordered

/-! Values of TOML documents. Of numbers and moments only the kind is kept. -/
namespace ScenarioCheck

inductive Toml where
  | string (s : String)
  | bool (b : Bool)
  | integer
  | float
  | moment
  | date
  | time
  | array (items : List Toml)
  | table (members : List (String × Toml))
  deriving Inhabited

namespace Toml

abbrev Members := List (String × Toml)

def texts? : Toml → Option (List String)
  | .array items => items.mapM fun
    | .string s => some s
    | _ => none
  | _ => none

/-- Changes the table at a path below some members, making the tables on the way. The last table of
an array stands for the array, if arrays may be entered. -/
def changeAt (entersArrays : Bool) (change : Members → Option Members) :
    List String → Members → Option Members
  | [], members => change members
  | key :: path, members =>
    let inner? : Option Toml := match Ordered.get? key members with
      | none => (changeAt entersArrays change path []).map .table
      | some (.table inner) => (changeAt entersArrays change path inner).map .table
      | some (.array items) =>
        match entersArrays, items.getLast? with
        | true, some (.table inner) =>
          (changeAt entersArrays change path inner).map fun inner =>
            .array (items.dropLast ++ [.table inner])
        | _, _ => none
      | some _ => none
    inner?.map fun inner => Ordered.put key inner members

def addMember (key : String) (value : Toml) (members : Members) : Option Members :=
  if (Ordered.get? key members).isSome then none else some (members ++ [(key, value)])

/-- Adds an empty table to an array, which is made if it is not there. -/
def addTable (key : String) (members : Members) : Option Members :=
  match Ordered.get? key members with
  | none => some (members ++ [(key, .array [.table []])])
  | some (.array items) => some (Ordered.put key (.array (items ++ [.table []])) members)
  | some _ => none

end Toml

end ScenarioCheck
