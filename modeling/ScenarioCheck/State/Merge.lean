import ScenarioCheck.Ordered
import ScenarioCheck.State.Value

/-! Merging the output of a step into a state. Lists grow at their end, dictionaries merge entry by
entry, and a scalar that is set may only be asserted again. -/
namespace ScenarioCheck.State

/-- A merge that would overwrite a set value. The path joins the keys that lead to it. -/
structure Conflict where
  path : String
  existing : Value
  new : Value

namespace Conflict

def message (c : Conflict) : String :=
  "Merge would have destroyed previous value " ++ c.existing.shown ++ " with " ++ c.new.shown ++
    " at '" ++ c.path ++ "'"

end Conflict

/-- The path of a key below a path; the empty path is the top. -/
def below (path key : String) : String :=
  if path.isEmpty then key else path ++ "." ++ key

mutual

def mergeValue (path : String) (existing : Value) (new : Value) : Except Conflict Value :=
  match new with
  | .dict update =>
    match existing with
    | .list items => .ok (.list (items ++ [.dict update]))
    | .dict current => (mergeEntries path current update).map .dict
    | .none => .ok (.dict update)
    | existing => .error ⟨path, existing, .dict update⟩
  | new =>
    match existing with
    | .list items =>
      match new with
      | .list more => .ok (.list (items ++ more))
      | new => .ok (.list (items ++ [new]))
    | .dict current => .error ⟨path, .dict current, new⟩
    | .none => .ok new
    | existing => if existing.same false new then .ok new else .error ⟨path, existing, new⟩

def mergeEntries (path : String) (current : Entries) :
    List (String × Value) → Except Conflict Entries
  | [] => .ok current
  | (key, new) :: rest =>
    match Ordered.get? key current with
    | some existing =>
      match mergeValue (below path key) existing new with
      | .ok merged => mergeEntries path (Ordered.put key merged current) rest
      | .error conflict => .error conflict
    | none => mergeEntries path (Ordered.put key new current) rest

end

/-- Merges an update into a state: both stay as they are, the result is a new state. -/
def merge (current update : Entries) : Except Conflict Entries := mergeEntries "" current update

end ScenarioCheck.State
