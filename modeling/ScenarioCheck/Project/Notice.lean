import ScenarioCheck.Project.Disk

/-! What is worth telling the user although the work goes on. -/
namespace ScenarioCheck.Project

inductive Notice where
  | ignoredSetting (key : String)
  | badSettings (path : Path)
  | unopenedSettings (path : Path) (fault : OpenFault)
  | unreadSteps (path : Path) (fault : ReadFault)
  | unparsedSteps (path : Path)
  | unreadDocument (path : Path) (fault : ReadFault)
  | document (text : String)
  deriving DecidableEq, Repr

/-- Files that cannot be opened are reported with the reason. -/
def withReason (text : String) (path : Path) : ReadFault → String
  | .unopened fault => text ++ ": " ++ fault.message path
  | .undecodable => text

namespace Notice

def level : Notice → String
  | .unopenedSettings .. => "ERROR"
  | _ => "WARNING"

def text : Notice → String
  | .ignoredSetting key => "Ignoring [tool.step-forge] " ++ key ++ ": expected a list of strings"
  | .badSettings path => "Error parsing config from " ++ path.shown
  | .unopenedSettings path fault =>
    "Unexpected error loading config from " ++ path.shown ++ ": " ++ fault.message path
  | .unreadSteps path fault => withReason ("Could not read step file " ++ path.shown) path fault
  | .unparsedSteps path => "Could not parse step file " ++ path.shown
  | .unreadDocument path fault =>
    withReason ("Could not read feature file " ++ path.shown) path fault
  | .document text => text

def message (n : Notice) : String := n.level ++ ": " ++ n.text

end Notice

end ScenarioCheck.Project
