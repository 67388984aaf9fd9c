import ScenarioCheck.Project.Notice
import ScenarioCheck.Toml.Value
import ScenarioCheck.Validation.Trace

/-! The settings of a project: which files belong to it, which modules offer builders, and which
rules are in force. A setting that is not valid keeps its default. -/
namespace ScenarioCheck.Project

structure Settings where
  stepFiles : List String := ["features/**/*.py"]
  featureFiles : List String := ["**/*.feature"]
  exclude : List String := [".venv/**", "venv/**", "node_modules/**", "build/**"]
  builderModules : List String := ["step_forge_analysis.runtime", "step_forge"]
  reportsAmbiguity : Bool := true
  disabledRules : List String := []
  deriving DecidableEq, Inhabited, Repr

namespace Settings

def rules (s : Settings) : Validation.Rules := ⟨s.disabledRules, s.reportsAmbiguity⟩

def readTexts (members : Toml.Members) (key : String) (set : List String → Settings → Settings)
    (r : Settings × List Notice) : Settings × List Notice :=
  match Ordered.get? key members with
  | none => r
  | some value => match value.texts? with
    | some texts => (set texts r.1, r.2)
    | none => (r.1, r.2 ++ [.ignoredSetting key])

/-- Settings with what a table sets, and a notice for each list that is none of texts. -/
def read (members : Toml.Members) (s : Settings) : Settings × List Notice :=
  let r := readTexts members "step-files" (fun v s => { s with stepFiles := v }) (s, [])
  let r := readTexts members "feature-files" (fun v s => { s with featureFiles := v }) r
  let r := readTexts members "exclude" (fun v s => { s with exclude := v }) r
  let r := readTexts members "builder-modules" (fun v s => { s with builderModules := v }) r
  let r := readTexts members "disable-rules"
    (fun v s => { s with disabledRules := Snapshot.firsts (s.disabledRules ++ v) }) r
  match Ordered.get? "report-ambiguous-steps" members with
  | some (.bool b) => ({ r.1 with reportsAmbiguity := b }, r.2)
  | _ => r

end Settings

end ScenarioCheck.Project
