import ScenarioCheck.Chain.Message
import ScenarioCheck.Main
import ScenarioCheck.Proofs.Chain.Accepted
import ScenarioCheck.Proofs.Chain.Declared
import ScenarioCheck.Proofs.Chain.Relative
import ScenarioCheck.Proofs.Chain.Repeated
import ScenarioCheck.Proofs.Chain.Required
import ScenarioCheck.Proofs.Chain.Template
import ScenarioCheck.Proofs.Cli.Check
import ScenarioCheck.Proofs.Document.Faithful
import ScenarioCheck.Proofs.Document.Kinds
import ScenarioCheck.Proofs.Document.Respaced
import ScenarioCheck.Proofs.Pattern.Captures
import ScenarioCheck.Proofs.Pattern.Rendered
import ScenarioCheck.Proofs.Pattern.Views
import ScenarioCheck.Proofs.Project.Configuration
import ScenarioCheck.Proofs.Project.ModuleName
import ScenarioCheck.Proofs.Registry.Completion
import ScenarioCheck.Proofs.Registry.Definition
import ScenarioCheck.Proofs.Session.Discovery
import ScenarioCheck.Proofs.State.Absorbed
import ScenarioCheck.Proofs.State.Scalars
import ScenarioCheck.Proofs.Step.Independence
import ScenarioCheck.Proofs.Step.Isolation
import ScenarioCheck.Proofs.Validation.Improved
import ScenarioCheck.Proofs.Validation.Reported
import ScenarioCheck.Proofs.Validation.Simulation
import ScenarioCheck.Scope.File
