/-! The modules that files of steps import their builders from, as far as their names and results
matter here. -/
namespace ScenarioCheck.Infer.Known

def packageText : String :=
"from typing import TYPE_CHECKING
def register(linter): ''
__version__ = '0.1.0'
__all__ = ['register', 'StepDeclarationChecker']"

def modelsText : String :=
"from dataclasses import dataclass, field
from typing import Any, Dict, FrozenSet, List, Optional
class StepKind:
    @classmethod
    def from_keyword(cls, keyword): ''
class Requirement: pass
class DiagnosticSeverity: pass
@dataclass(frozen=True)
class SourceLocation:
    file: str
    line: int
    column: int
@dataclass(frozen=True)
class PropertyShape:
    type: str
    optional: bool = False
@dataclass(frozen=True)
class StepDefinition:
    pattern: str
    kind: StepKind
    location: SourceLocation
    dependencies: Dict[StepKind, Dict[str, Requirement]] = field(default_factory=dict)
    produced_state: Optional[Dict[str, PropertyShape]] = None
    @property
    def source_file(self):
        return self.location.file
    @property
    def produced_keys(self):
        return frozenset()
    def required_dependencies(self): ''
@dataclass(frozen=True)
class Position:
    line: int
    character: int
@dataclass(frozen=True)
class Range:
    start: Position
    end: Position
    @classmethod
    def on_line(cls, line, start, end):
        return cls()
@dataclass
class Diagnostic:
    range: Range
    message: str
    code: str
    severity: DiagnosticSeverity = DiagnosticSeverity.ERROR
    data: Dict[str, Any] = field(default_factory=dict)
@dataclass(frozen=True)
class CompletionCandidate:
    label: str
    insert_text: str
    detail: str
    definition: Optional[StepDefinition] = None"

def patternsText : String :=
"from dataclasses import dataclass
from typing import List, Optional, Tuple
PREFIX_TOKEN = 'value'
@dataclass(frozen=True)
class Placeholder:
    name: str
    type: Optional[str] = None
    @classmethod
    def parse(cls, slot):
        return cls()
    @property
    def default_value(self):
        return self.name
class CompiledPattern: pass
def compile_pattern(pattern):
    return CompiledPattern()
def matches_exactly(text, pattern): ''
def matches_prefix(typed, pattern): ''"

def runtimeText : String :=
"from step_forge_analysis.runtime.builders import (
    GivenBuilder,
    WhenBuilder,
    ThenBuilder,
    Step,
    StepBuilder,
    StepCollection,
    StepContext,
    default_collection,
)
from step_forge_analysis.runtime.world import (
    MergeConflictError,
    MissingDependencyError,
    PhaseState,
    World,
    merge_state,
)
__all__ = []"

def buildersText : String :=
"import inspect
from dataclasses import dataclass, field
from typing import Any, Awaitable, Callable, Dict, List, Mapping, Optional, Union
from step_forge_analysis.models import Requirement, StepKind
from step_forge_analysis.patterns import compile_pattern
from step_forge_analysis.runtime.world import World
Statement = Union[str, Callable[..., str]]
DependencyMap = Dict[StepKind, Dict[str, Requirement]]
ARGUMENT_MATCHER = 'value'
@dataclass
class StepContext:
    variables: List[str]
    given: Dict[str, Any] = field(default_factory=dict)
    when: Dict[str, Any] = field(default_factory=dict)
    then: Dict[str, Any] = field(default_factory=dict)
class Step:
    def __init__(self, kind, statement, dependencies, function, produces=None, collection=None):
        self.kind = kind
        self.statement_function = statement
        self.dependencies = dependencies
        self.function = function
        self.produces = produces
    def statement(self): ''
    def register(self, collection=None):
        return self
    def run(self, world, *variables):
        return None
    async def arun(self, world, *variables):
        return None
class StepBuilder:
    def __init__(self, kind, statement):
        self.kind = kind
        self.statement = statement
    def dependencies(self, declared=None, **phases):
        return self
    def produces(self, schema=None, **fields):
        return self
    def step(self, function):
        return Step(self.kind, self.statement, None, function)
def GivenBuilder(statement):
    return StepBuilder(StepKind.GIVEN, statement)
def WhenBuilder(statement):
    return StepBuilder(StepKind.WHEN, statement)
def ThenBuilder(statement):
    return StepBuilder(StepKind.THEN, statement)
class StepCollection:
    def __init__(self):
        self._steps = []
    def __len__(self):
        return len(self._steps)
    def add(self, step):
        return None
    def clear(self):
        return None
    def find(self, kind, text):
        found = []
        return found
    def run_text(self, world, kind, text): ''
default_collection = StepCollection()"

def worldText : String :=
"from typing import Any, Dict, Iterator, Mapping, Optional
from step_forge_analysis.models import StepKind
class MergeConflictError(Exception):
    def __init__(self, path, existing, new):
        self.path = path
        self.existing = existing
        self.new = new
class MissingDependencyError(Exception):
    def __init__(self, phase, key):
        self.phase = phase
        self.key = key
def merge_state(current, update, _path=''):
    merged = dict()
    return merged
class PhaseState(Mapping[str, Any]):
    def __init__(self, phase, values=None):
        self.phase = phase
    def merge(self, update):
        return None
    def narrowed(self, keys):
        return dict(())
    def require(self, key): ''
class World:
    @property
    def given(self):
        return self.phase(StepKind.GIVEN)
    @property
    def when(self):
        return self.phase(StepKind.WHEN)
    @property
    def then(self):
        return self.phase(StepKind.THEN)
    def phase(self, kind): ''
    def merge(self, kind, update):
        return None"

def builderTexts : List (String × Bool × String) := [
  ("step_forge_analysis", true, packageText),
  ("step_forge_analysis.models", false, modelsText),
  ("step_forge_analysis.patterns", false, patternsText),
  ("step_forge_analysis.runtime", true, runtimeText),
  ("step_forge_analysis.runtime.builders", false, buildersText),
  ("step_forge_analysis.runtime.world", false, worldText)]

end ScenarioCheck.Infer.Known
