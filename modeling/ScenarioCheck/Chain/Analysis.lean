import ScenarioCheck.Chain.Builder
import ScenarioCheck.Chain.Dependencies
import ScenarioCheck.Chain.Pattern
import ScenarioCheck.Chain.Produced
import ScenarioCheck.Chain.Stage

/-! The declarations of steps in a module. A chain that is not understood declares nothing, and a part
that is not understood is unknown; what went wrong is kept. -/
namespace ScenarioCheck.Chain

open Source Scope Step

structure Root where
  site : Site
  position : Position
  callee : Expr
  arguments : List Expr
  keywords : List (Keyword Expr)
  outward : List Access
  deriving Inhabited, Repr

structure Analysis where
  position : Position
  kind : Kind
  stages : Stages
  hasBody : Bool := false
  pattern? : Option String := none
  dependencies? : Option Dependencies := none
  produces? : Option Shapes := none
  issues : List Issue := []

namespace Analysis

def isBroken (a : Analysis) : Bool := a.stages.break?.isSome

/-- A declaration with a pattern, and with a body or dependencies, defines a step. -/
def definition? (a : Analysis) (file : String) : Option Definition :=
  match a.pattern? with
  | none => none
  | some pattern =>
    if a.isBroken || !(a.hasBody || a.dependencies?.isSome) then none
    else some {
      pattern
      kind := a.kind
      location := ⟨file, a.position.line, a.position.column + 1⟩
      dependencies := a.dependencies?.getD []
      produces := a.produces? }

end Analysis

namespace Root

def shown (root : Root) : String := root.callee.shown

def readPattern (r : Resolver) (root : Root) : Reading (Option String) :=
  match root.arguments, root.keywords with
  | [argument], [] => match Chain.pattern? r ⟨root.site, argument⟩ with
    | some p => ⟨some p, []⟩
    | none => ⟨none, [⟨argument.position, .pattern root.shown⟩]⟩
  | _, _ => ⟨none, [⟨root.position, .pattern root.shown⟩]⟩

def body? (stages : Stages) : Option Expr := (stages.call? .step).bind (·.arguments.head?)

def readProduced (r : Resolver) (root : Root) (stages : Stages) : Reading (Option Shapes) :=
  match stages.call? .produces, body? stages with
  | some call, _ => match declaredSchema? call with
    | some shapes => ⟨some shapes, []⟩
    | none => ⟨none, [⟨call.position, .state .schema⟩]⟩
  | none, none => ⟨none, []⟩
  | none, some e => match bodyShapes r ⟨root.site, e⟩ with
    | .ok shapes => ⟨some shapes, []⟩
    | .error fault => ⟨none, [⟨e.position, .state fault⟩]⟩

def analyze (r : Resolver) (kind : Kind) (root : Root) : Analysis :=
  let stages := stagesOf root.outward
  match stages.break? with
  | some b =>
    { position := root.position, kind, stages, issues := [⟨b.position, .stage b.name⟩] }
  | none =>
    let pattern := readPattern r root
    let dependencies := match stages.call? .dependencies with
      | some call => readDependencies kind call
      | none => ⟨none, []⟩
    let produced := readProduced r root stages
    let unregistered := if (stages.call? .register).isSome then []
      else [⟨root.position, .unregistered root.shown⟩]
    { position := root.position
      kind
      stages
      hasBody := (body? stages).isSome
      pattern? := pattern.value
      dependencies? := dependencies.value
      produces? := produced.value
      issues := pattern.issues ++ dependencies.issues ++ produced.issues ++ unregistered }

def ofNode? (n : Node) : Option Root :=
  match n.expr with
  | .call p callee arguments keywords => some ⟨n.site, p, callee, arguments, keywords, n.outward⟩
  | _ => none

end Root

def analysis? (r : Resolver) (modules : List String) (n : Node) : Option Analysis := do
  let root ← Root.ofNode? n
  return root.analyze r (← calledKind? r modules ⟨root.site, root.callee⟩)

def analyses (r : Resolver) (modules : List String) (m : Module) : List Analysis :=
  m.nodes.filterMap (analysis? r modules)

def definitions (r : Resolver) (modules : List String) (file : String) (m : Module) :
    List Definition :=
  (analyses r modules m).filterMap (·.definition? file)

end ScenarioCheck.Chain
