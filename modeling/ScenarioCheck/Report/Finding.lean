import ScenarioCheck.Json
import ScenarioCheck.Validation.Diagnostic

/-! Findings as they are reported: with the file they are in, a code, and data for tools. -/
namespace ScenarioCheck.Report

open Step (Definition Shape Requirement)
open Validation (Range Severity Diagnostic Detail)

structure Finding where
  file : String
  range : Range
  message : String
  code : String
  severity : Severity
  data : Json
  deriving Inhabited

def namesData (names : List String) : Json := .list (names.map .text)

def detailData : Detail → Json
  | .undefinedStep kind text => .object [("kind", .text kind.name), ("text", .text text)]
  | .missing names definition =>
    .object [("missing", .object (names.map fun (phase, names) => (phase.name, namesData names))),
      ("definition", .text definition.shown)]
  | .ambiguous candidates => .object [("candidates", namesData (candidates.map (·.shown)))]

def Finding.ofDiagnostic (file : String) (d : Diagnostic) : Finding :=
  ⟨file, d.range, d.message, d.code.name, d.severity, detailData d.detail⟩

/-- A finding for tools; lines and columns count from 1. -/
def Finding.toJson (f : Finding) : Json :=
  .object [("file", .text f.file), ("line", .int (f.range.startLine + 1)),
    ("column", .int (f.range.startCharacter + 1)), ("end_column", .int (f.range.endCharacter + 1)),
    ("severity", .text f.severity.name), ("code", .text f.code), ("message", .text f.message),
    ("data", f.data)]

def listing (key : String) (items : List Json) : Json :=
  .object [(key, .list items), ("total", .int items.length)]

def findingsJson (findings : List Finding) : Json :=
  listing "diagnostics" (findings.map (·.toJson))

def dependenciesData (dependencies : Step.Dependencies) : Json :=
  .object (dependencies.map fun (phase, entries) =>
    (phase.name, .object (entries.map fun (name, requirement) => (name, .text requirement.name))))

def shapeData (shape : Shape) : Json :=
  .object [("type", .text shape.type), ("optional", .bool shape.isOptional)]

/-- What a step produces, for tools; null if it is not known. -/
def producesData : Option (List (String × Shape)) → Json
  | none => .null
  | some shapes => .object (shapes.map fun (name, shape) => (name, shapeData shape))

def stepData (d : Definition) : Json :=
  .object [("kind", .text d.kind.name), ("pattern", .text d.pattern),
    ("file", .text d.location.file), ("line", .int d.location.line),
    ("column", .int d.location.column), ("dependencies", dependenciesData d.dependencies),
    ("produces", producesData d.produces)]

def stepsJson (definitions : List Definition) : Json :=
  listing "steps" (definitions.map stepData)

end ScenarioCheck.Report
