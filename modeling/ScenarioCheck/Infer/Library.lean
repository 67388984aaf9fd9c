import ScenarioCheck.Infer.Known.Builders
import ScenarioCheck.Infer.Known.Language
import ScenarioCheck.Infer.Known.Standard
import ScenarioCheck.Scope.Lookup
import ScenarioCheck.Source.Module

/-! The modules that imports reach: those of a project, and those that are known anywhere. -/
namespace ScenarioCheck.Infer

open Source Scope

/-- A module from its text, in which no character is named; none if that is no module. -/
def Module.ofText? (name : String) (isPackage : Bool) (text : String)
    (beside? : Option (List String)) : Option Module :=
  (statements? (fun _ => none) text.toList).map fun body => ⟨name, isPackage, body, beside?⟩

namespace Known

def modules : List Module :=
  (("builtins", false, builtinsText) :: ("typing", false, typingText) ::
    ("dataclasses", false, dataclassesText) :: (standardTexts ++ builderTexts)).filterMap
      fun (name, isPackage, text) => Module.ofText? name isPackage text none

def builtins : Module := (modules.find? (·.name == "builtins")).getD default

end Known

/-- Modules by their full dotted name. -/
structure Library where
  find? : String → Option Module

namespace Library

def ofProject (find? : String → Option Module) : Library :=
  ⟨fun name => (find? name).or (Known.modules.find? (·.name == name))⟩

def known : Library := ofProject fun _ => none

end Library

def components (name : String) : List String :=
  (Text.splitOn '.' name.toList).map String.ofList

def dotted (parts : List String) : String := ".".intercalate parts

/-- The full name of what a module imports; the level counts leading dots. A package counts as its
own surroundings. A module beside no package looks for what lies beside it at the top. A level above
the top has no name. -/
def absoluteName? (m : Module) (name : String) (level : Nat) : Option String :=
  if level = 0 then some name
  else
    let parts := components m.name
    let isLoose := !m.isPackage && m.beside?.any fun names =>
      name.isEmpty || names.contains ((components name).headD "")
    let up := if m.isPackage || isLoose then level - 1 else level
    if up ≠ 0 && parts.length ≤ up then none
    else
      let package := if isLoose then "" else dotted (parts.take (parts.length - up))
      some (if package.isEmpty then name else if name.isEmpty then package
        else package ++ "." ++ name)

def Library.import? (lib : Library) (m : Module) (name : String) (level : Nat) : Option Module :=
  (absoluteName? m name level).bind lib.find?

def Library.inside? (lib : Library) (m : Module) (name : String) : Option Module :=
  if m.isPackage then lib.find? (m.name ++ "." ++ name) else none

def topLevels : List Level := [⟨.module, [], 0⟩]

/-- A star provides the public names of its module, which may come from further stars. -/
def provides (lib : Library) : Nat → Binding → String → Bool
  | 0, _, _ => false
  | fuel + 1, b, name =>
    match b.origin with
    | .member module? level "*" =>
      !name.startsWith "_" && (lib.import? b.site.home (module?.getD "") level).any fun m =>
        !(named (provides lib fuel) m topLevels name).isEmpty
    | _ => false

/-- Stars are followed this far. -/
def maxStars : Nat := 20

def Library.lookup (lib : Library) (s : Site) (name : String) : List Binding :=
  s.lookup (provides lib maxStars) name

def Library.namedIn (lib : Library) (m : Module) (name : String) : List Binding :=
  named (provides lib maxStars) m topLevels name

end ScenarioCheck.Infer
