import ScenarioCheck.Scope.Site
import ScenarioCheck.Source.Module

/-! Modules from the text of a file. -/
namespace ScenarioCheck.Scope

open Source

def bareName (file : String) : List Char :=
  let name := (file.toList.reverse.takeWhile (· != '/')).reverse
  match (name.reverse.dropWhile (· != '.')).reverse with
  | [] => name
  | stem => if stem.all (· == '.') then name else stem.dropLast

def packageEnding : List Char := ".__init__".toList

/-- The module of a file; a margin common to all lines does not matter. A file or name that stands
for a package makes one. -/
def Module.ofFile? (named? : CharNames) (name file : String) (text : String) : Option Module :=
  (statements? named? (withoutMargin text.toList)).map fun body =>
    if packageEnding.isSuffixOf name.toList then
      ⟨String.ofList (name.toList.take (name.length - packageEnding.length)), true, body, none⟩
    else ⟨name, bareName file == "__init__".toList, body, none⟩

end ScenarioCheck.Scope
