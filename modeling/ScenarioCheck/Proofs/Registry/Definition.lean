import ScenarioCheck.Proofs.Document.Cursor
import ScenarioCheck.Proofs.Validation.Site
import ScenarioCheck.Registry.Completion

/-! Going to the definition of a step. Where a cursor reads the lines of its block as splitting
does, it goes to the first definition that the validator finds for the step; where it does not, it
may go somewhere else. -/
namespace ScenarioCheck.Completion

open Document (StepLine Feature Typed SameBlock ReadAlike kindAt?)
open Validation (traces)

theorem definitionAt?_eq_none {s : Snapshot} {text : String} {line : Int}
    (h : kindAt? (Text.splitLines text.toList) line = none) : definitionAt? s text line = none := by
  unfold definitionAt? lineOf?
  split
  · rfl
  · rename_i lines raw hl
    split at hl
    · cases hl
    · obtain ⟨raw', -, heq⟩ := Option.map_eq_some_iff.mp hl
      obtain ⟨rfl, -⟩ := Prod.mk.inj heq
      simp [h]

theorem definitionAt?_of_typed {s : Snapshot} {text : String} {n : Nat} {raw : List Char}
    (hl : (Text.splitLines text.toList)[n]? = some raw) {typed : Typed}
    (ht : Typed.ofLine? (Text.trimEnd raw) = some typed) (hne : typed.text ≠ []) {kind : Step.Kind}
    (hk : kindAt? (Text.splitLines text.toList) n = some kind) :
    definitionAt? s text n = definitionOf? s kind (String.ofList typed.text) := by
  have hline : lineOf? text n = some (Text.splitLines text.toList, raw) := by simp [lineOf?, hl]
  unfold definitionAt?
  rw [hline]
  simp only [Typed.upTo?, ht, hk]
  rw [if_neg (by simpa using hne)]

section Document

variable {text uri : String} {f : Feature} (hf : Document.ofText text uri = .ok f)
include hf

theorem definitionAt?_of_mem_steps (s : Snapshot) {step : StepLine} (hs : step ∈ f.steps)
    (ht : Text.trim step.text.toList ≠ []) {kind : Step.Kind}
    (hk : kindAt? (Text.splitLines text.toList) step.line = some kind) :
    definitionAt? s text step.line = definitionOf? s kind step.text := by
  obtain ⟨raw, p, hl, -, hrec⟩ := (Document.mem_steps_iff_recorded hf).mp hs
  obtain ⟨column, htyped⟩ := Document.Progress.ofLine?_trimEnd_of_recorded hrec
    (Text.lineFeed_notMem (List.mem_of_getElem? hl)) ht
  have hne : step.text.toList ≠ [] := fun h => ht (by rw [h]; rfl)
  rw [definitionAt?_of_typed hl htyped hne hk, String.ofList_toList]

/-- What a cursor finds on the line of a step is what the validator finds for the step, and on lines
without a step it finds nothing. The lines from the nearest header up to the cursor have to be read
alike, and the step has to have a text other than white space. -/
theorem definitionAt?_agrees (s : Snapshot) (line : Int)
    (ha : ∀ n : Nat, SameBlock text n line → ReadAlike text n) :
    (∀ step ∈ f.steps, (step.line : Int) = line →
      kindAt? (Text.splitLines text.toList) line = step.kind? ∧
      ∀ kind, step.kind? = some kind → Text.trim step.text.toList ≠ [] →
        ∃ t ∈ traces s f, t.step = step ∧ t.kind = kind ∧
          definitionAt? s text line = t.found.head?.map (·.location)) ∧
    ((∀ step ∈ f.steps, (step.line : Int) = line → step.kind? = none) →
      kindAt? (Text.splitLines text.toList) line = none ∧ definitionAt? s text line = none) := by
  constructor
  · intro step hs hline
    have hkind := Document.kindAt?_of_mem_steps hf ha hs hline
    refine ⟨hkind, fun kind hk ht => ?_⟩
    subst hline
    obtain ⟨site, rfl⟩ := Validation.Site.exists_step_eq hs
    refine ⟨site.trace s kind, site.trace_mem s hk, rfl, rfl, ?_⟩
    exact definitionAt?_of_mem_steps hf s hs ht (hkind.trans hk)
  · intro hnone
    have hkind := Document.kindAt?_eq_none_of_steps hf ha hnone
    exact ⟨hkind, definitionAt?_eq_none hkind⟩

end Document

def sampleText (quoted : String) : String :=
  "Example:\nWhen a\n\"\"\"\n" ++ quoted ++ "\n\"\"\"\n* c"

def sampleFeature : Feature where
  name? := none
  scenarios := [⟨"", 0, some .example, none,
    [⟨.primary .when, "a", 1, 0, some .when, 6⟩, ⟨.star, "c", 5, 0, some .when, 3⟩]⟩]

def sampleSnapshot : Snapshot where
  definitions := [⟨"b", .given, ⟨"s.py", 1, 1⟩, [], none⟩, ⟨"c", .when, ⟨"s.py", 2, 1⟩, [], none⟩]

theorem definitionAt?_agrees_sampleText :
    Document.ofText (sampleText "b") = .ok sampleFeature ∧
      definitionAt? sampleSnapshot (sampleText "b") 5 = some ⟨"s.py", 2, 1⟩ ∧
      ∃ t ∈ traces sampleSnapshot sampleFeature, t.step.line = 5 ∧
        definitionAt? sampleSnapshot (sampleText "b") 5 = t.found.head?.map (·.location) := by
  have hf : Document.ofText (sampleText "b") = .ok sampleFeature := by decide +kernel
  have hlength : (Text.splitLines (sampleText "b").toList).length = 6 := by decide +kernel
  have hlines : ∀ n < 6, ∀ raw ∈ (Text.splitLines (sampleText "b").toList)[n]?,
      ((Typed.ofLine? raw).isSome → ∃ s ∈ sampleFeature.steps, s.line = n) ∧
        (Document.isHeader raw = true → (n, raw) ∈ Document.visible (sampleText "b")) := by
    decide +kernel
  have ha (n : Nat) (_ : SameBlock (sampleText "b") n 5) : ReadAlike (sampleText "b") n := by
    rw [Document.readAlike_iff hf]
    intro raw hl
    exact hlines n (hlength ▸ (List.getElem?_eq_some_iff.mp hl).1) raw hl
  refine ⟨hf, by decide +kernel, ?_⟩
  obtain ⟨-, hfound⟩ := (definitionAt?_agrees hf sampleSnapshot 5 ha).1
    ⟨.star, "c", 5, 0, some .when, 3⟩ (by simp [sampleFeature, Feature.steps]) rfl
  obtain ⟨t, ht, hstep, -, hloc⟩ := hfound .when rfl (by decide +kernel)
  exact ⟨t, ht, by rw [hstep], hloc⟩

/-- The quoted text looks like a step: the continuation takes its kind and is not found, and the
quoted text is found although it is no step. -/
theorem definitionAt?_disagrees :
    Document.ofText (sampleText "Given b") = .ok sampleFeature ∧
      (∃ step ∈ sampleFeature.steps, step.line = 5 ∧ step.kind? = some .when ∧
        kindAt? (Text.splitLines (sampleText "Given b").toList) 5 = some .given ∧
        ∀ t ∈ traces sampleSnapshot sampleFeature, t.step = step →
          definitionAt? sampleSnapshot (sampleText "Given b") 5 ≠
            t.found.head?.map (·.location)) ∧
      (∀ step ∈ sampleFeature.steps, step.line ≠ 3) ∧
      definitionAt? sampleSnapshot (sampleText "Given b") 3 = some ⟨"s.py", 1, 1⟩ := by
  decide +kernel

end ScenarioCheck.Completion
