import Mathlib.Data.List.Nodup
import ScenarioCheck.Document.Basic
import ScenarioCheck.Proofs.Document.Line

/-! The lines of a document that can carry a header or a step: those outside quoted text that are
no blank lines, comments, tags or table rows. Reading such a line finds exactly what its shape
says. -/
namespace ScenarioCheck.Document

open Text (trim)

abbrev Numbered := Nat × List Char

/-- The lines outside quoted text, numbered from `line`. While quoted text is open, `mark?` is its
mark; a line that starts with the same mark closes it. -/
def outsideQuotes (mark? : Option (List Char)) (line : Nat) : List (List Char) → List Numbered
  | [] => []
  | raw :: rest =>
    match mark? with
    | some mark =>
      outsideQuotes (if mark.isPrefixOf (trim raw) then none else some mark) (line + 1) rest
    | none =>
      match fences.find? (·.isPrefixOf (trim raw)) with
      | some mark => outsideQuotes (some mark) (line + 1) rest
      | none => (line, raw) :: outsideQuotes none (line + 1) rest

def visibleFrom (mark? : Option (List Char)) (line : Nat) (lines : List (List Char)) :
    List Numbered :=
  (outsideQuotes mark? line lines).filter fun l => !isPassedOver (trim l.2)

def visible (text : String) : List Numbered := visibleFrom none 0 (Text.splitLines text.toList)

structure IsVisible (raw : List Char) : Prop where
  noFence : fences.find? (·.isPrefixOf (trim raw)) = none
  notPassedOver : isPassedOver (trim raw) = false

@[simp] theorem ofText_of_fence {raw mark : List Char}
    (hf : fences.find? (·.isPrefixOf (trim raw)) = some mark) : Line.ofText raw = .fence mark := by
  simp [Line.ofText, hf]

@[simp] theorem ofText_of_passedOver {raw : List Char}
    (hf : fences.find? (·.isPrefixOf (trim raw)) = none) (hp : isPassedOver (trim raw) = true) :
    Line.ofText raw = .passedOver := by
  simp [Line.ofText, hf, hp]

section Scan

variable {mark? : Option (List Char)} {line : Nat} {lines : List (List Char)}

theorem lt_of_mem_outsideQuotes {l : Numbered} (h : l ∈ outsideQuotes mark? line lines) :
    line ≤ l.1 := by
  induction lines generalizing mark? line with
  | nil => simp [outsideQuotes] at h
  | cons raw rest ih =>
    unfold outsideQuotes at h
    split at h
    · exact Nat.le_of_succ_le (ih h)
    · split at h
      · exact Nat.le_of_succ_le (ih h)
      · rcases List.mem_cons.mp h with rfl | h
        · exact Nat.le_refl _
        · exact Nat.le_of_succ_le (ih h)

theorem pairwise_outsideQuotes : (outsideQuotes mark? line lines).Pairwise (·.1 < ·.1) := by
  induction lines generalizing mark? line with
  | nil => simp [outsideQuotes]
  | cons raw rest ih =>
    unfold outsideQuotes
    split
    · exact ih
    · split
      · exact ih
      · exact List.pairwise_cons.mpr ⟨fun l hl => lt_of_mem_outsideQuotes hl, ih⟩

theorem getElem?_of_mem_outsideQuotes {l : Numbered} (h : l ∈ outsideQuotes mark? line lines) :
    lines[l.1 - line]? = some l.2 := by
  induction lines generalizing mark? line with
  | nil => simp [outsideQuotes] at h
  | cons raw rest ih =>
    have later {mark?} (h : l ∈ outsideQuotes mark? (line + 1) rest) :
        (raw :: rest)[l.1 - line]? = some l.2 := by
      have hlt := lt_of_mem_outsideQuotes h
      rw [show l.1 - line = (l.1 - (line + 1)) + 1 by omega, List.getElem?_cons_succ]
      exact ih h
    unfold outsideQuotes at h
    split at h
    · exact later h
    · split at h
      · exact later h
      · rcases List.mem_cons.mp h with rfl | h
        · simp
        · exact later h

theorem noFence_of_mem_outsideQuotes {l : Numbered} (h : l ∈ outsideQuotes mark? line lines) :
    fences.find? (·.isPrefixOf (trim l.2)) = none := by
  induction lines generalizing mark? line with
  | nil => simp [outsideQuotes] at h
  | cons raw rest ih =>
    unfold outsideQuotes at h
    split at h
    · exact ih h
    · split at h
      · exact ih h
      · rename_i hf
        rcases List.mem_cons.mp h with rfl | h
        · exact hf
        · exact ih h

theorem pairwise_visibleFrom : (visibleFrom mark? line lines).Pairwise (·.1 < ·.1) :=
  pairwise_outsideQuotes.sublist List.filter_sublist

theorem isVisible_of_mem {l : Numbered} (h : l ∈ visibleFrom mark? line lines) :
    IsVisible l.2 := by
  obtain ⟨hm, hp⟩ := List.mem_filter.mp h
  exact ⟨noFence_of_mem_outsideQuotes hm, by simpa using hp⟩

theorem getElem?_of_mem_visible {text : String} {l : Numbered} (h : l ∈ visible text) :
    (Text.splitLines text.toList)[l.1]? = some l.2 :=
  getElem?_of_mem_outsideQuotes (List.mem_of_mem_filter h)

end Scan

/-! What reading a visible line finds. -/

namespace IsVisible

variable {raw : List Char}

theorem trim_ne_nil (hv : IsVisible raw) : trim raw ≠ [] := by
  intro hnil
  have hpassed := hv.notPassedOver
  rw [hnil] at hpassed
  cases hpassed

theorem ofText_eq (hv : IsVisible raw) :
    Line.ofText raw =
      match headerOf? raw with
      | some (h, after) => .header h (trim after)
      | none =>
        match stepWordOf? raw with
        | some (word, after) =>
          match stepText? after with
          | some text => .step word text
          | none => .description
        | none => .description := by
  have hfence : fenceOf? (trim raw) = none := (fenceOf?_eq _).trans hv.noFence
  have hpassed : ¬isPassedOver (trim raw) = true := by simp [hv.notPassedOver]
  unfold Line.ofText
  dsimp only
  rw [hfence]
  exact if_neg hpassed

theorem ofText_eq_header_iff (hv : IsVisible raw) {h : Header} {name : List Char} :
    Line.ofText raw = .header h name ↔ IsHeader raw h name := by
  rw [hv.ofText_eq, isHeader_iff]
  cases headerOf? raw with
  | some found => grind
  | none => grind

theorem stepText?_of_ofText (hv : IsVisible raw) {word : StepWord} {text : List Char}
    (hl : Line.ofText raw = .step word text) :
    ∃ after, stepWordOf? raw = some (word, after) ∧ stepText? after = some text := by
  rw [hv.ofText_eq] at hl
  split at hl
  · cases hl
  · split at hl
    · split at hl
      · cases hl
        exact ⟨_, ‹_›, ‹_›⟩
      · cases hl
    · cases hl

theorem isStep_of_ofText (hv : IsVisible raw) {word : StepWord} {text : List Char}
    (hl : Line.ofText raw = .step word text) : IsStep raw word text := by
  obtain ⟨after, hw, ht⟩ := hv.stepText?_of_ofText hl
  obtain ⟨gap, tail, hg, htl, hne, htne, rfl⟩ := stepText?_eq_some ht
  obtain ⟨indent, hi, rfl⟩ :=
    (trimStart_eq_append_iff (head?_stepWord word)).mp (stepWordOf?_eq_some_iff.mp hw)
  exact ⟨indent, gap, tail, hi, hg, htl, hne, htne, by simp⟩

theorem exists_ofText_eq_step_iff (hv : IsVisible raw) {word : StepWord} :
    (∃ text, Line.ofText raw = .step word text) ↔
      (∃ text, IsStep raw word text) ∧ ∀ h name, ¬IsHeader raw h name := by
  constructor
  · rintro ⟨text, hl⟩
    refine ⟨⟨text, hv.isStep_of_ofText hl⟩, fun h name hh => ?_⟩
    rw [← hv.ofText_eq_header_iff, hl] at hh
    cases hh
  · rintro ⟨hs, hn⟩
    obtain ⟨after, hw, ht⟩ := isStep_iff.mp hs
    obtain ⟨text, ht⟩ := Option.isSome_iff_exists.mp ht
    have hnone : headerOf? raw = none := by
      cases hh : headerOf? raw with
      | none => rfl
      | some found => exact absurd (isHeader_iff.mpr ⟨_, hh, rfl⟩) (hn _ _)
    exact ⟨text, by simp [hv.ofText_eq, hnone, hw, ht]⟩

end IsVisible

/-! How the scan goes on after a line. -/

@[simp] theorem visibleFrom_quoted (mark : List Char) (line : Nat) (raw : List Char)
    (rest : List (List Char)) :
    visibleFrom (some mark) line (raw :: rest) =
      visibleFrom (if mark.isPrefixOf (trim raw) then none else some mark) (line + 1) rest := rfl

theorem visibleFrom_unquoted (line : Nat) (raw : List Char) (rest : List (List Char)) :
    visibleFrom none line (raw :: rest) =
      match Line.ofText raw with
      | .fence mark => visibleFrom (some mark) (line + 1) rest
      | .passedOver => visibleFrom none (line + 1) rest
      | _ => (line, raw) :: visibleFrom none (line + 1) rest := by
  unfold visibleFrom
  rw [outsideQuotes]
  cases hf : fences.find? (·.isPrefixOf (trim raw)) with
  | some mark => rw [ofText_of_fence hf]
  | none =>
    cases hp : isPassedOver (trim raw) with
    | true => simp [ofText_of_passedOver hf hp, hp]
    | false =>
      rw [List.filter_cons_of_pos (by simp [hp])]
      have hv : IsVisible raw := ⟨hf, hp⟩
      rw [hv.ofText_eq]
      grind

end ScenarioCheck.Document
