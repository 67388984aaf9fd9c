import ScenarioCheck.Proofs.Registry.Writes
import ScenarioCheck.Proofs.Validation.Outcome
import ScenarioCheck.Proofs.Validation.Related

/-! Validation does not depend on the order of registration. A definition counts at a step where it
is the only one that matches, and then its place does not matter; where there are several, their
order shows in the list of candidates and nowhere else. -/
namespace ScenarioCheck.Validation

open Step (Kind Definition)
open Document (StepLine Feature)

structure Trace.Alike (t t' : Trace) : Prop where
  step_eq : t.step = t'.step
  kind_eq : t.kind = t'.kind
  found_perm : t.found.Perm t'.found
  before_eq : t.before = t'.before
  after_eq : t.after = t'.after

/-- Findings that are equal, or that list the same candidates for an ambiguous step. -/
inductive Diagnostic.Alike : Diagnostic → Diagnostic → Prop
  | same (x : Diagnostic) : Alike x x
  | reordered (step : StepLine) {found found' : List Definition} (h : found.Perm found') :
      Alike (.ambiguousStep step found) (.ambiguousStep step found')

/-- Outcomes that agree trace by trace and finding by finding, up to the order of definitions. -/
structure Outcome.Alike (o o' : Outcome) : Prop where
  traces : List.Forall₂ Trace.Alike o.traces o'.traces
  diagnostics : List.Forall₂ Diagnostic.Alike o.diagnostics o'.diagnostics

theorem Diagnostic.Alike.code_eq {x x' : Diagnostic} (h : x.Alike x') : x.code = x'.code := by
  cases h <;> rfl

/-! One step. The order of what is found shows only where there are two at least. -/

theorem eq_or_two_le_of_perm {found found' : List Definition} (h : found.Perm found') :
    found = found' ∨ (2 ≤ found.length ∧ 2 ≤ found'.length) := by
  match found with
  | [] => exact .inl h.nil_eq
  | [d] => exact .inl h.symm.eq_singleton.symm
  | d :: d' :: rest =>
    have hlength := h.length_eq
    simp only [List.length_cons] at hlength ⊢
    omega

@[simp] theorem stateAfter_of_two_le {found : List Definition} (h : 2 ≤ found.length)
    (state : Names) :
    stateAfter found state = state := by
  match found, h with
  | _ :: _ :: _, _ => rfl

@[simp] theorem diagnostic?_of_two_le {t : Trace} (h : 2 ≤ t.found.length) :
    t.diagnostic? = some (.ambiguousStep t.step t.found) := by
  unfold Trace.diagnostic?
  match hfound : t.found, h with
  | _ :: _ :: _, _ => rfl

theorem stateAfter_perm {found found' : List Definition} (h : found.Perm found') (state : Names) :
    stateAfter found state = stateAfter found' state := by
  cases eq_or_two_le_of_perm h with
  | inl heq => rw [heq]
  | inr htwo => rw [stateAfter_of_two_le htwo.1, stateAfter_of_two_le htwo.2]

theorem Trace.Alike.diagnostic? {t t' : Trace} (h : t.Alike t') :
    Option.Rel Diagnostic.Alike t.diagnostic? t'.diagnostic? := by
  cases eq_or_two_le_of_perm h.found_perm with
  | inl heq =>
    have hsame : t = t' := by
      obtain ⟨hstep, hkind, -, hbefore, hafter⟩ := h
      cases t
      cases t'
      simp_all
    rw [hsame]
    cases t'.diagnostic? with
    | none => exact .none
    | some x => exact .some (.same x)
  | inr htwo =>
    rw [diagnostic?_of_two_le htwo.1, diagnostic?_of_two_le htwo.2, h.step_eq]
    exact .some (.reordered t'.step h.found_perm)

/-! A whole document. -/

section Document

variable {s s' : Snapshot} (h : s.definitions.Perm s'.definitions)
include h

theorem matching_perm (kind : Kind) (text : String) :
    (s.matching kind text).Perm (s'.matching kind text) :=
  h.filter _

theorem keeps_alike : Keeps Eq Trace.Alike s s' where
  start := rfl
  trace step kind state state' hstate := by
    subst hstate
    have hperm := matching_perm h kind step.text
    exact ⟨rfl, rfl, hperm, rfl, stateAfter_perm hperm state⟩
  after kind text state state' hstate := by
    subst hstate
    exact stateAfter_perm (matching_perm h kind text) state

theorem validate_alike (r : Rules) (f : Feature) :
    (validate r s f).Alike (validate r s' f) := by
  have htraces := (keeps_alike h).traces f
  rw [validate_eq, validate_eq]
  refine ⟨htraces, ?_⟩
  unfold diagnostics
  apply List.rel_filter
  · intro x x' hx
    simp only [hx.code_eq]
  · apply List.rel_filterMap _ htraces
    intro t t' ht
    exact ht.diagnostic?

end Document

theorem exists_replaceFile_ofFile (s : Snapshot) (file : String) :
    ∃ s', s.replaceFile file (s.ofFile file) = .ok s' ∧
      s'.definitions = (s.definitions.filter fun d => d.location.file ≠ file) ++ s.ofFile file := by
  have hplaced : Write.Placed [(file, s.ofFile file)] := by
    simp [Write.Placed, Snapshot.ofFile]
  refine ⟨_, Write.replaceFiles_of_placed hplaced s, ?_⟩
  simp [Snapshot.publish]

/-- The outcome does not depend on the order of the definitions, up to the order in which an
ambiguous step lists its candidates. So it makes no difference to register a file again. -/
theorem validate_reordered (r : Rules) (f : Feature) :
    (∀ s s' : Snapshot, s.definitions.Perm s'.definitions →
      (validate r s f).Alike (validate r s' f)) ∧
    ∀ (s : Snapshot) (file : String), ∃ s', s.replaceFile file (s.ofFile file) = .ok s' ∧
      s'.definitions = (s.definitions.filter fun d => d.location.file ≠ file) ++ s.ofFile file ∧
        (validate r s f).Alike (validate r s' f) := by
  refine ⟨fun s s' h => validate_alike h r f, ?_⟩
  intro s file
  obtain ⟨s', hs, hdefinitions⟩ := exists_replaceFile_ofFile s file
  refine ⟨s', hs, hdefinitions, validate_alike ?_ r f⟩
  -- the definitions of the file and the others, only the other way round
  rw [hdefinitions]
  have hsplit := List.filter_append_perm (fun d : Definition => d.location.file = file) s.definitions
  apply hsplit.symm.trans
  simpa [Snapshot.ofFile] using List.perm_append_comm

def crowdedSnapshot : Snapshot where
  definitions := ⟨"{x}", .given, ⟨"", 5, 1⟩, [], none⟩ :: sampleSnapshot.definitions

theorem validate_reordered_crowdedSnapshot :
    let s : Snapshot := { definitions := crowdedSnapshot.definitions.reverse }
    crowdedSnapshot.definitions.Perm s.definitions ∧
      (validate {} crowdedSnapshot sampleFeature).diagnostics ≠
        (validate {} s sampleFeature).diagnostics ∧
      (validate {} crowdedSnapshot sampleFeature).Alike (validate {} s sampleFeature) := by
  intro s
  have hperm : crowdedSnapshot.definitions.Perm s.definitions :=
    (List.reverse_perm crowdedSnapshot.definitions).symm
  have hdiffers : (validate {} crowdedSnapshot sampleFeature).diagnostics ≠
      (validate {} s sampleFeature).diagnostics := by decide +kernel
  exact ⟨hperm, hdiffers, (validate_reordered {} sampleFeature).1 _ _ hperm⟩

end ScenarioCheck.Validation
