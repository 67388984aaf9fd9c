import ScenarioCheck.Proofs.Validation.Missing
import ScenarioCheck.Proofs.Validation.Related

/-! Knowing more about the steps only removes findings. Definitions that produce more and require
less match the same texts, so no finding about matching changes; the names that are set grow, and
what is missing then was missing before. -/
namespace ScenarioCheck.Validation

open Step (Kind Definition)
open Document (StepLine Feature)

/-- The second definition stands for the same step, produces at least what the first one produces and
requires nothing else. -/
structure ImprovedBy (d d' : Definition) : Prop where
  pattern_eq : d.pattern = d'.pattern
  kind_eq : d.kind = d'.kind
  location_eq : d.location = d'.location
  produces : d.producedNames ⊆ d'.producedNames
  requires : ∀ phase name, d'.Requires phase name → d.Requires phase name

def Outcome.Misses (o : Outcome) (step : StepLine) (phase : Kind) (name : String) : Prop :=
  ∃ x ∈ o.diagnostics, x.range = rangeOf step ∧ x.Misses phase name

/-! What a trace misses. -/

theorem mem_names_missingFrom {d : Definition} {state : Names} {phase : Kind} {name : String} :
    (∃ names, (phase, names) ∈ missingFrom d state ∧ name ∈ names) ↔
      d.Requires phase name ∧ name ∉ state := by
  simp only [mem_missingFrom]
  constructor
  · rintro ⟨names, ⟨rfl, -⟩, hname⟩
    have hfound := List.mem_filter.mp hname
    exact ⟨Definition.mem_requiredIn.mp hfound.1, by simpa using hfound.2⟩
  · rintro ⟨hrequires, habsent⟩
    have hname : name ∈ (d.requiredIn phase).filter (· ∉ state) :=
      List.mem_filter.mpr ⟨Definition.mem_requiredIn.mpr hrequires, by simpa using habsent⟩
    exact ⟨_, ⟨rfl, List.ne_nil_of_mem hname⟩, hname⟩

theorem Diagnostic.Misses.code_eq {t : Trace} {x : Diagnostic} (hx : t.diagnostic? = some x)
    {phase : Kind} {name : String} (h : x.Misses phase name) : x.code = .missingDependency := by
  obtain ⟨missing, location, hdetail, -⟩ := h
  unfold Trace.diagnostic? at hx
  split at hx
  · cases hx
    cases hdetail
  · split at hx
    · cases hx
    · cases hx
      rfl
  · cases hx
    cases hdetail

theorem Trace.misses_iff {t : Trace} {phase : Kind} {name : String} :
    (∃ x, t.diagnostic? = some x ∧ x.Misses phase name) ↔
      ∃ d, t.found = [d] ∧ d.Requires phase name ∧ name ∉ t.before := by
  constructor
  · rintro ⟨x, hx, hmisses⟩
    have hcode := hmisses.code_eq hx
    obtain ⟨d, hfound, -, rfl⟩ := diagnostic?_missing_iff.mp ⟨hx, hcode⟩
    obtain ⟨missing, location, hdetail, hnames⟩ := hmisses
    cases hdetail
    exact ⟨d, hfound, mem_names_missingFrom.mp hnames⟩
  · rintro ⟨d, hfound, hmissing⟩
    have hnames := mem_names_missingFrom.mpr hmissing
    have hne : missingFrom d t.before ≠ [] := by
      intro hnil
      simp [hnil] at hnames
    have hx := (diagnostic?_missing_iff (t := t)).mpr ⟨d, hfound, hne, rfl⟩
    exact ⟨_, hx.1, _, _, rfl, hnames⟩

theorem misses_validate_iff {s : Snapshot} {f : Feature} {step : StepLine} {phase : Kind}
    {name : String} :
    (validate {} s f).Misses step phase name ↔ ∃ t ∈ traces s f, rangeOf t.step = rangeOf step ∧
      ∃ d, t.found = [d] ∧ d.Requires phase name ∧ name ∉ t.before := by
  rw [validate_eq]
  constructor
  · rintro ⟨x, hx, hrange, hmisses⟩
    obtain ⟨t, ht, htx⟩ := mem_diagnostics.mp hx
    rw [Trace.range_of_diagnostic? htx] at hrange
    exact ⟨t, ht, hrange, Trace.misses_iff.mp ⟨x, htx, hmisses⟩⟩
  · rintro ⟨t, ht, hrange, hmissing⟩
    obtain ⟨x, htx, hmisses⟩ := Trace.misses_iff.mpr hmissing
    refine ⟨x, mem_diagnostics.mpr ⟨t, ht, htx⟩, ?_, hmisses⟩
    rw [Trace.range_of_diagnostic? htx, hrange]

/-! Traces of one step under both. -/

/-- A trace of the same step whose definitions are improved and where more is set. -/
structure Trace.Enriched (t t' : Trace) : Prop where
  step_eq : t.step = t'.step
  kind_eq : t.kind = t'.kind
  found : List.Forall₂ ImprovedBy t.found t'.found
  before_subset : t.before ⊆ t'.before
  after_subset : t.after ⊆ t'.after

theorem ambiguousStep_eq (step : StepLine) {found found' : List Definition}
    (h : List.Forall₂ ImprovedBy found found') :
    Diagnostic.ambiguousStep step found = Diagnostic.ambiguousStep step found' := by
  have hlocations := map_eq_of_forall₂ (g := (·.location)) (fun _ _ hd => hd.location_eq) h
  have hshown := map_eq_of_forall₂ (g := fun d => d.pattern ++ " (" ++ d.location.shown ++ ")")
    (fun _ _ hd => by rw [hd.pattern_eq, hd.location_eq]) h
  unfold Diagnostic.ambiguousStep ambiguousMessage
  rw [hlocations, hshown, h.length_eq]

theorem stateAfter_subset {found found' : List Definition}
    (h : List.Forall₂ ImprovedBy found found') {state state' : Names} (hstate : state ⊆ state') :
    stateAfter found state ⊆ stateAfter found' state' := by
  intro name hname
  rw [mem_stateAfter] at hname ⊢
  cases hname with
  | inl hbefore => exact .inl (hstate hbefore)
  | inr hproduced =>
    obtain ⟨d, rfl, hd⟩ := hproduced
    cases h with
    | cons hfirst hrest =>
      cases hrest
      exact .inr ⟨_, rfl, hfirst.produces hd⟩

def matchingFinding? (step : StepLine) (kind : Kind) : List Definition → Option Diagnostic
  | [] => some (.undefinedStep step kind)
  | [_] => none
  | found => some (.ambiguousStep step found)

@[simp] theorem filter_diagnostic? (t : Trace) :
    t.diagnostic?.filter (·.code ≠ .missingDependency) = matchingFinding? t.step t.kind t.found := by
  unfold Trace.diagnostic?
  match hfound : t.found with
  | [] => rfl
  | [d] =>
    dsimp only
    cases missingFrom d t.before with
    | nil => rfl
    | cons e rest => rfl
  | _ :: _ :: _ => rfl

theorem matchingFinding?_eq (step : StepLine) (kind : Kind) {found found' : List Definition}
    (h : List.Forall₂ ImprovedBy found found') :
    matchingFinding? step kind found = matchingFinding? step kind found' := by
  have hambiguous := ambiguousStep_eq step h
  cases h with
  | nil => rfl
  | cons _ hrest =>
    cases hrest with
    | nil => rfl
    | cons _ _ => exact congrArg some hambiguous

/-! A whole document. -/

@[simp] theorem filter_diagnostics_eq (walk : List Trace) :
    (diagnostics {} walk).filter (·.code ≠ .missingDependency) =
      walk.filterMap fun t => matchingFinding? t.step t.kind t.found := by
  have hall : diagnostics {} walk = walk.filterMap Trace.diagnostic? := by
    simp [diagnostics]
  rw [hall, List.filter_filterMap]
  simp only [filter_diagnostic?]

section Document

variable {s s' : Snapshot} (h : List.Forall₂ ImprovedBy s.definitions s'.definitions)
include h

theorem forall₂_matching (kind : Kind) (text : String) :
    List.Forall₂ ImprovedBy (s.matching kind text) (s'.matching kind text) := by
  unfold Snapshot.matching
  apply List.rel_filter _ h
  intro d d' hd
  simp [hd.kind_eq, hd.pattern_eq]

theorem keeps_enriched : Keeps (· ⊆ ·) Trace.Enriched s s' where
  start := List.Subset.refl []
  trace step kind _ _ hstate :=
    have hfound := forall₂_matching h kind step.text
    ⟨rfl, rfl, hfound, hstate, stateAfter_subset hfound hstate⟩
  after kind text _ _ hstate := stateAfter_subset (forall₂_matching h kind text) hstate

theorem misses_of_improved (f : Feature) {step : StepLine} {phase : Kind} {name : String}
    (hmisses : (validate {} s' f).Misses step phase name) :
    (validate {} s f).Misses step phase name := by
  rw [misses_validate_iff] at hmisses ⊢
  obtain ⟨t', ht', hrange, d', hfound', hrequires, habsent⟩ := hmisses
  obtain ⟨t, ht, henriched⟩ := exists_mem_of_forall₂ ((keeps_enriched h).traces f) ht'
  -- what matches alone under the better ones matches alone under the others
  have hfound := henriched.found
  rw [hfound'] at hfound
  obtain ⟨d, rest, hd, hrest, hsingle⟩ := List.forall₂_cons_right_iff.mp hfound
  rw [List.forall₂_nil_right_iff.mp hrest] at hsingle
  refine ⟨t, ht, by rw [henriched.step_eq, hrange], d, hsingle, hd.requires phase name hrequires, ?_⟩
  intro hbefore
  exact habsent (henriched.before_subset hbefore)

end Document

/-- Better definitions only remove findings: those about matching stay as they are, more names are set
at every step, and what a step misses under the better ones it misses under the others. -/
theorem improved_only_removes {s s' : Snapshot}
    (h : List.Forall₂ ImprovedBy s.definitions s'.definitions) (f : Feature) :
    let o := validate {} s f
    let o' := validate {} s' f
    o.diagnostics.filter (·.code ≠ .missingDependency) =
        o'.diagnostics.filter (·.code ≠ .missingDependency) ∧
      List.Forall₂ (fun t t' => t.step = t'.step ∧ t.before ⊆ t'.before ∧ t.after ⊆ t'.after)
        o.traces o'.traces ∧
      ∀ step phase name, o'.Misses step phase name → o.Misses step phase name := by
  have htraces := (keeps_enriched h).traces f
  intro o o'
  refine ⟨?_, ?_, fun step phase name hmisses => misses_of_improved h f hmisses⟩
  · simp only [o, o', validate_eq, filter_diagnostics_eq]
    apply filterMap_eq_of_forall₂ _ htraces
    intro t t' ht
    rw [ht.step_eq, ht.kind_eq, matchingFinding?_eq t'.step t'.kind ht.found]
  · simp only [o, o', validate_eq]
    apply htraces.imp
    intro t t' ht
    exact ⟨ht.step_eq, ht.before_subset, ht.after_subset⟩

def vagueSnapshot : Snapshot where
  definitions := ⟨"a", .given, ⟨"", 1, 1⟩, [], none⟩ :: sampleSnapshot.definitions.tail

theorem forall₂_improvedBy_vagueSnapshot :
    List.Forall₂ ImprovedBy vagueSnapshot.definitions sampleSnapshot.definitions := by
  refine .cons ⟨rfl, rfl, rfl, List.nil_subset _, fun _ _ h => h⟩ (List.forall₂_same.mpr ?_)
  intro d _
  exact ⟨rfl, rfl, rfl, List.Subset.refl _, fun _ _ h => h⟩

theorem improved_only_removes_vagueSnapshot :
    List.Forall₂ ImprovedBy vagueSnapshot.definitions sampleSnapshot.definitions ∧
      (validate {} vagueSnapshot sampleFeature).diagnostics ≠
        (validate {} sampleSnapshot sampleFeature).diagnostics ∧
      ∀ step phase name, (validate {} sampleSnapshot sampleFeature).Misses step phase name →
        (validate {} vagueSnapshot sampleFeature).Misses step phase name := by
  have hdiffers : (validate {} vagueSnapshot sampleFeature).diagnostics ≠
      (validate {} sampleSnapshot sampleFeature).diagnostics := by decide +kernel
  exact ⟨forall₂_improvedBy_vagueSnapshot, hdiffers,
    (improved_only_removes forall₂_improvedBy_vagueSnapshot sampleFeature).2.2⟩

end ScenarioCheck.Validation
