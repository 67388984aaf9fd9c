import ScenarioCheck.Proofs.Validation.Outcome

/-! What a finding about missing properties means. It names the properties that the only definition
of a step requires and that no step leading up to it sets, in the order of their declaration. -/
namespace ScenarioCheck

open Step (Kind Definition)

def Step.Definition.Requires (d : Definition) (phase : Kind) (name : String) : Prop :=
  ∃ entries, Ordered.get? phase d.dependencies = some entries ∧ (name, .required) ∈ entries

@[simp] theorem Step.Definition.mem_requiredIn {d : Definition} {phase : Kind} {name : String} :
    name ∈ d.requiredIn phase ↔ d.Requires phase name := by
  unfold requiredIn Requires
  cases Ordered.get? phase d.dependencies with
  | none => simp
  | some entries => simp

namespace Validation

open Document (StepLine Feature)

/-! The missing properties of one definition. -/

def listed? (phase : Kind) (names : List String) : Option (Kind × List String) :=
  if names.isEmpty then none else some (phase, names)

@[simp] theorem listed?_eq_some {phase : Kind} {names : List String} {e : Kind × List String} :
    listed? phase names = some e ↔ e = (phase, names) ∧ names ≠ [] := by
  unfold listed?
  cases names <;> simp [eq_comm]

theorem required_eq (d : Definition) :
    d.required = Kind.all.filterMap fun phase => listed? phase (d.requiredIn phase) := rfl

theorem missingFrom_eq (d : Definition) (state : Names) :
    missingFrom d state = d.required.filterMap fun e => listed? e.1 (e.2.filter (· ∉ state)) := rfl

@[simp] theorem mem_required {d : Definition} {phase : Kind} {names : List String} :
    (phase, names) ∈ d.required ↔ names = d.requiredIn phase ∧ names ≠ [] := by
  rw [required_eq, List.mem_filterMap]
  constructor
  · rintro ⟨other, -, h⟩
    obtain ⟨he, hne⟩ := listed?_eq_some.mp h
    cases he
    exact ⟨rfl, hne⟩
  · rintro ⟨rfl, hne⟩
    have hall : phase ∈ Kind.all := by cases phase <;> simp [Kind.all]
    exact ⟨phase, hall, listed?_eq_some.mpr ⟨rfl, hne⟩⟩

@[simp] theorem mem_missingFrom {d : Definition} {state : Names} {phase : Kind}
    {names : List String} :
    (phase, names) ∈ missingFrom d state ↔
      names = (d.requiredIn phase).filter (· ∉ state) ∧ names ≠ [] := by
  rw [missingFrom_eq, List.mem_filterMap]
  constructor
  · rintro ⟨⟨other, required⟩, hmem, h⟩
    obtain ⟨he, hne⟩ := listed?_eq_some.mp h
    obtain ⟨rfl, -⟩ := mem_required.mp hmem
    cases he
    exact ⟨rfl, hne⟩
  · rintro ⟨rfl, hne⟩
    have hrequired : d.requiredIn phase ≠ [] := by
      intro h
      simp [h] at hne
    exact ⟨(phase, d.requiredIn phase), mem_required.mpr ⟨rfl, hrequired⟩,
      listed?_eq_some.mpr ⟨rfl, hne⟩⟩

theorem map_filterMap_sublist {α β γ : Type} {pick : α → Option β} {f : β → γ} {g : α → γ}
    (h : ∀ a b, pick a = some b → f b = g a) (items : List α) :
    ((items.filterMap pick).map f).Sublist (items.map g) := by
  induction items with
  | nil => simp
  | cons a rest ih =>
    cases ha : pick a with
    | none =>
      rw [List.filterMap_cons_none ha]
      exact ih.cons _
    | some b =>
      rw [List.filterMap_cons_some ha, List.map_cons, List.map_cons, h a b ha]
      exact ih.cons_cons _

theorem phases_missingFrom (d : Definition) (state : Names) :
    ((missingFrom d state).map (·.1)).Sublist Kind.all := by
  have hrequired : (d.required.map (·.1)).Sublist (Kind.all.map id) := by
    rw [required_eq]
    apply map_filterMap_sublist
    intro phase e h
    rw [(listed?_eq_some.mp h).1, id]
  rw [List.map_id] at hrequired
  apply List.Sublist.trans _ hrequired
  rw [missingFrom_eq]
  apply map_filterMap_sublist
  intro e e' h
  rw [(listed?_eq_some.mp h).1]

/-! The finding at a step. -/

theorem diagnostic?_eq_none {t : Trace} {d : Definition} (hfound : t.found = [d])
    (hset : ∀ phase name, d.Requires phase name → name ∈ t.before) : t.diagnostic? = none := by
  have hmissing : missingFrom d t.before = [] := by
    rw [List.eq_nil_iff_forall_not_mem]
    rintro ⟨phase, names⟩ hmem
    obtain ⟨rfl, hne⟩ := mem_missingFrom.mp hmem
    obtain ⟨name, hname⟩ := List.exists_mem_of_ne_nil _ hne
    obtain ⟨hrequired, habsent⟩ := List.mem_filter.mp hname
    have hin := hset phase name (Definition.mem_requiredIn.mp hrequired)
    simp [hin] at habsent
  unfold Trace.diagnostic?
  rw [hfound]
  simp only [hmissing]

theorem diagnostic?_missing_iff {t : Trace} {x : Diagnostic} :
    t.diagnostic? = some x ∧ x.code = .missingDependency ↔
      ∃ d, t.found = [d] ∧ missingFrom d t.before ≠ [] ∧ x = {
        range := rangeOf t.step
        message := missingMessage (missingFrom d t.before)
        code := .missingDependency
        detail := .missing (missingFrom d t.before) d.location } := by
  unfold Trace.diagnostic?
  split
  · rename_i hfound
    constructor
    · rintro ⟨h, hcode⟩
      cases h
      cases hcode
    · rintro ⟨d, hd, -⟩
      simp [hfound] at hd
  · rename_i d hfound
    split
    · rename_i hmissing
      constructor
      · rintro ⟨h, -⟩
        cases h
      · rintro ⟨d', hd, hne, -⟩
        rw [hfound] at hd
        cases hd
        exact absurd hmissing hne
    · rename_i missing hmissing
      constructor
      · rintro ⟨h, -⟩
        cases h
        exact ⟨d, hfound, hmissing, rfl⟩
      · rintro ⟨d', hd, -, rfl⟩
        rw [hfound] at hd
        cases hd
        exact ⟨rfl, rfl⟩
  · rename_i hnone hone
    constructor
    · rintro ⟨h, hcode⟩
      cases h
      cases hcode
    · rintro ⟨d, hd, -⟩
      exact absurd hd (hone d)

def Diagnostic.Misses (x : Diagnostic) (phase : Kind) (name : String) : Prop :=
  ∃ missing location, x.detail = .missing missing location ∧
    ∃ names, (phase, names) ∈ missing ∧ name ∈ names

structure Seen (s : Snapshot) {f : Feature} (site : Site f) (t : Trace) : Prop where
  mem : t ∈ (validate {} s f).traces
  /-- The step is seen once. -/
  only : ∀ t' ∈ (validate {} s f).traces, t'.step.line = site.step.line → t' = t
  step_eq : t.step = site.step
  kind_eq : site.step.kind? = some t.kind
  found_eq : t.found = s.matching t.kind site.step.text
  /-- The names set before a step are those set by a step that leads up to it. -/
  before_iff : ∀ name, name ∈ t.before ↔ ∃ p, site.Leads p ∧ Sets s p name
  /-- No state leaks out of a scenario that is no background, or out of a rule. -/
  apart : ∀ c ∈ site.earlier,
    (c.isBackground = false ∨ c.rule? ≠ none ∧ c.rule? ≠ site.scenario.rule?) →
      ∀ p ∈ c.steps, ¬site.Leads p
  before_subset : t.before ⊆ t.after
  /-- A property is reported if the only definition of the step requires it and no step that leads
  up to the step sets it. -/
  missing_iff : ∀ phase name,
    (∃ x ∈ (validate {} s f).diagnostics, x.code = .missingDependency ∧
        x.range = rangeOf site.step ∧ x.Misses phase name) ↔
      (∃ d, t.found = [d] ∧ d.Requires phase name) ∧ ¬∃ p, site.Leads p ∧ Sets s p name
  /-- Phases come in order and names as they are declared; a phase with nothing missing is absent. -/
  order : ∀ x ∈ (validate {} s f).diagnostics, x.code = .missingDependency →
    x.range = rangeOf site.step → ∃ d missing, t.found = [d] ∧
      x.detail = .missing missing d.location ∧ x.message = missingMessage missing ∧
        (missing.map (·.1)).Sublist Kind.all ∧
          ∀ e ∈ missing, e.2 ≠ [] ∧ e.2 = (d.requiredIn e.1).filter (· ∉ t.before)

section Document

variable {text uri : String} {f : Feature} (hf : Document.ofText text uri = .ok f) (s : Snapshot)
  (site : Site f) {kind : Kind} (hk : site.step.kind? = some kind)
include hf hk

theorem missing_mem_diagnostics_iff {x : Diagnostic} :
    (x ∈ diagnostics {} (traces s f) ∧ x.code = .missingDependency ∧
        x.range = rangeOf site.step) ↔
      ∃ d, s.matching kind site.step.text = [d] ∧ missingFrom d (site.before s) ≠ [] ∧ x = {
        range := rangeOf site.step
        message := missingMessage (missingFrom d (site.before s))
        code := .missingDependency
        detail := .missing (missingFrom d (site.before s)) d.location } := by
  have hsite := site.mem_diagnostics_iff hf s hk (x := x)
  have hiff := diagnostic?_missing_iff (t := site.trace s kind) (x := x)
  constructor
  · rintro ⟨hx, hcode, hrange⟩
    exact hiff.mp ⟨hsite.mp ⟨hx, by rw [hrange]; rfl⟩, hcode⟩
  · intro h
    obtain ⟨hx, hcode⟩ := hiff.mpr h
    exact ⟨(hsite.mpr hx).1, hcode, Trace.range_of_diagnostic? hx⟩

theorem misses_iff {phase : Kind} {name : String} :
    (∃ x ∈ diagnostics {} (traces s f), x.code = .missingDependency ∧
        x.range = rangeOf site.step ∧ x.Misses phase name) ↔
      (∃ d, s.matching kind site.step.text = [d] ∧ d.Requires phase name) ∧
        name ∉ site.before s := by
  constructor
  · rintro ⟨x, hx, hcode, hrange, missing, location, hdetail, names, hmem, hname⟩
    obtain ⟨d, hd, -, rfl⟩ := (missing_mem_diagnostics_iff hf s site hk).mp ⟨hx, hcode, hrange⟩
    cases hdetail
    obtain ⟨rfl, -⟩ := mem_missingFrom.mp hmem
    obtain ⟨hrequired, habsent⟩ := List.mem_filter.mp hname
    exact ⟨⟨d, hd, Definition.mem_requiredIn.mp hrequired⟩, by simpa using habsent⟩
  · rintro ⟨⟨d, hd, hrequires⟩, habsent⟩
    have hname : name ∈ (d.requiredIn phase).filter (· ∉ site.before s) :=
      List.mem_filter.mpr ⟨Definition.mem_requiredIn.mpr hrequires, by simpa using habsent⟩
    have hmem := mem_missingFrom.mpr ⟨rfl, List.ne_nil_of_mem hname⟩
    obtain ⟨hx, hcode, hrange⟩ := (missing_mem_diagnostics_iff hf s site hk).mpr
      ⟨d, hd, List.ne_nil_of_mem hmem, rfl⟩
    exact ⟨_, hx, hcode, hrange, _, _, rfl, _, hmem, hname⟩

theorem detail_of_missing_mem {x : Diagnostic} (hx : x ∈ diagnostics {} (traces s f))
    (hcode : x.code = .missingDependency) (hrange : x.range = rangeOf site.step) :
    ∃ d missing, s.matching kind site.step.text = [d] ∧ x.detail = .missing missing d.location ∧
      x.message = missingMessage missing ∧ (missing.map (·.1)).Sublist Kind.all ∧
        ∀ e ∈ missing, e.2 ≠ [] ∧ e.2 = (d.requiredIn e.1).filter (· ∉ site.before s) := by
  obtain ⟨d, hd, -, rfl⟩ := (missing_mem_diagnostics_iff hf s site hk).mp ⟨hx, hcode, hrange⟩
  refine ⟨d, _, hd, rfl, rfl, phases_missingFrom _ _, ?_⟩
  intro e he
  obtain ⟨hnames, hne⟩ := mem_missingFrom.mp he
  exact ⟨hne, hnames⟩

/-- The validator sees each step of a document with the names that the steps leading up to it set,
and reports those that are required and not among them. -/
theorem exists_seen : ∃ t, Seen s site t := by
  have hbefore (name : String) :
      name ∈ site.before s ↔ ∃ p, site.Leads p ∧ Sets s p name := by
    rw [site.mem_before hf s, AnySets]
    simp only [site.mem_lead]
  have hvalidate := validate_eq {} s f
  refine ⟨site.trace s kind, {
    mem := by
      rw [hvalidate]
      exact site.trace_mem s hk
    only := by
      rw [hvalidate]
      exact fun t ht hline => site.eq_trace hf s hk ht hline
    step_eq := rfl
    kind_eq := hk
    found_eq := rfl
    before_iff := hbefore
    apart := fun c hc happart p hp => site.not_leads_of_apart hf hc happart hp
    before_subset := fun name hname => (mem_stateAfter_matching hk).mpr (.inl hname)
    missing_iff := ?_
    order := by
      rw [hvalidate]
      exact fun x hx hcode hrange => detail_of_missing_mem hf s site hk hx hcode hrange }⟩
  intro phase name
  rw [hvalidate, misses_iff hf s site hk, ← hbefore]
  rfl

end Document

theorem exists_seen_sampleSite : Document.ofText sampleText = .ok sampleFeature ∧
    sampleSite.step.kind? = some .when ∧ ∃ t, Seen sampleSnapshot sampleSite t :=
  ⟨ofText_sampleText, rfl, exists_seen ofText_sampleText sampleSnapshot sampleSite rfl⟩

end Validation
end ScenarioCheck
