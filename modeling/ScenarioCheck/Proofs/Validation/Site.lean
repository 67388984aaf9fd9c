import ScenarioCheck.Proofs.Validation.Walk

/-! A step in its document. The validator sees each step with a kind once, with the names set by the
steps that lead up to it, and what it reports on the line of the step comes from there. -/
namespace ScenarioCheck.Validation

open Step (Kind Definition)
open Document (StepLine Scenario Feature append_eq_append_cons)

structure Site (f : Feature) where
  earlier : List Scenario
  scenario : Scenario
  later : List Scenario
  passed : List StepLine
  step : StepLine
  rest : List StepLine
  scenarios_eq : f.scenarios = earlier ++ scenario :: later
  steps_eq : scenario.steps = passed ++ step :: rest

@[simp] theorem Rules.enables_default (code : Code) : ({} : Rules).enables code = true := by
  cases code <;> rfl

@[simp] theorem mem_diagnostics {walk : List Trace} {x : Diagnostic} :
    x ∈ diagnostics {} walk ↔ ∃ t ∈ walk, t.diagnostic? = some x := by
  simp [diagnostics]

theorem Trace.range_of_diagnostic? {t : Trace} {x : Diagnostic} (h : t.diagnostic? = some x) :
    x.range = rangeOf t.step := by
  unfold diagnostic? at h
  split at h
  · cases h
    rfl
  · split at h
    · cases h
    · cases h
      rfl
  · cases h
    rfl

theorem pairwise_traces {text uri : String} {f : Feature} (hf : Document.ofText text uri = .ok f)
    (s : Snapshot) : (traces s f).Pairwise (·.step.line < ·.step.line) := by
  have hsteps : (traces s f).map (·.step) = f.steps.filter (·.kind?.isSome) :=
    walkScenarios_steps s [] f.scenarios
  have hlines := Document.pairwise_steps hf
  rw [List.pairwise_map] at hlines
  have hseen := hlines.sublist (List.filter_sublist (p := (·.kind?.isSome)))
  rwa [← hsteps, List.pairwise_map] at hseen

namespace Site

variable {f : Feature}

theorem exists_step_eq {p : StepLine} (hp : p ∈ f.steps) : ∃ site : Site f, site.step = p := by
  obtain ⟨c, hc, hp⟩ := List.mem_flatMap.mp hp
  obtain ⟨earlier, later, hscenarios⟩ := List.append_of_mem hc
  obtain ⟨passed, rest, hsteps⟩ := List.append_of_mem hp
  exact ⟨⟨earlier, c, later, passed, p, rest, hscenarios, hsteps⟩, rfl⟩

/-- An earlier step leads up to the step of a site if it is in the same scenario, or in an earlier
background of the document or of the scenario's rule. -/
def Leads (site : Site f) (p : StepLine) : Prop :=
  p ∈ site.passed ∨ ∃ b ∈ site.earlier, b.isBackground = true ∧
    (b.rule? = none ∨ b.rule? = site.scenario.rule?) ∧ p ∈ b.steps

def lead (site : Site f) : List StepLine :=
  leadSteps site.earlier site.scenario.rule? ++ site.passed

@[simp] theorem mem_lead (site : Site f) {p : StepLine} : p ∈ site.lead ↔ site.Leads p := by
  rw [lead, List.mem_append, mem_leadSteps, Leads, or_comm]

def before (site : Site f) (s : Snapshot) : Names :=
  (walkSteps s (startOf (learnAll s [] site.earlier) site.scenario.rule?) site.passed).2

def trace (site : Site f) (s : Snapshot) (kind : Kind) : Trace where
  step := site.step
  kind := kind
  found := s.matching kind site.step.text
  before := site.before s
  after := stateAfter (s.matching kind site.step.text) (site.before s)

theorem trace_mem (site : Site f) (s : Snapshot) {kind : Kind} (hk : site.step.kind? = some kind) :
    site.trace s kind ∈ traces s f := by
  unfold traces
  rw [site.scenarios_eq, walkScenarios_append, walkScenarios_cons, site.steps_eq,
    walkSteps_append, walkSteps_cons_some s _ hk]
  simp [trace, before]

section Document

variable {text uri : String} (hf : Document.ofText text uri = .ok f) (site : Site f)
  (s : Snapshot)
include hf

@[simp] theorem mem_before {name : String} : name ∈ site.before s ↔ AnySets s site.lead name := by
  have hrule : ∀ r, site.scenario.rule? = some r → Document.SplitAtRule site.earlier r :=
    fun r hr => Document.splitAtRule_of_ofText hf site.scenarios_eq hr
  rw [before, mem_walkSteps, mem_startOf s hrule, lead, anySets_append]

theorem not_leads_of_apart {c : Scenario} (hc : c ∈ site.earlier)
    (happart : c.isBackground = false ∨ c.rule? ≠ none ∧ c.rule? ≠ site.scenario.rule?)
    {p : StepLine} (hp : p ∈ c.steps) : ¬site.Leads p := by
  rintro (hpassed | ⟨b, hb, hbg, hrule, hpb⟩)
  · have hlt := Document.pairwise_scenario_steps hf
    rw [site.scenarios_eq, List.pairwise_append] at hlt
    have hown : p ∈ site.scenario.steps := by simp [site.steps_eq, hpassed]
    exact absurd (hlt.2.2 c hc site.scenario (by simp) p hp p hown) (Nat.lt_irrefl _)
  · have hmem {x : Scenario} (hx : x ∈ site.earlier) : x ∈ f.scenarios := by
      simp [site.scenarios_eq, hx]
    obtain rfl := Document.eq_of_mem_steps hf (hmem hb) (hmem hc) hpb hp
    rcases happart with hnone | ⟨hne, hother⟩
    · simp [hnone] at hbg
    · rcases hrule with hrule | hrule
      · exact hne hrule
      · exact hother hrule

theorem eq_trace {kind : Kind} (hk : site.step.kind? = some kind) {t : Trace}
    (ht : t ∈ traces s f) (hline : t.step.line = site.step.line) : t = site.trace s kind := by
  have hlt := (pairwise_traces hf s).imp Nat.ne_of_lt
  exact List.inj_on_of_nodup_map (List.pairwise_map.mpr hlt) ht (site.trace_mem s hk) hline

theorem backgroundSteps_none_of_rule {before after later : List Scenario} {b c : Scenario}
    (hsplit : f.scenarios = (before ++ b :: after) ++ c :: later) {r : Nat}
    (hb : b.rule? = some r) (hc : c.rule? = some r) :
    backgroundSteps none (before ++ b :: after) = backgroundSteps none before := by
  have hin := (Document.splitAtRule_of_ofText hf hsplit hc).rule_of_after hb
  have hafter : ∀ x ∈ b :: after, x.rule? ≠ none := by
    intro x hx
    rcases List.mem_cons.mp hx with rfl | hx
    · simp [hb]
    · simp [hin x hx]
  rw [backgroundSteps_append, backgroundSteps_eq_nil hafter, List.append_nil]

theorem exists_lead_eq {earlier later : List Scenario} {c : Scenario}
    (hsplit : f.scenarios = earlier ++ c :: later) {xs ys : List StepLine} {p : StepLine}
    (h : leadSteps earlier c.rule? ++ c.steps = xs ++ p :: ys) :
    ∃ site : Site f, site.step = p ∧ site.lead = xs := by
  have document {more : List StepLine} (hlead : backgroundSteps none earlier = xs ++ p :: more) :
      ∃ site : Site f, site.step = p ∧ site.lead = xs := by
    obtain ⟨before, b, after, passed, rest, rfl, hr, hb, rfl⟩ :=
      backgroundSteps_eq_append_cons hlead
    refine ⟨⟨before, b, after ++ c :: later, passed, p, rest, by simp [hsplit], hb⟩, rfl, ?_⟩
    simp [lead, leadSteps, hr]
  rcases append_eq_append_cons h with ⟨more, hlead⟩ | ⟨passed, rfl, hsteps⟩
  · cases hc : c.rule? with
    | none =>
      rw [hc] at hlead
      exact document hlead
    | some r =>
      rw [hc, leadSteps] at hlead
      rcases append_eq_append_cons hlead with ⟨more, hlead⟩ | ⟨most, rfl, hown⟩
      · exact document hlead
      · obtain ⟨before, b, after, passed, rest, rfl, hr, hb, rfl⟩ :=
          backgroundSteps_eq_append_cons hown
        have hnone := backgroundSteps_none_of_rule hf hsplit hr hc
        refine ⟨⟨before, b, after ++ c :: later, passed, p, rest, by simp [hsplit], hb⟩, rfl, ?_⟩
        simp [lead, leadSteps, hr, hnone]
  · exact ⟨⟨earlier, c, later, passed, p, ys, hsplit, hsteps⟩, rfl, rfl⟩

theorem mem_diagnostics_iff {kind : Kind} (hk : site.step.kind? = some kind) {x : Diagnostic} :
    x ∈ diagnostics {} (traces s f) ∧ x.range.startLine = site.step.line ↔
      (site.trace s kind).diagnostic? = some x := by
  rw [mem_diagnostics]
  constructor
  · rintro ⟨⟨t, ht, hx⟩, hline⟩
    rw [Trace.range_of_diagnostic? hx] at hline
    rw [← eq_trace hf site s hk ht (Int.ofNat.inj hline)]
    exact hx
  · intro hx
    rw [Trace.range_of_diagnostic? hx]
    exact ⟨⟨_, site.trace_mem s hk, hx⟩, rfl⟩

end Document
end Site

/-- A background, an example, and an example of a rule with a step that requires what the other
three steps set. -/
def sampleText : String :=
  "Background:\nGiven a\nExample:\nGiven b\nRule:\nExample:\nGiven c\nWhen d"

def sampleStep (kind : Kind) (text : String) (line : Nat) : StepLine :=
  ⟨.primary kind, text, line, 0, some kind, kind.title.length + 1 + text.length⟩

def sampleFeature : Feature where
  name? := none
  scenarios := [
    ⟨"", 0, some .background, none, [sampleStep .given "a" 1]⟩,
    ⟨"", 2, some .example, none, [sampleStep .given "b" 3]⟩,
    ⟨"", 5, some .example, some 4,
      [sampleStep .given "c" 6, sampleStep .when "d" 7]⟩]

def sampleSnapshot : Snapshot where
  definitions := [
    ⟨"a", .given, ⟨"", 1, 1⟩, [], some [("x", ⟨"str", false⟩)]⟩,
    ⟨"b", .given, ⟨"", 2, 1⟩, [], some [("y", ⟨"str", false⟩)]⟩,
    ⟨"c", .given, ⟨"", 3, 1⟩, [], some [("z", ⟨"str", false⟩)]⟩,
    ⟨"d", .when, ⟨"", 4, 1⟩,
      [(.given, [("z", .required), ("y", .required), ("x", .required)])], none⟩]

def sampleSite : Site sampleFeature where
  earlier := sampleFeature.scenarios.take 2
  scenario := ⟨"", 5, some .example, some 4,
    [sampleStep .given "c" 6, sampleStep .when "d" 7]⟩
  later := []
  passed := [sampleStep .given "c" 6]
  step := sampleStep .when "d" 7
  rest := []
  scenarios_eq := rfl
  steps_eq := rfl

theorem ofText_sampleText : Document.ofText sampleText = .ok sampleFeature := by
  decide +kernel

end ScenarioCheck.Validation
