import ScenarioCheck.Proofs.Step.Run
import ScenarioCheck.Proofs.Validation.Missing

/-! The validator raises no false alarm. A run keeps the properties of its buckets among the names
the validator has set, so where the run goes through, each step has a single definition and what it
requires is set. -/
namespace ScenarioCheck.Validation

open Step (Kind Definition Collection RunError)
open Document (StepLine Scenario Feature)
open State (World)

/-- A definition describes a step: kind, pattern and dependencies agree, and the body gives nothing
or a dictionary with keys that the definition produces. -/
structure Describes (st : Step.Runnable) (d : Definition) : Prop where
  kind_eq : d.kind = st.kind
  pattern_eq : d.pattern = st.statement.pattern
  dependencies_iff : ∀ phase name requirement,
    (name, requirement) ∈ (Ordered.get? phase d.dependencies).getD [] ↔
      (name, requirement) ∈ st.declared phase
  produces : ∀ ctx v, st.body.run ctx = .ok v →
    v = .none ∨ ∃ update, v = .dict update ∧ ∀ key ∈ Ordered.keys update, key ∈ d.producedNames

theorem Describes.requires_iff {st : Step.Runnable} {d : Definition} (h : Describes st d)
    {phase : Kind} {name : String} :
    d.Requires phase name ↔ (name, .required) ∈ st.declared phase := by
  rw [← h.dependencies_iff, Definition.Requires]
  cases Ordered.get? phase d.dependencies <;> simp

section Simulation

variable {c : Collection} {s : Snapshot} (hd : List.Forall₂ Describes c s.definitions)
include hd

theorem forall₂_find_matching (kind : Kind) (text : String) :
    List.Forall₂ Describes (c.find kind text) (s.matching kind text) := by
  unfold Collection.find Snapshot.matching
  apply List.rel_filter _ hd
  intro st d h
  simp [h.kind_eq, h.pattern_eq]

theorem exists_matching_eq {kind : Kind} {text : String} {st : Step.Runnable}
    (h : c.find kind text = [st]) : ∃ d, s.matching kind text = [d] ∧ Describes st d := by
  have hall := forall₂_find_matching hd kind text
  rw [h] at hall
  cases hm : s.matching kind text with
  | nil =>
    rw [hm] at hall
    cases hall
  | cons d rest =>
    rw [hm] at hall
    cases hall with
    | cons hst hrest =>
      cases hrest
      exact ⟨d, rfl, hst⟩

end Simulation

/-- The properties in all buckets of a world are set by some of the steps. -/
def Covered (s : Snapshot) (done : List StepLine) (w : World) : Prop :=
  ∀ phase, ∀ name ∈ Ordered.keys (w.bucket phase), AnySets s done name

theorem covered_empty (s : Snapshot) : Covered s [] {} := by
  intro phase name hname
  cases phase <;> simp [World.bucket, Ordered.keys] at hname

theorem Covered.mono {s : Snapshot} {xs ys : List StepLine} {w : World} (h : Covered s xs w)
    (hsub : xs ⊆ ys) : Covered s ys w :=
  fun phase name hname => (h phase name hname).mono hsub

section Run

variable {c : Collection} {s : Snapshot} (hd : List.Forall₂ Describes c s.definitions)
  {done : List StepLine} {w w' : World} (hw : Covered s done w) {p : StepLine} {kind : Kind}
  (hk : p.kind? = some kind) {st : Step.Runnable} (hr : c.runText w kind p.text = .ok (st, w'))
include hd hw hr

theorem requires_of_runText : ∃ d, s.matching kind p.text = [d] ∧
    ∀ phase name, d.Requires phase name → AnySets s done name := by
  obtain ⟨hfind, captures, hrun⟩ := Collection.runText_ok hr
  obtain ⟨d, hm, hst⟩ := exists_matching_eq hd hfind
  obtain ⟨ctx, -, hctx, -, -⟩ := Step.Runnable.run_ok hrun
  refine ⟨d, hm, fun phase name hreq => ?_⟩
  obtain ⟨v, hv⟩ := Step.Runnable.require_of_context hctx (hst.requires_iff.mp hreq)
  exact hw phase name (World.mem_keys_of_require hv)

include hk

theorem covered_runText : Covered s (done ++ [p]) w' := by
  obtain ⟨hfind, captures, hrun⟩ := Collection.runText_ok hr
  obtain ⟨d, hm, hst⟩ := exists_matching_eq hd hfind
  obtain ⟨ctx, v, -, hv, hmerge⟩ := Step.Runnable.run_ok hrun
  have hkept := hw.mono (List.subset_append_left done [p])
  rcases Step.Runnable.mergeResult_ok hmerge with ⟨-, rfl⟩ | ⟨update, rfl, hmerged⟩
  · exact hkept
  · intro phase name hname
    rcases (World.mem_keys_merge hmerged).mp hname with hold | ⟨-, hnew⟩
    · exact hkept phase name hold
    · have hproduced : name ∈ d.producedNames := by
        rcases hst.produces ctx _ hv with h | ⟨update', h, hkeys⟩
        · cases h
        · cases h
          exact hkeys name hnew
      exact ⟨p, by simp, kind, d, hk, hm, hproduced⟩

end Run

/-- The texts that are run for some steps: those of the steps with a kind, in order. -/
def runTexts (steps : List StepLine) : List (Kind × String) :=
  steps.filterMap fun p => p.kind?.map (·, p.text)

@[simp] theorem runTexts_cons_none {p : StepLine} (hk : p.kind? = none) (rest : List StepLine) :
    runTexts (p :: rest) = runTexts rest := by
  simp [runTexts, hk]

@[simp] theorem runTexts_cons_some {p : StepLine} {kind : Kind} (hk : p.kind? = some kind)
    (rest : List StepLine) : runTexts (p :: rest) = (kind, p.text) :: runTexts rest := by
  simp [runTexts, hk]

theorem requires_of_runAll {c : Collection} {s : Snapshot}
    (hd : List.Forall₂ Describes c s.definitions) {done xs ys : List StepLine} {w w' : World}
    (hw : Covered s done w) {p : StepLine} {kind : Kind} (hk : p.kind? = some kind)
    (hr : c.runAll w (runTexts (xs ++ p :: ys)) = .ok w') :
    ∃ d, s.matching kind p.text = [d] ∧
      ∀ phase name, d.Requires phase name → AnySets s (done ++ xs) name := by
  induction xs generalizing done w with
  | nil =>
    rw [List.nil_append, runTexts_cons_some hk] at hr
    obtain ⟨st, w₁, hone, -⟩ := Collection.runAll_cons_ok hr
    rw [List.append_nil]
    exact requires_of_runText hd hw hone
  | cons q xs ih =>
    rw [List.append_cons]
    rw [List.cons_append] at hr
    cases hq : q.kind? with
    | none =>
      rw [runTexts_cons_none hq] at hr
      exact ih (hw.mono (List.subset_append_left done [q])) hr
    | some kind' =>
      rw [runTexts_cons_some hq] at hr
      obtain ⟨st, w₁, hone, hrest⟩ := Collection.runAll_cons_ok hr
      exact ih (covered_runText hd hw hq hone) hrest

/-- The steps run for a scenario: those of the backgrounds of the document, then those of the
backgrounds of its rule, then its own. -/
def runSteps (earlier : List Scenario) (sc : Scenario) : List StepLine :=
  leadSteps earlier sc.rule? ++ sc.steps

/-- Nothing is reported on the steps of a scenario whose run goes through. -/
theorem not_reported_of_runAll {c : Collection} {s : Snapshot}
    (hd : List.Forall₂ Describes c s.definitions) {text uri : String} {f : Feature}
    (hf : Document.ofText text uri = .ok f) {earlier later : List Scenario} {sc : Scenario}
    (hsplit : f.scenarios = earlier ++ sc :: later) {w : World}
    (hr : c.runAll {} (runTexts (runSteps earlier sc)) = .ok w) {p : StepLine}
    (hp : p ∈ runSteps earlier sc) {kind : Kind} (hk : p.kind? = some kind) :
    ∀ x ∈ (validate {} s f).diagnostics, x.range.startLine ≠ p.line := by
  obtain ⟨xs, ys, hsteps⟩ := List.append_of_mem hp
  obtain ⟨site, rfl, hlead⟩ := Site.exists_lead_eq hf hsplit hsteps
  rw [hsteps] at hr
  obtain ⟨d, hm, hreq⟩ := requires_of_runAll hd (covered_empty s) hk hr
  rw [validate_eq]
  intro x hx hline
  have hfound := (site.mem_diagnostics_iff hf s hk).mp ⟨hx, hline⟩
  have hnone : (site.trace s kind).diagnostic? = none := by
    apply diagnostic?_eq_none hm
    intro phase name hname
    have hset := hreq phase name hname
    rw [List.nil_append, ← hlead] at hset
    exact (site.mem_before hf s).mpr hset
  rw [hnone] at hfound
  cases hfound

def returning (pattern name : String) : Step.Runnable where
  kind := .given
  statement := .text pattern
  dependencies := []
  body := { run := fun _ => .ok (.dict [(name, .text "")]) }

def requiring (pattern : String) (names : List String) : Step.Runnable where
  kind := .when
  statement := .text pattern
  dependencies := [(.given, names.map (·, .required))]
  body := { run := fun _ => .ok .none }

def describe (st : Step.Runnable) (names : List String) : Definition :=
  ⟨st.statement.pattern, st.kind, ⟨"", 1, 1⟩, st.dependencies, some (names.map (·, ⟨"str", false⟩))⟩

theorem describes_returning (pattern name : String) :
    Describes (returning pattern name) (describe (returning pattern name) [name]) where
  kind_eq := rfl
  pattern_eq := rfl
  dependencies_iff _ _ _ := Iff.rfl
  produces := by
    intro ctx v hv
    cases hv
    exact .inr ⟨_, rfl, by simp [Definition.producedNames, describe]⟩

theorem describes_requiring (pattern : String) (names : List String) :
    Describes (requiring pattern names) (describe (requiring pattern names) []) where
  kind_eq := rfl
  pattern_eq := rfl
  dependencies_iff _ _ _ := Iff.rfl
  produces := by
    intro ctx v hv
    cases hv
    exact .inl rfl

def sampleCollection : Collection :=
  [returning "a" "x", returning "c" "z", requiring "d" ["x", "z"]]

def describedSnapshot : Snapshot where
  definitions := [describe (returning "a" "x") ["x"], describe (returning "c" "z") ["z"],
    describe (requiring "d" ["x", "z"]) []]

theorem forall₂_describes_sampleCollection :
    List.Forall₂ Describes sampleCollection describedSnapshot.definitions :=
  .cons (describes_returning _ _) (.cons (describes_returning _ _)
    (.cons (describes_requiring _ _) .nil))

theorem exists_runAll_sampleCollection : ∃ w, sampleCollection.runAll {}
    (runTexts (runSteps sampleSite.earlier sampleSite.scenario)) = .ok w := by
  have htexts : runTexts (runSteps sampleSite.earlier sampleSite.scenario) =
      [(.given, "a"), (.given, "c"), (.when, "d")] := rfl
  have hok : (sampleCollection.runAll {}
      [(.given, "a"), (.given, "c"), (.when, "d")]).toBool = true := by
    decide +kernel
  rw [htexts]
  cases hr : sampleCollection.runAll {} [(.given, "a"), (.given, "c"), (.when, "d")] with
  | error e =>
    rw [hr] at hok
    cases hok
  | ok w => exact ⟨w, rfl⟩

theorem not_reported_of_runAll_sampleCollection : ∃ w,
    sampleCollection.runAll {} (runTexts (runSteps sampleSite.earlier sampleSite.scenario)) = .ok w ∧
      sampleSite.step ∈ runSteps sampleSite.earlier sampleSite.scenario ∧
        ∀ x ∈ (validate {} describedSnapshot sampleFeature).diagnostics,
          x.range.startLine ≠ sampleSite.step.line := by
  obtain ⟨w, hr⟩ := exists_runAll_sampleCollection
  have hp : sampleSite.step ∈ runSteps sampleSite.earlier sampleSite.scenario := by decide
  exact ⟨w, hr, hp, not_reported_of_runAll forall₂_describes_sampleCollection ofText_sampleText
    sampleSite.scenarios_eq hr hp rfl⟩

end ScenarioCheck.Validation
