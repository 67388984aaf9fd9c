import Mathlib.Data.List.Forall2
import ScenarioCheck.Proofs.Validation.Walk

/-! Two walks over one document with different definitions. A relation of the names that each step
keeps is kept by the walk, through the steps of a scenario and through the backgrounds, and then the
traces are related step by step. -/
namespace ScenarioCheck.Validation

open Step (Kind Definition)
open Document (StepLine Scenario Feature)

def traceAt (s : Snapshot) (step : StepLine) (kind : Kind) (state : Names) : Trace where
  step := step
  kind := kind
  found := s.matching kind step.text
  before := state
  after := stateAfter (s.matching kind step.text) state

structure Keeps (R : Names → Names → Prop) (T : Trace → Trace → Prop) (s s' : Snapshot) : Prop where
  start : R [] []
  trace : ∀ step kind state state', R state state' →
    T (traceAt s step kind state) (traceAt s' step kind state')
  after : ∀ kind text state state', R state state' →
    R (stateAfter (s.matching kind text) state) (stateAfter (s'.matching kind text) state')

/-- For every rule the backgrounds have left related names, or none of them has left any. -/
def RelatedBackgrounds (R : Names → Names → Prop) (bs bs' : Backgrounds) : Prop :=
  ∀ rule?, Option.Rel R (Ordered.get? rule? bs) (Ordered.get? rule? bs')

theorem startOf_eq (bs : Backgrounds) (rule? : Option Nat) :
    startOf bs rule? = (Ordered.get? rule? bs).getD ((Ordered.get? none bs).getD []) := by
  unfold startOf
  cases Ordered.get? rule? bs <;> rfl

theorem rel_getD {R : Names → Names → Prop} {state? state?' : Option Names} {state state' : Names}
    (h : Option.Rel R state? state?') (hstate : R state state') :
    R (state?.getD state) (state?'.getD state') := by
  cases h with
  | none => exact hstate
  | some hsome => exact hsome

theorem exists_mem_of_forall₂ {α : Type} {T : α → α → Prop} {as as' : List α}
    (h : List.Forall₂ T as as') {a' : α} (ha : a' ∈ as') : ∃ a ∈ as, T a a' := by
  induction h with
  | nil => cases ha
  | cons hfirst _ ih =>
    cases ha with
    | head => exact ⟨_, .head _, hfirst⟩
    | tail _ hrest =>
      obtain ⟨a, hmem, hrel⟩ := ih hrest
      exact ⟨a, .tail _ hmem, hrel⟩

theorem filterMap_eq_of_forall₂ {α β : Type} {T : α → α → Prop} {g : α → Option β}
    (hg : ∀ a a', T a a' → g a = g a') {as as' : List α} (h : List.Forall₂ T as as') :
    as.filterMap g = as'.filterMap g := by
  induction h with
  | nil => rfl
  | cons hfirst _ ih => rw [List.filterMap_cons, List.filterMap_cons, hg _ _ hfirst, ih]

theorem map_eq_of_forall₂ {α β : Type} {T : α → α → Prop} {g : α → β}
    (hg : ∀ a a', T a a' → g a = g a') {as as' : List α} (h : List.Forall₂ T as as') :
    as.map g = as'.map g := by
  rw [← List.forall₂_eq_eq_eq]
  exact List.rel_map hg h

section Keeps

variable {R : Names → Names → Prop} {T : Trace → Trace → Prop} {s s' : Snapshot}
  (h : Keeps R T s s')
include h

theorem Keeps.walkSteps {state state' : Names} (hstate : R state state') (steps : List StepLine) :
    List.Forall₂ T (walkSteps s state steps).1 (walkSteps s' state' steps).1 ∧
      R (walkSteps s state steps).2 (walkSteps s' state' steps).2 := by
  -- along the steps, with names before them that are only related
  induction steps generalizing state state' with
  | nil => exact ⟨.nil, hstate⟩
  | cons step rest ih =>
    cases hk : step.kind? with
    | none =>
      rw [walkSteps_cons_none s state hk, walkSteps_cons_none s' state' hk]
      exact ih hstate
    | some kind =>
      rw [walkSteps_cons_some s state hk, walkSteps_cons_some s' state' hk]
      have hrest := ih (h.after kind step.text state state' hstate)
      exact ⟨.cons (h.trace step kind state state' hstate) hrest.1, hrest.2⟩

theorem Keeps.startOf {bs bs' : Backgrounds} (hb : RelatedBackgrounds R bs bs')
    (rule? : Option Nat) : R (startOf bs rule?) (startOf bs' rule?) := by
  rw [startOf_eq, startOf_eq]
  exact rel_getD (hb rule?) (rel_getD (hb none) h.start)

theorem Keeps.learn {bs bs' : Backgrounds} (hb : RelatedBackgrounds R bs bs') (c : Scenario) :
    RelatedBackgrounds R (learn s bs c) (learn s' bs' c) := by
  unfold Validation.learn
  split
  · intro rule?
    by_cases hrule : rule? = c.rule?
    · rw [hrule, Ordered.get?_put_self, Ordered.get?_put_self]
      exact .some (h.walkSteps (h.startOf hb c.rule?) c.steps).2
    · rw [Ordered.get?_put_ne hrule, Ordered.get?_put_ne hrule]
      exact hb rule?
  · exact hb

theorem Keeps.walkScenarios {bs bs' : Backgrounds} (hb : RelatedBackgrounds R bs bs')
    (cs : List Scenario) :
    List.Forall₂ T (walkScenarios s bs cs) (walkScenarios s' bs' cs) := by
  induction cs generalizing bs bs' with
  | nil => exact .nil
  | cons c rest ih =>
    rw [walkScenarios_cons, walkScenarios_cons]
    apply List.rel_append
    · exact (h.walkSteps (h.startOf hb c.rule?) c.steps).1
    · exact ih (h.learn hb c)

theorem Keeps.traces (f : Feature) : List.Forall₂ T (traces s f) (traces s' f) :=
  h.walkScenarios (fun _ => .none) f.scenarios

end Keeps

end ScenarioCheck.Validation
