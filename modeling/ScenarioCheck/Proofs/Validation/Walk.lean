import ScenarioCheck.Proofs.Document.Recorded
import ScenarioCheck.Validation.Trace

/-! The walk of the validator as sets of names. A step sets the names its only definition produces;
what is set before a step is set by the steps before it in its scenario and by the backgrounds that
lead up to the scenario. -/
namespace ScenarioCheck

@[simp] theorem Snapshot.mem_firsts {α : Type} [DecidableEq α] {items : List α} {x : α} :
    x ∈ firsts items ↔ x ∈ items := by
  have collect (seen : List α) :
      x ∈ items.foldl (fun seen x => if x ∈ seen then seen else seen ++ [x]) seen ↔
        x ∈ seen ∨ x ∈ items := by
    induction items generalizing seen with
    | nil => simp
    | cons y rest ih =>
      rw [List.foldl_cons, ih, List.mem_cons]
      split
      · rename_i hy
        constructor
        · rintro (h | h) <;> simp [h]
        · rintro (h | rfl | h) <;> simp [*]
      · simp [or_assoc]
  simpa [firsts] using collect []

namespace Validation

open Step (Kind Definition)
open Document (StepLine Scenario Feature SplitAtRule append_eq_append_cons)

/-- A step sets a name: a single definition matches the step, and it produces the name. -/
def Sets (s : Snapshot) (step : StepLine) (name : String) : Prop :=
  ∃ kind d, step.kind? = some kind ∧ s.matching kind step.text = [d] ∧ name ∈ d.producedNames

def AnySets (s : Snapshot) (steps : List StepLine) (name : String) : Prop :=
  ∃ step ∈ steps, Sets s step name

section Names

variable {s : Snapshot} {name : String}

@[simp] theorem anySets_nil : ¬AnySets s [] name := by
  simp [AnySets]

@[simp] theorem anySets_cons {step : StepLine} {rest : List StepLine} :
    AnySets s (step :: rest) name ↔ Sets s step name ∨ AnySets s rest name := by
  simp [AnySets]

@[simp] theorem anySets_append {xs ys : List StepLine} :
    AnySets s (xs ++ ys) name ↔ AnySets s xs name ∨ AnySets s ys name := by
  simp only [AnySets, List.mem_append, or_and_right, exists_or]

theorem AnySets.mono {xs ys : List StepLine} (h : AnySets s xs name) (hsub : xs ⊆ ys) :
    AnySets s ys name := by
  obtain ⟨step, hstep, hsets⟩ := h
  exact ⟨step, hsub hstep, hsets⟩

@[simp] theorem mem_stateAfter {found : List Definition} {state : Names} :
    name ∈ stateAfter found state ↔ name ∈ state ∨ ∃ d, found = [d] ∧ name ∈ d.producedNames := by
  unfold stateAfter
  split
  · simp [addNames]
  · rename_i hfound
    constructor
    · exact .inl
    · rintro (h | ⟨d, hd, -⟩)
      · exact h
      · exact absurd hd (hfound d)

theorem mem_stateAfter_matching {step : StepLine} {kind : Kind} (hk : step.kind? = some kind)
    {state : Names} :
    name ∈ stateAfter (s.matching kind step.text) state ↔ name ∈ state ∨ Sets s step name := by
  rw [mem_stateAfter]
  simp [Sets, hk]

end Names

/-! The steps of one scenario. -/

section Steps

variable (s : Snapshot) (state : Names)

@[simp] theorem walkSteps_cons_none {step : StepLine} (hk : step.kind? = none)
    (rest : List StepLine) :
    walkSteps s state (step :: rest) = walkSteps s state rest := by
  simp [walkSteps, hk]

@[simp] theorem walkSteps_cons_some {step : StepLine} {kind : Kind} (hk : step.kind? = some kind)
    (rest : List StepLine) :
    walkSteps s state (step :: rest) =
      let found := s.matching kind step.text
      let after := stateAfter found state
      (⟨step, kind, found, state, after⟩ :: (walkSteps s after rest).1,
        (walkSteps s after rest).2) := by
  simp [walkSteps, hk]

@[simp] theorem walkSteps_append (xs ys : List StepLine) :
    walkSteps s state (xs ++ ys) =
      ((walkSteps s state xs).1 ++ (walkSteps s (walkSteps s state xs).2 ys).1,
        (walkSteps s (walkSteps s state xs).2 ys).2) := by
  induction xs generalizing state with
  | nil => simp [walkSteps]
  | cons step rest ih =>
    rw [List.cons_append]
    cases hk : step.kind? with
    | none => rw [walkSteps_cons_none s state hk, walkSteps_cons_none s state hk, ih]
    | some kind =>
      rw [walkSteps_cons_some s state hk, walkSteps_cons_some s state hk]
      simp only [ih, List.cons_append]

@[simp] theorem mem_walkSteps {steps : List StepLine} {name : String} :
    name ∈ (walkSteps s state steps).2 ↔ name ∈ state ∨ AnySets s steps name := by
  induction steps generalizing state with
  | nil => simp [walkSteps]
  | cons step rest ih =>
    rw [anySets_cons]
    cases hk : step.kind? with
    | none =>
      have hnone : ¬Sets s step name := by simp [Sets, hk]
      rw [walkSteps_cons_none s state hk, ih]
      simp [hnone]
    | some kind =>
      rw [walkSteps_cons_some s state hk]
      simp only [ih, mem_stateAfter_matching hk, or_assoc]

@[simp] theorem walkSteps_steps (steps : List StepLine) :
    (walkSteps s state steps).1.map (·.step) = steps.filter (·.kind?.isSome) := by
  induction steps generalizing state with
  | nil => simp [walkSteps]
  | cons step rest ih =>
    cases hk : step.kind? with
    | none => rw [walkSteps_cons_none s state hk, ih, List.filter_cons_of_neg (by simp [hk])]
    | some kind =>
      rw [walkSteps_cons_some s state hk, List.filter_cons_of_pos (by simp [hk])]
      simp only [List.map_cons, ih]

end Steps

/-! The scenarios of a document. -/

section Scenarios

variable (s : Snapshot)

/-- What is known of backgrounds after one more scenario. -/
def learn (backgrounds : Backgrounds) (c : Scenario) : Backgrounds :=
  if c.isBackground then
    Ordered.put c.rule? (walkSteps s (startOf backgrounds c.rule?) c.steps).2 backgrounds
  else backgrounds

def learnAll (backgrounds : Backgrounds) (cs : List Scenario) : Backgrounds :=
  cs.foldl (learn s) backgrounds

@[simp] theorem walkScenarios_cons (backgrounds : Backgrounds) (c : Scenario)
    (rest : List Scenario) :
    walkScenarios s backgrounds (c :: rest) =
      (walkSteps s (startOf backgrounds c.rule?) c.steps).1 ++
        walkScenarios s (learn s backgrounds c) rest := by
  simp [walkScenarios, learn]

@[simp] theorem walkScenarios_append (backgrounds : Backgrounds) (xs ys : List Scenario) :
    walkScenarios s backgrounds (xs ++ ys) =
      walkScenarios s backgrounds xs ++ walkScenarios s (learnAll s backgrounds xs) ys := by
  induction xs generalizing backgrounds with
  | nil => simp [walkScenarios, learnAll]
  | cons c rest ih =>
    rw [List.cons_append, walkScenarios_cons, walkScenarios_cons, ih, List.append_assoc]
    rfl

@[simp] theorem walkScenarios_steps (backgrounds : Backgrounds) (cs : List Scenario) :
    (walkScenarios s backgrounds cs).map (·.step) =
      (cs.flatMap (·.steps)).filter (·.kind?.isSome) := by
  induction cs generalizing backgrounds with
  | nil => simp [walkScenarios]
  | cons c rest ih =>
    rw [walkScenarios_cons, List.map_append, walkSteps_steps, ih, List.flatMap_cons,
      List.filter_append]

end Scenarios

/-! Where a scenario starts. -/

/-- The steps of the backgrounds of a rule; without a rule, of the document. -/
def backgroundSteps (rule? : Option Nat) (cs : List Scenario) : List StepLine :=
  (cs.filter fun c => c.isBackground && c.rule? == rule?).flatMap (·.steps)

/-- The steps of the backgrounds that lead up to a scenario: those of the document, then those of
the scenario's rule. -/
def leadSteps (earlier : List Scenario) : Option Nat → List StepLine
  | none => backgroundSteps none earlier
  | some r => backgroundSteps none earlier ++ backgroundSteps (some r) earlier

@[simp] theorem mem_backgroundSteps {rule? : Option Nat} {cs : List Scenario} {p : StepLine} :
    p ∈ backgroundSteps rule? cs ↔
      ∃ b ∈ cs, b.isBackground = true ∧ b.rule? = rule? ∧ p ∈ b.steps := by
  simp [backgroundSteps, and_assoc]

@[simp] theorem mem_leadSteps {earlier : List Scenario} {rule? : Option Nat} {p : StepLine} :
    p ∈ leadSteps earlier rule? ↔ ∃ b ∈ earlier, b.isBackground = true ∧
      (b.rule? = none ∨ b.rule? = rule?) ∧ p ∈ b.steps := by
  cases rule? with
  | none => simp [leadSteps]
  | some r =>
    rw [leadSteps, List.mem_append, mem_backgroundSteps, mem_backgroundSteps]
    constructor
    · rintro (⟨b, hb, hbg, hr, hp⟩ | ⟨b, hb, hbg, hr, hp⟩)
      · exact ⟨b, hb, hbg, .inl hr, hp⟩
      · exact ⟨b, hb, hbg, .inr hr, hp⟩
    · rintro ⟨b, hb, hbg, hr | hr, hp⟩
      · exact .inl ⟨b, hb, hbg, hr, hp⟩
      · exact .inr ⟨b, hb, hbg, hr, hp⟩

@[simp] theorem backgroundSteps_append (rule? : Option Nat) (xs ys : List Scenario) :
    backgroundSteps rule? (xs ++ ys) = backgroundSteps rule? xs ++ backgroundSteps rule? ys := by
  simp [backgroundSteps]

theorem backgroundSteps_cons (rule? : Option Nat) (c : Scenario) (rest : List Scenario) :
    backgroundSteps rule? (c :: rest) = backgroundSteps rule? [c] ++ backgroundSteps rule? rest :=
  backgroundSteps_append rule? [c] rest

@[simp] theorem backgroundSteps_eq_nil {rule? : Option Nat} {cs : List Scenario}
    (h : ∀ c ∈ cs, c.rule? ≠ rule?) : backgroundSteps rule? cs = [] := by
  rw [List.eq_nil_iff_forall_not_mem]
  intro p hp
  obtain ⟨b, hb, -, hr, -⟩ := mem_backgroundSteps.mp hp
  exact h b hb hr

theorem backgroundSteps_eq_append_cons {rule? : Option Nat} {cs : List Scenario}
    {xs ys : List StepLine} {p : StepLine} (h : backgroundSteps rule? cs = xs ++ p :: ys) :
    ∃ before b after passed rest, cs = before ++ b :: after ∧ b.rule? = rule? ∧
      b.steps = passed ++ p :: rest ∧ xs = backgroundSteps rule? before ++ passed := by
  induction cs generalizing xs with
  | nil => simp [backgroundSteps] at h
  | cons c rest ih =>
    rw [backgroundSteps_cons] at h
    rcases append_eq_append_cons h with ⟨more, hone⟩ | ⟨more, rfl, hmore⟩
    · have hp : p ∈ backgroundSteps rule? [c] := by simp [hone]
      obtain ⟨b, hb, hbg, hr, -⟩ := mem_backgroundSteps.mp hp
      obtain rfl := List.mem_singleton.mp hb
      have hsteps : backgroundSteps rule? [b] = b.steps := by simp [backgroundSteps, hbg, hr]
      exact ⟨[], b, rest, xs, more, rfl, hr, hsteps ▸ hone, by simp [backgroundSteps]⟩
    · obtain ⟨before, b, after, passed, rest', rfl, hr, hb, rfl⟩ := ih hmore
      refine ⟨c :: before, b, after, passed, rest', rfl, hr, hb, ?_⟩
      rw [backgroundSteps_cons rule? c before, List.append_assoc]

section Start

variable (s : Snapshot) {name : String}

@[simp] theorem get?_learnAll_of_ne {rule? : Option Nat} {cs : List Scenario}
    (h : ∀ c ∈ cs, c.rule? ≠ rule?) (backgrounds : Backgrounds) :
    Ordered.get? rule? (learnAll s backgrounds cs) = Ordered.get? rule? backgrounds := by
  induction cs generalizing backgrounds with
  | nil => rfl
  | cons c rest ih =>
    have hrest : ∀ c ∈ rest, c.rule? ≠ rule? := fun c hc => h c (by simp [hc])
    have hone : Ordered.get? rule? (learn s backgrounds c) = Ordered.get? rule? backgrounds := by
      unfold learn
      split
      · exact Ordered.get?_put_ne (h c (by simp)).symm _ _
      · rfl
    exact (ih hrest _).trans hone

theorem mem_startOf_learn {rule? : Option Nat} {c : Scenario} (hc : c.rule? = rule?)
    (backgrounds : Backgrounds) :
    name ∈ startOf (learn s backgrounds c) rule? ↔
      name ∈ startOf backgrounds rule? ∨ AnySets s (backgroundSteps rule? [c]) name := by
  unfold learn
  cases hb : c.isBackground with
  | false => simp [backgroundSteps, hb]
  | true =>
    have hstart (state : Names) : startOf (Ordered.put rule? state backgrounds) rule? = state := by
      simp [startOf]
    subst hc
    simp [hstart, backgroundSteps, hb]

theorem mem_startOf_learnAll {rule? : Option Nat} {cs : List Scenario}
    (h : ∀ c ∈ cs, c.rule? = rule?) (backgrounds : Backgrounds) :
    name ∈ startOf (learnAll s backgrounds cs) rule? ↔
      name ∈ startOf backgrounds rule? ∨ AnySets s (backgroundSteps rule? cs) name := by
  induction cs generalizing backgrounds with
  | nil => simp [learnAll, backgroundSteps]
  | cons c rest ih =>
    have hrest : ∀ c ∈ rest, c.rule? = rule? := fun c hc => h c (by simp [hc])
    rw [backgroundSteps_cons, anySets_append, ← or_assoc, ← mem_startOf_learn s (h c (by simp))]
    exact ih hrest (learn s backgrounds c)

@[simp] theorem mem_startOf_none_learn {c : Scenario} (backgrounds : Backgrounds) :
    name ∈ startOf (learn s backgrounds c) none ↔
      name ∈ startOf backgrounds none ∨ AnySets s (backgroundSteps none [c]) name := by
  by_cases hc : c.rule? = none
  · exact mem_startOf_learn s hc backgrounds
  · have hne : ∀ x ∈ [c], x.rule? ≠ none := by simp [hc]
    have hget : Ordered.get? none (learn s backgrounds c) = Ordered.get? none backgrounds :=
      get?_learnAll_of_ne s hne backgrounds
    have hkeep : startOf (learn s backgrounds c) none = startOf backgrounds none := by
      unfold startOf
      rw [hget]
    rw [hkeep, backgroundSteps_eq_nil hne]
    simp

@[simp] theorem mem_startOf_none_learnAll {cs : List Scenario} (backgrounds : Backgrounds) :
    name ∈ startOf (learnAll s backgrounds cs) none ↔
      name ∈ startOf backgrounds none ∨ AnySets s (backgroundSteps none cs) name := by
  induction cs generalizing backgrounds with
  | nil => simp [learnAll, backgroundSteps]
  | cons c rest ih =>
    rw [backgroundSteps_cons, anySets_append, ← or_assoc, ← mem_startOf_none_learn s]
    exact ih (learn s backgrounds c)

@[simp] theorem mem_startOf_none {cs : List Scenario} :
    name ∈ startOf (learnAll s [] cs) none ↔ AnySets s (backgroundSteps none cs) name := by
  rw [mem_startOf_none_learnAll]
  simp [startOf]

theorem mem_startOf {earlier : List Scenario} {rule? : Option Nat}
    (hsplit : ∀ r, rule? = some r → SplitAtRule earlier r) :
    name ∈ startOf (learnAll s [] earlier) rule? ↔ AnySets s (leadSteps earlier rule?) name := by
  cases rule? with
  | none => exact mem_startOf_none s
  | some r =>
    obtain ⟨outside, inside, rfl, hout, hin⟩ := hsplit r rfl
    have hnone : ∀ c ∈ inside, c.rule? ≠ none := fun c hc => by simp [hin c hc]
    have hfirst : startOf (learnAll s [] outside) (some r) =
        startOf (learnAll s [] outside) none := by
      have hget := get?_learnAll_of_ne s hout []
      unfold startOf
      rw [hget]
      cases Ordered.get? none (learnAll s [] outside) <;> rfl
    have hrun : learnAll s [] (outside ++ inside) =
        learnAll s (learnAll s [] outside) inside := List.foldl_append
    rw [hrun, mem_startOf_learnAll s hin, hfirst, mem_startOf_none, leadSteps,
      backgroundSteps_append, backgroundSteps_append, backgroundSteps_eq_nil hnone,
      backgroundSteps_eq_nil hout, List.append_nil, List.nil_append, anySets_append]

end Start
end Validation
end ScenarioCheck
