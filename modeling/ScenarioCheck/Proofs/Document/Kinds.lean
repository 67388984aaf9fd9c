import ScenarioCheck.Proofs.Document.Cursor

/-! The kinds of steps. A continuation takes the kind of the last step of its own scenario that has
one, and the steps of a scenario stand without a header between them. -/
namespace ScenarioCheck.Document

open Step (Kind)

@[simp] theorem StepWord.kind?_eq_some_iff {word : StepWord} {kind : Kind} :
    word.kind? = some kind ↔ word = .primary kind := by
  cases word <;> simp [kind?]

theorem kind?_of_stepsOf {last? : Option Kind} {lines : List Numbered} {passed rest : List StepLine}
    {s : StepLine} (h : stepsOf last? lines = passed ++ s :: rest) :
    s.kind? = ((passed ++ [s]).filterMap (·.word.kind?)).getLast?.or last? := by
  induction lines generalizing last? passed with
  | nil => simp [stepsOf] at h
  | cons l lines ih =>
    unfold stepsOf at h
    split at h
    · rename_i word text hl
      cases passed with
      | nil =>
        obtain ⟨rfl, -⟩ := List.cons.inj h
        cases hw : word.kind? <;> simp [stepLineOf, hw]
      | cons first passed =>
        obtain ⟨rfl, hrest⟩ := List.cons.inj h
        rw [ih hrest, List.cons_append]
        cases hw : word.kind? with
        | none => simp [stepLineOf, hw]
        | some kind => simp [stepLineOf, hw, List.getLast?_cons]
    · exact ih h

section Document

variable {text uri : String} {f : Feature} (hf : ofText text uri = .ok f)
include hf

theorem sameBlock_of_mem_steps {c : Scenario} (hc : c ∈ f.scenarios) {p s : StepLine}
    (hp : p ∈ c.steps) (hs : s ∈ c.steps) (hlt : p.line < s.line) :
    SameBlock text p.line s.line :=
  ⟨by omega, fun _ hl hpl hls =>
    not_isHeader_of_mem_steps hf hc hp hs hl hpl.le (by omega)⟩

theorem SameBlock.nearest_iff {p s : StepLine} (hp : p ∈ f.steps)
    (hb : SameBlock text p.line s.line) (m : Nat) (h : Header) :
    Nearest (visible text) p.line m h ↔ Nearest (visible text) s.line m h := by
  obtain ⟨raw, hin, -, hnone, -⟩ := (step_iff_of_ofText hf p.line p.word).mp ⟨p, hp, rfl, rfl⟩
  obtain ⟨hle, hbetween⟩ := hb
  have hafter : ∀ l ∈ visible text, p.line ≤ l.1 → l.1 < s.line →
      ∀ h name, ¬IsHeader l.2 h name := by
    intro l hl hpl hls h name hh
    rcases Nat.eq_or_lt_of_le hpl with heq | hlt
    · have hraw := getElem?_of_mem_visible hl
      rw [← heq, getElem?_of_mem_visible hin] at hraw
      obtain rfl : raw = l.2 := Option.some.inj hraw
      exact hnone h name hh
    · exact hbetween l hl hlt (by omega) h name hh
  -- the lines from the first step on are free of headers, up to the second one
  constructor
  · rintro ⟨hm, hmp, hfree⟩
    refine ⟨hm, by omega, fun l hl hml hls => ?_⟩
    rcases Nat.lt_or_ge l.1 p.line with hlp | hpl
    · exact hfree l hl hml hlp
    · exact hafter l hl hpl hls
  · rintro ⟨⟨raw', name, hm, hh⟩, hms, hfree⟩
    have hmp : m < p.line := by
      by_contra hpm
      exact hafter _ hm (by simpa using hpm) hms h name hh
    exact ⟨⟨raw', name, hm, hh⟩, hmp, fun l hl hml hlp => hfree l hl hml (by omega)⟩

theorem pairwise_steps_of_mem_scenarios {c : Scenario} (hc : c ∈ f.scenarios) :
    c.steps.Pairwise (·.line < ·.line) := by
  have hsorted := pairwise_steps hf
  rw [List.pairwise_map, Feature.steps, List.pairwise_flatMap] at hsorted
  exact hsorted.1 c hc

theorem mem_passed_iff {c : Scenario} (hc : c ∈ f.scenarios) {passed rest : List StepLine}
    {s : StepLine} (hsteps : c.steps = passed ++ s :: rest) {q : StepLine} (hq : q ∈ f.steps) :
    q ∈ passed ↔ q.line < s.line ∧ SameBlock text q.line s.line := by
  have hs : s ∈ c.steps := by simp [hsteps]
  have hsorted := pairwise_steps_of_mem_scenarios hf hc
  rw [hsteps, List.pairwise_append, List.pairwise_cons] at hsorted
  obtain ⟨-, ⟨hrest, -⟩, hpassed⟩ := hsorted
  constructor
  · intro hmem
    have hlt := hpassed q hmem s (by simp)
    exact ⟨hlt, sameBlock_of_mem_steps hf hc (by simp [hsteps, hmem]) hs hlt⟩
  · rintro ⟨hlt, hb⟩
    have hmem := mem_steps_of_nearest_iff hf hc hs hq (hb.nearest_iff hf hq)
    rw [hsteps, List.mem_append, List.mem_cons] at hmem
    rcases hmem with hmem | rfl | hmem
    · exact hmem
    · exact absurd hlt (Nat.lt_irrefl _)
    · exact absurd (hrest q hmem) (Nat.lt_asymm hlt)

/-- The kind of a step is the last one stated in its scenario up to the step. The steps before it in
its scenario are those with no header in between, so no kind crosses a header. -/
theorem kinds_stay_in_scenarios :
    (∀ c ∈ f.scenarios, ∀ passed s rest, c.steps = passed ++ s :: rest →
      s.kind? = ((passed ++ [s]).filterMap (·.word.kind?)).getLast? ∧
        ∀ q ∈ f.steps, q ∈ passed ↔ q.line < s.line ∧ SameBlock text q.line s.line) ∧
      ∀ s ∈ f.steps, ∀ kind, s.kind? = some kind →
        ∃ p ∈ f.steps, p.word = .primary kind ∧ SameBlock text p.line s.line := by
  have hkind {c : Scenario} (hc : c ∈ f.scenarios) {passed rest : List StepLine} {s : StepLine}
      (hsteps : c.steps = passed ++ s :: rest) :
      s.kind? = ((passed ++ [s]).filterMap (·.word.kind?)).getLast? := by
    obtain ⟨-, lines, -, -, hlines, -⟩ := exists_lines_of_mem_scenarios hf hc
    rw [kind?_of_stepsOf (hlines.symm.trans hsteps), Option.or_none]
  refine ⟨fun c hc passed s rest hsteps => ⟨hkind hc hsteps, fun q hq => ?_⟩, ?_⟩
  · exact mem_passed_iff hf hc hsteps hq
  · intro s hs kind hs'
    obtain ⟨c, hc, hmem⟩ := List.mem_flatMap.mp hs
    obtain ⟨passed, rest, hsteps⟩ := List.append_of_mem hmem
    rw [hkind hc hsteps] at hs'
    obtain ⟨p, hp, hword⟩ := List.mem_filterMap.mp (List.mem_of_getLast? hs')
    rcases List.mem_append.mp hp with hp | hp
    · have hpf : p ∈ f.steps := List.mem_flatMap.mpr ⟨c, hc, by simp [hsteps, hp]⟩
      exact ⟨p, hpf, StepWord.kind?_eq_some_iff.mp hword,
        ((mem_passed_iff hf hc hsteps hpf).mp hp).2⟩
    · obtain rfl := List.mem_singleton.mp hp
      exact ⟨p, hs, StepWord.kind?_eq_some_iff.mp hword, sameBlock_self text p.line⟩

end Document

/-- Continuations in an example, behind the header of a rule, and behind a step of the rule. -/
def continuedDocument : String := "Example:\nGiven a\nAnd b\nRule:\n* c\nWhen d\nBut e"

theorem kinds_stay_in_scenarios_continuedDocument : ∃ f, ofText continuedDocument = .ok f ∧
    f.steps.map (·.kind?) = [some .given, some .given, none, some .when, some .when] ∧
      ∀ s ∈ f.steps, ∀ kind, s.kind? = some kind →
        ∃ p ∈ f.steps, p.word = .primary kind ∧ SameBlock continuedDocument p.line s.line := by
  have hkinds : ((ofText continuedDocument).toOption.map fun f => f.steps.map (·.kind?)) =
      some [some .given, some .given, none, some .when, some .when] := by
    decide +kernel
  cases hf : ofText continuedDocument with
  | error fault =>
    rw [hf] at hkinds
    cases hkinds
  | ok f =>
    rw [hf] at hkinds
    exact ⟨f, rfl, Option.some.inj hkinds, (kinds_stay_in_scenarios hf).2⟩

end ScenarioCheck.Document
