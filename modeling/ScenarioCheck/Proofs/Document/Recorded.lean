import Mathlib.Data.List.Induction
import ScenarioCheck.Proofs.Document.Blocks

/-! What a split document records, block by block: the step lines of each block in order, and at
most one scenario for each block. -/
namespace ScenarioCheck.Document

/-! The steps of a block are its step lines. -/

theorem mem_stepsOf {last? : Option Step.Kind} {lines : List Numbered} {s : StepLine}
    (hs : s ∈ stepsOf last? lines) :
    ∃ l ∈ lines, ∃ text, Line.ofText l.2 = .step s.word text ∧ s.line = l.1 ∧
      s.text = String.ofList text := by
  induction lines generalizing last? with
  | nil => simp [stepsOf] at hs
  | cons l rest ih =>
    unfold stepsOf at hs
    split at hs
    · rename_i word text hl
      rcases List.mem_cons.mp hs with rfl | hs
      · exact ⟨l, by simp, text, hl, rfl, rfl⟩
      · obtain ⟨l', hl', found⟩ := ih hs
        exact ⟨l', by simp [hl'], found⟩
    · obtain ⟨l', hl', found⟩ := ih hs
      exact ⟨l', by simp [hl'], found⟩

theorem exists_mem_stepsOf (last? : Option Step.Kind) {lines : List Numbered} {l : Numbered}
    (hm : l ∈ lines) {word : StepWord} {text : List Char}
    (hl : Line.ofText l.2 = .step word text) :
    ∃ s ∈ stepsOf last? lines, s.line = l.1 ∧ s.word = word := by
  induction lines generalizing last? with
  | nil => simp at hm
  | cons x rest ih =>
    unfold stepsOf
    rcases List.mem_cons.mp hm with rfl | hm
    · simp [hl, stepLineOf]
    · split
      · obtain ⟨s, hs, found⟩ := ih _ hm
        exact ⟨s, List.mem_cons_of_mem _ hs, found⟩
      · exact ih _ hm

theorem lines_stepsOf (last? : Option Step.Kind) (lines : List Numbered) :
    ((stepsOf last? lines).map (·.line)).Sublist (lines.map (·.1)) := by
  induction lines generalizing last? with
  | nil => simp [stepsOf]
  | cons l rest ih =>
    unfold stepsOf
    split
    · exact (ih _).cons_cons _
    · exact (ih _).cons _

/-! What a block contributes. -/

theorem unnamed?_eq_some {rule? : Option Nat} {steps : List StepLine} {c : Scenario}
    (h : unnamed? rule? steps = some c) :
    c.header? = none ∧ c.name = "" ∧ c.steps = steps ∧ c.rule? = rule? ∧
      steps.head?.map (·.line) = some c.line := by
  obtain ⟨first, hf, rfl⟩ := Option.map_eq_some_iff.mp h
  exact ⟨rfl, rfl, rfl, rfl, by simp [hf]⟩

@[simp] theorem steps_unnamed? (rule? : Option Nat) (steps : List StepLine) :
    (unnamed? rule? steps).toList.flatMap (·.steps) = steps := by
  cases steps <;> simp [unnamed?]

theorem lines_unnamed? (rule? : Option Nat) (steps : List StepLine) :
    ((unnamed? rule? steps).toList.map (·.line)).Sublist (steps.map (·.line)) := by
  cases steps <;> simp [unnamed?]

namespace Block

theorem scenario?_eq_some {b : Block} {rule? : Option Nat} {c : Scenario}
    (h : b.scenario? rule? = some c) :
    b.header.opensExamples = false ∧ c.steps = stepsOf none b.body ∧ c.rule? = rule? ∧
      (b.header.opensScenario = true ∧ c.line = b.head.1 ∧ c.header? = some b.header ∧
          c.name = String.ofList b.name ∨
        b.header.opensScenario = false ∧ c.header? = none ∧ c.name = "" ∧
          c.steps.head?.map (·.line) = some c.line) := by
  unfold scenario? at h
  split at h
  · cases h
  · rename_i hx
    refine ⟨by simpa using hx, ?_⟩
    split at h
    · rename_i ho
      cases h
      exact ⟨rfl, rfl, .inl ⟨ho, rfl, rfl, rfl⟩⟩
    · rename_i ho
      obtain ⟨hh, hn, hst, hr, hl⟩ := unnamed?_eq_some h
      exact ⟨hst, hr, .inr ⟨by simpa using ho, hh, hn, hst ▸ hl⟩⟩

theorem exists_scenario? {b : Block} (ho : b.header.opensScenario = true) (rule? : Option Nat) :
    ∃ c, b.scenario? rule? = some c := by
  have hx : b.header.opensExamples = false := by
    cases hb : b.header <;> simp_all [Header.opensScenario, Header.opensExamples]
  exact ⟨_, by rw [scenario?, if_neg (by simp [hx]), if_pos ho]⟩

@[simp] theorem steps_scenario? (b : Block) (rule? : Option Nat) :
    (b.scenario? rule?).toList.flatMap (·.steps) =
      if b.header.opensExamples then [] else stepsOf none b.body := by
  unfold scenario?
  split
  · rfl
  · split
    · simp
    · exact steps_unnamed? _ _

theorem lines_scenario? (b : Block) (rule? : Option Nat) :
    ((b.scenario? rule?).toList.map (·.line)).Sublist (b.lines.map (·.1)) := by
  unfold scenario? lines
  split
  · simp
  · split
    · simp
    · exact ((lines_unnamed? _ _).trans (lines_stepsOf none b.body)).cons _

end Block

/-- The line of the rule that some blocks lead to, from that of the block before them. -/
def rulePast (rule? : Option Nat) (bs : List Block) : Option Nat :=
  bs.foldl (fun rule? b => b.ruleAfter rule?) rule?

@[simp] theorem rulePast_nil (rule? : Option Nat) : rulePast rule? [] = rule? := rfl

@[simp] theorem rulePast_cons (rule? : Option Nat) (b : Block) (bs : List Block) :
    rulePast rule? (b :: bs) = rulePast (b.ruleAfter rule?) bs := rfl

@[simp] theorem rulePast_append (rule? : Option Nat) (bs bs' : List Block) :
    rulePast rule? (bs ++ bs') = rulePast (rulePast rule? bs) bs' :=
  List.foldl_append

theorem exists_append_of_mem_scenariosOf {rule? : Option Nat} {bs : List Block} {c : Scenario}
    (hc : c ∈ scenariosOf rule? bs) : ∃ before b after, bs = before ++ b :: after ∧
      b.scenario? c.rule? = some c ∧ c.rule? = rulePast rule? (before ++ [b]) := by
  induction bs generalizing rule? with
  | nil => simp [scenariosOf] at hc
  | cons x rest ih =>
    rcases List.mem_append.mp hc with hc | hc
    · have hx := Option.mem_toList.mp hc
      have hrule := (Block.scenario?_eq_some hx).2.2.1
      exact ⟨[], x, rest, rfl, hrule ▸ hx, hrule⟩
    · obtain ⟨before, b, after, rfl, hb, hrule⟩ := ih hc
      exact ⟨x :: before, b, after, rfl, hb, hrule⟩

theorem mem_scenariosOf {rule? : Option Nat} {bs : List Block} {c : Scenario}
    (hc : c ∈ scenariosOf rule? bs) : ∃ b ∈ bs, ∃ r, b.scenario? r = some c := by
  obtain ⟨before, b, after, rfl, hb, -⟩ := exists_append_of_mem_scenariosOf hc
  exact ⟨b, by simp, _, hb⟩

theorem exists_mem_scenariosOf {bs : List Block} {b : Block} (hb : b ∈ bs)
    (rule? : Option Nat) : ∃ r, ∀ c ∈ b.scenario? r, c ∈ scenariosOf rule? bs := by
  induction bs generalizing rule? with
  | nil => simp at hb
  | cons x rest ih =>
    unfold scenariosOf
    rcases List.mem_cons.mp hb with rfl | hb
    · exact ⟨_, fun c hc => List.mem_append_left _ (Option.mem_toList.mpr hc)⟩
    · obtain ⟨r, hr⟩ := ih hb (x.ruleAfter rule?)
      exact ⟨r, fun c hc => List.mem_append_right _ (hr c hc)⟩

theorem steps_scenariosOf (rule? : Option Nat) (bs : List Block) :
    (scenariosOf rule? bs).flatMap (·.steps) =
      bs.flatMap fun b => if b.header.opensExamples then [] else stepsOf none b.body := by
  induction bs generalizing rule? with
  | nil => rfl
  | cons b rest ih =>
    rw [scenariosOf, List.flatMap_append, Block.steps_scenario?, ih, List.flatMap_cons]

theorem lines_scenariosOf (rule? : Option Nat) (bs : List Block) :
    ((scenariosOf rule? bs).map (·.line)).Sublist ((bs.flatMap Block.lines).map (·.1)) := by
  induction bs generalizing rule? with
  | nil => simp [scenariosOf]
  | cons b rest ih =>
    rw [scenariosOf, List.map_append, List.flatMap_cons, List.map_append]
    exact (b.lines_scenario? _).append (ih _)

theorem lines_steps_scenariosOf (rule? : Option Nat) (bs : List Block) :
    (((scenariosOf rule? bs).flatMap (·.steps)).map (·.line)).Sublist
      ((bs.flatMap Block.lines).map (·.1)) := by
  rw [steps_scenariosOf]
  induction bs with
  | nil => simp
  | cons b rest ih =>
    rw [List.flatMap_cons, List.map_append, List.flatMap_cons, List.map_append]
    apply List.Sublist.append _ ih
    split
    · simp
    · exact (lines_stepsOf none b.body).cons _

/-! The rule that some blocks lead to is that of the last header of a feature or a rule. -/

def Header.changesRule : Header → Bool
  | feature | rule => true
  | _ => false

theorem Block.ruleAfter_eq_self {b : Block} (h : b.header.changesRule = false)
    (rule? : Option Nat) : b.ruleAfter rule? = rule? := by
  unfold ruleAfter
  split <;> simp_all [Header.changesRule]

/-- With the headers in order, that is the rule with no such header after its own. -/
theorem rulePast_eq_some_iff {bs : List Block} (hs : bs.Pairwise (·.head.1 < ·.head.1)) {r : Nat} :
    rulePast none bs = some r ↔ (∃ b ∈ bs, b.head.1 = r ∧ b.header = .rule) ∧
      ∀ b ∈ bs, r < b.head.1 → b.header.changesRule = false := by
  induction bs using List.reverseRecOn with
  | nil => simp
  | append_singleton bs x ih =>
    obtain ⟨hbs, -, hlt⟩ := List.pairwise_append.mp hs
    have hlt : ∀ b ∈ bs, b.head.1 < x.head.1 := fun b hb => hlt b hb x (by simp)
    rw [rulePast_append, rulePast_cons, rulePast_nil]
    simp only [List.mem_append, List.mem_singleton]
    cases hx : x.header.changesRule with
    | false =>
      have hrule : x.header ≠ .rule := fun h => by simp [h, Header.changesRule] at hx
      rw [x.ruleAfter_eq_self hx, ih hbs]
      constructor
      · rintro ⟨⟨b, hb, hline, hh⟩, hafter⟩
        refine ⟨⟨b, .inl hb, hline, hh⟩, ?_⟩
        rintro y (hy | rfl) hry
        · exact hafter y hy hry
        · exact hx
      · rintro ⟨⟨b, hb | rfl, hline, hh⟩, hafter⟩
        · exact ⟨⟨b, hb, hline, hh⟩, fun y hy => hafter y (.inl hy)⟩
        · exact absurd hh hrule
    | true =>
      -- nothing before the header counts
      have hown : (∃ b, (b ∈ bs ∨ b = x) ∧ b.head.1 = r ∧ b.header = .rule) ∧
          (∀ b, b ∈ bs ∨ b = x → r < b.head.1 → b.header.changesRule = false) ↔
            x.head.1 = r ∧ x.header = .rule := by
        constructor
        · rintro ⟨⟨b, hb | rfl, rfl, hh⟩, hafter⟩
          · have hsame := hafter x (.inr rfl) (hlt b hb)
            simp [hx] at hsame
          · exact ⟨rfl, hh⟩
        · rintro ⟨rfl, hh⟩
          refine ⟨⟨x, .inr rfl, rfl, hh⟩, ?_⟩
          rintro y (hy | rfl) hry
          · exact absurd (hlt y hy) (Nat.lt_asymm hry)
          · exact absurd hry (Nat.lt_irrefl _)
      rw [hown]
      cases hh : x.header <;> simp_all [Header.changesRule, Block.ruleAfter]

/-! The scenarios of a rule stand together: a rule that was left is not entered again. -/

theorem Block.rule_of_ruleAfter {b : Block} {rule? : Option Nat} {r : Nat}
    (h : b.ruleAfter rule? = some r) : rule? = some r ∨ b.head.1 = r := by
  unfold ruleAfter at h
  split at h
  · cases h
  · exact .inr (Option.some.inj h)
  · exact .inl h

theorem rule_of_rulePast {rule? : Option Nat} {bs : List Block} {r : Nat}
    (h : rulePast rule? bs = some r) : rule? = some r ∨ ∃ b ∈ bs, b.head.1 = r := by
  induction bs generalizing rule? with
  | nil => exact .inl h
  | cons b rest ih =>
    rcases ih h with hb | ⟨b', hb', hline⟩
    · exact (Block.rule_of_ruleAfter hb).imp_right fun hline => ⟨b, by simp, hline⟩
    · exact .inr ⟨b', by simp [hb'], hline⟩

theorem rule_of_mem_scenariosOf {rule? : Option Nat} {bs : List Block} {c : Scenario}
    (hc : c ∈ scenariosOf rule? bs) {r : Nat} (hr : c.rule? = some r) :
    rule? = some r ∨ ∃ b ∈ bs, b.head.1 = r := by
  obtain ⟨before, b, after, rfl, -, hrule⟩ := exists_append_of_mem_scenariosOf hc
  rcases rule_of_rulePast (hrule.symm.trans hr) with h | ⟨b', hb', hline⟩
  · exact .inl h
  · rw [List.append_cons]
    exact .inr ⟨b', List.mem_append_left _ hb', hline⟩

/-- The scenarios before one of a rule: first those outside the rule, then those of the rule. -/
def SplitAtRule (earlier : List Scenario) (r : Nat) : Prop :=
  ∃ outside inside, earlier = outside ++ inside ∧ (∀ c ∈ outside, c.rule? ≠ some r) ∧
    ∀ c ∈ inside, c.rule? = some r

theorem SplitAtRule.of_inside {earlier : List Scenario} {r : Nat}
    (h : ∀ c ∈ earlier, c.rule? = some r) : SplitAtRule earlier r :=
  ⟨[], earlier, rfl, by simp, h⟩

theorem SplitAtRule.append {lead earlier : List Scenario} {r : Nat} (h : SplitAtRule earlier r)
    (hl : ∀ c ∈ lead, c.rule? ≠ some r) : SplitAtRule (lead ++ earlier) r := by
  obtain ⟨outside, inside, rfl, hout, hin⟩ := h
  refine ⟨lead ++ outside, inside, by simp, ?_, hin⟩
  intro c hc
  rcases List.mem_append.mp hc with hc | hc
  · exact hl c hc
  · exact hout c hc

theorem append_eq_append_cons {α : Type} {as bs xs ys : List α} {x : α}
    (h : as ++ bs = xs ++ x :: ys) :
    (∃ more, as = xs ++ x :: more) ∨ ∃ more, xs = as ++ more ∧ bs = more ++ x :: ys := by
  rcases List.append_eq_append_iff.mp h with ⟨more, hxs, hbs⟩ | ⟨more, has, hcons⟩
  · exact .inr ⟨more, hxs, hbs⟩
  · cases more with
    | nil => exact .inr ⟨[], by simpa using has.symm, hcons.symm⟩
    | cons y more =>
      obtain ⟨rfl, -⟩ := List.cons.inj hcons
      exact .inl ⟨more, has⟩

theorem SplitAtRule.rule_of_after {xs ys : List Scenario} {c : Scenario} {r : Nat}
    (h : SplitAtRule (xs ++ c :: ys) r) (hc : c.rule? = some r) : ∀ x ∈ ys, x.rule? = some r := by
  obtain ⟨outside, inside, hsplit, hout, hin⟩ := h
  rcases append_eq_append_cons hsplit.symm with ⟨more, rfl⟩ | ⟨more, -, rfl⟩
  · exact absurd hc (hout c (by simp))
  · exact fun x hx => hin x (by simp [hx])

theorem Block.scenario?_append_eq {b : Block} {rule? : Option Nat}
    {rest earlier later : List Scenario} {c : Scenario}
    (h : (b.scenario? rule?).toList ++ rest = earlier ++ c :: later) :
    earlier = [] ∨ ∃ lead earlier', earlier = lead ++ earlier' ∧ (∀ x ∈ lead, x.rule? = rule?) ∧
      rest = earlier' ++ c :: later := by
  cases hb : b.scenario? rule? with
  | none => exact .inr ⟨[], earlier, by simp, by simp, by simpa [hb] using h⟩
  | some x =>
    rw [hb, Option.toList_some, List.singleton_append] at h
    cases earlier with
    | nil => exact .inl rfl
    | cons y earlier =>
      obtain ⟨rfl, hrest⟩ := List.cons.inj h
      exact .inr ⟨[x], earlier, by simp, by simp [(scenario?_eq_some hb).2.2.1], hrest⟩

theorem rule_of_before {bs : List Block} {r : Nat} (hr : ∀ b ∈ bs, b.head.1 ≠ r)
    {earlier later : List Scenario} {c : Scenario}
    (h : scenariosOf (some r) bs = earlier ++ c :: later) (hc : c.rule? = some r) :
    ∀ x ∈ earlier, x.rule? = some r := by
  induction bs generalizing earlier with
  | nil => simp [scenariosOf] at h
  | cons b rest ih =>
    unfold scenariosOf at h
    have hrest : ∀ b ∈ rest, b.head.1 ≠ r := fun b hb => hr b (by simp [hb])
    rcases Block.scenario?_append_eq h with rfl | ⟨lead, earlier', rfl, hlead, hrest'⟩
    · simp
    · -- `c` comes after the block, so the block does not leave the rule
      have hafter : b.ruleAfter (some r) = some r := by
        have hmem : c ∈ scenariosOf (b.ruleAfter (some r)) rest := by simp [hrest']
        rcases rule_of_mem_scenariosOf hmem hc with hb | ⟨b', hb', hb⟩
        · exact hb
        · exact absurd hb (hrest b' hb')
      rw [hafter] at hlead hrest'
      intro x hx
      rcases List.mem_append.mp hx with hx | hx
      · exact hlead x hx
      · exact ih hrest hrest' x hx

theorem splitAtRule_scenariosOf {bs : List Block} (hs : bs.Pairwise (·.head.1 < ·.head.1))
    {rule? : Option Nat} {r : Nat} (hr : rule? ≠ some r) {earlier later : List Scenario}
    {c : Scenario} (h : scenariosOf rule? bs = earlier ++ c :: later) (hc : c.rule? = some r) :
    SplitAtRule earlier r := by
  induction bs generalizing rule? earlier with
  | nil => simp [scenariosOf] at h
  | cons b rest ih =>
    obtain ⟨hlt, hs⟩ := List.pairwise_cons.mp hs
    unfold scenariosOf at h
    rcases Block.scenario?_append_eq h with rfl | ⟨lead, earlier', rfl, hlead, hrest⟩
    · exact .of_inside (by simp)
    · by_cases hafter : b.ruleAfter rule? = some r
      · -- the block is the header of the rule
        have hb : b.head.1 = r := (Block.rule_of_ruleAfter hafter).resolve_left hr
        rw [hafter] at hlead hrest
        have hin := rule_of_before (fun b' hb' => hb ▸ Nat.ne_of_gt (hlt b' hb')) hrest hc
        apply SplitAtRule.of_inside
        intro x hx
        rcases List.mem_append.mp hx with hx | hx
        · exact hlead x hx
        · exact hin x hx
      · have hrest := ih hs hafter hrest
        exact hrest.append fun x hx => hlead x hx ▸ hafter

/-! The whole document. -/

section Document

variable {text uri : String} {f : Feature} (h : ofText text uri = .ok f)
include h

theorem origin_of_mem_scenarios {c : Scenario} (hc : c ∈ f.scenarios) :
    unnamed? none (stepsOf none (blocks (visible text)).1) = some c ∨
      ∃ b ∈ (blocks (visible text)).2, ∃ r, b.scenario? r = some c := by
  rw [scenarios_of_ofText h] at hc
  rcases List.mem_append.mp hc with hc | hc
  · exact .inl (Option.mem_toList.mp hc)
  · exact .inr (mem_scenariosOf hc)

theorem exists_block_mem_scenarios {b : Block} (hb : b ∈ (blocks (visible text)).2) :
    ∃ r, ∀ c ∈ b.scenario? r, c ∈ f.scenarios := by
  obtain ⟨r, hr⟩ := exists_mem_scenariosOf hb none
  refine ⟨r, fun c hc => ?_⟩
  rw [scenarios_of_ofText h]
  exact List.mem_append_right _ (hr c hc)

theorem mem_steps_iff {s : StepLine} :
    s ∈ f.steps ↔ s ∈ stepsOf none (blocks (visible text)).1 ∨
      ∃ b ∈ (blocks (visible text)).2, b.header.opensExamples = false ∧ s ∈ stepsOf none b.body := by
  unfold Feature.steps
  rw [scenarios_of_ofText h, List.flatMap_append, steps_unnamed?, steps_scenariosOf,
    List.mem_append, List.mem_flatMap]
  apply or_congr_right
  constructor
  · rintro ⟨b, hb, hs⟩
    split at hs
    · simp at hs
    · rename_i hx
      exact ⟨b, hb, by simpa using hx, hs⟩
  · rintro ⟨b, hb, hx, hs⟩
    exact ⟨b, hb, by simpa [hx] using hs⟩

/-- The scenarios of a rule follow one another. -/
theorem splitAtRule_of_ofText {earlier later : List Scenario} {c : Scenario}
    (hsplit : f.scenarios = earlier ++ c :: later) {r : Nat} (hc : c.rule? = some r) :
    SplitAtRule earlier r := by
  have hs : (blocks (visible text)).2.Pairwise (·.head.1 < ·.head.1) :=
    pairwise_heads pairwise_visibleFrom
  rw [scenarios_of_ofText h] at hsplit
  cases hu : unnamed? none (stepsOf none (blocks (visible text)).1) with
  | none =>
    rw [hu, Option.toList_none, List.nil_append] at hsplit
    exact splitAtRule_scenariosOf hs (by simp) hsplit hc
  | some x =>
    have hx := (unnamed?_eq_some hu).2.2.2.1
    rw [hu, Option.toList_some, List.singleton_append] at hsplit
    cases earlier with
    | nil => exact .of_inside (by simp)
    | cons y earlier =>
      obtain ⟨rfl, hrest⟩ := List.cons.inj hsplit
      have hrest := splitAtRule_scenariosOf hs (by simp) hrest hc
      have hout : ∀ c ∈ [x], c.rule? ≠ some r := by simp [hx]
      exact hrest.append hout

theorem pairwise_scenarios : (f.scenarios.map (·.line)).Pairwise (· < ·) := by
  have hsub : (f.scenarios.map (·.line)).Sublist ((visible text).map (·.1)) := by
    rw [scenarios_of_ofText h, ← blocks_lines (visible text), List.map_append, List.map_append,
      blocks_lines]
    exact ((lines_unnamed? _ _).trans (lines_stepsOf none _)).append (lines_scenariosOf _ _)
  exact (List.pairwise_map.mpr pairwise_visibleFrom).sublist hsub

theorem pairwise_steps : (f.steps.map (·.line)).Pairwise (· < ·) := by
  have hsub : (f.steps.map (·.line)).Sublist ((visible text).map (·.1)) := by
    unfold Feature.steps
    rw [scenarios_of_ofText h, List.flatMap_append, steps_unnamed?, List.map_append]
    rw [← blocks_lines (visible text), List.map_append, blocks_lines]
    exact (lines_stepsOf none _).append (lines_steps_scenariosOf _ _)
  exact (List.pairwise_map.mpr pairwise_visibleFrom).sublist hsub

theorem pairwise_scenario_steps :
    f.scenarios.Pairwise fun c c' => ∀ p ∈ c.steps, ∀ q ∈ c'.steps, p.line < q.line := by
  have hs := pairwise_steps h
  rw [List.pairwise_map, Feature.steps, List.pairwise_flatMap] at hs
  exact hs.2

theorem eq_of_mem_steps {c c' : Scenario} (hc : c ∈ f.scenarios) (hc' : c' ∈ f.scenarios)
    {p : StepLine} (hp : p ∈ c.steps) (hp' : p ∈ c'.steps) : c = c' := by
  have hlt := pairwise_scenario_steps h
  have hone : f.scenarios.Pairwise fun x y => p ∈ x.steps → p ∈ y.steps → x = y :=
    hlt.imp fun hlt hx hy => absurd (hlt p hx p hy) (Nat.lt_irrefl _)
  have hflip : f.scenarios.Pairwise fun x y => p ∈ y.steps → p ∈ x.steps → y = x :=
    hlt.imp fun hlt hy hx => absurd (hlt p hx p hy) (Nat.lt_irrefl _)
  exact hone.forall_of_forall_of_flip (fun _ _ _ _ => rfl) hflip hc hc' hp hp'

end Document
end ScenarioCheck.Document
