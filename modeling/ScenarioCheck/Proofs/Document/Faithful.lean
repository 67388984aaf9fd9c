import ScenarioCheck.Proofs.Document.Recorded

/-! Splitting a document loses, repeats and invents nothing. The recorded steps are the visible step
lines outside tables of examples, each scenario header opens one scenario, a step belongs to the
scenario of the nearest header before it, and a scenario to the rule that encloses it. -/
namespace ScenarioCheck.Document

/-- The nearest header before line `n`, among numbered lines, is `h` on line `m`. -/
def Nearest (lines : List Numbered) (n m : Nat) (h : Header) : Prop :=
  (∃ raw name, (m, raw) ∈ lines ∧ IsHeader raw h name) ∧ m < n ∧
    ∀ l ∈ lines, m < l.1 → l.1 < n → ∀ h' name, ¬IsHeader l.2 h' name

/-- The rule that encloses line `n` begins on line `r`: no feature and no other rule begins between
them. -/
def Encloses (lines : List Numbered) (n r : Nat) : Prop :=
  (∃ raw name, (r, raw) ∈ lines ∧ IsHeader raw .rule name) ∧ r < n ∧
    ∀ l ∈ lines, r < l.1 → l.1 < n → ∀ h name, IsHeader l.2 h name → h.changesRule = false

/-- A split document records the visible lines of a text: all of them, once, and nothing else. -/
structure Faithful (text : String) (f : Feature) : Prop where
  /-- Steps come in the order of their lines, and no line is recorded twice. -/
  steps_increasing : (f.steps.map (·.line)).Pairwise (· < ·)
  /-- The recorded lines have the shape of a step and of no header, and do not stand in a table of
  examples. -/
  step_iff : ∀ n word, (∃ s ∈ f.steps, s.line = n ∧ s.word = word) ↔
    ∃ raw, (n, raw) ∈ visible text ∧ (∃ t, IsStep raw word t) ∧ (∀ h name, ¬IsHeader raw h name) ∧
      ∀ m h, Nearest (visible text) n m h → h.opensExamples = false
  /-- Word and text of a step stand on its line. -/
  step_shape : ∀ s ∈ f.steps, ∃ raw, (s.line, raw) ∈ visible text ∧ IsStep raw s.word s.text.toList
  /-- Scenarios come in the order of their lines, and no line opens two of them. -/
  scenarios_increasing : (f.scenarios.map (·.line)).Pairwise (· < ·)
  /-- The scenarios with a header are those of the visible scenario headers. -/
  scenario_iff : ∀ n h name,
    (∃ c ∈ f.scenarios, c.line = n ∧ c.header? = some h ∧ c.name = String.ofList name) ↔
      h.opensScenario = true ∧ ∃ raw, (n, raw) ∈ visible text ∧ IsHeader raw h name
  /-- A step belongs to the scenario of the nearest header before it, if that one opens any. -/
  owner_iff : ∀ c ∈ f.scenarios, ∀ s ∈ c.steps, ∀ m h, h.opensScenario = true →
    (Nearest (visible text) s.line m h ↔ c.line = m ∧ c.header? = some h)
  /-- From a step of a scenario to another one no line is a header. -/
  unbroken : ∀ c ∈ f.scenarios, ∀ p ∈ c.steps, ∀ s ∈ c.steps, ∀ l ∈ visible text,
    p.line ≤ l.1 → l.1 ≤ s.line → ∀ h name, ¬IsHeader l.2 h name
  /-- Steps with the same nearest header, or without any header before them, belong together. -/
  together : ∀ c ∈ f.scenarios, ∀ s ∈ c.steps, ∀ s' ∈ f.steps,
    (∀ m h, Nearest (visible text) s'.line m h ↔ Nearest (visible text) s.line m h) → s' ∈ c.steps
  /-- A scenario without a header has no name and starts with its first step. -/
  unnamed : ∀ c ∈ f.scenarios, c.header? = none →
    c.name = "" ∧ c.steps.head?.map (·.line) = some c.line
  /-- A scenario belongs to the rule that encloses it, if there is one. -/
  rule_iff : ∀ c ∈ f.scenarios, ∀ r, c.rule? = some r ↔ Encloses (visible text) c.line r

/-! The nearest header of a line is the head of its block. -/

section Nearest

variable {lines : List Numbered} (hs : lines.Pairwise (·.1 < ·.1))
  (hv : ∀ l ∈ lines, IsVisible l.2)
include hs hv

theorem not_nearest_of_mem_lead {l : Numbered} (hl : l ∈ (blocks lines).1) (m : Nat)
    (h : Header) : ¬Nearest lines l.1 m h := by
  rintro ⟨⟨raw, name, hm, hh⟩, hlt, -⟩
  have hraw := (hv _ hm).ofText_eq_header_iff.mpr hh
  rw [← blocks_lines lines] at hs hm
  rcases List.mem_append.mp hm with hm | hm
  · exact not_header_of_mem_lead hm h name hraw
  · have := (List.pairwise_append.mp hs).2.2 l hl _ hm
    simp at this
    omega

theorem nearest_of_mem_body {b : Block} (hb : b ∈ (blocks lines).2) {l : Numbered}
    (hl : l ∈ b.body) {m : Nat} {h : Header} :
    Nearest lines l.1 m h ↔ m = b.head.1 ∧ h = b.header := by
  have hhead := header_of_mem_blocks hb
  have hbody {x : Numbered} (hx : x ∈ b.body) := not_header_of_mem_body hb hx
  obtain ⟨before, after, hsplit⟩ := exists_eq_append_of_mem_blocks hb
  have hmem : ∀ x ∈ lines, x ∈ before ∨ x = b.head ∨ x ∈ b.body ∨ x ∈ after := by
    intro x hx
    rw [hsplit] at hx
    simpa using hx
  rw [hsplit, List.pairwise_append, List.pairwise_cons, List.pairwise_append] at hs
  obtain ⟨-, ⟨hbelow, -, -, hacross⟩, hbefore⟩ := hs
  have hlt : b.head.1 < l.1 := hbelow l (by simp [hl])
  have hin : b.head ∈ lines := by simp [hsplit]
  constructor
  · rintro ⟨⟨raw, name, hm, hh⟩, hml, hnone⟩
    have hraw := (hv _ hm).ofText_eq_header_iff.mpr hh
    rcases hmem _ hm with hx | hx | hx | hx
    · have hmb : m < b.head.1 := hbefore _ hx b.head (by simp)
      exact absurd ((hv _ hin).ofText_eq_header_iff.mp hhead) (hnone b.head hin hmb hlt _ _)
    · rw [show raw = b.head.2 from congrArg Prod.snd hx, hhead] at hraw
      cases hraw
      exact ⟨congrArg Prod.fst hx, rfl⟩
    · exact absurd hraw (hbody hx h name)
    · have := hacross l hl _ hx
      simp at this
      omega
  · rintro ⟨rfl, rfl⟩
    refine ⟨⟨b.head.2, b.name, hin, (hv _ hin).ofText_eq_header_iff.mp hhead⟩, hlt, ?_⟩
    intro x hx hbx hxl h' name hh
    have hraw := (hv _ hx).ofText_eq_header_iff.mpr hh
    rcases hmem x hx with hx | rfl | hx | hx
    · have := hbefore x hx b.head (by simp)
      omega
    · omega
    · exact hbody hx h' name hraw
    · have := hacross l hl x hx
      omega

end Nearest

/-! The rule that encloses a line is read off the heads of the blocks before it. -/

section Encloses

variable {lines : List Numbered} (hv : ∀ l ∈ lines, IsVisible l.2)
include hv

theorem isHeader_iff_mem_blocks {n : Nat} {h : Header} :
    (∃ raw name, (n, raw) ∈ lines ∧ IsHeader raw h name) ↔
      ∃ b ∈ (blocks lines).2, b.head.1 = n ∧ b.header = h := by
  constructor
  · rintro ⟨raw, name, hm, hh⟩
    have hraw := (hv _ hm).ofText_eq_header_iff.mpr hh
    rcases mem_iff_mem_blocks.mp hm with hl | ⟨b, hb, hl | hl⟩
    · exact absurd hraw (not_header_of_mem_lead hl h name)
    · have hhead := header_of_mem_blocks hb
      rw [← hl, hraw] at hhead
      exact ⟨b, hb, by rw [← hl], (Line.header.inj hhead).1.symm⟩
    · exact absurd hraw (not_header_of_mem_body hb hl h name)
  · rintro ⟨b, hb, rfl, rfl⟩
    have hm := mem_iff_mem_blocks.mpr (.inr ⟨b, hb, .inl rfl⟩)
    exact ⟨b.head.2, b.name, hm, (hv _ hm).ofText_eq_header_iff.mp (header_of_mem_blocks hb)⟩

theorem encloses_iff {n r : Nat} : Encloses lines n r ↔
    (∃ b ∈ (blocks lines).2, b.head.1 = r ∧ b.header = .rule) ∧ r < n ∧
      ∀ b ∈ (blocks lines).2, r < b.head.1 → b.head.1 < n → b.header.changesRule = false := by
  unfold Encloses
  rw [isHeader_iff_mem_blocks hv]
  refine and_congr_right fun _ => and_congr_right fun _ => ⟨fun h b hb hrb hbn => ?_, ?_⟩
  · obtain ⟨raw, name, hm, hh⟩ := (isHeader_iff_mem_blocks hv).mpr ⟨b, hb, rfl, rfl⟩
    exact h _ hm hrb hbn _ _ hh
  · rintro h l hl hrl hln hd name hh
    obtain ⟨b, hb, hline, rfl⟩ := (isHeader_iff_mem_blocks hv).mp ⟨l.2, name, hl, hh⟩
    exact h b hb (by omega) (by omega)

end Encloses

theorem Block.head_lt_line {b : Block} (hs : b.lines.Pairwise (·.1 < ·.1)) {rule? : Option Nat}
    {c : Scenario} (hc : b.scenario? rule? = some c) (hb : b.header.changesRule = true) :
    b.head.1 < c.line := by
  rcases (Block.scenario?_eq_some hc).2 with ⟨hsteps, -, ⟨ho, -⟩ | ⟨-, -, -, hline⟩⟩
  · cases hh : b.header <;> simp [hh, Header.changesRule, Header.opensScenario] at hb ho
  · obtain ⟨s, hs', hline⟩ := Option.map_eq_some_iff.mp hline
    obtain ⟨l, hl, -, -, hsl, -⟩ := mem_stepsOf (hsteps ▸ List.mem_of_mem_head? hs')
    rw [← hline, hsl]
    exact (List.pairwise_cons.mp hs).1 l hl

section Past

variable {lines : List Numbered} (hs : lines.Pairwise (·.1 < ·.1)) {before after : List Block}
  {b : Block} (hbs : (blocks lines).2 = before ++ b :: after) {rule? : Option Nat} {c : Scenario}
  (hc : b.scenario? rule? = some c)
include hs hbs hc

/-- The headers of features and rules up to a block are those before the scenario of the block. -/
theorem mem_past_iff {x : Block} (hx : x ∈ (blocks lines).2) (hchange : x.header.changesRule = true) :
    x ∈ before ++ [b] ↔ x.head.1 < c.line := by
  have hall : ((blocks lines).2.flatMap Block.lines).Pairwise (·.1 < ·.1) := by
    rw [← blocks_lines lines] at hs
    exact (List.pairwise_append.mp hs).2.1
  rw [hbs, List.pairwise_flatMap, List.pairwise_append, List.pairwise_cons] at hall
  obtain ⟨hone, -, ⟨hafter, -⟩, hbefore⟩ := hall
  obtain ⟨l, hl, hline⟩ : ∃ l ∈ b.lines, l.1 = c.line :=
    List.mem_map.mp ((b.lines_scenario? rule?).subset (by simp [hc]))
  rw [hbs] at hx
  constructor
  · intro hx
    rcases List.mem_append.mp hx with hx | hx
    · exact hline ▸ hbefore x hx b (by simp) x.head (by simp [Block.lines]) l hl
    · obtain rfl := List.mem_singleton.mp hx
      exact Block.head_lt_line (hone x (by simp)) hc hchange
  · intro hlt
    rcases List.mem_append.mp hx with hx | hx
    · exact List.mem_append_left _ hx
    · rcases List.mem_cons.mp hx with rfl | hx
      · simp
      · have := hafter x hx l hl x.head (by simp [Block.lines])
        omega

theorem rulePast_eq_some_iff_encloses (hv : ∀ l ∈ lines, IsVisible l.2) {r : Nat} :
    rulePast none (before ++ [b]) = some r ↔ Encloses lines c.line r := by
  have hpast {x : Block} := mem_past_iff hs hbs hc (x := x)
  have hheads := pairwise_heads hs
  have hsub : ∀ x ∈ before ++ [b], x ∈ (blocks lines).2 := by
    intro x hx
    rw [hbs, List.append_cons]
    exact List.mem_append_left _ hx
  rw [hbs, List.append_cons, List.pairwise_append] at hheads
  rw [rulePast_eq_some_iff hheads.1, encloses_iff hv]
  constructor
  · rintro ⟨⟨x, hx, rfl, hrule⟩, hnone⟩
    refine ⟨⟨x, hsub x hx, rfl, hrule⟩, (hpast (hsub x hx) (by rw [hrule]; rfl)).mp hx, ?_⟩
    intro y hy hxy hyc
    by_contra hchange
    rw [Bool.not_eq_false] at hchange
    have hsame := hnone y ((hpast hy hchange).mpr hyc) hxy
    simp [hchange] at hsame
  · rintro ⟨⟨x, hx, rfl, hrule⟩, hlt, hnone⟩
    refine ⟨⟨x, (hpast hx (by rw [hrule]; rfl)).mpr hlt, rfl, hrule⟩, fun y hy hxy => ?_⟩
    by_contra hchange
    rw [Bool.not_eq_false] at hchange
    have hsame := hnone y (hsub y hy) hxy ((hpast (hsub y hy) hchange).mp hy)
    simp [hchange] at hsame

end Past

/-! The fields of the specification. -/

theorem visible_pairwise (text : String) : (visible text).Pairwise (·.1 < ·.1) :=
  pairwise_visibleFrom

theorem isVisible_of_mem_visible {text : String} (l : Numbered) (hl : l ∈ visible text) :
    IsVisible l.2 :=
  isVisible_of_mem hl

section Document

variable {text uri : String} {f : Feature} (hf : ofText text uri = .ok f)
include hf

theorem step_iff_of_ofText (n : Nat) (word : StepWord) :
    (∃ s ∈ f.steps, s.line = n ∧ s.word = word) ↔
      ∃ raw, (n, raw) ∈ visible text ∧ (∃ t, IsStep raw word t) ∧
        (∀ h name, ¬IsHeader raw h name) ∧
          ∀ m h, Nearest (visible text) n m h → h.opensExamples = false := by
  have hs := visible_pairwise text
  have hv := @isVisible_of_mem_visible text
  constructor
  · rintro ⟨s, hmem, rfl, rfl⟩
    rcases (mem_steps_iff hf).mp hmem with hmem | ⟨b, hb, hx, hmem⟩
    · obtain ⟨l, hl, t, ht, hline, -⟩ := mem_stepsOf hmem
      have hin := mem_iff_mem_blocks.mpr (.inl hl)
      obtain ⟨hstep, hnone⟩ := (hv l hin).exists_ofText_eq_step_iff.mp ⟨t, ht⟩
      rw [hline]
      exact ⟨l.2, hin, hstep, hnone, fun m h hn => absurd hn (not_nearest_of_mem_lead hs hv hl m h)⟩
    · obtain ⟨l, hl, t, ht, hline, -⟩ := mem_stepsOf hmem
      have hin := mem_iff_mem_blocks.mpr (.inr ⟨b, hb, .inr hl⟩)
      obtain ⟨hstep, hnone⟩ := (hv l hin).exists_ofText_eq_step_iff.mp ⟨t, ht⟩
      rw [hline]
      refine ⟨l.2, hin, hstep, hnone, fun m h hn => ?_⟩
      obtain ⟨-, rfl⟩ := (nearest_of_mem_body hs hv hb hl).mp hn
      exact hx
  · rintro ⟨raw, hin, hstep, hnone, hx⟩
    obtain ⟨t, ht⟩ := (hv _ hin).exists_ofText_eq_step_iff.mpr ⟨hstep, hnone⟩
    rcases mem_iff_mem_blocks.mp hin with hl | ⟨b, hb, hl | hl⟩
    · obtain ⟨s, hs', hline, hword⟩ := exists_mem_stepsOf none hl ht
      exact ⟨s, (mem_steps_iff hf).mpr (.inl hs'), hline, hword⟩
    · have hhead := header_of_mem_blocks hb
      rw [← hl, ht] at hhead
      cases hhead
    · obtain ⟨s, hs', hline, hword⟩ := exists_mem_stepsOf none hl ht
      have hopen := hx _ _ ((nearest_of_mem_body hs hv hb hl).mpr ⟨rfl, rfl⟩)
      exact ⟨s, (mem_steps_iff hf).mpr (.inr ⟨b, hb, hopen, hs'⟩), hline, hword⟩

theorem step_shape_of_ofText {s : StepLine} (hs : s ∈ f.steps) :
    ∃ raw, (s.line, raw) ∈ visible text ∧ IsStep raw s.word s.text.toList := by
  have shape {l : Numbered} (hin : l ∈ visible text) {t : List Char}
      (ht : Line.ofText l.2 = .step s.word t) (hline : s.line = l.1)
      (htext : s.text = String.ofList t) :
      ∃ raw, (s.line, raw) ∈ visible text ∧ IsStep raw s.word s.text.toList := by
    rw [hline, htext, String.toList_ofList]
    exact ⟨l.2, hin, (isVisible_of_mem_visible l hin).isStep_of_ofText ht⟩
  rcases (mem_steps_iff hf).mp hs with hs | ⟨b, hb, -, hs⟩
  · obtain ⟨l, hl, t, ht, hline, htext⟩ := mem_stepsOf hs
    exact shape (mem_iff_mem_blocks.mpr (.inl hl)) ht hline htext
  · obtain ⟨l, hl, t, ht, hline, htext⟩ := mem_stepsOf hs
    exact shape (mem_iff_mem_blocks.mpr (.inr ⟨b, hb, .inr hl⟩)) ht hline htext

theorem scenario_iff_of_ofText (n : Nat) (h : Header) (name : List Char) :
    (∃ c ∈ f.scenarios, c.line = n ∧ c.header? = some h ∧ c.name = String.ofList name) ↔
      h.opensScenario = true ∧ ∃ raw, (n, raw) ∈ visible text ∧ IsHeader raw h name := by
  have hv := @isVisible_of_mem_visible text
  constructor
  · rintro ⟨c, hc, rfl, hh, hname⟩
    rcases origin_of_mem_scenarios hf hc with hu | ⟨b, hb, r, hbc⟩
    · rw [(unnamed?_eq_some hu).1] at hh
      cases hh
    · rcases (Block.scenario?_eq_some hbc).2.2.2 with ⟨ho, hline, hhead, hn⟩ | ⟨-, hhead, -⟩
      · rw [hhead] at hh
        obtain rfl := Option.some.inj hh
        obtain rfl : b.name = name := String.ofList_injective (hn.symm.trans hname)
        have hin := mem_iff_mem_blocks.mpr (.inr ⟨b, hb, .inl rfl⟩)
        refine ⟨ho, b.head.2, by rwa [hline], ?_⟩
        exact (hv _ hin).ofText_eq_header_iff.mp (header_of_mem_blocks hb)
      · rw [hhead] at hh
        cases hh
  · rintro ⟨ho, raw, hin, hh⟩
    have hraw := (hv _ hin).ofText_eq_header_iff.mpr hh
    rcases mem_iff_mem_blocks.mp hin with hl | ⟨b, hb, hl | hl⟩
    · exact absurd hraw (not_header_of_mem_lead hl h name)
    · have hhead := header_of_mem_blocks hb
      rw [← hl, hraw] at hhead
      obtain ⟨rfl, rfl⟩ := Line.header.inj hhead
      obtain ⟨r, hr⟩ := exists_block_mem_scenarios hf hb
      obtain ⟨c, hc⟩ := Block.exists_scenario? ho r
      rcases (Block.scenario?_eq_some hc).2.2.2 with ⟨-, hline, hh, hn⟩ | ⟨ho', -⟩
      · exact ⟨c, hr c hc, by rw [hline, ← hl], hh, hn⟩
      · rw [ho] at ho'
        cases ho'
    · exact absurd hraw (not_header_of_mem_body hb hl h name)

/-- The nearest headers of the steps of a scenario: none before the first block, else the header of
the block. -/
theorem nearest_of_mem_steps {c : Scenario} (hc : c ∈ f.scenarios) {s : StepLine}
    (hs : s ∈ c.steps) :
    (unnamed? none (stepsOf none (blocks (visible text)).1) = some c ∧
        ∀ m h, ¬Nearest (visible text) s.line m h) ∨
      ∃ b ∈ (blocks (visible text)).2, ∃ r, b.scenario? r = some c ∧
        ∀ m h, Nearest (visible text) s.line m h ↔ m = b.head.1 ∧ h = b.header := by
  have hp := visible_pairwise text
  have hv := @isVisible_of_mem_visible text
  rcases origin_of_mem_scenarios hf hc with hu | ⟨b, hb, r, hbc⟩
  · rw [(unnamed?_eq_some hu).2.2.1] at hs
    obtain ⟨l, hl, -, -, hline, -⟩ := mem_stepsOf hs
    rw [hline]
    exact .inl ⟨hu, not_nearest_of_mem_lead hp hv hl⟩
  · rw [(Block.scenario?_eq_some hbc).2.1] at hs
    obtain ⟨l, hl, -, -, hline, -⟩ := mem_stepsOf hs
    rw [hline]
    exact .inr ⟨b, hb, r, hbc, fun m h => nearest_of_mem_body hp hv hb hl⟩

theorem owner_iff_of_ofText {c : Scenario} (hc : c ∈ f.scenarios) {s : StepLine}
    (hs : s ∈ c.steps) {m : Nat} {h : Header} (ho : h.opensScenario = true) :
    Nearest (visible text) s.line m h ↔ c.line = m ∧ c.header? = some h := by
  rcases nearest_of_mem_steps hf hc hs with ⟨hu, hnone⟩ | ⟨b, hb, r, hbc, hnear⟩
  · simp [hnone, (unnamed?_eq_some hu).1]
  · rw [hnear]
    rcases (Block.scenario?_eq_some hbc).2.2.2 with ⟨-, hline, hhead, -⟩ | ⟨ho', hhead, -⟩
    · rw [hline, hhead, Option.some.injEq]
      exact and_congr eq_comm eq_comm
    · rw [hhead]
      constructor
      · rintro ⟨-, rfl⟩
        rw [ho] at ho'
        cases ho'
      · rintro ⟨-, hh⟩
        cases hh

theorem mem_steps_of_nearest_iff {c : Scenario} (hc : c ∈ f.scenarios) {s s' : StepLine}
    (hs : s ∈ c.steps) (hs' : s' ∈ f.steps)
    (hsame : ∀ m h, Nearest (visible text) s'.line m h ↔ Nearest (visible text) s.line m h) :
    s' ∈ c.steps := by
  obtain ⟨c', hc', hs'⟩ := List.mem_flatMap.mp hs'
  rcases nearest_of_mem_steps hf hc hs with ⟨hu, hnone⟩ | ⟨b, hb, r, hbc, hnear⟩
  · rcases nearest_of_mem_steps hf hc' hs' with ⟨hu', -⟩ | ⟨b', -, -, -, hnear'⟩
    · rw [hu] at hu'
      exact Option.some.inj hu' ▸ hs'
    · exact absurd ((hsame _ _).mp ((hnear' _ _).mpr ⟨rfl, rfl⟩)) (hnone _ _)
  · have hb₀ := (hsame _ _).mpr ((hnear _ _).mpr ⟨rfl, rfl⟩)
    rcases nearest_of_mem_steps hf hc' hs' with ⟨-, hnone'⟩ | ⟨b', hb', r', hbc', hnear'⟩
    · exact absurd hb₀ (hnone' _ _)
    · obtain rfl := eq_of_head_eq (visible_pairwise text) hb hb' ((hnear' _ _).mp hb₀).1
      rw [(Block.scenario?_eq_some hbc).2.1, ← (Block.scenario?_eq_some hbc').2.1]
      exact hs'

theorem unnamed_of_ofText {c : Scenario} (hc : c ∈ f.scenarios) (hh : c.header? = none) :
    c.name = "" ∧ c.steps.head?.map (·.line) = some c.line := by
  rcases origin_of_mem_scenarios hf hc with hu | ⟨b, hb, r, hbc⟩
  · obtain ⟨-, hn, hst, -, hl⟩ := unnamed?_eq_some hu
    exact ⟨hn, hst ▸ hl⟩
  · rcases (Block.scenario?_eq_some hbc).2.2.2 with ⟨-, -, hhead, -⟩ | ⟨-, -, hn, hl⟩
    · rw [hhead] at hh
      cases hh
    · exact ⟨hn, hl⟩

/-- The steps of a scenario are read off visible lines that follow one another, none of them a
header. -/
theorem exists_lines_of_mem_scenarios {c : Scenario} (hc : c ∈ f.scenarios) :
    ∃ before lines after, visible text = before ++ lines ++ after ∧ c.steps = stepsOf none lines ∧
      ∀ l ∈ lines, ∀ h name, Line.ofText l.2 ≠ .header h name := by
  rcases origin_of_mem_scenarios hf hc with hu | ⟨b, hb, r, hbc⟩
  · refine ⟨[], _, _, (blocks_lines (visible text)).symm, (unnamed?_eq_some hu).2.2.1, ?_⟩
    exact fun l hl => not_header_of_mem_lead hl
  · obtain ⟨before, after, hsplit⟩ := exists_eq_append_of_mem_blocks hb
    refine ⟨before ++ [b.head], b.body, after, by simp [hsplit],
      (Block.scenario?_eq_some hbc).2.1, ?_⟩
    exact fun l hl => not_header_of_mem_body hb hl

theorem not_isHeader_of_mem_steps {c : Scenario} (hc : c ∈ f.scenarios) {p s : StepLine}
    (hp : p ∈ c.steps) (hs : s ∈ c.steps) {l : Numbered} (hl : l ∈ visible text)
    (hpl : p.line ≤ l.1) (hls : l.1 ≤ s.line) (h : Header) (name : List Char) :
    ¬IsHeader l.2 h name := by
  obtain ⟨before, lines, after, hsplit, hsteps, hnone⟩ := exists_lines_of_mem_scenarios hf hc
  rw [hsteps] at hp hs
  obtain ⟨lp, hlp, -, -, hpline, -⟩ := mem_stepsOf hp
  obtain ⟨ls, hls', -, -, hsline, -⟩ := mem_stepsOf hs
  have hsorted := visible_pairwise text
  rw [hsplit, List.pairwise_append, List.pairwise_append] at hsorted
  obtain ⟨⟨-, -, hbefore⟩, -, hafter⟩ := hsorted
  intro hh
  have hheader := (isVisible_of_mem_visible l hl).ofText_eq_header_iff.mpr hh
  rw [hsplit, List.mem_append, List.mem_append] at hl
  rcases hl with (hl | hl) | hl
  · have := hbefore l hl lp hlp
    omega
  · exact hnone l hl h name hheader
  · have := hafter ls (List.mem_append_right _ hls') l hl
    omega

theorem rule_iff_of_ofText {c : Scenario} (hc : c ∈ f.scenarios) (r : Nat) :
    c.rule? = some r ↔ Encloses (visible text) c.line r := by
  have hs := visible_pairwise text
  have hv := @isVisible_of_mem_visible text
  rw [scenarios_of_ofText hf] at hc
  rcases List.mem_append.mp hc with hc | hc
  · -- all headers stand behind the lines before the first one
    obtain ⟨-, -, hsteps, hrule, hline⟩ := unnamed?_eq_some (Option.mem_toList.mp hc)
    obtain ⟨s, hs', hline⟩ := Option.map_eq_some_iff.mp hline
    obtain ⟨l, hl, -, -, hsl, -⟩ := mem_stepsOf (List.mem_of_mem_head? hs')
    rw [← blocks_lines (visible text)] at hs
    have hlead := (List.pairwise_append.mp hs).2.2 l hl
    rw [hrule, encloses_iff hv]
    constructor
    · intro h
      cases h
    · rintro ⟨⟨b, hb, rfl, -⟩, hlt, -⟩
      have := hlead b.head (List.mem_flatMap.mpr ⟨b, hb, by simp [Block.lines]⟩)
      omega
  · obtain ⟨before, b, after, hbs, hb, hrule⟩ := exists_append_of_mem_scenariosOf hc
    rw [hrule, rulePast_eq_some_iff_encloses hs hbs hb hv]

/-- Splitting records exactly the visible lines of a document. -/
theorem ofText_faithful : Faithful text f where
  steps_increasing := pairwise_steps hf
  step_iff := step_iff_of_ofText hf
  step_shape _ hs := step_shape_of_ofText hf hs
  scenarios_increasing := pairwise_scenarios hf
  scenario_iff := scenario_iff_of_ofText hf
  owner_iff _ hc _ hs _ _ ho := owner_iff_of_ofText hf hc hs ho
  unbroken _ hc _ hp _ hs _ hl hpl hls := not_isHeader_of_mem_steps hf hc hp hs hl hpl hls
  together _ hc _ hs _ hs' hsame := mem_steps_of_nearest_iff hf hc hs hs' hsame
  unnamed _ hc hh := unnamed_of_ofText hf hc hh
  rule_iff _ hc := rule_iff_of_ofText hf hc

end Document

/-- A step without a scenario header, a header in quoted text and a step line in a table of
examples. -/
def sampleDocument : String :=
  "Given a\nRule:\nBackground:\n\"\"\"\nExample:\n\"\"\"\nExample: x\n* b\nExamples:\nGiven c\n"

theorem ofText_faithful_sampleDocument : ∃ f, ofText sampleDocument = .ok f ∧
    f.steps.map (·.line) = [0, 7] ∧ f.scenarios.map (·.line) = [0, 2, 6] ∧
      Faithful sampleDocument f := by
  have hlines : ((ofText sampleDocument).toOption.map fun f =>
      (f.steps.map (·.line), f.scenarios.map (·.line))) = some ([0, 7], [0, 2, 6]) := by
    decide +kernel
  cases hf : ofText sampleDocument with
  | error fault =>
    rw [hf] at hlines
    cases hlines
  | ok f =>
    rw [hf] at hlines
    obtain ⟨hsteps, hscenarios⟩ := Prod.mk.inj (Option.some.inj hlines)
    exact ⟨f, rfl, hsteps, hscenarios, ofText_faithful hf⟩

end ScenarioCheck.Document
