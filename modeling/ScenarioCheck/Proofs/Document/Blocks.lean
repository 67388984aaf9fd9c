import ScenarioCheck.Proofs.Document.Visible

/-! Documents cut at their headers. Between two headers the visible lines form a block, and the
scenarios of a document are read off its blocks one by one: only the enclosing rule is handed from
a block to the next. -/
namespace ScenarioCheck.Document

open Step (Kind)
open Text (trim leadingBlanks)

structure Block where
  head : Numbered
  header : Header
  name : List Char
  body : List Numbered

def Block.lines (b : Block) : List Numbered := b.head :: b.body

def blocks : List Numbered → List Numbered × List Block
  | [] => ([], [])
  | l :: rest =>
    match Line.ofText l.2 with
    | .header h name => ([], ⟨l, h, name, (blocks rest).1⟩ :: (blocks rest).2)
    | _ => (l :: (blocks rest).1, (blocks rest).2)

def stepLineOf (l : Numbered) (word : StepWord) (text : List Char) (kind? : Option Kind) :
    StepLine :=
  ⟨word, String.ofList text, l.1, (leadingBlanks l.2).length, kind?, (trim l.2).length⟩

/-- The steps among the lines of a block; a continuation takes the kind of the step before it. -/
def stepsOf (last? : Option Kind) : List Numbered → List StepLine
  | [] => []
  | l :: rest =>
    match Line.ofText l.2 with
    | .step word text =>
      let kind? := word.kind?.orElse fun _ => last?
      stepLineOf l word text kind? :: stepsOf kind? rest
    | _ => stepsOf last? rest

/-- Steps without a scenario header form a scenario without a name, if there are any. -/
def unnamed? (rule? : Option Nat) (steps : List StepLine) : Option Scenario :=
  steps.head?.map fun first => ⟨"", first.line, none, rule?, steps⟩

namespace Header

def opensScenario : Header → Bool
  | background | scenarioOutline | scenarioTemplate | scenario | .example => true
  | _ => false

end Header

namespace Block

/-- The line of the rule that encloses a block, from that of the block before it. -/
def ruleAfter (b : Block) (rule? : Option Nat) : Option Nat :=
  match b.header with
  | .feature => none
  | .rule => some b.head.1
  | _ => rule?

def scenario? (b : Block) (rule? : Option Nat) : Option Scenario :=
  if b.header.opensExamples then none
  else if b.header.opensScenario then
    some ⟨String.ofList b.name, b.head.1, some b.header, rule?, stepsOf none b.body⟩
  else unnamed? rule? (stepsOf none b.body)

end Block

def scenariosOf (rule? : Option Nat) : List Block → List Scenario
  | [] => []
  | b :: rest =>
    (b.scenario? (b.ruleAfter rule?)).toList ++ scenariosOf (b.ruleAfter rule?) rest

namespace Progress

/-- The open scenario after the lines up to the next header. -/
def extended? (p : Progress) (lead : List Numbered) : Option Scenario :=
  if p.inExamples then p.open?
  else
    match p.open? with
    | some s => some { s with steps := s.steps ++ stepsOf p.lastKind? lead }
    | none => unnamed? p.rule? (stepsOf none lead)

def scenariosAfter (p : Progress) (lines : List Numbered) : List Scenario :=
  p.closed ++ (p.extended? (blocks lines).1).toList ++ scenariosOf p.rule? (blocks lines).2

@[simp] theorem scenariosAfter_nil (p : Progress) : p.scenariosAfter [] = p.scenarios := by
  unfold scenariosAfter extended? scenarios
  cases p.open? <;> simp [blocks, stepsOf, unnamed?, scenariosOf]

@[simp] theorem extended?_nil (p : Progress) : p.extended? [] = p.open? := by
  unfold extended?
  cases p.open? <;> simp [stepsOf, unnamed?]

theorem scenariosAfter_header {p p' : Progress} {line : Nat} {raw : List Char} {h : Header}
    {name : List Char} (hl : Line.ofText raw = .header h name)
    (hp : p.header line h name = .ok p') (rest : List Numbered) :
    p.scenariosAfter ((line, raw) :: rest) = p'.scenariosAfter rest := by
  have hb : blocks ((line, raw) :: rest) =
      ([], ⟨(line, raw), h, name, (blocks rest).1⟩ :: (blocks rest).2) := by
    simp [blocks, hl]
  unfold scenariosAfter
  rw [hb]
  simp only [extended?_nil, scenariosOf]
  unfold header at hp
  split at hp
  · -- a second feature header is a fault, so this is the first one
    split at hp
    · cases hp
    · cases hp
      simp [Block.scenario?, Block.ruleAfter, Header.opensExamples, Header.opensScenario,
        extended?, close, scenarios]
  · cases hp
    simp [Block.scenario?, Block.ruleAfter, Header.opensExamples, Header.opensScenario,
      extended?, close, scenarios]
  · cases hp
    simp [Block.scenario?, Block.ruleAfter, Header.opensExamples, extended?]
  · cases hp
    simp [Block.scenario?, Block.ruleAfter, Header.opensExamples, extended?]
  · cases hp
    cases h <;>
      simp_all [Block.scenario?, Block.ruleAfter, Header.opensExamples, Header.opensScenario,
        extended?, close, scenarios]

theorem scenariosAfter_step {p : Progress} {line : Nat} {raw : List Char} {word : StepWord}
    {text : List Char} (hl : Line.ofText raw = .step word text) (rest : List Numbered) :
    p.scenariosAfter ((line, raw) :: rest) =
      (if p.inExamples then p else p.step line raw word text).scenariosAfter rest := by
  have hb : blocks ((line, raw) :: rest) = ((line, raw) :: (blocks rest).1, (blocks rest).2) := by
    simp [blocks, hl]
  unfold scenariosAfter
  rw [hb]
  cases hx : p.inExamples with
  | true => simp [extended?, hx]
  | false =>
    cases ho : p.open? with
    | none => simp [extended?, step, hx, ho, stepsOf, hl, unnamed?, stepLineOf]
    | some s => simp [extended?, step, hx, ho, stepsOf, hl, stepLineOf]

theorem scenariosAfter_description {p : Progress} {line : Nat} {raw : List Char}
    (hl : Line.ofText raw = .description) (rest : List Numbered) :
    p.scenariosAfter ((line, raw) :: rest) = p.scenariosAfter rest := by
  have hb : blocks ((line, raw) :: rest) = ((line, raw) :: (blocks rest).1, (blocks rest).2) := by
    simp [blocks, hl]
  unfold scenariosAfter
  rw [hb]
  simp [extended?, stepsOf, hl]

theorem scenariosAfter_quote (p : Progress) (quote? : Option (List Char × Nat))
    (lines : List Numbered) :
    { p with quote? := quote? }.scenariosAfter lines = p.scenariosAfter lines := rfl

def mark? (p : Progress) : Option (List Char) := p.quote?.map (·.1)

theorem header_quote? {p p' : Progress} {line : Nat} {h : Header} {name : List Char}
    (hp : p.header line h name = .ok p') : p'.quote? = p.quote? := by
  unfold header at hp
  split at hp
  · split at hp
    · cases hp
    · cases hp; rfl
  all_goals cases hp; rfl

/-- Reading a line takes it off the visible lines that are still to come, if it is one of them. -/
theorem scenariosAfter_next {p p' : Progress} {line : Nat} {raw : List Char}
    (hn : p.next line raw = .ok p') (rest : List (List Char)) :
    p.scenariosAfter (visibleFrom p.mark? line (raw :: rest)) =
      p'.scenariosAfter (visibleFrom p'.mark? (line + 1) rest) := by
  unfold next at hn
  cases hq : p.quote? with
  | some quote =>
    obtain ⟨mark, opened⟩ := quote
    simp only [hq, isSome_dropLiteral?] at hn
    rw [show p.mark? = some mark by simp [mark?, hq], visibleFrom_quoted]
    split at hn
    · rename_i hm
      cases hn
      simp [hm, mark?, scenariosAfter_quote]
    · rename_i hm
      cases hn
      simp [hm, mark?, hq]
  | none =>
    simp only [hq] at hn
    rw [show p.mark? = none by simp [mark?, hq], visibleFrom_unquoted]
    cases hl : Line.ofText raw with
    | fence mark =>
      simp only [hl] at hn
      cases hn
      rfl
    | passedOver =>
      simp only [hl] at hn
      cases hn
      simp [mark?, hq]
    | header h name =>
      simp only [hl] at hn
      rw [show p'.mark? = none by simp [mark?, header_quote? hn, hq]]
      exact scenariosAfter_header hl hn _
    | step word text =>
      simp only [hl] at hn
      have hp : p' = if p.inExamples then p else p.step line raw word text := by
        split at hn <;> simp_all
      have hm : p'.mark? = none := by
        rw [hp]
        split <;> simp [mark?, step, hq]
      rw [hm, hp]
      exact scenariosAfter_step hl _
    | description =>
      simp only [hl] at hn
      cases hn
      rw [show p.mark? = none by simp [mark?, hq]]
      exact scenariosAfter_description hl _

theorem scenarios_readFrom {p p' : Progress} {line : Nat} {lines : List (List Char)}
    (hr : p.readFrom line lines = .ok p') :
    p'.scenarios = p.scenariosAfter (visibleFrom p.mark? line lines) := by
  induction lines generalizing p line with
  | nil =>
    cases hr
    exact (scenariosAfter_nil _).symm
  | cons raw rest ih =>
    unfold readFrom at hr
    split at hr
    · rename_i p₁ hn
      rw [scenariosAfter_next hn]
      exact ih hr
    · cases hr

end Progress

theorem scenarios_of_ofText {text uri : String} {f : Feature} (h : ofText text uri = .ok f) :
    f.scenarios = (unnamed? none (stepsOf none (blocks (visible text)).1)).toList ++
      scenariosOf none (blocks (visible text)).2 := by
  unfold ofText ofLines at h
  split at h
  · rename_i p hr
    have hs := Progress.scenarios_readFrom hr
    unfold Progress.finish at h
    split at h
    · cases h
    · cases h
      exact hs
  · cases h

/-! The cut at the headers loses nothing: the blocks hold the visible lines, their heads are the
headers among them and their bodies hold none. -/

theorem blocks_lines (lines : List Numbered) :
    (blocks lines).1 ++ (blocks lines).2.flatMap Block.lines = lines := by
  induction lines with
  | nil => rfl
  | cons l rest ih =>
    unfold blocks
    split
    · simpa [Block.lines] using ih
    · simpa using ih

theorem mem_iff_mem_blocks {lines : List Numbered} {l : Numbered} :
    l ∈ lines ↔ l ∈ (blocks lines).1 ∨ ∃ b ∈ (blocks lines).2, l = b.head ∨ l ∈ b.body := by
  have h : l ∈ lines ↔ l ∈ (blocks lines).1 ++ (blocks lines).2.flatMap Block.lines := by
    rw [blocks_lines]
  rw [h]
  simp [Block.lines]

theorem exists_eq_append_of_mem_blocks {lines : List Numbered} {b : Block}
    (hb : b ∈ (blocks lines).2) :
    ∃ before after, lines = before ++ b.head :: (b.body ++ after) := by
  obtain ⟨bs₁, bs₂, hbs⟩ := List.append_of_mem hb
  refine ⟨(blocks lines).1 ++ bs₁.flatMap Block.lines, bs₂.flatMap Block.lines, ?_⟩
  have hlines := blocks_lines lines
  rw [hbs] at hlines
  simpa [Block.lines] using hlines.symm

theorem heads_sublist (bs : List Block) :
    (bs.map (·.head)).Sublist (bs.flatMap Block.lines) := by
  induction bs with
  | nil => simp
  | cons b rest ih => exact (ih.trans (List.sublist_append_right _ _)).cons_cons _

theorem pairwise_heads {lines : List Numbered} (hs : lines.Pairwise (·.1 < ·.1)) :
    (blocks lines).2.Pairwise (·.head.1 < ·.head.1) := by
  have hsub : ((blocks lines).2.map (·.head)).Sublist lines := by
    have h := (heads_sublist (blocks lines).2).trans
      (List.sublist_append_right (blocks lines).1 _)
    rwa [blocks_lines] at h
  have hheads : ((blocks lines).2.map (·.head)).Pairwise (·.1 < ·.1) := hs.sublist hsub
  rwa [List.pairwise_map] at hheads

theorem eq_of_head_eq {lines : List Numbered} (hs : lines.Pairwise (·.1 < ·.1)) {b b' : Block}
    (hb : b ∈ (blocks lines).2) (hb' : b' ∈ (blocks lines).2) (h : b.head.1 = b'.head.1) :
    b = b' := by
  have hlt := (pairwise_heads hs).imp Nat.ne_of_lt
  exact List.inj_on_of_nodup_map (List.pairwise_map.mpr hlt) hb hb' h

theorem not_header_of_mem_lead {lines : List Numbered} {l : Numbered}
    (hl : l ∈ (blocks lines).1) (h : Header) (name : List Char) :
    Line.ofText l.2 ≠ .header h name := by
  induction lines with
  | nil => simp [blocks] at hl
  | cons x rest ih =>
    unfold blocks at hl
    split at hl
    · simp at hl
    · rename_i hx
      rcases List.mem_cons.mp hl with rfl | hl
      · exact hx h name
      · exact ih hl

theorem header_of_mem_blocks {lines : List Numbered} {b : Block} (hb : b ∈ (blocks lines).2) :
    Line.ofText b.head.2 = .header b.header b.name := by
  induction lines with
  | nil => simp [blocks] at hb
  | cons x rest ih =>
    unfold blocks at hb
    split at hb
    · rename_i h name hx
      rcases List.mem_cons.mp hb with rfl | hb
      · exact hx
      · exact ih hb
    · exact ih hb

theorem not_header_of_mem_body {lines : List Numbered} {b : Block} (hb : b ∈ (blocks lines).2)
    {l : Numbered} (hl : l ∈ b.body) (h : Header) (name : List Char) :
    Line.ofText l.2 ≠ .header h name := by
  induction lines with
  | nil => simp [blocks] at hb
  | cons x rest ih =>
    unfold blocks at hb
    split at hb
    · rcases List.mem_cons.mp hb with rfl | hb
      · exact not_header_of_mem_lead hl h name
      · exact ih hb
    · exact ih hb
end ScenarioCheck.Document
