import ScenarioCheck.Proofs.Document.Recorded

/-! Reading a document line by line: what is known before each line, what the line does to it, and
which step it records. -/
namespace ScenarioCheck.Document

open Step (Kind)
open Text (trim leadingBlanks)

def Reached (lines : List (List Char)) (n : Nat) (p : Progress) : Prop :=
  ({} : Progress).readFrom 0 (lines.take n) = .ok p

theorem isVisible_iff {raw : List Char} :
    IsVisible raw ↔ (∀ mark, Line.ofText raw ≠ .fence mark) ∧ Line.ofText raw ≠ .passedOver := by
  cases hf : fences.find? (·.isPrefixOf (Text.trim raw)) with
  | some mark =>
    have hl := ofText_of_fence hf
    constructor
    · intro hv
      rw [hv.noFence] at hf
      cases hf
    · rintro ⟨h, -⟩
      exact absurd hl (h mark)
  | none =>
    constructor
    · intro hv
      rw [hv.ofText_eq]
      grind
    · rintro ⟨-, h⟩
      refine ⟨hf, ?_⟩
      rw [← Bool.not_eq_true]
      intro hp
      exact h (ofText_of_passedOver hf hp)

theorem isVisible_of_step {raw text : List Char} {word : StepWord}
    (hl : Line.ofText raw = .step word text) : IsVisible raw :=
  isVisible_iff.mpr (by simp [hl])

/-- The columns of a step are those of the line without surrounding white space, which starts with
the step word. -/
structure StepLine.StandsOn (s : StepLine) (raw : List Char) : Prop where
  column_le : s.column ≤ s.endColumn
  endColumn_le : s.endColumn ≤ raw.length
  slice_eq : (raw.take s.endColumn).drop s.column = trim raw
  word_prefix : s.word.word.toList <+: trim raw

theorem standsOn_stepLineOf {raw text : List Char} {word : StepWord} (line : Nat)
    (kind? : Option Kind) (hl : Line.ofText raw = .step word text) :
    (stepLineOf (line, raw) word text kind?).StandsOn raw := by
  obtain ⟨back, -, hraw⟩ := Text.exists_trim_behind raw
  have hend : (stepLineOf (line, raw) word text kind?).endColumn =
      (leadingBlanks raw ++ trim raw).length := by
    rw [List.length_append]
    rfl
  constructor
  · exact Nat.le_add_right _ _
  · have hlength := congrArg List.length hraw
    rw [List.length_append, ← hend] at hlength
    omega
  · have htake := List.prefix_iff_eq_take.mp ⟨back, hraw.symm⟩
    rw [hend, ← htake]
    exact List.drop_left
  · obtain ⟨after, hw, -⟩ := isStep_iff.mp ⟨text, (isVisible_of_step hl).isStep_of_ofText hl⟩
    rw [trim_eq_of_stepWordOf? hw]
    exact List.prefix_append _ _

theorem mark_mem_fences {raw mark : List Char} (hl : Line.ofText raw = .fence mark) :
    mark ∈ fences := by
  cases hf : fences.find? (·.isPrefixOf (trim raw)) with
  | some found =>
    rw [ofText_of_fence hf] at hl
    cases hl
    exact List.mem_of_find?_eq_some hf
  | none =>
    cases hp : isPassedOver (trim raw) with
    | true =>
      rw [ofText_of_passedOver hf hp] at hl
      cases hl
    | false => exact absurd hl ((isVisible_iff.mp ⟨hf, hp⟩).1 mark)

namespace Progress

def last? (p : Progress) : Option Kind := if p.open?.isSome then p.lastKind? else none

/-- The kind of the step before, as long as steps are read. -/
def current? (p : Progress) : Option Kind := if p.inExamples then none else p.last?

def steps (p : Progress) : List StepLine := p.scenarios.flatMap (·.steps)

def recorded? (p : Progress) (line : Nat) (raw : List Char) : Option StepLine :=
  match p.quote?, Line.ofText raw with
  | none, .step word text =>
    if p.inExamples then none
    else some (stepLineOf (line, raw) word text (word.kind?.orElse fun _ => p.last?))
  | _, _ => none

/-- What a line does: those inside quoted text and those that are not visible count for nothing
but quoting, and of the others headers and steps outside examples count. -/
inductive Reads (p : Progress) (line : Nat) (raw : List Char) : Progress → Prop
  | hidden (h : p.quote? ≠ none ∨ ¬IsVisible raw) (quote? : Option (List Char × Nat))
    (hmark : ∀ quote ∈ quote?, quote ∈ p.quote? ∨ quote.1 ∈ fences) :
    Reads p line raw { p with quote? }
  | header {h : Header} {name : List Char} {p' : Progress} (hq : p.quote? = none)
    (hv : IsVisible raw) (hl : Line.ofText raw = .header h name)
    (hp : p.header line h name = .ok p') : Reads p line raw p'
  | inExamples {word : StepWord} {text : List Char} (hq : p.quote? = none) (hv : IsVisible raw)
    (hl : Line.ofText raw = .step word text) (hx : p.inExamples = true) : Reads p line raw p
  | step {word : StepWord} {text : List Char} (hq : p.quote? = none) (hv : IsVisible raw)
    (hl : Line.ofText raw = .step word text) (hx : p.inExamples = false) :
    Reads p line raw (p.step line raw word text)
  | description (hq : p.quote? = none) (hv : IsVisible raw)
    (hl : Line.ofText raw = .description) : Reads p line raw p

theorem reads_of_next {p p' : Progress} {line : Nat} {raw : List Char}
    (h : p.next line raw = .ok p') : p.Reads line raw p' := by
  unfold next at h
  cases hq : p.quote? with
  | some quote =>
    have hidden : p.quote? ≠ none ∨ ¬IsVisible raw := .inl (by simp [hq])
    simp only [hq] at h
    split at h
    · cases h
      exact .hidden hidden none (by simp)
    · cases h
      exact .hidden hidden p.quote? fun _ => .inl
  | none =>
    simp only [hq] at h
    cases hl : Line.ofText raw with
    | fence mark =>
      simp only [hl] at h
      cases h
      exact .hidden (.inr fun hv => (isVisible_iff.mp hv).1 mark hl) _ (by simp [mark_mem_fences hl])
    | passedOver =>
      simp only [hl] at h
      cases h
      exact .hidden (.inr fun hv => (isVisible_iff.mp hv).2 hl) p.quote? fun _ => .inl
    | header hd name =>
      simp only [hl] at h
      exact .header hq (isVisible_iff.mpr (by simp [hl])) hl h
    | step word text =>
      have hv := isVisible_of_step hl
      simp only [hl] at h
      split at h
      · cases h
        exact .inExamples hq hv hl ‹_›
      · cases h
        exact .step hq hv hl (by simp_all)
    | description =>
      simp only [hl] at h
      cases h
      exact .description hq (isVisible_iff.mpr (by simp [hl])) hl

@[simp] theorem recorded?_eq_none_of_hidden {p : Progress} {line : Nat} {raw : List Char}
    (h : p.quote? ≠ none ∨ ¬IsVisible raw) : p.recorded? line raw = none := by
  unfold recorded?
  split
  · rename_i hq hl
    rcases h with h | h
    · exact absurd hq h
    · exact absurd (isVisible_of_step hl) h
  · rfl

theorem recorded?_eq_some {p : Progress} {line : Nat} {raw : List Char} {s : StepLine}
    (h : p.recorded? line raw = some s) : ∃ word text, p.quote? = none ∧ p.inExamples = false ∧
      Line.ofText raw = .step word text ∧
      s = stepLineOf (line, raw) word text (word.kind?.orElse fun _ => p.last?) := by
  unfold recorded? at h
  split at h
  · rename_i word text hq hl
    split at h
    · cases h
    · cases h
      exact ⟨word, text, hq, by simp_all, hl, rfl⟩
  · cases h

theorem line_of_recorded {p : Progress} {line : Nat} {raw : List Char} {s : StepLine}
    (h : p.recorded? line raw = some s) : s.line = line := by
  obtain ⟨word, text, -, -, -, rfl⟩ := recorded?_eq_some h
  rfl

theorem standsOn_of_recorded {p : Progress} {line : Nat} {raw : List Char} {s : StepLine}
    (h : p.recorded? line raw = some s) : s.StandsOn raw := by
  obtain ⟨word, text, -, -, hl, rfl⟩ := recorded?_eq_some h
  exact standsOn_stepLineOf line _ hl

theorem steps_header {p p' : Progress} {line : Nat} {h : Header} {name : List Char}
    (hp : p.header line h name = .ok p') : p'.steps = p.steps := by
  unfold header at hp
  split at hp
  · split at hp
    · cases hp
    · cases hp
      simp [steps, scenarios, close]
  all_goals
    cases hp
    simp [steps, scenarios, close]

@[simp] theorem steps_step (p : Progress) (line : Nat) (raw : List Char) (word : StepWord)
    (text : List Char) : (p.step line raw word text).steps =
      p.steps ++ [stepLineOf (line, raw) word text (word.kind?.orElse fun _ => p.last?)] := by
  cases ho : p.open? with
  | none => simp [steps, scenarios, step, last?, ho, stepLineOf]
  | some c => simp [steps, scenarios, step, last?, ho, stepLineOf]

theorem steps_next {p p' : Progress} {line : Nat} {raw : List Char}
    (h : p.next line raw = .ok p') : p'.steps = p.steps ++ (p.recorded? line raw).toList := by
  cases reads_of_next h with
  | hidden hh quote? _ =>
    rw [recorded?_eq_none_of_hidden hh]
    simp [steps, scenarios]
  | header hq hv hl hp => simp [steps_header hp, recorded?, hl]
  | inExamples hq hv hl hx => simp [recorded?, hl, hx, hq]
  | step hq hv hl hx => simp [recorded?, hl, hx, hq]
  | description hq hv hl => simp [recorded?, hl]

@[simp] theorem readFrom_append (p : Progress) (line : Nat) (xs ys : List (List Char)) :
    p.readFrom line (xs ++ ys) =
      (p.readFrom line xs).bind fun q => q.readFrom (line + xs.length) ys := by
  induction xs generalizing p line with
  | nil => rfl
  | cons raw rest ih =>
    rw [List.cons_append, readFrom, readFrom]
    cases p.next line raw with
    | error fault => rfl
    | ok q =>
      simp only [ih, List.length_cons]
      rw [Nat.add_right_comm, Nat.add_assoc]

theorem readFrom_take_succ (p : Progress) (lines : List (List Char)) (n : Nat) :
    p.readFrom 0 (lines.take (n + 1)) =
      (p.readFrom 0 (lines.take n)).bind fun q => lines[n]?.elim (.ok q) (q.next n) := by
  rw [List.take_add_one, readFrom_append]
  cases hl : lines[n]? with
  | none => rfl
  | some raw =>
    have hlt := (List.getElem?_eq_some_iff.mp hl).1
    rw [List.length_take_of_le hlt.le, Nat.zero_add, Option.toList_some]
    congr 1
    funext q
    rw [readFrom]
    cases hnext : q.next n raw <;> simp [hnext, readFrom]

theorem visibleFrom_next {p p' : Progress} {line : Nat} {raw : List Char}
    (h : p.next line raw = .ok p') (rest : List (List Char)) :
    visibleFrom p.mark? line (raw :: rest) = visibleFrom p'.mark? (line + 1) rest ∨
      visibleFrom p.mark? line (raw :: rest) =
        (line, raw) :: visibleFrom p'.mark? (line + 1) rest := by
  unfold next at h
  cases hq : p.quote? with
  | some quote =>
    obtain ⟨mark, opened⟩ := quote
    simp only [hq, isSome_dropLiteral?] at h
    rw [show p.mark? = some mark by simp [mark?, hq], visibleFrom_quoted]
    split at h
    · rename_i hmark
      cases h
      rw [if_pos hmark]
      exact .inl rfl
    · rename_i hmark
      cases h
      rw [if_neg hmark, show p.mark? = some mark by simp [mark?, hq]]
      exact .inl rfl
  | none =>
    have hmark : p.mark? = none := by simp [mark?, hq]
    simp only [hq] at h
    rw [hmark, visibleFrom_unquoted]
    have own {p₁ : Progress} (hp : p₁.quote? = none) : p₁.mark? = none := by simp [mark?, hp]
    cases hl : Line.ofText raw with
    | fence mark =>
      simp only [hl] at h
      cases h
      exact .inl rfl
    | passedOver =>
      simp only [hl] at h
      cases h
      rw [hmark]
      exact .inl rfl
    | header hd name =>
      simp only [hl] at h
      rw [own ((header_quote? h).trans hq)]
      exact .inr rfl
    | step word text =>
      simp only [hl] at h
      split at h
      · cases h
        rw [hmark]
        exact .inr rfl
      · cases h
        rw [show (p.step line raw word text).mark? = none from own hq]
        exact .inr rfl
    | description =>
      simp only [hl] at h
      cases h
      rw [hmark]
      exact .inr rfl

theorem mem_visibleFrom_next {p p' : Progress} {line : Nat} {raw : List Char}
    (h : p.next line raw = .ok p') {rest : List (List Char)} {l : Numbered}
    (hm : l ∈ visibleFrom p.mark? line (raw :: rest)) :
    l.1 = line ∨ l ∈ visibleFrom p'.mark? (line + 1) rest := by
  rcases visibleFrom_next h rest with hrest | hrest
  · exact .inr (hrest ▸ hm)
  · rcases List.mem_cons.mp (hrest ▸ hm) with rfl | hm
    · exact .inl rfl
    · exact .inr hm

theorem visibleFrom_subset {p q : Progress} {line : Nat} {passed : List (List Char)}
    (h : p.readFrom line passed = .ok q) (rest : List (List Char)) :
    visibleFrom q.mark? (line + passed.length) rest ⊆
      visibleFrom p.mark? line (passed ++ rest) := by
  induction passed generalizing p line with
  | nil =>
    cases h
    exact List.Subset.refl _
  | cons raw passed ih =>
    unfold readFrom at h
    split at h
    · rename_i p' hnext
      have hlater := ih h
      rw [Nat.add_assoc, Nat.add_comm 1] at hlater
      rw [List.cons_append, List.length_cons]
      rcases visibleFrom_next hnext (passed ++ rest) with hrest | hrest
      · rw [hrest]
        exact hlater
      · rw [hrest]
        exact List.subset_cons_of_subset _ hlater
    · cases h

theorem quote?_of_mem_visibleFrom {p q : Progress} {line n : Nat} {lines : List (List Char)}
    {raw : List Char} (hm : (line + n, raw) ∈ visibleFrom p.mark? line lines)
    (hr : p.readFrom line (lines.take n) = .ok q) : q.quote? = none := by
  induction lines generalizing p line n with
  | nil => simp [visibleFrom, outsideQuotes] at hm
  | cons first rest ih =>
    cases n with
    | zero =>
      cases hr
      cases hq : q.quote? with
      | none => rfl
      | some quote =>
        -- a line inside quoted text is not visible
        rw [show q.mark? = some quote.1 by simp [mark?, hq], visibleFrom_quoted] at hm
        have hlt := lt_of_mem_outsideQuotes (List.mem_of_mem_filter hm)
        exact absurd hlt (by simp)
    | succ n =>
      rw [List.take_succ_cons, readFrom] at hr
      split at hr
      · rename_i p' hp
        rcases mem_visibleFrom_next hp hm with hline | hm
        · simp at hline
        · rw [Nat.add_comm n 1, ← Nat.add_assoc] at hm
          exact ih hm hr
      · cases hr

end Progress

section Reached

variable {text uri : String} {f : Feature} {lines : List (List Char)} {n : Nat} {p p' : Progress}

theorem Reached.unique (h : Reached lines n p) (h' : Reached lines n p') : p = p' := by
  unfold Reached at h h'
  rw [h] at h'
  exact Except.ok.inj h'

theorem Reached.quote?_eq_none (h : Reached (Text.splitLines text.toList) n p)
    {raw : List Char} (hm : (n, raw) ∈ visible text) : p.quote? = none := by
  have hm' : (0 + n, raw) ∈ visibleFrom ({} : Progress).mark? 0 (Text.splitLines text.toList) := by
    rwa [Nat.zero_add]
  exact Progress.quote?_of_mem_visibleFrom hm' h

theorem Reached.mem_visible (h : Reached (Text.splitLines text.toList) n p) {raw : List Char}
    (hl : (Text.splitLines text.toList)[n]? = some raw) (hq : p.quote? = none)
    (hv : IsVisible raw) : (n, raw) ∈ visible text := by
  obtain ⟨hlt, hget⟩ := List.getElem?_eq_some_iff.mp hl
  have hsub := Progress.visibleFrom_subset h (List.drop n (Text.splitLines text.toList))
  rw [List.take_append_drop, List.length_take_of_le hlt.le, Nat.zero_add,
    List.drop_eq_getElem_cons hlt, hget, show p.mark? = none by simp [Progress.mark?, hq],
    visibleFrom_unquoted] at hsub
  apply hsub
  obtain ⟨hfence, hpassed⟩ := isVisible_iff.mp hv
  split
  · rename_i mark hl
    exact absurd hl (hfence mark)
  · rename_i hl
    exact absurd hl hpassed
  · exact List.mem_cons_self

theorem exists_reached_of_succ (h : Reached lines (n + 1) p') {raw : List Char}
    (hl : lines[n]? = some raw) : ∃ p, Reached lines n p ∧ p.next n raw = .ok p' := by
  unfold Reached at h
  rw [Progress.readFrom_take_succ, hl] at h
  cases hp : ({} : Progress).readFrom 0 (lines.take n) with
  | error fault =>
    rw [hp] at h
    cases h
  | ok p =>
    rw [hp] at h
    exact ⟨p, hp, h⟩

theorem mem_steps_of_reached (h : Reached lines n p') (hn : n ≤ lines.length) {s : StepLine} :
    s ∈ p'.steps ↔ ∃ m raw p, m < n ∧ lines[m]? = some raw ∧ Reached lines m p ∧
      p.recorded? m raw = some s := by
  induction n generalizing p' with
  | zero =>
    cases h
    simp [Progress.steps, Progress.scenarios]
  | succ n ih =>
    obtain ⟨raw, hl⟩ : ∃ raw, lines[n]? = some raw := ⟨lines[n], List.getElem?_eq_getElem hn⟩
    obtain ⟨p, hp, hnext⟩ := exists_reached_of_succ h hl
    rw [Progress.steps_next hnext, List.mem_append, ih hp (Nat.le_of_succ_le hn),
      Option.mem_toList]
    constructor
    · rintro (⟨m, raw, q, hm, found⟩ | hs)
      · exact ⟨m, raw, q, Nat.lt_succ_of_lt hm, found⟩
      · exact ⟨n, raw, p, Nat.lt_succ_self n, hl, hp, hs⟩
    · rintro ⟨m, raw', q, hm, hl', hq, hs⟩
      rcases Nat.lt_succ_iff_lt_or_eq.mp hm with hm | rfl
      · exact .inl ⟨m, raw', q, hm, hl', hq, hs⟩
      · obtain rfl := hq.unique hp
        rw [hl] at hl'
        obtain rfl := Option.some.inj hl'
        exact .inr hs

section Document

variable (hf : ofText text uri = .ok f)
include hf

theorem exists_reached_of_ofText :
    ∃ p, Reached (Text.splitLines text.toList) (Text.splitLines text.toList).length p ∧
      f.steps = p.steps := by
  unfold ofText ofLines at hf
  split at hf
  · rename_i p hp
    refine ⟨p, by rwa [Reached, List.take_length], ?_⟩
    unfold Progress.finish at hf
    split at hf
    · cases hf
    · cases hf
      rfl
  · cases hf

theorem exists_reached (n : Nat) : ∃ p, Reached (Text.splitLines text.toList) n p := by
  obtain ⟨p, hp, -⟩ := exists_reached_of_ofText hf
  rw [Reached, List.take_length] at hp
  rw [← List.take_append_drop n (Text.splitLines text.toList), Progress.readFrom_append] at hp
  unfold Reached
  cases hq : ({} : Progress).readFrom 0 ((Text.splitLines text.toList).take n) with
  | error fault =>
    rw [hq] at hp
    cases hp
  | ok q => exact ⟨q, rfl⟩

theorem mem_steps_iff_recorded {s : StepLine} : s ∈ f.steps ↔
    ∃ raw p, (Text.splitLines text.toList)[s.line]? = some raw ∧
      Reached (Text.splitLines text.toList) s.line p ∧ p.recorded? s.line raw = some s := by
  obtain ⟨p', hp', hsteps⟩ := exists_reached_of_ofText hf
  rw [hsteps, mem_steps_of_reached hp' (Nat.le_refl _)]
  constructor
  · rintro ⟨m, raw, p, -, hl, hp, hs⟩
    obtain rfl := Progress.line_of_recorded hs
    exact ⟨raw, p, hl, hp, hs⟩
  · rintro ⟨raw, p, hl, hp, hs⟩
    exact ⟨s.line, raw, p, (List.getElem?_eq_some_iff.mp hl).1, hl, hp, hs⟩

theorem standsOn_of_mem_steps {s : StepLine} (hs : s ∈ f.steps) :
    ∃ raw, (Text.splitLines text.toList)[s.line]? = some raw ∧ s.StandsOn raw := by
  obtain ⟨raw, p, hl, -, hrec⟩ := (mem_steps_iff_recorded hf).mp hs
  exact ⟨raw, hl, Progress.standsOn_of_recorded hrec⟩

end Document
end Reached
end ScenarioCheck.Document
