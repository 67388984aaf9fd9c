import ScenarioCheck.Proofs.Document.Cursor
import ScenarioCheck.Proofs.Text.Respaced

/-! White space at the ends of the lines of a document. It does not matter, except behind a step word
with nothing else on its line: of several blanks the last one is taken for the text of a step. -/
namespace ScenarioCheck.Document

open Text (Blank Trimmed Respaced lineAt trim trimStart trimEnd leadingBlanks isBlank)

/-- There is a step word on the line and nothing else. -/
def IsBare (raw : List Char) : Prop := ∃ word ∈ StepWord.all, trim raw = word.word.toList

instance (raw : List Char) : Decidable (IsBare raw) :=
  inferInstanceAs (Decidable (∃ word ∈ StepWord.all, trim raw = word.word.toList))

/-- Without the white space around it, the line is the step word, white space and the text. -/
def SpellsStep (raw : List Char) (word : StepWord) (text : List Char) : Prop :=
  ∃ gap, Blank gap ∧ gap ≠ [] ∧ text ≠ [] ∧ Trimmed text ∧ trim raw = word.word.toList ++ gap ++ text

/-! Single lines. -/

section Line

variable {raw : List Char}

@[simp] theorem isBare_trimEnd : IsBare (trimEnd raw) ↔ IsBare raw := by
  unfold IsBare
  rw [Text.trim_trimEnd]

theorem not_isBare_nil : ¬IsBare [] := by
  decide

theorem isBare_iff {word : StepWord} {after : List Char}
    (hw : stepWordOf? raw = some (word, after)) : IsBare raw ↔ trim after = [] := by
  rw [Text.trim_eq_nil_iff, ← Text.trimEnd_eq_nil_iff]
  constructor
  · rintro ⟨other, -, htrim⟩
    rw [trim_eq_of_stepWordOf? hw] at htrim
    obtain rfl := StepWord.eq_of_starts ⟨_, htrim⟩
    simpa using htrim
  · intro hnil
    exact ⟨word, word.mem_all, by rw [trim_eq_of_stepWordOf? hw, hnil, List.append_nil]⟩

theorem IsBare.isVisible (h : IsBare raw) : IsVisible raw := by
  have hwords : ∀ word ∈ StepWord.all, fences.find? (·.isPrefixOf word.word.toList) = none ∧
      isPassedOver word.word.toList = false := by decide
  obtain ⟨word, hword, htrim⟩ := h
  obtain ⟨hfence, hpassed⟩ := hwords word hword
  exact ⟨htrim ▸ hfence, htrim ▸ hpassed⟩

theorem IsBare.exists_ofText_eq (h : IsBare raw) :
    ∃ word after, stepWordOf? raw = some (word, after) ∧
      Line.ofText raw = (stepText? after).elim .description (.step word) := by
  have ⟨word, _, htrim⟩ := h
  obtain ⟨back, -, hraw⟩ := Text.exists_trim_behind raw
  rw [htrim] at hraw
  have hw : stepWordOf? raw = some (word, back) := by
    rw [stepWordOf?_eq_some_iff, trimStart_eq_append_iff (head?_stepWord word)]
    exact ⟨_, Text.blank_leadingBlanks raw, hraw⟩
  refine ⟨word, back, hw, ?_⟩
  rw [h.isVisible.ofText_eq, headerOf?_eq_none_of_stepWordOf? hw, hw]
  cases ht : stepText? back <;> simp [ht]

theorem IsBare.ofText_eq (h : IsBare raw) :
    Line.ofText raw = .description ∨ ∃ word text, Line.ofText raw = .step word text := by
  obtain ⟨word, after, -, hl⟩ := h.exists_ofText_eq
  rw [hl]
  cases stepText? after with
  | none => exact .inl rfl
  | some text => exact .inr ⟨word, text, rfl⟩

theorem IsBare.ofText_of_short (h : IsBare raw) (hs : raw.length ≤ (trimEnd raw).length + 1) :
    Line.ofText raw = .description := by
  obtain ⟨word, after, hw, hl⟩ := h.exists_ofText_eq
  have hafter := (isBare_iff hw).mp h
  have htrim := trim_eq_of_stepWordOf? hw
  rw [Text.trimEnd_eq_nil_iff.mpr (Text.trim_eq_nil_iff.mp hafter), List.append_nil] at htrim
  have hlength : after.length ≤ 1 := by
    have hraw := congrArg List.length (Text.leadingBlanks_append_trimStart raw)
    rw [stepWordOf?_eq_some_iff.mp hw] at hraw
    rw [Text.trimEnd_eq_append h.isVisible.trim_ne_nil, htrim] at hs
    simp only [List.length_append] at hraw hs
    omega
  have hnone : stepText? after = none := by
    rw [Option.eq_none_iff_forall_ne_some]
    intro text ht
    obtain ⟨-, ⟨hne, rfl⟩ | ⟨-, htwo, -⟩⟩ := stepText?_eq_some_iff.mp ht
    · exact hne hafter
    · omega
  simp [hl, hnone]

theorem ofText_trimEnd (h : ¬IsBare raw) : Line.ofText (trimEnd raw) = Line.ofText raw := by
  unfold Line.ofText
  rw [Text.trim_trimEnd, headerOf?_trimEnd, stepWordOf?_trimEnd]
  cases hh : headerOf? raw with
  | some found => simp
  | none =>
    cases hw : stepWordOf? raw with
    | none => simp
    | some found =>
      have hafter : trim found.2 ≠ [] := mt (isBare_iff hw).mpr h
      simp [stepText?_trimEnd hafter]

theorem IsVisible.spellsStep_of_ofText (hv : IsVisible raw) (hb : ¬IsBare raw) {word : StepWord}
    {text : List Char} (hl : Line.ofText raw = .step word text) : SpellsStep raw word text := by
  obtain ⟨after, hw, ht⟩ := hv.stepText?_of_ofText hl
  have hafter : trim after ≠ [] := mt (isBare_iff hw).mpr hb
  obtain ⟨hgap, ⟨-, rfl⟩ | ⟨hnil, -⟩⟩ := stepText?_eq_some_iff.mp ht
  · refine ⟨_, Text.blank_leadingBlanks after, hgap, hafter, Text.trimmed_trim after, ?_⟩
    rw [trim_eq_of_stepWordOf? hw, Text.trimEnd_eq_append hafter, List.append_assoc]
  · exact absurd hnil hafter

theorem IsVisible.text_of_isBare (hv : IsVisible raw) (hb : IsBare raw) {word : StepWord}
    {text : List Char} (hl : Line.ofText raw = .step word text) :
    ∃ c ∈ raw.getLast?, isBlank c = true ∧ text = [c] := by
  obtain ⟨after, hw, ht⟩ := hv.stepText?_of_ofText hl
  have hafter := (isBare_iff hw).mp hb
  obtain ⟨-, ⟨hne, rfl⟩ | ⟨-, -, c, hc, rfl⟩⟩ := stepText?_eq_some_iff.mp ht
  · exact absurd hafter hne
  · obtain ⟨indent, -, rfl⟩ :=
      (trimStart_eq_append_iff (head?_stepWord word)).mp (stepWordOf?_eq_some_iff.mp hw)
    refine ⟨c, ?_, Text.trim_eq_nil_iff.mp hafter c (List.mem_of_getLast? hc), rfl⟩
    rw [List.getLast?_append, Option.mem_def.mp hc]
    rfl

end Line

namespace Progress

variable {p p' : Progress} {line : Nat} {raw : List Char}

/-! Reading one line. -/

theorem next_of_isBare (hb : IsBare raw) (hq : p.quote? = none) (hx : p.inExamples = true)
    (line : Nat) : p.next line raw = .ok p := by
  unfold next
  rcases hb.ofText_eq with hl | ⟨word, text, hl⟩ <;> simp [hq, hl, hx]

theorem step_trimEnd (h : trim raw ≠ []) (word : StepWord) (text : List Char) :
    p.step line (trimEnd raw) word text = p.step line raw word text := by
  unfold step
  rw [Text.leadingBlanks_trimEnd h, Text.trim_trimEnd]

theorem next_trimEnd (hb : p.quote? = none → p.inExamples = false → ¬IsBare raw) (line : Nat) :
    p.next line (trimEnd raw) = p.next line raw := by
  cases hq : p.quote? with
  | some quote => simp only [next, hq, Text.trim_trimEnd]
  | none =>
    by_cases hbare : IsBare raw
    · have hx : p.inExamples = true := by
        rw [← Bool.not_eq_false]
        exact fun hx => hb hq hx hbare
      rw [next_of_isBare hbare hq hx, next_of_isBare (isBare_trimEnd.mpr hbare) hq hx]
    · simp only [next, hq, ofText_trimEnd hbare]
      cases hl : Line.ofText raw with
      | step word text =>
        simp only [step_trimEnd (isVisible_of_step hl).trim_ne_nil]
      | _ => rfl

theorem next_nil (hm : ∀ quote ∈ p.quote?, quote.1 ∈ fences) (line : Nat) :
    p.next line [] = .ok p := by
  have hnone : ∀ mark ∈ fences, (dropLiteral? mark (trim [])).isSome = false := by decide
  have hl : Line.ofText [] = .passedOver := by decide
  unfold next
  cases hq : p.quote? with
  | none => simp [hl]
  | some quote => simp [hnone quote.1 (hm quote hq)]

theorem mark_mem_of_next (h : p.next line raw = .ok p')
    (hm : ∀ quote ∈ p.quote?, quote.1 ∈ fences) : ∀ quote ∈ p'.quote?, quote.1 ∈ fences := by
  cases reads_of_next h with
  | hidden _ quote? hmark =>
    intro quote hquote
    exact (hmark quote hquote).elim (hm quote) id
  | header _ _ _ hp => exact header_quote? hp ▸ hm
  | inExamples => exact hm
  | step => exact hm
  | description => exact hm

theorem mark_mem_of_readFrom {lines : List (List Char)} (h : p.readFrom line lines = .ok p')
    (hm : ∀ quote ∈ p.quote?, quote.1 ∈ fences) : ∀ quote ∈ p'.quote?, quote.1 ∈ fences := by
  induction lines generalizing p line with
  | nil =>
    cases h
    exact hm
  | cons raw rest ih =>
    unfold readFrom at h
    split at h
    · rename_i q hnext
      exact ih h (mark_mem_of_next hnext hm)
    · cases h

theorem inExamples_header {h : Header} {name : List Char} (hp : p.header line h name = .ok p') :
    p'.inExamples = h.opensExamples := by
  unfold header at hp
  split at hp
  · split at hp
    · cases hp
    · cases hp
      rfl
  all_goals
    cases hp
    simp_all [close, Header.opensExamples]

theorem elim_next_eq (hm : ∀ quote ∈ p.quote?, quote.1 ∈ fences) {lines : List (List Char)}
    {n : Nat} (hb : p.quote? = none → p.inExamples = false → ¬IsBare (lineAt lines n)) :
    lines[n]?.elim (.ok p) (p.next n) = p.next n (lineAt lines n) := by
  have hline : lineAt lines n = trimEnd (lines[n]?.getD []) := by
    rw [lineAt, List.getD_eq_getElem?_getD]
  rw [hline] at hb ⊢
  rw [next_trimEnd fun hq hx => mt isBare_trimEnd.mpr (hb hq hx)]
  cases lines[n]? with
  | none => exact (next_nil hm n).symm
  | some raw => rfl

end Progress

/-! Reading line by line. -/

theorem Reached.mark_mem {lines : List (List Char)} {n : Nat} {p : Progress}
    (h : Reached lines n p) : ∀ quote ∈ p.quote?, quote.1 ∈ fences :=
  Progress.mark_mem_of_readFrom h (by simp)

section Texts

variable {text text' : String} {n : Nat} {p : Progress}

theorem Reached.inExamples_of_nearest (h : Reached (Text.splitLines text.toList) n p)
    (hn : n ≤ (Text.splitLines text.toList).length) {m : Nat} {hd : Header}
    (hnear : Nearest (visible text) n m hd) (hx : hd.opensExamples = true) :
    p.inExamples = true := by
  induction n generalizing p with
  | zero => exact absurd hnear.2.1 (Nat.not_lt_zero m)
  | succ n ih =>
    obtain ⟨raw, hl⟩ : ∃ raw, (Text.splitLines text.toList)[n]? = some raw :=
      ⟨_, List.getElem?_eq_getElem hn⟩
    obtain ⟨q, hq, hnext⟩ := exists_reached_of_succ h hl
    obtain ⟨⟨raw', name, hm, hh⟩, hlt, hfree⟩ := hnear
    -- the header stands before the line that was read last, or on it
    rcases Nat.lt_succ_iff_lt_or_eq.mp hlt with hlt | rfl
    · have hin : q.inExamples = true := by
        refine ih hq (Nat.le_of_succ_le hn) ⟨⟨raw', name, hm, hh⟩, hlt, fun l hl hml hln => ?_⟩
        exact hfree l hl hml (Nat.lt_succ_of_lt hln)
      cases Progress.reads_of_next hnext with
      | hidden => exact hin
      | header hquote hv hraw =>
        -- the header would be nearer
        exact absurd (hv.ofText_eq_header_iff.mp hraw)
          (hfree (n, raw) (hq.mem_visible hl hquote hv) hlt (Nat.lt_succ_self n) _ _)
      | inExamples => exact hin
      | step _ _ _ hout =>
        rw [hin] at hout
        cases hout
      | description => exact hin
    · obtain rfl : raw = raw' := Option.some.inj (hl.symm.trans (getElem?_of_mem_visible hm))
      have hline := (isVisible_of_mem_visible _ hm).ofText_eq_header_iff.mpr hh
      simp only [Progress.next, hq.quote?_eq_none hm, hline] at hnext
      exact (Progress.inExamples_header hnext).trans hx

/-- White space behind bare lines is kept: outside tables of examples, a bare line stays as it is in
another text, or has one blank behind the word at most in both. -/
def BareKept (text text' : String) : Prop :=
  ∀ l ∈ visible text, IsBare l.2 →
    (∃ m h, Nearest (visible text) l.1 m h ∧ h.opensExamples = true) ∨
      ∃ raw, (Text.splitLines text'.toList)[l.1]? = some raw ∧
        (raw = l.2 ∨ l.2.length ≤ (trimEnd l.2).length + 1 ∧ raw.length ≤ (trimEnd raw).length + 1)

theorem elim_next_eq_of_bareKept (hbare : BareKept text text')
    (hlines : lineAt (Text.splitLines text.toList) = lineAt (Text.splitLines text'.toList))
    (hr : Reached (Text.splitLines text.toList) n p) (hq : p.quote? = none)
    (hx : p.inExamples = false) (hb : IsBare (lineAt (Text.splitLines text.toList) n)) :
    (Text.splitLines text.toList)[n]?.elim (.ok p) (p.next n) =
      (Text.splitLines text'.toList)[n]?.elim (.ok p) (p.next n) := by
  have hb' := hlines ▸ hb
  rw [lineAt, List.getD_eq_getElem?_getD, isBare_trimEnd] at hb hb'
  cases hl : (Text.splitLines text.toList)[n]? with
  | none =>
    rw [hl] at hb
    exact absurd hb not_isBare_nil
  | some raw =>
    rw [hl, Option.getD_some] at hb
    rcases hbare (n, raw) (hr.mem_visible hl hq hb.isVisible) hb with ⟨m, hd, hnear, ho⟩ |
      ⟨raw', hl', hkept⟩
    · have hn := (List.getElem?_eq_some_iff.mp hl).1.le
      rw [hr.inExamples_of_nearest hn hnear ho] at hx
      cases hx
    · rw [hl', Option.getD_some] at hb'
      rw [hl', Option.elim_some, Option.elim_some]
      rcases hkept with rfl | ⟨hshort, hshort'⟩
      · rfl
      · simp only [Progress.next, hq, hb.ofText_of_short hshort, hb'.ofText_of_short hshort']

theorem readFrom_take_respaced (hbare : BareKept text text')
    (hlines : lineAt (Text.splitLines text.toList) = lineAt (Text.splitLines text'.toList))
    (n : Nat) : ({} : Progress).readFrom 0 ((Text.splitLines text.toList).take n) =
      ({} : Progress).readFrom 0 ((Text.splitLines text'.toList).take n) := by
  -- after as many lines the same is known of both texts, so the next line has to be read alike
  induction n with
  | zero => rfl
  | succ n ih =>
    rw [Progress.readFrom_take_succ, Progress.readFrom_take_succ, ← ih]
    cases hp : ({} : Progress).readFrom 0 ((Text.splitLines text.toList).take n) with
    | error fault => rfl
    | ok p =>
      have hr : Reached (Text.splitLines text.toList) n p := hp
      by_cases hb : p.quote? = none ∧ p.inExamples = false ∧
          IsBare (lineAt (Text.splitLines text.toList) n)
      · exact elim_next_eq_of_bareKept hbare hlines hr hb.1 hb.2.1 hb.2.2
      · have hother (hq : p.quote? = none) (hx : p.inExamples = false) :
            ¬IsBare (lineAt (Text.splitLines text.toList) n) := fun h => hb ⟨hq, hx, h⟩
        have hown := Progress.elim_next_eq hr.mark_mem hother
        rw [hlines] at hother hown
        exact hown.trans (Progress.elim_next_eq hr.mark_mem hother).symm

theorem ofText_eq_of_respaced (h : Respaced text.toList text'.toList)
    (hbare : BareKept text text') (uri : String) : ofText text' uri = ofText text uri := by
  have hread := readFrom_take_respaced hbare h.lineAt_eq
    (max (Text.splitLines text.toList).length (Text.splitLines text'.toList).length)
  rw [List.take_of_length_le (Nat.le_max_left _ _), List.take_of_length_le (Nat.le_max_right _ _)]
    at hread
  unfold ofText ofLines
  rw [hread]

end Texts

/-- A recorded step is spelled on its line. A bare line is an exception, its last blank is taken for
the text. So white space at the ends of lines does not matter as long as it stays as it is on the
bare lines outside tables of examples. -/
theorem ofText_respaced (text uri : String) :
    (∀ f, ofText text uri = .ok f → ∀ s ∈ f.steps, ∃ raw, (s.line, raw) ∈ visible text ∧
      (¬IsBare raw → SpellsStep raw s.word s.text.toList) ∧
        (IsBare raw → ∃ c ∈ raw.getLast?, isBlank c = true ∧ s.text.toList = [c])) ∧
      ∀ text', Respaced text.toList text'.toList → BareKept text text' →
        ofText text' uri = ofText text uri := by
  refine ⟨fun f hf s hs => ?_, fun text' h hbare => ofText_eq_of_respaced h hbare uri⟩
  obtain ⟨raw, p, hl, hr, hrec⟩ := (mem_steps_iff_recorded hf).mp hs
  obtain ⟨word, t, hq, -, hline, hstep⟩ := Progress.recorded?_eq_some hrec
  have hv := isVisible_of_step hline
  have hword : s.word = word := congrArg StepLine.word hstep
  have htext : s.text = String.ofList t := congrArg StepLine.text hstep
  rw [hword, htext, String.toList_ofList]
  exact ⟨raw, hr.mem_visible hl hq hv, fun hb => hv.spellsStep_of_ofText hb hline,
    fun hb => hv.text_of_isBare hb hline⟩

theorem ofText_respaced_examples :
    Respaced "Given a\nExamples:\nWhen".toList "Given a \nExamples:\nWhen ".toList ∧
      BareKept "Given a\nExamples:\nWhen" "Given a \nExamples:\nWhen " ∧
        ofText "Given a \nExamples:\nWhen " = ofText "Given a\nExamples:\nWhen" := by
  have hstep : Respaced "Given a\nExamples:\nWhen".toList "Given a \nExamples:\nWhen".toList :=
    .of_eq (show _ = "Given a".toList ++ "\nExamples:\nWhen".toList by decide)
      (show _ = "Given a".toList ++ ' ' :: "\nExamples:\nWhen".toList by decide)
      (by decide) (by decide) (by decide) (by decide)
  have htable : Respaced "Given a \nExamples:\nWhen".toList "Given a \nExamples:\nWhen ".toList :=
    .of_eq (show _ = "Given a \nExamples:\nWhen".toList ++ [] by decide)
      (show _ = "Given a \nExamples:\nWhen".toList ++ [' '] by decide)
      (by decide) (by decide) (by decide) (by decide)
  have hvisible : visible "Given a\nExamples:\nWhen" =
      [(0, "Given a".toList), (1, "Examples:".toList), (2, "When".toList)] := by decide +kernel
  have hheader : IsHeader "Examples:".toList .examples [] :=
    isHeader_iff.mpr ⟨[], by decide, by decide⟩
  have hkept : BareKept "Given a\nExamples:\nWhen" "Given a \nExamples:\nWhen " := by
    intro l hl hb
    rw [hvisible] at hl ⊢
    have hlast : l = (2, "When".toList) := by
      simp only [List.mem_cons, List.not_mem_nil, or_false] at hl
      rcases hl with rfl | rfl | rfl
      · exact absurd hb (by decide)
      · exact absurd hb (by decide)
      · rfl
    subst hlast
    refine .inl ⟨1, .examples, ⟨⟨_, [], by simp, hheader⟩, by decide, ?_⟩, rfl⟩
    intro l _ hlt hgt
    exact absurd hlt (Nat.not_lt.mpr (Nat.lt_succ_iff.mp hgt))
  have hrespaced := Relation.EqvGen.trans _ _ _ hstep htable
  exact ⟨hrespaced, hkept, (ofText_respaced _ "").2 _ hrespaced hkept⟩

/-- Behind a bare line outside tables of examples white space does matter: with one blank the line is
no step, with two it is one, and no line spells a step with that text. -/
theorem ofText_blank_step :
    Respaced "Given ".toList "Given  ".toList ∧
      (ofText "Given ").toOption.map (·.steps) = some [] ∧
        (ofText "Given  ").toOption.map (·.steps) =
          some [⟨.primary .given, " ", 0, 0, some .given, 5⟩] ∧
        ∀ raw, ¬SpellsStep raw (.primary .given) [' '] := by
  refine ⟨?_, by decide +kernel, by decide +kernel, ?_⟩
  · exact .of_eq (show _ = "Given ".toList ++ [] by decide)
      (show _ = "Given ".toList ++ [' '] by decide) (by decide) (by decide) (by decide) (by decide)
  · rintro raw ⟨gap, -, -, -, ht, -⟩
    exact absurd (ht.1 ' ' rfl) (by decide)

end ScenarioCheck.Document
