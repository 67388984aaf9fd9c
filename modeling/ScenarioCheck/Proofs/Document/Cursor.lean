import ScenarioCheck.Document.Cursor
import ScenarioCheck.Proofs.Document.Faithful
import ScenarioCheck.Proofs.Document.Reached
import ScenarioCheck.Proofs.Text.Lines

/-! The kind of a step found from a cursor. A cursor looks at single lines and goes backwards, so it
finds the kind that splitting the document gives as long as both take the lines in between for the
same: inside quoted text and tables of examples, and where nothing follows a step word, they may
not. -/
namespace ScenarioCheck.Document

open Step (Kind)
open Text (Blank Trimmed trim trimStart trimEnd leadingBlanks)

/-! What a cursor makes of a single line. -/

section Line

variable {raw : List Char}

theorem singleLine?_eq {text : List Char} (h : '\n' ∉ text) : singleLine? text = some text := by
  have hall : ∀ c ∈ text, decide (c ≠ '\n') = true :=
    fun c hc => decide_eq_true fun heq => h (heq ▸ hc)
  unfold singleLine?
  rw [List.dropWhile_eq_nil_iff.mpr hall, List.takeWhile_eq_self_iff.mpr hall]

theorem ofLine?_append {indent after : List Char} (hi : Blank indent) (word : StepWord)
    (hb : leadingBlanks after ≠ []) (hn : '\n' ∉ after) : ∃ column,
      Typed.ofLine? (indent ++ word.word.toList ++ after) =
        some ⟨word, trimStart after, column⟩ := by
  have hword : stepWordOf? (indent ++ word.word.toList ++ after) = some (word, after) :=
    stepWordOf?_eq_some_iff.mpr
      ((trimStart_eq_append_iff (head?_stepWord word)).mpr ⟨indent, hi, rfl⟩)
  have hblanks : (leadingBlanks after).isEmpty = false := by simpa using hb
  have htext : '\n' ∉ trimStart after := fun h => hn (List.dropWhile_subset _ h)
  unfold Typed.ofLine?
  simp only [hword, Option.bind_eq_bind, Option.bind_some, hblanks, Bool.false_eq_true, if_false,
    singleLine?_eq htext]
  exact ⟨_, rfl⟩

theorem leadingBlanks_ne_nil {gap : List Char} (hg : Blank gap) (hne : gap ≠ [])
    (rest : List Char) : leadingBlanks (gap ++ rest) ≠ [] := by
  obtain ⟨c, gap, rfl⟩ := List.exists_cons_of_ne_nil hne
  simp [leadingBlanks, hg c (by simp)]

theorem exists_ofLine?_of_isStep {word : StepWord} {text : List Char} (h : IsStep raw word text)
    (hn : '\n' ∉ raw) : ∃ t, Typed.ofLine? raw = some t ∧ t.word = word := by
  obtain ⟨indent, gap, tail, hi, hg, -, hne, -, rfl⟩ := h
  rw [List.append_assoc, List.append_assoc] at hn ⊢
  obtain ⟨column, ht⟩ := ofLine?_append hi word (leadingBlanks_ne_nil hg hne (text ++ tail))
    fun h => hn (List.mem_append_right _ h)
  exact ⟨_, ht, rfl⟩

theorem ofLine?_trimEnd {word : StepWord} {text : List Char} (h : IsStep raw word text)
    (ht : Trimmed text) (hn : '\n' ∉ raw) :
    ∃ column, Typed.ofLine? (trimEnd raw) = some ⟨word, text, column⟩ := by
  obtain ⟨indent, gap, tail, hi, hg, htl, hne, htne, rfl⟩ := h
  have hend : trimEnd (indent ++ word.word.toList ++ gap ++ text ++ tail) =
      indent ++ word.word.toList ++ (gap ++ text) := by
    rw [Text.trimEnd_append htl, List.append_assoc _ gap text]
    rw [List.getLast?_append_of_ne_nil _ htne]
    exact ht.2
  obtain ⟨column, hl⟩ := ofLine?_append hi word (leadingBlanks_ne_nil hg hne text)
    fun h => hn (by rcases List.mem_append.mp h with h | h <;> simp [h])
  rw [Text.trimStart_append hg ht.1, ← hend] at hl
  exact ⟨column, hl⟩

theorem isHeader_eq_true_iff (hn : '\n' ∉ raw) :
    isHeader raw = true ↔ ∃ h name, IsHeader raw h name := by
  have hafter {h : Header} {after : List Char} (hh : headerOf? raw = some (h, after)) :
      '\n' ∉ trim after := by
    obtain ⟨indent, -, hraw⟩ :=
      (trimStart_eq_append_iff (head?_headerWord h)).mp (headerOf?_eq_some_iff.mp hh)
    obtain ⟨front, back, -, -, ha⟩ := Text.exists_trim after
    intro hm
    apply hn
    rw [hraw, ha]
    simp [hm]
  simp only [isHeader_iff]
  unfold isHeader
  constructor
  · intro h
    split at h
    · exact ⟨_, _, _, ‹_›, rfl⟩
    · cases h
  · rintro ⟨h, name, after, hh, rfl⟩
    simp [hh, hafter hh]

theorem headerOf?_eq_none_of_stepWordOf? {word : StepWord} {after : List Char}
    (hw : stepWordOf? raw = some (word, after)) : headerOf? raw = none := by
  have free : ∀ x ∈ Header.all, ∀ y ∈ StepWord.all,
      ¬x.word.toList <+: y.word.toList ∧ ¬y.word.toList <+: x.word.toList := by decide
  rw [Option.eq_none_iff_forall_ne_some]
  rintro ⟨h, after'⟩ hh
  have hword : word.word.toList <+: trimStart raw := ⟨after, (stepWordOf?_eq_some_iff.mp hw).symm⟩
  have hheader : h.word.toList <+: trimStart raw := ⟨_, (headerOf?_eq_some_iff.mp hh).symm⟩
  -- of two words in front of one text one starts the other
  rcases List.prefix_or_prefix_of_prefix hheader hword with hp | hp
  · exact (free h h.mem_all word word.mem_all).1 hp
  · exact (free h h.mem_all word word.mem_all).2 hp

theorem not_isHeader_of_isStep {word : StepWord} {text : List Char} (hs : IsStep raw word text)
    (h : Header) (name : List Char) : ¬IsHeader raw h name := by
  intro hh
  obtain ⟨after, hw, -⟩ := isStep_iff.mp ⟨text, hs⟩
  obtain ⟨after', hh, -⟩ := isHeader_iff.mp hh
  rw [headerOf?_eq_none_of_stepWordOf? hw] at hh
  cases hh

theorem ofText_ne_header (hn : ∀ h name, ¬IsHeader raw h name) (h : Header) (name : List Char) :
    Line.ofText raw ≠ .header h name := by
  intro hl
  have hv : IsVisible raw := isVisible_iff.mpr (by simp [hl])
  exact hn h name (hv.ofText_eq_header_iff.mp hl)

theorem trimmed_of_stepText? {after text : List Char} (h : stepText? after = some text)
    (ht : trim text ≠ []) : Trimmed text := by
  obtain ⟨-, ⟨-, rfl⟩ | ⟨htrim, -, c, hc, rfl⟩⟩ := stepText?_eq_some_iff.mp h
  · exact Text.trimmed_trim after
  · -- the text is a single blank
    have hblank := Text.trim_eq_nil_iff.mp htrim c (List.mem_of_getLast? hc)
    exact absurd (Text.trim_eq_nil_iff.mpr (by simpa [Blank] using hblank)) ht

theorem IsVisible.trimmed_of_ofText (hv : IsVisible raw) {word : StepWord} {text : List Char}
    (hl : Line.ofText raw = .step word text) (ht : trim text ≠ []) : Trimmed text := by
  obtain ⟨after, -, htext⟩ := hv.stepText?_of_ofText hl
  exact trimmed_of_stepText? htext ht

end Line

/-! What a line does to the kind that a continuation takes on. -/

namespace Progress

variable {p p' : Progress} {line : Nat} {raw : List Char}

theorem current?_header {h : Header} {name : List Char} (hp : p.header line h name = .ok p') :
    p'.current? = none := by
  unfold header at hp
  split at hp
  · split at hp
    · cases hp
    · cases hp
      rfl
  all_goals
    cases hp
    simp [current?, last?, close]

theorem current?_next (h : p.next line raw = .ok p')
    (hn : ∀ hd name, Line.ofText raw ≠ .header hd name) :
    p'.current? = match p.recorded? line raw with
      | some s => s.kind?
      | none => p.current? := by
  cases reads_of_next h with
  | hidden hh quote? _ =>
    rw [recorded?_eq_none_of_hidden hh]
    rfl
  | header hq hv hl hp => exact absurd hl (hn _ _)
  | inExamples hq hv hl hx => simp [recorded?, hl, hx, hq]
  | step hq hv hl hx => simp [recorded?, hl, hx, hq, current?, step, last?, stepLineOf]
  | description hq hv hl => simp [recorded?, hl]

theorem exists_ofLine?_of_recorded {s : StepLine} (h : p.recorded? line raw = some s)
    (hn : '\n' ∉ raw) : ∃ t, Typed.ofLine? raw = some t ∧ t.word = s.word := by
  obtain ⟨word, text, -, -, hl, rfl⟩ := recorded?_eq_some h
  exact exists_ofLine?_of_isStep ((isVisible_of_step hl).isStep_of_ofText hl) hn

theorem ofLine?_trimEnd_of_recorded {s : StepLine} (h : p.recorded? line raw = some s)
    (hn : '\n' ∉ raw) (ht : trim s.text.toList ≠ []) :
    ∃ column, Typed.ofLine? (trimEnd raw) = some ⟨s.word, s.text.toList, column⟩ := by
  obtain ⟨word, text, -, -, hl, rfl⟩ := recorded?_eq_some h
  have hv := isVisible_of_step hl
  simp only [stepLineOf, String.toList_ofList] at ht ⊢
  exact ofLine?_trimEnd (hv.isStep_of_ofText hl) (hv.trimmed_of_ofText hl ht) hn

theorem not_isHeader_of_recorded {s : StepLine} (h : p.recorded? line raw = some s) :
    ∀ hd name, ¬IsHeader raw hd name := by
  obtain ⟨word, text, -, -, hl, -⟩ := recorded?_eq_some h
  exact ((isVisible_of_step hl).exists_ofText_eq_step_iff.mp ⟨text, hl⟩).2

theorem kind?_of_recorded {s : StepLine} (h : p.recorded? line raw = some s) :
    s.kind? = s.word.kind?.orElse fun _ => p.current? := by
  obtain ⟨word, text, -, hx, -, rfl⟩ := recorded?_eq_some h
  simp [stepLineOf, current?, hx]

end Progress

/-! Going backwards from a line. -/

/-- No header stands after line `n`, up to the line of the cursor. -/
def SameBlock (text : String) (n : Nat) (line : Int) : Prop :=
  (n : Int) ≤ line ∧ ∀ l ∈ visible text, n < l.1 → (l.1 : Int) ≤ line →
    ∀ h name, ¬IsHeader l.2 h name

structure ReadAlike (text : String) (n : Nat) : Prop where
  /-- What starts like a step stands outside quoted text and tables of examples, and has a text. -/
  step : ∀ raw, (Text.splitLines text.toList)[n]? = some raw → (Typed.ofLine? raw).isSome →
    (n, raw) ∈ visible text ∧ (∃ word t, IsStep raw word t) ∧
      ∀ m h, Nearest (visible text) n m h → h.opensExamples = false
  /-- What starts like a header stands outside quoted text. -/
  header : ∀ raw, (Text.splitLines text.toList)[n]? = some raw → isHeader raw = true →
    (n, raw) ∈ visible text

theorem readAlike_iff {text uri : String} {f : Feature} (hf : ofText text uri = .ok f) (n : Nat) :
    ReadAlike text n ↔ ∀ raw ∈ (Text.splitLines text.toList)[n]?,
      ((Typed.ofLine? raw).isSome → ∃ s ∈ f.steps, s.line = n) ∧
        (isHeader raw = true → (n, raw) ∈ visible text) := by
  constructor
  · intro ha raw hl
    refine ⟨fun ht => ?_, ha.header raw hl⟩
    obtain ⟨hm, ⟨word, t, hs⟩, hx⟩ := ha.step raw hl ht
    obtain ⟨s, hs, hline, -⟩ := (step_iff_of_ofText hf n word).mpr
      ⟨raw, hm, ⟨t, hs⟩, not_isHeader_of_isStep hs, hx⟩
    exact ⟨s, hs, hline⟩
  · refine fun h => ⟨fun raw hl ht => ?_, fun raw hl => (h raw hl).2⟩
    obtain ⟨s, hs, rfl⟩ := (h raw hl).1 ht
    obtain ⟨raw', hm, ⟨t, hstep⟩, -, hx⟩ :=
      (step_iff_of_ofText hf s.line s.word).mp ⟨s, hs, rfl, rfl⟩
    obtain rfl := Option.some.inj (hl.symm.trans (getElem?_of_mem_visible hm))
    exact ⟨hm, ⟨s.word, t, hstep⟩, hx⟩

theorem kindBefore?_cons {raw : List Char} (hh : isHeader raw = false)
    (earlier : List (List Char)) : kindBefore? (raw :: earlier) =
      match Typed.ofLine? raw with
      | some t => t.word.kind?.orElse fun _ => kindBefore? earlier
      | none => kindBefore? earlier := by
  rw [kindBefore?, if_neg (by simp [hh])]
  cases Typed.ofLine? raw with
  | none => rfl
  | some t => cases ht : t.word.kind? <;> simp [ht]

theorem kindAt?_of_getElem? {lines : List (List Char)} {n : Nat} {raw : List Char}
    (hl : lines[n]? = some raw) : kindAt? lines n =
      (Typed.ofLine? raw).bind fun t =>
        t.word.kind?.orElse fun _ => kindBefore? (lines.take n).reverse := by
  have hlt := (List.getElem?_eq_some_iff.mp hl).1
  unfold kindAt?
  rw [if_neg (by omega), Int.toNat_natCast, List.take_add_one, hl, Option.toList_some,
    List.reverse_append, List.reverse_singleton, List.singleton_append, decide_eq_true hlt]

theorem exists_line_of_kindAt? {lines : List (List Char)} {line : Int} {kind : Kind}
    (h : kindAt? lines line = some kind) :
    ∃ (n : Nat) (raw : List Char), (n : Int) = line ∧ lines[n]? = some raw := by
  unfold kindAt? at h
  split at h
  · cases h
  · split at h
    · rename_i hlt
      exact ⟨line.toNat, _, by omega, List.getElem?_eq_getElem (of_decide_eq_true hlt)⟩
    · cases h

theorem sameBlock_self (text : String) (n : Nat) : SameBlock text n n :=
  ⟨Int.le_refl _, fun _ _ hlt hle => by omega⟩

theorem SameBlock.succ {text : String} {m n : Nat} (h : SameBlock text m (n - 1))
    {raw : List Char} (hl : (Text.splitLines text.toList)[n]? = some raw)
    (hh : ∀ h name, ¬IsHeader raw h name) : SameBlock text m n := by
  refine ⟨by have := h.1; omega, fun l hm hlt hle => ?_⟩
  by_cases hline : l.1 = n
  · have hraw := getElem?_of_mem_visible hm
    rw [hline, hl] at hraw
    exact Option.some.inj hraw ▸ hh
  · exact h.2 l hm hlt (by omega)

theorem ReadAlike.current?_of_isHeader {text : String} {n : Nat} {raw : List Char}
    {p p' : Progress} (ha : ReadAlike text n)
    (hl : (Text.splitLines text.toList)[n]? = some raw)
    (hr : Reached (Text.splitLines text.toList) n p) (hnext : p.next n raw = .ok p')
    (hh : isHeader raw = true) : p'.current? = none := by
  have hm := ha.header raw hl hh
  obtain ⟨h, name, hraw⟩ :=
    (isHeader_eq_true_iff (Text.lineFeed_notMem (List.mem_of_getElem? hl))).mp hh
  have hline := (isVisible_of_mem hm).ofText_eq_header_iff.mpr hraw
  simp only [Progress.next, hr.quote?_eq_none hm, hline] at hnext
  exact Progress.current?_header hnext

section Backwards

variable {text uri : String} {f : Feature} (hf : ofText text uri = .ok f) {n : Nat}
  {raw : List Char} {p : Progress}
include hf

theorem ReadAlike.seen_iff_recorded (ha : ReadAlike text n)
    (hl : (Text.splitLines text.toList)[n]? = some raw)
    (hr : Reached (Text.splitLines text.toList) n p) :
    Typed.ofLine? raw = none ∧ p.recorded? n raw = none ∨
      ∃ t s, Typed.ofLine? raw = some t ∧ p.recorded? n raw = some s ∧ s.word = t.word := by
  have hfeed := Text.lineFeed_notMem (List.mem_of_getElem? hl)
  cases hs : p.recorded? n raw with
  | some s =>
    obtain ⟨t, ht, hword⟩ := Progress.exists_ofLine?_of_recorded hs hfeed
    exact .inr ⟨t, s, ht, rfl, hword.symm⟩
  | none =>
    cases ht : Typed.ofLine? raw with
    | none => exact .inl ⟨rfl, rfl⟩
    | some t =>
      obtain ⟨s, hmem, rfl⟩ := ((readAlike_iff hf n).mp ha raw hl).1 (by simp [ht])
      obtain ⟨raw', p', hl', hr', hrec⟩ := (mem_steps_iff_recorded hf).mp hmem
      obtain rfl := hr.unique hr'
      obtain rfl := Option.some.inj (hl.symm.trans hl')
      rw [hs] at hrec
      cases hrec

/-- Going backwards finds the kind known before a line, if the lines back to the nearest header are
read alike. -/
theorem kindBefore?_eq_current? (hn : n ≤ (Text.splitLines text.toList).length)
    (hr : Reached (Text.splitLines text.toList) n p)
    (ha : ∀ m : Nat, SameBlock text m (n - 1) → ReadAlike text m) :
    kindBefore? ((Text.splitLines text.toList).take n).reverse = p.current? := by
  -- a cursor meets the last of the lines first
  induction n generalizing p with
  | zero =>
    cases hr
    rfl
  | succ n ih =>
    obtain ⟨raw, hl⟩ : ∃ raw, (Text.splitLines text.toList)[n]? = some raw :=
      ⟨_, List.getElem?_eq_getElem hn⟩
    obtain ⟨q, hq, hnext⟩ := exists_reached_of_succ hr hl
    rw [show ((n + 1 : Nat) : Int) - 1 = n by omega] at ha
    have alike := ha n (sameBlock_self text n)
    rw [List.take_add_one, hl, Option.toList_some, List.reverse_append, List.reverse_singleton,
      List.singleton_append]
    cases hh : isHeader raw with
    | true => rw [kindBefore?, if_pos hh, alike.current?_of_isHeader hl hq hnext hh]
    | false =>
      have hnone : ∀ h name, ¬IsHeader raw h name := by
        simpa [hh] using (isHeader_eq_true_iff (Text.lineFeed_notMem (List.mem_of_getElem? hl))).not
      have hearlier := ih (Nat.le_of_succ_le hn) hq fun m hm => ha m (hm.succ hl hnone)
      rw [kindBefore?_cons hh, hearlier, Progress.current?_next hnext (ofText_ne_header hnone)]
      rcases alike.seen_iff_recorded hf hl hq with ⟨ht, hs⟩ | ⟨t, s, ht, hs, hword⟩
      · rw [ht, hs]
      · simp only [ht, hs, Progress.kind?_of_recorded hs, hword]

theorem kindAt?_eq_recorded (ha : ∀ m : Nat, SameBlock text m n → ReadAlike text m)
    (hl : (Text.splitLines text.toList)[n]? = some raw)
    (hr : Reached (Text.splitLines text.toList) n p) :
    kindAt? (Text.splitLines text.toList) n = (p.recorded? n raw).bind (·.kind?) := by
  rw [kindAt?_of_getElem? hl]
  rcases (ha n (sameBlock_self text n)).seen_iff_recorded hf hl hr with
    ⟨ht, hs⟩ | ⟨t, s, ht, hs, hword⟩
  · rw [ht, hs]
    rfl
  · have hbefore := kindBefore?_eq_current? hf (List.getElem?_eq_some_iff.mp hl).1.le hr
      fun m hm => ha m (hm.succ hl (Progress.not_isHeader_of_recorded hs))
    rw [ht, hs, Option.bind_some, Option.bind_some, Progress.kind?_of_recorded hs, hword, hbefore]

theorem kindAt?_of_mem_steps {line : Int}
    (ha : ∀ n : Nat, SameBlock text n line → ReadAlike text n) {s : StepLine} (hs : s ∈ f.steps)
    (hline : (s.line : Int) = line) : kindAt? (Text.splitLines text.toList) line = s.kind? := by
  subst hline
  obtain ⟨raw, p, hl, hr, hrec⟩ := (mem_steps_iff_recorded hf).mp hs
  rw [kindAt?_eq_recorded hf ha hl hr, hrec]
  rfl

theorem kindAt?_eq_none_of_steps {line : Int}
    (ha : ∀ n : Nat, SameBlock text n line → ReadAlike text n)
    (hnone : ∀ s ∈ f.steps, (s.line : Int) = line → s.kind? = none) :
    kindAt? (Text.splitLines text.toList) line = none := by
  cases hk : kindAt? (Text.splitLines text.toList) line with
  | none => rfl
  | some kind =>
    obtain ⟨n, raw, rfl, hl⟩ := exists_line_of_kindAt? hk
    obtain ⟨p, hr⟩ := exists_reached hf n
    rw [kindAt?_eq_recorded hf ha hl hr] at hk
    obtain ⟨s, hrec, hkind⟩ := Option.bind_eq_some_iff.mp hk
    have hline := Progress.line_of_recorded hrec
    have hs : s ∈ f.steps := by
      rw [mem_steps_iff_recorded hf, hline]
      exact ⟨raw, p, hl, hr, hrec⟩
    rw [hnone s hs (congrArg _ hline)] at hkind
    cases hkind

end Backwards

end ScenarioCheck.Document
