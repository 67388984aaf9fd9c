import ScenarioCheck.Document.Line
import ScenarioCheck.Proofs.Text.Blank

/-! The shapes of headers and step lines, said without reading them, and what reading a line finds.
A line outside quoted text is a header if and only if it has the shape of one, and else a step if
and only if it has the shape of a step. -/
namespace ScenarioCheck.Document

open Text (Blank Trimmed trim trimStart leadingBlanks)

/-- White space, the header word, a colon, and a name between white space. -/
def IsHeader (raw : List Char) (h : Header) (name : List Char) : Prop :=
  ∃ indent gap tail, Blank indent ∧ Blank gap ∧ Blank tail ∧ Trimmed name ∧
    raw = indent ++ h.word.toList ++ ':' :: (gap ++ name ++ tail)

/-- White space, the step word, at least one blank, a text, and white space. -/
def IsStep (raw : List Char) (word : StepWord) (text : List Char) : Prop :=
  ∃ indent gap tail, Blank indent ∧ Blank gap ∧ Blank tail ∧ gap ≠ [] ∧ text ≠ [] ∧
    raw = indent ++ word.word.toList ++ gap ++ text ++ tail

@[simp] theorem isSome_dropLiteral? (literal text : List Char) :
    (dropLiteral? literal text).isSome = literal.isPrefixOf text := by
  rw [Bool.eq_iff_iff, Option.isSome_iff_exists, List.isPrefixOf_iff_prefix]
  simp only [dropLiteral?_eq_some_iff]
  exact exists_congr fun _ => eq_comm

@[simp] theorem fenceOf?_eq (stripped : List Char) :
    fenceOf? stripped = fences.find? (·.isPrefixOf stripped) := by
  unfold fenceOf?
  simp only [isSome_dropLiteral?]

section Literals

variable {α : Type} {all : List α} {literal : α → List Char}

/-- Looking for one of several literals in front of a text. No literal starts another one, so the
order of the search does not matter. -/
theorem findSome?_dropLiteral?_eq_some_iff
    (free : ∀ x ∈ all, ∀ y ∈ all, literal x <+: literal y → x = y) {text after : List Char} {x : α} :
    all.findSome? (fun y => (dropLiteral? (literal y) text).map (y, ·)) = some (x, after) ↔
      x ∈ all ∧ text = literal x ++ after := by
  constructor
  · intro h
    obtain ⟨y, hy, h⟩ := List.exists_of_findSome?_eq_some h
    obtain ⟨rest, hr, heq⟩ := Option.map_eq_some_iff.mp h
    obtain ⟨rfl, rfl⟩ := Prod.mk.inj heq
    exact ⟨hy, dropLiteral?_eq_some_iff.mp hr⟩
  · rintro ⟨hx, ht⟩
    have only : ∀ y ∈ all, ∀ rest, text = literal y ++ rest → y = x := by
      intro y hy rest hrest
      have hpx : literal x <+: text := ⟨after, ht.symm⟩
      have hpy : literal y <+: text := ⟨rest, hrest.symm⟩
      rcases Nat.le_total (literal y).length (literal x).length with hl | hl
      · exact free y hy x hx (List.prefix_of_prefix_length_le hpy hpx hl)
      · exact (free x hx y hy (List.prefix_of_prefix_length_le hpx hpy hl)).symm
    cases hf : all.findSome? fun y => (dropLiteral? (literal y) text).map (y, ·) with
    | none =>
      have h := List.findSome?_eq_none_iff.mp hf x hx
      rw [dropLiteral?_eq_some_iff.mpr ht] at h
      cases h
    | some found =>
      obtain ⟨y, rest⟩ := found
      obtain ⟨z, hz, h⟩ := List.exists_of_findSome?_eq_some hf
      obtain ⟨rest', hr, heq⟩ := Option.map_eq_some_iff.mp h
      obtain ⟨rfl, rfl⟩ := Prod.mk.inj heq
      have hr := dropLiteral?_eq_some_iff.mp hr
      obtain rfl := only z hz rest' hr
      rw [List.append_cancel_left (ht.symm.trans hr)]

end Literals

theorem Header.mem_all (h : Header) : h ∈ all := by
  cases h <;> decide

theorem StepWord.mem_all (word : StepWord) : word ∈ all := by
  cases word with
  | primary kind => cases kind <;> decide
  | _ => decide

theorem StepWord.eq_of_starts {x y : StepWord} (h : x.word.toList <+: y.word.toList) : x = y := by
  have free : ∀ x ∈ all, ∀ y ∈ all, x.word.toList <+: y.word.toList → x = y := by decide
  exact free x x.mem_all y y.mem_all h

@[simp] theorem headerOf?_eq_some_iff {raw after : List Char} {h : Header} :
    headerOf? raw = some (h, after) ↔ trimStart raw = h.word.toList ++ ':' :: after := by
  have free : ∀ x ∈ Header.all, ∀ y ∈ Header.all,
      x.word.toList ++ [':'] <+: y.word.toList ++ [':'] → x = y := by decide
  unfold headerOf?
  rw [findSome?_dropLiteral?_eq_some_iff free]
  simp [h.mem_all]

@[simp] theorem stepWordOf?_eq_some_iff {raw after : List Char} {word : StepWord} :
    stepWordOf? raw = some (word, after) ↔ trimStart raw = word.word.toList ++ after := by
  unfold stepWordOf?
  rw [findSome?_dropLiteral?_eq_some_iff fun _ _ _ _ => StepWord.eq_of_starts]
  simp [word.mem_all]

theorem trimStart_eq_append_iff {raw word after : List Char}
    (hw : ∃ c ∈ word.head?, Text.isBlank c = false) :
    trimStart raw = word ++ after ↔ ∃ indent, Blank indent ∧ raw = indent ++ word ++ after := by
  constructor
  · intro h
    refine ⟨leadingBlanks raw, Text.blank_leadingBlanks raw, ?_⟩
    rw [List.append_assoc, ← h]
    exact (Text.leadingBlanks_append_trimStart raw).symm
  · rintro ⟨indent, hi, rfl⟩
    rw [List.append_assoc]
    apply Text.trimStart_append hi
    obtain ⟨c, hc, hb⟩ := hw
    cases word with
    | nil => simp at hc
    | cons d rest =>
      obtain rfl : d = c := by simpa using hc
      simpa using hb

theorem head?_headerWord (h : Header) : ∃ c ∈ h.word.toList.head?, Text.isBlank c = false := by
  cases h <;> exact ⟨_, rfl, by decide⟩

theorem head?_stepWord (word : StepWord) :
    ∃ c ∈ word.word.toList.head?, Text.isBlank c = false := by
  cases word with
  | primary kind => cases kind <;> exact ⟨_, rfl, by decide⟩
  | _ => exact ⟨_, rfl, by decide⟩

theorem isHeader_iff {raw name : List Char} {h : Header} :
    IsHeader raw h name ↔ ∃ after, headerOf? raw = some (h, after) ∧ name = trim after := by
  simp only [headerOf?_eq_some_iff, trimStart_eq_append_iff (head?_headerWord h)]
  constructor
  · rintro ⟨indent, gap, tail, hi, hg, ht, hn, rfl⟩
    exact ⟨_, ⟨indent, hi, rfl⟩, (Text.trim_append hg ht hn).symm⟩
  · rintro ⟨after, ⟨indent, hi, rfl⟩, rfl⟩
    obtain ⟨gap, tail, hg, ht, ha⟩ := Text.exists_trim after
    exact ⟨indent, gap, tail, hi, hg, ht, Text.trimmed_trim after, by rw [← ha]⟩

/-- What a step text is: what trimming leaves, or the last of several blanks if that is nothing. -/
theorem stepText?_eq_some_iff {after text : List Char} :
    stepText? after = some text ↔ leadingBlanks after ≠ [] ∧
      (text ≠ [] ∧ trim after = text ∨
        trim after = [] ∧ 2 ≤ after.length ∧ ∃ c ∈ after.getLast?, text = [c]) := by
  unfold stepText?
  cases hb : leadingBlanks after with
  | nil => simp
  | cons b blanks =>
    cases ht : trim after with
    | nil => grind
    | cons c rest => grind

theorem stepText?_eq_some {after text : List Char} (h : stepText? after = some text) :
    ∃ gap tail, Blank gap ∧ Blank tail ∧ gap ≠ [] ∧ text ≠ [] ∧ after = gap ++ text ++ tail := by
  obtain ⟨hgap, ⟨hne, rfl⟩ | ⟨htrim, hlength, c, hc, rfl⟩⟩ := stepText?_eq_some_iff.mp h
  · obtain ⟨back, hback, ha⟩ := Text.exists_trim_behind after
    exact ⟨_, back, Text.blank_leadingBlanks after, hback, hgap, hne, ha⟩
  · obtain ⟨init, rfl⟩ := List.getLast?_eq_some_iff.mp hc
    have hblank := Text.trim_eq_nil_iff.mp htrim
    refine ⟨init, [], fun c hc => hblank c (by simp [hc]), Text.blank_nil, ?_, by simp, by simp⟩
    rintro rfl
    simp at hlength

theorem isSome_stepText? {gap rest : List Char} (hg : Blank gap) (hne : gap ≠ [])
    (hr : rest ≠ []) : (stepText? (gap ++ rest)).isSome = true := by
  obtain ⟨c, gap, rfl⟩ := List.exists_cons_of_ne_nil hne
  obtain ⟨d, rest, rfl⟩ := List.exists_cons_of_ne_nil hr
  have hc : Text.isBlank c = true := hg c (by simp)
  unfold stepText?
  rw [if_neg (by simp [leadingBlanks, hc])]
  split
  · rw [if_pos (by simp; omega)]
    simp
  · rfl

theorem isStep_iff {raw : List Char} {word : StepWord} :
    (∃ text, IsStep raw word text) ↔
      ∃ after, stepWordOf? raw = some (word, after) ∧ (stepText? after).isSome = true := by
  simp only [stepWordOf?_eq_some_iff, trimStart_eq_append_iff (head?_stepWord word)]
  constructor
  · rintro ⟨text, indent, gap, tail, hi, hg, -, hne, htne, rfl⟩
    refine ⟨gap ++ (text ++ tail), ⟨indent, hi, by simp⟩, isSome_stepText? hg hne (by simp [htne])⟩
  · rintro ⟨after, ⟨indent, hi, rfl⟩, hs⟩
    obtain ⟨text, ht⟩ := Option.isSome_iff_exists.mp hs
    obtain ⟨gap, tail, hg, htl, hne, htne, rfl⟩ := stepText?_eq_some ht
    exact ⟨text, indent, gap, tail, hi, hg, htl, hne, htne, by simp⟩

/-! White space at the end of a line. -/

section LineEnd

open Text (trimEnd)

theorem dropLiteral?_trimEnd {literal : List Char}
    (hl : ∃ c ∈ literal.getLast?, Text.isBlank c = false) (text : List Char) :
    dropLiteral? literal (trimEnd text) = (dropLiteral? literal text).map trimEnd := by
  cases h : dropLiteral? literal text with
  | some rest =>
    rw [dropLiteral?_eq_some_iff.mp h, Text.trimEnd_append_of_getLast? hl]
    exact dropLiteral?_eq_some_iff.mpr rfl
  | none =>
    obtain ⟨back, -, htext⟩ := Text.exists_trimEnd text
    rw [Option.map_none, Option.eq_none_iff_forall_ne_some]
    intro rest hrest
    rw [dropLiteral?_eq_some_iff.mp hrest, List.append_assoc] at htext
    rw [dropLiteral?_eq_some_iff.mpr htext] at h
    cases h

theorem getLast?_headerWord (h : Header) :
    ∃ c ∈ (h.word.toList ++ [':']).getLast?, Text.isBlank c = false :=
  ⟨':', by simp, by decide⟩

theorem getLast?_stepWord (word : StepWord) :
    ∃ c ∈ word.word.toList.getLast?, Text.isBlank c = false := by
  cases word with
  | primary kind => cases kind <;> exact ⟨_, rfl, by decide⟩
  | _ => exact ⟨_, rfl, by decide⟩

theorem headerOf?_trimEnd (raw : List Char) :
    headerOf? (trimEnd raw) = (headerOf? raw).map fun (h, after) => (h, trimEnd after) := by
  unfold headerOf?
  rw [Text.trimStart_trimEnd, Text.trim, List.map_findSome?]
  congr 1
  funext h
  rw [dropLiteral?_trimEnd (getLast?_headerWord h), Function.comp_apply, Option.map_map,
    Option.map_map]
  rfl

@[simp] theorem stepWordOf?_trimEnd (raw : List Char) :
    stepWordOf? (trimEnd raw) = (stepWordOf? raw).map fun (word, after) => (word, trimEnd after) := by
  unfold stepWordOf?
  rw [Text.trimStart_trimEnd, Text.trim, List.map_findSome?]
  congr 1
  funext word
  rw [dropLiteral?_trimEnd (getLast?_stepWord word), Function.comp_apply, Option.map_map,
    Option.map_map]
  rfl

theorem trim_eq_of_stepWordOf? {raw after : List Char} {word : StepWord}
    (hw : stepWordOf? raw = some (word, after)) : trim raw = word.word.toList ++ trimEnd after := by
  rw [trim, stepWordOf?_eq_some_iff.mp hw, Text.trimEnd_append_of_getLast? (getLast?_stepWord word)]

theorem stepText?_trimEnd {after : List Char} (h : trim after ≠ []) :
    stepText? (trimEnd after) = stepText? after := by
  ext text
  simp [stepText?_eq_some_iff, Text.leadingBlanks_trimEnd h, h]

end LineEnd

end ScenarioCheck.Document
