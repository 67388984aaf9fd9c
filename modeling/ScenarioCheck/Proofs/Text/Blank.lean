import ScenarioCheck.Text.Blank
import Mathlib.Data.List.TakeWhile

/-! Trimming said without the function: a text is white space, its trimmed middle and white space,
and a middle without white space at its ends is the only one. -/
namespace ScenarioCheck.Text

def Blank (text : List Char) : Prop := ∀ c ∈ text, isBlank c = true

/-- A text that is empty or has no white space at either end. -/
def Trimmed (text : List Char) : Prop :=
  (∀ c ∈ text.head?, isBlank c = false) ∧ ∀ c ∈ text.getLast?, isBlank c = false

@[simp] theorem blank_nil : Blank [] := by
  simp [Blank]

theorem blank_leadingBlanks (text : List Char) : Blank (leadingBlanks text) := by
  intro c hc
  exact List.mem_takeWhile_imp hc

theorem head?_trimStart (text : List Char) : ∀ c ∈ (trimStart text).head?, isBlank c = false := by
  intro c hc
  have h := List.head?_dropWhile_not isBlank text
  rw [show (text.dropWhile isBlank).head? = some c from hc] at h
  simpa using h

@[simp] theorem trimStart_append {front rest : List Char} (hf : Blank front)
    (hr : ∀ c ∈ rest.head?, isBlank c = false) : trimStart (front ++ rest) = rest := by
  unfold trimStart
  rw [List.dropWhile_append_of_pos hf]
  cases rest with
  | nil => rfl
  | cons c rest => exact List.dropWhile_cons_of_neg (by simp [hr c rfl])

theorem trimEnd_eq (text : List Char) : trimEnd text = (trimStart text.reverse).reverse := rfl

theorem getLast?_trimEnd (text : List Char) :
    ∀ c ∈ (trimEnd text).getLast?, isBlank c = false := by
  rw [trimEnd_eq, List.getLast?_reverse]
  exact head?_trimStart text.reverse

theorem exists_trimEnd (text : List Char) : ∃ back, Blank back ∧ text = trimEnd text ++ back := by
  refine ⟨(leadingBlanks text.reverse).reverse, ?_, ?_⟩
  · intro c hc
    exact blank_leadingBlanks text.reverse c (List.mem_reverse.mp hc)
  · have h := congrArg List.reverse (leadingBlanks_append_trimStart text.reverse)
    rw [List.reverse_append, List.reverse_reverse] at h
    exact h.symm

@[simp] theorem trimEnd_append {rest back : List Char} (hb : Blank back)
    (hr : ∀ c ∈ rest.getLast?, isBlank c = false) : trimEnd (rest ++ back) = rest := by
  rw [trimEnd_eq, List.reverse_append, trimStart_append, List.reverse_reverse]
  · intro c hc
    exact hb c (List.mem_reverse.mp hc)
  · rw [List.head?_reverse]
    exact hr

theorem exists_trim_behind (text : List Char) :
    ∃ back, Blank back ∧ text = leadingBlanks text ++ trim text ++ back := by
  obtain ⟨back, hb, h⟩ := exists_trimEnd (trimStart text)
  refine ⟨back, hb, ?_⟩
  rw [List.append_assoc, ← show trimStart text = trim text ++ back from h]
  exact (leadingBlanks_append_trimStart text).symm

theorem exists_trim (text : List Char) :
    ∃ front back, Blank front ∧ Blank back ∧ text = front ++ trim text ++ back := by
  obtain ⟨back, hb, h⟩ := exists_trim_behind text
  exact ⟨leadingBlanks text, back, blank_leadingBlanks text, hb, h⟩

theorem trimmed_trim (text : List Char) : Trimmed (trim text) := by
  refine ⟨?_, getLast?_trimEnd (trimStart text)⟩
  obtain ⟨back, -, h⟩ := exists_trimEnd (trimStart text)
  intro c hc
  apply head?_trimStart text c
  rw [h]
  cases ht : trimEnd (trimStart text) with
  | nil => simp [trim, ht] at hc
  | cons d rest =>
    rw [trim, ht] at hc
    exact hc

theorem trim_append {front middle back : List Char} (hf : Blank front) (hb : Blank back)
    (hm : Trimmed middle) : trim (front ++ middle ++ back) = middle := by
  cases middle with
  | nil =>
    have h : trimStart (front ++ back ++ []) = [] :=
      trimStart_append (List.forall_mem_append.mpr ⟨hf, hb⟩) (by simp)
    rw [List.append_nil] at h
    rw [trim, List.append_nil, h]
    rfl
  | cons c rest =>
    unfold trim
    rw [List.append_assoc, trimStart_append hf (by simpa using hm.1), trimEnd_append hb hm.2]

@[simp] theorem trim_eq_nil_iff {text : List Char} : trim text = [] ↔ Blank text := by
  constructor
  · intro h
    obtain ⟨front, back, hf, hb, ht⟩ := exists_trim text
    rw [h, List.append_nil] at ht
    rw [ht]
    exact List.forall_mem_append.mpr ⟨hf, hb⟩
  · intro h
    have hm : trim (text ++ [] ++ []) = [] := trim_append h blank_nil (by simp [Trimmed])
    simpa using hm

@[simp] theorem trimEnd_append_blank {text back : List Char} (hb : Blank back) :
    trimEnd (text ++ back) = trimEnd text := by
  obtain ⟨tail, ht, h⟩ := exists_trimEnd text
  have happend : text ++ back = trimEnd text ++ (tail ++ back) := by
    rw [← List.append_assoc, ← h]
  rw [happend]
  exact trimEnd_append (List.forall_mem_append.mpr ⟨ht, hb⟩) (getLast?_trimEnd text)

theorem trim_append_blank {text back : List Char} (hb : Blank back) :
    trim (text ++ back) = trim text := by
  obtain ⟨front, tail, hf, ht, h⟩ := exists_trim text
  have htail : Blank (tail ++ back) := List.forall_mem_append.mpr ⟨ht, hb⟩
  have happend : text ++ back = front ++ trim text ++ (tail ++ back) := by
    rw [← List.append_assoc, ← h]
  rw [happend]
  exact trim_append hf htail (trimmed_trim text)

@[simp] theorem trimEnd_eq_nil_iff {text : List Char} : trimEnd text = [] ↔ Blank text := by
  constructor
  · intro h
    obtain ⟨back, hb, htext⟩ := exists_trimEnd text
    rw [htext, h]
    exact hb
  · intro h
    have hnil : trimEnd ([] ++ text) = trimEnd [] := trimEnd_append_blank h
    exact hnil

@[simp] theorem trim_trimEnd (text : List Char) : trim (trimEnd text) = trim text := by
  obtain ⟨back, hb, h⟩ := exists_trimEnd text
  rw [← trim_append_blank hb, ← h]

@[simp] theorem trimStart_trimEnd (text : List Char) : trimStart (trimEnd text) = trim text := by
  rw [← trim_trimEnd, trim]
  cases hs : trimStart (trimEnd text) with
  | nil => rfl
  | cons c rest =>
    have hlast := getLast?_trimEnd text
    rw [← leadingBlanks_append_trimStart (trimEnd text), hs, List.getLast?_append,
      List.getLast?_cons, Option.some_or, ← List.getLast?_cons] at hlast
    have h := trimEnd_append blank_nil hlast
    rw [List.append_nil] at h
    exact h.symm

theorem leadingBlanks_trimEnd {text : List Char} (h : trim text ≠ []) :
    leadingBlanks (trimEnd text) = leadingBlanks text := by
  obtain ⟨back, -, htext⟩ := exists_trimEnd text
  obtain ⟨c, rest, hcons⟩ := List.exists_cons_of_ne_nil h
  have hc : isBlank c = false := (trimmed_trim text).1 c (by simp [hcons])
  have hsplit := leadingBlanks_append_trimStart (trimEnd text)
  rw [trimStart_trimEnd, hcons] at hsplit
  rw [← hsplit, List.append_assoc] at htext
  have hfront := blank_leadingBlanks (trimEnd text)
  generalize leadingBlanks (trimEnd text) = front at hfront htext
  rw [htext, leadingBlanks, List.takeWhile_append_of_pos hfront, List.cons_append,
    List.takeWhile_cons_of_neg (by simp [hc]), List.append_nil]

theorem trimEnd_eq_append {text : List Char} (h : trim text ≠ []) :
    trimEnd text = leadingBlanks text ++ trim text := by
  rw [← leadingBlanks_trimEnd h, ← trimStart_trimEnd]
  exact (leadingBlanks_append_trimStart (trimEnd text)).symm

theorem trimEnd_append_of_getLast? {literal : List Char}
    (hl : ∃ c ∈ literal.getLast?, isBlank c = false) (after : List Char) :
    trimEnd (literal ++ after) = literal ++ trimEnd after := by
  obtain ⟨back, hb, h⟩ := exists_trimEnd after
  obtain ⟨d, hd, hblank⟩ := hl
  have hlast : ∀ c ∈ (literal ++ trimEnd after).getLast?, isBlank c = false := by
    intro c hc
    rw [List.getLast?_append, Option.mem_def, Option.or_eq_some_iff] at hc
    rcases hc with hc | ⟨-, hc⟩
    · exact getLast?_trimEnd after c hc
    · rwa [← Option.mem_unique hd hc]
  have happend : literal ++ after = literal ++ trimEnd after ++ back := by
    rw [List.append_assoc, ← h]
  rw [happend]
  exact trimEnd_append hb hlast

end ScenarioCheck.Text
