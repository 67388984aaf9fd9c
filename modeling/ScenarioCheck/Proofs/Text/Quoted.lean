import ScenarioCheck.Text.Quoted

/-! Which characters stand in texts that are put together, in written numbers and between quotes. A
closing brace stands between quotes exactly if it stands in the text that is quoted. -/
namespace ScenarioCheck.Text

theorem mem_intercalate_iff {α : Type} {x : α} {separator : List α} (h : x ∉ separator)
    {texts : List (List α)} : x ∈ separator.intercalate texts ↔ ∃ text ∈ texts, x ∈ text := by
  induction texts with
  | nil => simp [List.intercalate]
  | cons s texts ih =>
    cases texts with
    | nil => simp [List.intercalate]
    | cons s' texts =>
      rw [List.intercalate_cons_cons, List.mem_append, List.mem_append, ih]
      simp [h]

theorem exists_digitChar_of_mem_toDigits {base n : Nat} {c : Char} (hb : 1 < base)
    (h : c ∈ Nat.toDigits base n) : ∃ digit, c = Nat.digitChar digit := by
  induction n using Nat.strongRecOn with
  | ind n ih =>
    rw [Nat.toDigits_eq_if hb] at h
    split at h
    · exact ⟨n, List.mem_singleton.mp h⟩
    · rename_i hn
      rcases List.mem_append.mp h with h | h
      · exact ih (n / base) (Nat.div_lt_self (by omega) hb) h
      · exact ⟨n % base, List.mem_singleton.mp h⟩

theorem closing_notMem_toDigits {base : Nat} (hb : 1 < base) (n : Nat) :
    '}' ∉ Nat.toDigits base n := by
  intro h
  obtain ⟨digit, hdigit⟩ := exists_digitChar_of_mem_toDigits hb h
  exact Nat.digitChar_ne '}' (by decide) hdigit.symm

theorem closing_notMem_hexDigits (width n : Nat) : '}' ∉ hexDigits width n := by
  simp [hexDigits, closing_notMem_toDigits, List.mem_replicate]

theorem closing_notMem_numericEscape (c : Char) : '}' ∉ numericEscape c := by
  unfold numericEscape
  split
  · simp [closing_notMem_hexDigits]
  · split <;> simp [closing_notMem_hexDigits]

@[simp] theorem closing_mem_escape_iff {quote c : Char} : '}' ∈ escape quote c ↔ c = '}' := by
  unfold escape
  split
  · simp [eq_comm]
  · rename_i hquote
    split
    · rename_i letter hletter
      obtain ⟨before, after, hcontrols, -⟩ := List.lookup_eq_some_iff.mp hletter
      have hne : ∀ e ∈ controlLetters, '}' ≠ e.1 ∧ '}' ≠ e.2 := by decide
      have hmem := hne (c, letter) (by rw [hcontrols]; simp)
      simp [hmem.2, hmem.1.symm]
    · split
      · simp [eq_comm]
      · rename_i hprint
        simp only [closing_notMem_numericEscape, false_iff]
        rintro rfl
        exact hprint (by decide)

theorem closing_ne_quoteFor (text : List Char) : '}' ≠ quoteFor text := by
  unfold quoteFor
  split <;> decide

@[simp] theorem closing_mem_flatMap_escape_iff (quote : Char) {text : List Char} :
    '}' ∈ text.flatMap (escape quote) ↔ '}' ∈ text := by
  simp [List.mem_flatMap]

@[simp] theorem closing_mem_quoted_iff {text : String} :
    '}' ∈ (quoted text).toList ↔ '}' ∈ text.toList := by
  rw [quoted, String.toList_ofList, List.cons_append, List.mem_cons, List.mem_append,
    closing_mem_flatMap_escape_iff, List.mem_singleton]
  simp [closing_ne_quoteFor]

end ScenarioCheck.Text
