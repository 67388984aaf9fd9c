import ScenarioCheck.Text.Lines

/-! Lines of a text hold none of the characters that end a line. Texts that are cut at a separator start
with the same pieces if one goes on behind the other with a separator. -/
namespace ScenarioCheck.Text

theorem isLineBreak_of_mem_splitLinesFrom {line text raw : List Char}
    (hline : ∀ c ∈ line, isLineBreak c = false) (h : raw ∈ splitLinesFrom line text) :
    ∀ c ∈ raw, isLineBreak c = false := by
  fun_induction splitLinesFrom line text with
  | case1 line hempty => simp at h
  | case2 line hempty =>
    obtain rfl := List.mem_singleton.mp h
    simpa using hline
  | case3 line rest ih =>
    rcases List.mem_cons.mp h with rfl | h
    · simpa using hline
    · exact ih (by simp) h
  | case4 line c rest hpair hbreak ih =>
    rcases List.mem_cons.mp h with rfl | h
    · simpa using hline
    · exact ih (by simp) h
  | case5 line c rest hpair hbreak ih =>
    apply ih _ h
    intro d hd
    rcases List.mem_cons.mp hd with rfl | hd
    · simpa using hbreak
    · exact hline d hd

theorem isLineBreak_of_mem_splitLines {text raw : List Char} (h : raw ∈ splitLines text) :
    ∀ c ∈ raw, isLineBreak c = false :=
  isLineBreak_of_mem_splitLinesFrom (by simp) h

theorem lineFeed_notMem {text raw : List Char} (h : raw ∈ splitLines text) : '\n' ∉ raw := by
  intro hm
  have hb := isLineBreak_of_mem_splitLines h '\n' hm
  exact absurd hb (by decide)

/-! Pieces between separators. -/

@[simp] theorem splitOn_eq (separator : Char) (text : List Char) :
    splitOn separator text = text.splitOn separator := by
  induction text with
  | nil => rfl
  | cons c rest ih =>
    rw [splitOn, List.splitOn_cons_eq_if_modifyHead, ih]
    by_cases h : c = separator
    · simp [h]
    · cases hrest : rest.splitOn separator with
      | nil => exact absurd hrest (List.splitOn_ne_nil _ _)
      | cons piece pieces => simp [h]

theorem intercalate_append (separator : Char) {pieces others : List (List Char)}
    (hp : pieces ≠ []) (ho : others ≠ []) :
    [separator].intercalate (pieces ++ others) =
      [separator].intercalate pieces ++ separator :: [separator].intercalate others := by
  induction pieces with
  | nil => exact absurd rfl hp
  | cons piece pieces ih =>
    rw [List.cons_append, List.intercalate_cons_of_ne_nil (by simp [ho])]
    cases pieces with
    | nil => simp
    | cons next pieces =>
      rw [ih (List.cons_ne_nil _ _), List.intercalate_cons_of_ne_nil (List.cons_ne_nil next pieces)]
      simp only [List.append_assoc]

@[simp] theorem splitOn_prefix_iff {separator : Char} {text longer : List Char} :
    splitOn separator text <+: splitOn separator longer ↔
      longer = text ∨ text ++ [separator] <+: longer := by
  rw [splitOn_eq, splitOn_eq]
  constructor
  · rintro ⟨more, hmore⟩
    have hlonger : [separator].intercalate (longer.splitOn separator) = longer :=
      List.intercalate_splitOn separator
    rw [← hmore] at hlonger
    cases more with
    | nil =>
      rw [List.append_nil, List.intercalate_splitOn] at hlonger
      exact .inl hlonger.symm
    | cons piece more =>
      rw [intercalate_append separator (List.splitOn_ne_nil _ _) (List.cons_ne_nil _ _),
        List.intercalate_splitOn] at hlonger
      exact .inr ⟨_, by rw [List.append_assoc]; exact hlonger⟩
  · rintro (rfl | ⟨rest, rfl⟩)
    · exact List.prefix_rfl
    · rw [List.append_assoc]
      exact ⟨_, (List.splitOn_append_cons_self text rest).symm⟩

end ScenarioCheck.Text
