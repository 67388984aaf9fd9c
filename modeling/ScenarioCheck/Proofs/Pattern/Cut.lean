import ScenarioCheck.Pattern.Basic

/-! The cut of a pattern said without cutting: slots are taken from left to right, and no literal
holds a place where one could be taken earlier. There is exactly one such cut. -/
namespace ScenarioCheck.Pattern

/-- A text that starts with a slot: an opening brace, one or more characters other than a closing
brace, and a closing brace. -/
def StartsSlot (text slot after : List Char) : Prop :=
  text = '{' :: (slot ++ '}' :: after) ∧ slot ≠ [] ∧ '}' ∉ slot

/-- The cut of a text at its leftmost slot, then at the leftmost slot after it, and so on. -/
inductive LeftmostCut : List Char → Cut → Prop where
  | last {text : List Char}
      (none : ∀ front rest slot after, text = front ++ rest → ¬StartsSlot rest slot after) :
      LeftmostCut text ⟨text, []⟩
  | slot (literal : List Char) {rest slot after : List Char} {c : Cut}
      (starts : StartsSlot rest slot after)
      (leftmost : ∀ front rest' slot' after', literal ++ rest = front ++ rest' →
        front.length < literal.length → ¬StartsSlot rest' slot' after')
      (others : LeftmostCut after c) :
      LeftmostCut (literal ++ rest) ⟨literal, (slot, c.head) :: c.tail⟩

theorem slot?_eq_some_iff {text slot after : List Char} :
    slot? text = some (slot, after) ↔ StartsSlot ('{' :: text) slot after := by
  have hsplit : text.takeWhile (· ≠ '}') ++ text.dropWhile (· ≠ '}') = text :=
    List.takeWhile_append_dropWhile
  unfold slot? StartsSlot
  simp only
  constructor
  · intro h
    split at h
    · cases h
    · rename_i c rest hd
      have hc : c = '}' := by
        have hhead := List.head?_dropWhile_not (fun c => decide (c ≠ '}')) text
        rw [hd] at hhead
        simpa using hhead
      split at h
      · cases h
      · rename_i hne
        obtain ⟨rfl, rfl⟩ := Prod.mk.inj (Option.some.inj h)
        rw [hd, hc] at hsplit
        refine ⟨by rw [hsplit], by simpa using hne, fun hmem => ?_⟩
        have := List.all_eq_true.mp (List.all_takeWhile (p := fun c => decide (c ≠ '}')) (l := text))
          '}' hmem
        simp at this
  · rintro ⟨ht, hne, hnot⟩
    obtain rfl := (List.cons.inj ht).2
    have hbody : ∀ c ∈ slot, decide (c ≠ '}') = true := by
      intro c hc
      exact decide_eq_true fun heq => hnot (heq ▸ hc)
    rw [List.dropWhile_append_of_pos hbody, List.takeWhile_append_of_pos hbody]
    simp [hne]

theorem StartsSlot.inj {text slot after slot' after' : List Char} (h : StartsSlot text slot after)
    (h' : StartsSlot text slot' after') : slot = slot' ∧ after = after' := by
  cases text with
  | nil => cases h.1
  | cons x text =>
    obtain rfl := (List.cons.inj h.1).1
    have hs := (slot?_eq_some_iff.mpr h).symm.trans (slot?_eq_some_iff.mpr h')
    exact Prod.mk.inj (Option.some.inj hs)

namespace LeftmostCut

theorem cons {text : List Char} {c : Cut} (h : LeftmostCut text c) {x : Char}
    (hx : ∀ slot after, ¬StartsSlot (x :: text) slot after) : LeftmostCut (x :: text) (c.cons x) := by
  cases h with
  | last none =>
    apply LeftmostCut.last
    intro front rest slot after ht
    cases front with
    | nil =>
      rw [List.nil_append] at ht
      exact ht ▸ hx slot after
    | cons y front => exact none front rest slot after (List.cons.inj ht).2
  | @slot literal rest slot after c starts leftmost others =>
    apply LeftmostCut.slot (x :: literal) starts _ others
    intro front rest' slot' after' ht hlt
    cases front with
    | nil =>
      rw [List.nil_append] at ht
      exact ht ▸ hx slot' after'
    | cons y front =>
      exact leftmost front rest' slot' after' (List.cons.inj ht).2 (Nat.lt_of_succ_lt_succ hlt)

theorem unique {text : List Char} {c c' : Cut} (h : LeftmostCut text c)
    (h' : LeftmostCut text c') : c = c' := by
  induction h generalizing c' with
  | last none =>
    cases h' with
    | last _ => rfl
    | slot literal starts _ _ => exact absurd starts (none literal _ _ _ rfl)
  | @slot literal rest slot after c starts leftmost others ih =>
    generalize ht : literal ++ rest = text at h'
    cases h' with
    | last none => exact absurd starts (none literal _ _ _ ht.symm)
    | @slot literal' rest' slot' after' c' starts' leftmost' others' =>
      have hlen : literal.length = literal'.length := by
        rcases Nat.lt_trichotomy literal.length literal'.length with hlt | heq | hgt
        · exact absurd starts (leftmost' literal rest slot after ht.symm hlt)
        · exact heq
        · exact absurd starts' (leftmost literal' rest' slot' after' ht hgt)
      obtain ⟨rfl, rfl⟩ := List.append_inj ht hlen
      obtain ⟨rfl, rfl⟩ := starts.inj starts'
      rw [ih others']

end LeftmostCut

theorem leftmostCut_cut (text : List Char) : LeftmostCut text (cut text) := by
  fun_induction cut text with
  | case1 =>
    apply LeftmostCut.last
    intro front rest slot after ht hs
    rw [(List.append_eq_nil_iff.mp ht.symm).2] at hs
    cases hs.1
  | case2 rest slot after h hlt inner ih =>
    have hs := slot?_eq_some_iff.mp h
    exact LeftmostCut.slot [] hs (by simp) ih
  | case3 rest h ih =>
    apply ih.cons
    intro slot after hs
    rw [slot?_eq_some_iff.mpr hs] at h
    cases h
  | case4 c rest hc ih =>
    apply ih.cons
    intro slot after hs
    exact hc (List.cons.inj hs.1).1

end ScenarioCheck.Pattern
