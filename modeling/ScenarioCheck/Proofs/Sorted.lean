import Mathlib.Data.List.Basic

/-! Stable sorting. A list is sorted stably if elements that an order does not tell apart keep the order
they had, and there is only one way to do so. -/
namespace ScenarioCheck

variable {α : Type} {le : α → α → Bool}

def ties (le : α → α → Bool) (a b : α) : Bool := le a b && le b a

/-- A list in another order: no element is lost or comes twice, smaller ones come first, and those that
the order does not tell apart come as they did. -/
structure StablySorted (le : α → α → Bool) (items sorted : List α) : Prop where
  perm : sorted.Perm items
  ordered : sorted.Pairwise fun a b => le a b = true
  stable : ∀ a, sorted.filter (ties le a) = items.filter (ties le a)

theorem perm_of_filter_ties (hrefl : ∀ a, le a a = true) {l l' : List α}
    (h : ∀ a, l.filter (ties le a) = l'.filter (ties le a)) : l.Perm l' := by
  classical
  rw [List.perm_iff_count]
  intro a
  have hself : ties le a a = true := by simp [ties, hrefl]
  rw [← List.count_filter hself, h a, List.count_filter hself]

theorem le_of_ties (htrans : ∀ a b c, le a b = true → le b c = true → le a c = true) {a b c : α}
    (hb : ties le a b = true) (hc : ties le a c = true) : le b c = true := by
  simp only [ties, Bool.and_eq_true] at hb hc
  exact htrans b a c hb.2 hc.1

section Total

variable (htotal : ∀ a b, (le a b || le b a) = true)
include htotal

theorem refl_of_total (a : α) : le a a = true := by
  simpa using htotal a a

theorem stablySorted_mergeSort (htrans : ∀ a b c, le a b = true → le b c = true → le a c = true)
    (items : List α) : StablySorted le items (items.mergeSort le) := by
  refine ⟨List.mergeSort_perm items le, List.pairwise_mergeSort htrans htotal items, fun a => ?_⟩
  -- the elements that are tied with one are sorted as they come, so the sorted list holds them so
  have hsorted : (items.filter (ties le a)).Pairwise fun b c => le b c = true :=
    List.pairwise_of_forall_mem_list fun b hb c hc =>
      le_of_ties htrans (List.mem_filter.mp hb).2 (List.mem_filter.mp hc).2
  have hsub := (List.sublist_mergeSort htrans htotal hsorted List.filter_sublist).filter (ties le a)
  simp only [List.filter_filter, Bool.and_self] at hsub
  have hlength := ((List.mergeSort_perm items le).filter (ties le a)).length_eq
  exact (hsub.eq_of_length hlength.symm).symm

theorem StablySorted.unique {items sorted sorted' : List α} (h : StablySorted le items sorted)
    (h' : StablySorted le items sorted') : sorted = sorted' := by
  have hperm := h.perm.trans h'.perm.symm
  have hstable a : sorted.filter (ties le a) = sorted'.filter (ties le a) :=
    (h.stable a).trans (h'.stable a).symm
  have hordered := h.ordered
  have hordered' := h'.ordered
  clear h h'
  induction sorted generalizing sorted' with
  | nil => exact hperm.nil_eq
  | cons a rest ih =>
    cases sorted' with
    | nil => cases hperm.eq_nil
    | cons b rest' =>
      obtain ⟨ha, hrest⟩ := List.pairwise_cons.mp hordered
      obtain ⟨hb, hrest'⟩ := List.pairwise_cons.mp hordered'
      have hself c : ties le c c = true := by simp [ties, refl_of_total htotal]
      -- the first elements are tied, since each comes first in a list that holds the other
      have htied : ties le a b = true := by
        have hab : le a b = true := by
          rcases List.mem_cons.mp (hperm.mem_iff.mpr (.head _) : b ∈ a :: rest) with rfl | hmem
          · exact refl_of_total htotal _
          · exact ha b hmem
        have hba : le b a = true := by
          rcases List.mem_cons.mp (hperm.mem_iff.mp (.head _) : a ∈ b :: rest') with rfl | hmem
          · exact refl_of_total htotal _
          · exact hb a hmem
        simp [ties, hab, hba]
      have hfirst := hstable a
      rw [List.filter_cons_of_pos (hself a), List.filter_cons_of_pos htied] at hfirst
      obtain rfl := (List.cons.inj hfirst).1
      rw [ih (List.perm_cons a |>.mp hperm) (fun c => ?_) hrest hrest']
      have hc := hstable c
      by_cases htie : ties le c a = true
      · rw [List.filter_cons_of_pos htie, List.filter_cons_of_pos htie] at hc
        exact (List.cons.inj hc).2
      · rwa [List.filter_cons_of_neg htie, List.filter_cons_of_neg htie] at hc

end Total

/-! Which elements are compared. -/

theorem merge_congr {le' : α → α → Bool} {l r : List α} (h : ∀ a ∈ l, ∀ b ∈ r, le a b = le' a b) :
    l.merge r le = l.merge r le' := by
  induction l generalizing r with
  | nil => simp
  | cons a l ihl =>
    induction r with
    | nil => simp
    | cons b r ihr =>
      rw [List.cons_merge_cons, List.cons_merge_cons, h a (.head _) b (.head _),
        ihl fun a' ha' => h a' (.tail _ ha'), ihr fun a' ha' b' hb' => h a' ha' b' (.tail _ hb')]

theorem mergeSort_congr {le' : α → α → Bool} {items : List α}
    (h : items.Pairwise fun a b => le a b = le' a b) : items.mergeSort le = items.mergeSort le' := by
  induction items, le using List.mergeSort.induct with
  | case1 le => simp
  | case2 le a => simp
  | case3 a b rest le halves _ _ ihfirst ihsecond =>
    have hsplit : halves.1.val ++ halves.2.val = a :: b :: rest :=
      List.MergeSort.Internal.splitInTwo_fst_append_splitInTwo_snd ⟨a :: b :: rest, rfl⟩
    rw [← hsplit] at h
    obtain ⟨hfirst, hsecond, hacross⟩ := List.pairwise_append.mp h
    rw [List.mergeSort, List.mergeSort, ihfirst hfirst, ihsecond hsecond]
    exact merge_congr fun a ha b hb =>
      hacross a (List.mem_mergeSort.mp ha) b (List.mem_mergeSort.mp hb)

end ScenarioCheck
