import Mathlib.Algebra.Order.Ring.Nat
import Mathlib.Data.String.Basic
import ScenarioCheck.Proofs.Ordered
import ScenarioCheck.Proofs.Sorted
import ScenarioCheck.Report.Terminal

/-! Reports for people. Findings are gathered by file and the files sorted, then the findings of each
file are sorted by line; together this sorts all findings stably by file and line. The summary counts
each of them under one code. -/
namespace ScenarioCheck.Report

open Ordered (keys get? gathered)

def Finding.isUpTo (f g : Finding) : Bool :=
  decide (f.file < g.file) || f.file == g.file && decide (f.range.startLine ≤ g.range.startLine)

@[simp] theorem Finding.isUpTo_iff {f g : Finding} : f.isUpTo g = true ↔
    f.file < g.file ∨ f.file = g.file ∧ f.range.startLine ≤ g.range.startLine := by
  simp [isUpTo]

@[simp] theorem Finding.isUpTo_total (f g : Finding) : (f.isUpTo g || g.isUpTo f) = true := by
  rw [Bool.or_eq_true, isUpTo_iff, isUpTo_iff]
  rcases lt_trichotomy f.file g.file with h | h | h
  · exact .inl (.inl h)
  · rcases Int.le_total f.range.startLine g.range.startLine with hl | hl
    · exact .inl (.inr ⟨h, hl⟩)
    · exact .inr (.inr ⟨h.symm, hl⟩)
  · exact .inr (.inl h)

@[simp] theorem Finding.ties_iff {f g : Finding} : ties isUpTo f g = true ↔
    g.file = f.file ∧ g.range.startLine = f.range.startLine := by
  rw [ties, Bool.and_eq_true, isUpTo_iff, isUpTo_iff]
  constructor
  · rintro ⟨h | ⟨h, hl⟩, h' | ⟨h', hl'⟩⟩
    · exact absurd h' (lt_asymm h)
    · exact absurd h (h' ▸ lt_irrefl _)
    · exact absurd h' (h ▸ lt_irrefl _)
    · exact ⟨h', Int.le_antisymm hl' hl⟩
  · rintro ⟨h, hl⟩
    exact ⟨.inr ⟨h.symm, hl.ge⟩, .inr ⟨h, hl.le⟩⟩

/-! Findings by file. -/

theorem foldl_gather (found : List Finding) (before : Option (List Finding)) :
    found.foldl (fun found f => some (found.getD [] ++ [f])) before =
      if found = [] then before else some (before.getD [] ++ found) := by
  induction found generalizing before with
  | nil => rfl
  | cons f rest ih =>
    rw [List.foldl_cons, ih]
    cases rest <;> simp

theorem nodup_keys_byFile (findings : List Finding) : (keys (byFile findings)).Nodup :=
  Ordered.nodup_keys_gathered Finding.file (fun found f => found.getD [] ++ [f]) findings

@[simp] theorem mem_byFile_iff {findings found : List Finding} {file : String} :
    (file, found) ∈ byFile findings ↔ found ≠ [] ∧ found = findings.filter (·.file = file) := by
  have hmem : (file, found) ∈ byFile findings ↔ _ :=
    Ordered.mem_gathered_iff Finding.file (fun found f => found.getD [] ++ [f])
  rw [hmem, foldl_gather]
  split
  · rename_i hnone
    exact ⟨nofun, fun h => absurd (h.2.trans hnone) h.1⟩
  · rename_i hsome
    rw [Option.some.injEq, Option.getD_none, List.nil_append, eq_comm]
    exact ⟨fun h => ⟨h ▸ hsome, h⟩, And.right⟩

/-! Entries sorted by key. -/

section ByKey

variable {α : Type} {entries : List (String × α)}

@[simp] theorem mem_byKey {e : String × α} : e ∈ byKey entries ↔ e ∈ entries := List.mem_mergeSort

theorem nodup_keys_byKey (h : (keys entries).Nodup) : (keys (byKey entries)).Nodup :=
  ((List.mergeSort_perm _ _).map _).nodup_iff.mpr h

theorem pairwise_lt_byKey (h : (keys entries).Nodup) :
    (byKey entries).Pairwise fun e e' => e.1 < e'.1 := by
  have hsorted : (byKey entries).Pairwise fun e e' => decide (e.1 ≤ e'.1) = true := by
    refine List.pairwise_mergeSort (fun a b c hab hbc => ?_) (fun e e' => ?_) entries
    · exact decide_eq_true (le_trans (of_decide_eq_true hab) (of_decide_eq_true hbc))
    · simpa using le_total e.1 e'.1
  have hne : (byKey entries).Pairwise fun e e' => e.1 ≠ e'.1 :=
    List.pairwise_map.mp (nodup_keys_byKey h)
  exact hsorted.imp₂ (fun _ _ hle => lt_of_le_of_ne (of_decide_eq_true hle)) hne

theorem mergeSort_eq_byKey (h : (keys entries).Nodup) {le : String × α → String × α → Bool}
    (hle : ∀ e e', e.1 ≠ e'.1 → le e e' = decide (e.1 ≤ e'.1)) :
    entries.mergeSort le = byKey entries :=
  mergeSort_congr ((List.pairwise_map.mp h).imp (hle _ _))

end ByKey

/-! Sorted files, and the findings of each by line. -/

@[simp] theorem keys_sections (findings : List Finding) :
    keys (sections findings) = keys (byKey (byFile findings)) := by
  simp [sections, keys, Function.comp_def]

theorem nodup_keys_sections (findings : List Finding) : (keys (sections findings)).Nodup := by
  rw [keys_sections]
  exact nodup_keys_byKey (nodup_keys_byFile findings)

theorem pairwise_lt_sections (findings : List Finding) :
    (sections findings).Pairwise fun s t => s.1 < t.1 := by
  rw [sections, List.pairwise_map]
  exact pairwise_lt_byKey (nodup_keys_byFile findings)

@[simp] theorem mem_sections_iff {findings found : List Finding} {file : String} :
    (file, found) ∈ sections findings ↔ findings.filter (·.file = file) ≠ [] ∧
      found = byLine (findings.filter (·.file = file)) := by
  simp only [sections, List.mem_map, mem_byKey, Prod.exists, Prod.mk.injEq, mem_byFile_iff]
  constructor
  · rintro ⟨_, _, ⟨hne, rfl⟩, rfl, rfl⟩
    exact ⟨hne, rfl⟩
  · rintro ⟨hne, rfl⟩
    exact ⟨file, _, ⟨hne, rfl⟩, rfl, rfl⟩

theorem file_of_mem_sections {findings : List Finding} {s : String × List Finding} {f : Finding}
    (hs : s ∈ sections findings) (hf : f ∈ s.2) : f.file = s.1 := by
  obtain ⟨file, found⟩ := s
  obtain ⟨-, rfl⟩ := mem_sections_iff.mp hs
  have hmem : f ∈ findings.filter (·.file = file) := List.mem_mergeSort.mp hf
  simpa using (List.mem_filter.mp hmem).2

def isLineUpTo (f g : Finding) : Bool := decide (f.range.startLine ≤ g.range.startLine)

theorem stablySorted_byLine (found : List Finding) : StablySorted isLineUpTo found (byLine found) := by
  refine stablySorted_mergeSort (fun f g => ?_) (fun f g h => ?_) found
  · simpa [isLineUpTo] using Int.le_total f.range.startLine g.range.startLine
  · simpa [isLineUpTo] using Int.le_trans

def shown (findings : List Finding) : List Finding := (sections findings).flatMap (·.2)

@[simp] theorem mem_shown_iff {findings : List Finding} {f : Finding} :
    f ∈ shown findings ↔ f ∈ findings := by
  rw [shown, List.mem_flatMap]
  constructor
  · rintro ⟨⟨file, found⟩, hs, hf⟩
    obtain ⟨-, rfl⟩ := mem_sections_iff.mp hs
    exact (List.mem_filter.mp (List.mem_mergeSort.mp hf)).1
  · intro hf
    have hown : f ∈ findings.filter (·.file = f.file) := List.mem_filter.mpr ⟨hf, by simp⟩
    exact ⟨(f.file, _), mem_sections_iff.mpr ⟨List.ne_nil_of_mem hown, rfl⟩,
      List.mem_mergeSort.mpr hown⟩

theorem ties_isUpTo (f : Finding) :
    ties Finding.isUpTo f = fun g => decide (g.file = f.file) && ties isLineUpTo f g := by
  funext g
  rw [Bool.eq_iff_iff, Finding.ties_iff]
  simp only [ties, isLineUpTo, Bool.and_eq_true, decide_eq_true_eq]
  exact and_congr .rfl ⟨fun h => ⟨h.ge, h.le⟩, fun h => Int.le_antisymm h.2 h.1⟩

@[simp] theorem filter_ties_shown (findings : List Finding) (f : Finding) :
    (shown findings).filter (ties Finding.isUpTo f) = findings.filter (ties Finding.isUpTo f) := by
  by_cases hnone : findings.filter (·.file = f.file) = []
  · -- no finding is in this file, so none is tied
    have hfile g (hg : g ∈ findings) : ¬ ties Finding.isUpTo f g = true := fun htied =>
      List.filter_eq_nil_iff.mp hnone g hg (by simpa using (Finding.ties_iff.mp htied).1)
    rw [List.filter_eq_nil_iff.mpr hfile,
      List.filter_eq_nil_iff.mpr fun g hg => hfile g (mem_shown_iff.mp hg)]
  · have hsection : (f.file, byLine (findings.filter (·.file = f.file))) ∈ sections findings :=
      mem_sections_iff.mpr ⟨hnone, rfl⟩
    have hother : ∀ s ∈ sections findings, s.1 ≠ f.file → s.2.filter (ties Finding.isUpTo f) = [] := by
      intro s hs hne
      refine List.filter_eq_nil_iff.mpr fun g hg htied => hne ?_
      rw [← file_of_mem_sections hs hg, (Finding.ties_iff.mp htied).1]
    rw [shown, Ordered.filter_flatMap_of_mem (nodup_keys_sections findings) hsection hother,
      ties_isUpTo, ← List.filter_filter, (stablySorted_byLine _).stable f]
    simp only [List.filter_filter]
    exact List.filter_congr fun g _ => by cases decide (g.file = f.file) <;> simp

theorem stablySorted_shown (findings : List Finding) :
    StablySorted Finding.isUpTo findings (shown findings) := by
  refine ⟨perm_of_filter_ties (refl_of_total Finding.isUpTo_total) (filter_ties_shown findings), ?_,
    filter_ties_shown findings⟩
  rw [shown, List.pairwise_flatMap]
  refine ⟨fun s hs => ?_, ?_⟩
  · -- in a section the file is the same, and the lines are sorted
    obtain ⟨file, found⟩ := s
    have hfile {f : Finding} (hf : f ∈ found) : f.file = file := file_of_mem_sections hs hf
    obtain ⟨-, rfl⟩ := mem_sections_iff.mp hs
    refine (stablySorted_byLine _).ordered.imp_of_mem fun hf hg h => ?_
    have hline := of_decide_eq_true h
    exact Finding.isUpTo_iff.mpr (.inr ⟨(hfile hf).trans (hfile hg).symm, hline⟩)
  · refine (pairwise_lt_sections findings).imp_of_mem fun {s t} hs ht hlt f hf g hg => ?_
    refine Finding.isUpTo_iff.mpr (.inl ?_)
    rwa [file_of_mem_sections hs hf, file_of_mem_sections ht hg]

/-! Counts by code. -/

theorem foldl_count (found : List Finding) (before : Option Nat) :
    found.foldl (fun (n : Option Nat) _ => some (n.getD 0 + 1)) before =
      if found = [] then before else some (before.getD 0 + found.length) := by
  induction found generalizing before with
  | nil => rfl
  | cons f rest ih =>
    rw [List.foldl_cons, ih]
    cases rest with
    | nil => rfl
    | cons g rest =>
      simp
      omega

/-- Findings with how often their codes occur, codes in the order of their first finding. -/
def tallies (findings : List Finding) : List (String × Nat) :=
  gathered Finding.code (fun n _ => n.getD 0 + 1) findings

theorem counts_eq (findings : List Finding) : counts findings = byKey (tallies findings) := rfl

theorem nodup_keys_tallies (findings : List Finding) : (keys (tallies findings)).Nodup :=
  Ordered.nodup_keys_gathered _ _ findings

@[simp] theorem mem_counts_iff {findings : List Finding} {code : String} {n : Nat} :
    (code, n) ∈ counts findings ↔ n ≠ 0 ∧ n = findings.countP (·.code = code) := by
  have hmem : (code, n) ∈ tallies findings ↔ _ :=
    Ordered.mem_gathered_iff Finding.code (fun n _ => n.getD 0 + 1)
  rw [counts_eq, mem_byKey, hmem, foldl_count, List.countP_eq_length_filter]
  split
  · rename_i hnone
    rw [hnone, List.length_nil]
    exact ⟨nofun, fun h => absurd h.2 h.1⟩
  · rename_i hsome
    rw [Option.some.injEq, Option.getD_none, Nat.zero_add, eq_comm]
    exact ⟨fun h => ⟨fun hzero => hsome (List.length_eq_zero_iff.mp (h ▸ hzero)), h⟩, And.right⟩

@[simp] theorem sum_put (code : String) (m : List (String × Nat)) :
    ((Ordered.put code ((get? code m).getD 0 + 1) m).map (·.2)).sum = (m.map (·.2)).sum + 1 := by
  induction m with
  | nil => rfl
  | cons e m ih =>
    obtain ⟨k, n⟩ := e
    rw [Ordered.put, get?]
    split
    · simp only [Option.getD_some, List.map_cons, List.sum_cons]
      omega
    · simp only [List.map_cons, List.sum_cons, ih]
      omega

@[simp] theorem sum_tallies (findings : List Finding) :
    ((tallies findings).map (·.2)).sum = findings.length := by
  induction findings using List.reverseRecOn with
  | nil => rfl
  | append_singleton findings f ih =>
    rw [tallies, Ordered.gathered_concat, sum_put, ← tallies, ih, List.length_append]
    rfl

@[simp] theorem sum_counts (findings : List Finding) :
    ((counts findings).map (·.2)).sum = findings.length := by
  rw [← sum_tallies findings]
  exact ((List.mergeSort_perm _ _).map _).sum_nat

/-! The report as a whole. -/

/-- The entries of a report for people are made of sections and counts. The sections one after the
other hold the findings, sorted stably by file and line, which is possible in one way only; there is
one section for each file, which names it and holds nothing else. The counts are by code and come to
the total. -/
structure Presents (isColored : Bool) (findings : List Finding)
    (parts : List (String × List Finding)) (numbers : List (String × Nat))
    (entries : List String) : Prop where
  entries_eq : entries = parts.flatMap (sectionEntries isColored) ++
    ["\n" ++ String.ofList (List.replicate 60 '-'),
      "Found " ++ toString findings.length ++ " issue(s):"] ++
    numbers.map fun (code, n) => paint isColored .red ("  " ++ toString n ++ " " ++ code)
  sorted : StablySorted Finding.isUpTo findings (parts.flatMap (·.2))
  only : ∀ other, StablySorted Finding.isUpTo findings other → other = parts.flatMap (·.2)
  files : (parts.map (·.1)).Pairwise (· < ·)
  own : ∀ part ∈ parts, part.2 ≠ [] ∧ ∀ f ∈ part.2, f.file = part.1
  /-- No two findings are compared as a whole. -/
  incomparable : ∀ le : String × List Finding → String × List Finding → Bool,
    (∀ e e', e.1 ≠ e'.1 → le e e' = decide (e.1 ≤ e'.1)) →
      parts = ((byFile findings).mergeSort le).map fun (file, found) => (file, byLine found)
  codes : (numbers.map (·.1)).Pairwise (· < ·)
  number : ∀ code n, (code, n) ∈ numbers ↔ n ≠ 0 ∧ n = findings.countP (·.code = code)
  total : (numbers.map (·.2)).sum = findings.length

theorem presents_findingsEntries (isColored : Bool) {findings : List Finding} (h : findings ≠ []) :
    Presents isColored findings (sections findings) (counts findings)
      (findingsEntries isColored findings) where
  entries_eq := by
    rw [findingsEntries, List.isEmpty_eq_false_iff.mpr h, summaryEntries]
    simp
  sorted := stablySorted_shown findings
  only _ h := h.unique Finding.isUpTo_total (stablySorted_shown findings)
  files := List.pairwise_map.mpr (pairwise_lt_sections findings)
  own part hpart := by
    refine ⟨?_, fun f hf => file_of_mem_sections hpart hf⟩
    obtain ⟨hne, hfound⟩ := mem_sections_iff.mp hpart
    exact fun hnil => hne (hfound.symm.trans hnil ▸ (stablySorted_byLine _).perm).nil_eq.symm
  incomparable le hle := by
    rw [sections, mergeSort_eq_byKey (nodup_keys_byFile findings) hle]
  codes := List.pairwise_map.mpr (pairwise_lt_byKey (nodup_keys_tallies findings))
  number _ _ := mem_counts_iff
  total := sum_counts findings

end ScenarioCheck.Report
