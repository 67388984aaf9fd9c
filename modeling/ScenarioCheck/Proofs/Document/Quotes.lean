import ScenarioCheck.Proofs.Document.Visible

/-! Quoted texts of a document, found by their marks alone. A mark opens quoted text, the next line
with the same mark closes it, and the other mark does neither in between. -/
namespace ScenarioCheck.Document

open Text (trim)

structure Quote where
  opened : Nat
  closed? : Option Nat
  deriving DecidableEq, Repr

/-- The quoted texts among lines numbered from `line`. A line that starts with a mark opens one, and
the first line after it that starts with the same mark closes it. -/
def quotesFrom (line : Nat) : List (List Char) → List Quote
  | [] => []
  | raw :: rest =>
    match fences.find? (·.isPrefixOf (trim raw)) with
    | none => quotesFrom (line + 1) rest
    | some mark =>
      match rest.findIdx? (mark.isPrefixOf <| trim ·) with
      | none => [⟨line, none⟩]
      | some k => ⟨line, some (line + 1 + k)⟩ :: quotesFrom (line + 1 + (k + 1)) (rest.drop (k + 1))
termination_by lines => lines.length

def quotes (text : String) : List Quote := quotesFrom 0 (Text.splitLines text.toList)

/-! How the scan for visible lines goes on at a mark. -/

theorem visibleFrom_some (mark : List Char) (line : Nat) (lines : List (List Char)) :
    visibleFrom (some mark) line lines =
      match lines.findIdx? (mark.isPrefixOf <| trim ·) with
      | none => []
      | some k => visibleFrom none (line + (k + 1)) (lines.drop (k + 1)) := by
  induction lines generalizing line with
  | nil => rfl
  | cons raw rest ih =>
    rw [visibleFrom_quoted, List.findIdx?_cons]
    cases hm : mark.isPrefixOf (trim raw) with
    | true => simp
    | false =>
      rw [if_neg Bool.false_ne_true, if_neg Bool.false_ne_true, ih]
      cases rest.findIdx? (mark.isPrefixOf <| trim ·) with
      | none => rfl
      | some k => simp [Nat.add_assoc, Nat.add_comm 1]

@[simp] theorem visibleFrom_fence {raw mark : List Char}
    (hf : fences.find? (·.isPrefixOf (trim raw)) = some mark) (line : Nat)
    (rest : List (List Char)) :
    visibleFrom none line (raw :: rest) = visibleFrom (some mark) (line + 1) rest := by
  simp only [visibleFrom, outsideQuotes, hf]

/-! Where quoted text stands. -/

def StartsAt (lines : List (List Char)) (n : Nat) (mark : List Char) : Prop :=
  ∃ raw, lines[n]? = some raw ∧ mark.isPrefixOf (trim raw) = true

def Quote.Covers (q : Quote) (n : Nat) : Prop :=
  q.opened ≤ n ∧ ∀ k, q.closed? = some k → n ≤ k

/-- Quoted text starts with a mark, and the first line after it with the same mark closes it. Lines
with the other mark do not. -/
def Quote.ClosesAtMark (lines : List (List Char)) (q : Quote) : Prop :=
  ∃ mark ∈ fences, StartsAt lines q.opened mark ∧
    ∀ n, q.closed? = some n ↔
      q.opened < n ∧ StartsAt lines n mark ∧ ∀ m, q.opened < m → m < n → ¬StartsAt lines m mark

section Lines

variable {lines : List (List Char)}

theorem eq_drop_of_cons {raw : List Char} {rest : List (List Char)} {line : Nat}
    (h : raw :: rest = lines.drop line) :
    lines[line]? = some raw ∧ rest = lines.drop (line + 1) := by
  constructor
  · rw [← List.head?_drop, ← h, List.head?_cons]
  · rw [← List.tail_drop, ← h, List.tail_cons]

theorem startsAt_iff_of_drop {rest : List (List Char)} {line : Nat} (h : rest = lines.drop line)
    {k : Nat} {mark : List Char} : StartsAt lines (line + k) mark ↔
      ∃ raw, rest[k]? = some raw ∧ mark.isPrefixOf (trim raw) = true := by
  rw [h, List.getElem?_drop, StartsAt]

theorem findIdx?_mark_iff {rest : List (List Char)} {line : Nat} (h : rest = lines.drop line)
    {mark : List Char} {n : Nat} :
    (rest.findIdx? (mark.isPrefixOf <| trim ·)).map (line + ·) = some n ↔
      line ≤ n ∧ StartsAt lines n mark ∧ ∀ m, line ≤ m → m < n → ¬StartsAt lines m mark := by
  have hstarts (k : Nat) : StartsAt lines (line + k) mark ↔
      ∃ hk : k < rest.length, mark.isPrefixOf (trim rest[k]) = true := by
    rw [startsAt_iff_of_drop h]
    simp [List.getElem?_eq_some_iff]
  simp only [Option.map_eq_some_iff, List.findIdx?_eq_some_iff_getElem]
  constructor
  · rintro ⟨k, ⟨hk, hmark, hfirst⟩, rfl⟩
    refine ⟨Nat.le_add_right _ _, (hstarts k).mpr ⟨hk, hmark⟩, fun m hm hlt => ?_⟩
    obtain ⟨j, rfl⟩ := Nat.exists_eq_add_of_le hm
    rw [hstarts]
    rintro ⟨_, hj⟩
    exact hfirst j (Nat.lt_of_add_lt_add_left hlt) hj
  · rintro ⟨hle, hmark, hfirst⟩
    obtain ⟨k, rfl⟩ := Nat.exists_eq_add_of_le hle
    obtain ⟨hk, hmark⟩ := (hstarts k).mp hmark
    refine ⟨k, ⟨hk, hmark, fun j hj hjm => ?_⟩, rfl⟩
    exact hfirst (line + j) (Nat.le_add_right _ _) (Nat.add_lt_add_left hj line)
      ((hstarts j).mpr ⟨hj.trans hk, hjm⟩)

theorem le_opened {line : Nat} {ls : List (List Char)} {q : Quote} (hq : q ∈ quotesFrom line ls) :
    line ≤ q.opened := by
  fun_induction quotesFrom line ls with
  | case1 line => cases hq
  | case2 line raw rest hf ih => exact Nat.le_of_succ_le (ih hq)
  | case3 line raw rest mark hf hopen =>
    obtain rfl := List.mem_singleton.mp hq
    exact Nat.le_refl _
  | case4 line raw rest mark hf k hk ih =>
    rcases List.mem_cons.mp hq with rfl | hq
    · exact Nat.le_refl _
    · have hle := ih hq
      omega

theorem pairwise_quotesFrom (line : Nat) (ls : List (List Char)) :
    (quotesFrom line ls).Pairwise fun q q' => ∃ n, q.closed? = some n ∧ n < q'.opened := by
  fun_induction quotesFrom line ls with
  | case1 line => exact .nil
  | case2 line raw rest hf ih => exact ih
  | case3 line raw rest mark hf hopen => exact List.pairwise_singleton _ _
  | case4 line raw rest mark hf k hk ih =>
    exact List.pairwise_cons.mpr ⟨fun q hq => ⟨_, rfl, le_opened hq⟩, ih⟩

theorem closesAtMark_of_fence {raw mark : List Char} {rest : List (List Char)} {line : Nat}
    (h : raw :: rest = lines.drop line)
    (hf : fences.find? (·.isPrefixOf (trim raw)) = some mark) :
    Quote.ClosesAtMark lines
      ⟨line, (rest.findIdx? (mark.isPrefixOf <| trim ·)).map (line + 1 + ·)⟩ := by
  obtain ⟨hraw, hrest⟩ := eq_drop_of_cons h
  have hmark : mark.isPrefixOf (trim raw) = true := by simpa using List.find?_some hf
  exact ⟨mark, List.mem_of_find?_eq_some hf, ⟨raw, hraw, hmark⟩, fun n => findIdx?_mark_iff hrest⟩

theorem closesAtMark_of_mem_quotesFrom {line : Nat} {ls : List (List Char)}
    (h : ls = lines.drop line) {q : Quote} (hq : q ∈ quotesFrom line ls) :
    q.ClosesAtMark lines := by
  fun_induction quotesFrom line ls with
  | case1 line => cases hq
  | case2 line raw rest hf ih => exact ih (eq_drop_of_cons h).2 hq
  | case3 line raw rest mark hf hopen =>
    obtain rfl := List.mem_singleton.mp hq
    have hclose := closesAtMark_of_fence h hf
    rwa [hopen] at hclose
  | case4 line raw rest mark hf k hk ih =>
    rcases List.mem_cons.mp hq with rfl | hq
    · have hclose := closesAtMark_of_fence h hf
      rwa [hk] at hclose
    · exact ih (by rw [(eq_drop_of_cons h).2, List.drop_drop]) hq

theorem mem_visibleFrom_cons {raw' : List Char}
    (hf : fences.find? (·.isPrefixOf (trim raw')) = none) {line : Nat} {rest : List (List Char)}
    {n : Nat} {raw : List Char} : (n, raw) ∈ visibleFrom none line (raw' :: rest) ↔
      (n = line ∧ raw = raw' ∧ isPassedOver (trim raw) = false) ∨
        (n, raw) ∈ visibleFrom none (line + 1) rest := by
  rw [visibleFrom, outsideQuotes, hf]
  simp only [visibleFrom, List.mem_filter, List.mem_cons, Prod.mk.injEq, Bool.not_eq_true',
    or_and_right, and_assoc]

theorem mem_visibleFrom_iff {line : Nat} {ls : List (List Char)} (h : ls = lines.drop line)
    {n : Nat} {raw : List Char} : (n, raw) ∈ visibleFrom none line ls ↔
      line ≤ n ∧ lines[n]? = some raw ∧ isPassedOver (trim raw) = false ∧
        ∀ q ∈ quotesFrom line ls, ¬q.Covers n := by
  fun_induction quotesFrom line ls with
  | case1 line =>
    have hend : lines.length ≤ line := List.drop_eq_nil_iff.mp h.symm
    constructor
    · intro hm
      cases hm
    · rintro ⟨hle, hraw, -⟩
      rw [List.getElem?_eq_none (hend.trans hle)] at hraw
      cases hraw
  | case2 line raw' rest hf ih =>
    obtain ⟨hraw', hrest⟩ := eq_drop_of_cons h
    rw [mem_visibleFrom_cons hf, ih hrest]
    constructor
    · rintro (⟨rfl, rfl, hp⟩ | ⟨hle, hraw⟩)
      · refine ⟨Nat.le_refl _, hraw', hp, fun q hq hc => ?_⟩
        exact absurd ((le_opened hq).trans hc.1) (Nat.not_succ_le_self _)
      · exact ⟨Nat.le_of_succ_le hle, hraw⟩
    · rintro ⟨hle, hraw, hp, hc⟩
      rcases Nat.eq_or_lt_of_le hle with rfl | hlt
      · rw [hraw'] at hraw
        exact .inl ⟨rfl, (Option.some.inj hraw).symm, hp⟩
      · exact .inr ⟨hlt, hraw, hp, hc⟩
  | case3 line raw' rest mark hf hopen =>
    rw [visibleFrom_fence hf, visibleFrom_some, hopen]
    constructor
    · intro hm
      cases hm
    · rintro ⟨hle, -, -, hc⟩
      exact absurd ⟨hle, by simp⟩ (hc ⟨line, none⟩ (by simp))
  | case4 line raw' rest mark hf k hk ih =>
    have hrest : rest.drop (k + 1) = lines.drop (line + 1 + (k + 1)) := by
      rw [(eq_drop_of_cons h).2, List.drop_drop]
    rw [visibleFrom_fence hf, visibleFrom_some, hk]
    simp only [ih hrest, List.forall_mem_cons]
    have hcovers : (⟨line, some (line + 1 + k)⟩ : Quote).Covers n ↔
        line ≤ n ∧ n ≤ line + 1 + k := by
      simp [Quote.Covers]
    rw [hcovers]
    constructor
    · rintro ⟨hle, hraw, hp, hc⟩
      exact ⟨by omega, hraw, hp, by omega, hc⟩
    · rintro ⟨hle, hraw, hp, hout, hc⟩
      exact ⟨by omega, hraw, hp, hc⟩

end Lines

structure QuotesStand (text : String) : Prop where
  /-- Each starts with a mark and ends on the first line after that with the same mark. -/
  closes : ∀ q ∈ quotes text, q.ClosesAtMark (Text.splitLines text.toList)
  /-- None opens inside another one. -/
  apart : (quotes text).Pairwise fun q q' => ∃ n, q.closed? = some n ∧ n < q'.opened
  /-- The visible lines are those outside that are not passed over. -/
  visible_iff : ∀ n raw, (n, raw) ∈ visible text ↔
    (Text.splitLines text.toList)[n]? = some raw ∧ isPassedOver (trim raw) = false ∧
      ∀ q ∈ quotes text, ¬q.Covers n

theorem quotesStand (text : String) : QuotesStand text where
  closes _ hq := closesAtMark_of_mem_quotesFrom List.drop_zero.symm hq
  apart := pairwise_quotesFrom 0 _
  visible_iff n _ :=
    (mem_visibleFrom_iff List.drop_zero.symm).trans (and_iff_right (Nat.zero_le n))

example : quotes "\"\"\"\n```\n\"\"\"\n```" = [⟨0, some 2⟩, ⟨3, none⟩] := by
  cbv

end ScenarioCheck.Document
