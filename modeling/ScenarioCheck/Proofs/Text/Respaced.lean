import Mathlib.Logic.Relation
import ScenarioCheck.Proofs.Text.Blank
import ScenarioCheck.Text.Lines

/-! Texts that differ in the white space at the ends of their lines. Line by line they are the same
up to that white space. -/
namespace ScenarioCheck.Text

/-- The second text has one blank more, at the end of a line. The blank breaks no line and does not
part the two characters of one break. -/
inductive AddsBlank : List Char → List Char → Prop
  | mk {front rest : List Char} {c : Char} (hc : isBlank c = true) (hb : isLineBreak c = false)
    (hend : ∀ d ∈ rest.head?, isLineBreak d = true)
    (hpair : ¬(front.getLast? = some '\r' ∧ rest.head? = some '\n')) :
    AddsBlank (front ++ rest) (front ++ c :: rest)

/-- White space was added and taken away at the ends of lines. -/
def Respaced : List Char → List Char → Prop := Relation.EqvGen AddsBlank

theorem Respaced.of_eq {text text' front rest : List Char} {c : Char} (h : text = front ++ rest)
    (h' : text' = front ++ c :: rest) (hc : isBlank c = true) (hb : isLineBreak c = false)
    (hend : rest.head?.all isLineBreak = true)
    (hpair : ¬(front.getLast? = some '\r' ∧ rest.head? = some '\n')) : Respaced text text' := by
  subst h h'
  rw [Option.all_eq_true] at hend
  exact .rel _ _ (.mk hc hb hend hpair)

/-- A line without the white space at its end; beyond the last line there is nothing. -/
def lineAt (lines : List (List Char)) (n : Nat) : List Char := trimEnd (lines.getD n [])

@[simp] theorem lineAt_cons_zero (raw : List Char) (rest : List (List Char)) :
    lineAt (raw :: rest) 0 = trimEnd raw := rfl

@[simp] theorem lineAt_cons_succ (raw : List Char) (rest : List (List Char)) (n : Nat) :
    lineAt (raw :: rest) (n + 1) = lineAt rest n := rfl

theorem lineAt_cons_congr {raw raw' : List Char} (h : trimEnd raw = trimEnd raw')
    {rest rest' : List (List Char)} (hrest : lineAt rest = lineAt rest') :
    lineAt (raw :: rest) = lineAt (raw' :: rest') := by
  funext n
  cases n with
  | zero => exact h
  | succ n => exact congrFun hrest n

theorem splitLinesFrom_cons {c : Char} {rest : List Char}
    (h : ¬(c = '\r' ∧ rest.head? = some '\n')) (line : List Char) :
    splitLinesFrom line (c :: rest) =
      if isLineBreak c then line.reverse :: splitLinesFrom [] rest
      else splitLinesFrom (c :: line) rest := by
  rw [splitLinesFrom]
  rintro rest' rfl rfl
  exact h ⟨rfl, rfl⟩

theorem exists_splitLinesFrom_of_break {c : Char} (hc : isLineBreak c = true) (rest : List Char) :
    ∃ later, ∀ line, splitLinesFrom line (c :: rest) = line.reverse :: later := by
  by_cases h : c = '\r' ∧ rest.head? = some '\n'
  · obtain ⟨rfl, hrest⟩ := h
    obtain ⟨rest, rfl⟩ := List.head?_eq_some_iff.mp hrest
    exact ⟨splitLinesFrom [] rest, fun line => by rw [splitLinesFrom]⟩
  · exact ⟨splitLinesFrom [] rest, fun line => by rw [splitLinesFrom_cons h, if_pos hc]⟩

theorem lineAt_splitLinesFrom_blank {c : Char} (hc : isBlank c = true)
    (hb : isLineBreak c = false) {rest : List Char}
    (hend : ∀ d ∈ rest.head?, isLineBreak d = true) (line : List Char) :
    lineAt (splitLinesFrom line rest) = lineAt (splitLinesFrom line (c :: rest)) := by
  have hnot : ¬(c = '\r' ∧ rest.head? = some '\n') := by
    rintro ⟨rfl, -⟩
    cases hb
  have hline : trimEnd line.reverse = trimEnd (c :: line).reverse := by
    rw [List.reverse_cons, trimEnd_append_blank (by simpa [Blank] using hc)]
  rw [splitLinesFrom_cons hnot, hb, if_neg Bool.false_ne_true]
  cases rest with
  | nil =>
    cases line with
    | nil =>
      funext n
      cases n with
      | zero => exact hline
      | succ n => rfl
    | cons d line => exact lineAt_cons_congr hline rfl
  | cons d rest =>
    obtain ⟨later, hlater⟩ := exists_splitLinesFrom_of_break (hend d rfl) rest
    rw [hlater, hlater]
    exact lineAt_cons_congr hline rfl

theorem lineAt_splitLinesFrom_addsBlank {c : Char} (hc : isBlank c = true)
    (hb : isLineBreak c = false) {rest : List Char}
    (hend : ∀ d ∈ rest.head?, isLineBreak d = true) :
    ∀ (front line : List Char), ¬(front.getLast? = some '\r' ∧ rest.head? = some '\n') →
      lineAt (splitLinesFrom line (front ++ rest)) =
        lineAt (splitLinesFrom line (front ++ c :: rest))
  | [], line, _ => lineAt_splitLinesFrom_blank hc hb hend line
  | d :: front, line, hpair => by
    have hlater {passed more : List Char} (h : d :: front = passed ++ more) :
        ¬(more.getLast? = some '\r' ∧ rest.head? = some '\n') := by
      rintro ⟨hlast, hrest⟩
      exact hpair ⟨by rw [h, List.getLast?_append, hlast, Option.some_or], hrest⟩
    by_cases hd : d = '\r' ∧ front.head? = some '\n'
    · obtain ⟨rfl, hfront⟩ := hd
      obtain ⟨more, rfl⟩ := List.head?_eq_some_iff.mp hfront
      have hmore : '\r' :: '\n' :: more = ['\r', '\n'] ++ more := rfl
      simp only [List.cons_append, splitLinesFrom]
      exact lineAt_cons_congr rfl (lineAt_splitLinesFrom_addsBlank hc hb hend more [] (hlater hmore))
    · -- neither text has both characters of a break here
      have hshort : ¬(d = '\r' ∧ (front ++ rest).head? = some '\n') := by
        rintro ⟨rfl, hhead⟩
        cases front with
        | nil => exact hpair ⟨rfl, hhead⟩
        | cons e front => exact hd ⟨rfl, hhead⟩
      have hlong : ¬(d = '\r' ∧ (front ++ c :: rest).head? = some '\n') := by
        rintro ⟨rfl, hhead⟩
        cases front with
        | nil =>
          cases hhead
          cases hb
        | cons e front => exact hd ⟨rfl, hhead⟩
      have ih (line : List Char) := lineAt_splitLinesFrom_addsBlank hc hb hend front line
        (hlater (List.singleton_append (x := d)).symm)
      rw [List.cons_append, List.cons_append, splitLinesFrom_cons hshort, splitLinesFrom_cons hlong]
      split
      · exact lineAt_cons_congr rfl (ih [])
      · exact ih (d :: line)
termination_by front => front.length

theorem Respaced.lineAt_eq {text text' : List Char} (h : Respaced text text') :
    lineAt (splitLines text) = lineAt (splitLines text') := by
  induction h with
  | rel text text' h =>
    obtain ⟨hc, hb, hend, hpair⟩ := h
    exact lineAt_splitLinesFrom_addsBlank hc hb hend _ [] hpair
  | refl text => rfl
  | symm text text' _ ih => exact ih.symm
  | trans text text' text'' _ _ ih ih' => exact ih.trans ih'

end ScenarioCheck.Text
