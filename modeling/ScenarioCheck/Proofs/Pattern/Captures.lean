import Mathlib.Data.List.Forall2
import ScenarioCheck.Pattern.Matching
import ScenarioCheck.Proofs.Pattern.Cut

/-! What a pattern captures. A text matches if it can be taken apart into pieces that agree with the
literals and captures between them, and the captures found are those with the longest first one,
then the longest second one, and so on. -/
namespace ScenarioCheck.Pattern

open Text (agrees agreesAll dropAgreeing)

/-- A piece of a text as long as a literal and equal to it up to case, character by character. -/
def Agree (literal piece : List Char) : Prop :=
  List.Forall₂ (fun p t => agrees p t = true) literal piece

/-- A text as captures, each followed by a piece that agrees with its literal. A capture is not empty
and stays on one line. -/
def Fits (literals : List (List Char)) (text : List Char) (captures : List (List Char)) : Prop :=
  captures.length = literals.length ∧ (∀ x ∈ captures, x ≠ [] ∧ '\n' ∉ x) ∧
    ∃ pieces, List.Forall₂ Agree literals pieces ∧
      text = (captures.zip pieces).flatMap fun (capture, piece) => capture ++ piece

/-- A text as a piece that agrees with the first literal of a cut, then for each slot a capture and a
piece that agrees with the literal after the slot. -/
def Decomposes (c : Cut) (text : List Char) (captures : List (List Char)) : Prop :=
  ∃ first rest, Agree c.head first ∧ Fits (c.tail.map (·.2)) rest captures ∧ text = first ++ rest

/-- Captures of the same slots compared by length: at the first slot where they differ, the capture
is longer than the other one. -/
def AsLongAs : List (List Char) → List (List Char) → Prop
  | capture :: captures, other :: others =>
    other.length < capture.length ∨ other.length = capture.length ∧ AsLongAs captures others
  | _, _ => True

theorem AsLongAs.lengths_eq {captures others : List (List Char)} (h : AsLongAs captures others)
    (h' : AsLongAs others captures) (hlen : captures.length = others.length) :
    captures.map List.length = others.map List.length := by
  induction captures generalizing others with
  | nil =>
    obtain rfl := List.length_eq_zero_iff.mp hlen.symm
    rfl
  | cons capture captures ih =>
    cases others with
    | nil => simp at hlen
    | cons other others =>
      unfold AsLongAs at h h'
      have heq : capture.length = other.length := by omega
      have hrest : AsLongAs captures others := by
        rcases h with h | h
        · omega
        · exact h.2
      have hrest' : AsLongAs others captures := by
        rcases h' with h' | h'
        · omega
        · exact h'.2
      rw [List.map_cons, List.map_cons, heq, ih hrest hrest' (by simpa using hlen)]

@[simp] theorem agreesAll_iff {literal piece : List Char} :
    agreesAll literal piece = true ↔ Agree literal piece := by
  unfold Agree
  induction literal generalizing piece with
  | nil => cases piece <;> simp [agreesAll]
  | cons p ps ih => cases piece <;> simp [agreesAll, ih]

@[simp] theorem dropAgreeing_iff {literal text rest : List Char} :
    dropAgreeing literal text = some rest ↔ ∃ piece, text = piece ++ rest ∧ Agree literal piece := by
  simp only [Text.dropAgreeing_eq_some_iff, agreesAll_iff]

@[simp] theorem fits_nil_iff {text : List Char} {captures : List (List Char)} :
    Fits [] text captures ↔ text = [] ∧ captures = [] := by
  constructor
  · rintro ⟨hlen, -, pieces, hp, rfl⟩
    obtain rfl := List.length_eq_zero_iff.mp hlen
    simp
  · rintro ⟨rfl, rfl⟩
    exact ⟨rfl, by simp, [], .nil, rfl⟩

@[simp] theorem fits_cons_iff {literal : List Char} {literals : List (List Char)} {text : List Char}
    {captures : List (List Char)} :
    Fits (literal :: literals) text captures ↔
      ∃ capture others piece rest, captures = capture :: others ∧ capture ≠ [] ∧ '\n' ∉ capture ∧
        Agree literal piece ∧ Fits literals rest others ∧ text = capture ++ (piece ++ rest) := by
  constructor
  · rintro ⟨hlen, hx, pieces, hp, rfl⟩
    cases captures with
    | nil => simp at hlen
    | cons capture others =>
      obtain ⟨piece, pieces, ha, hps, rfl⟩ := List.forall₂_cons_left_iff.mp hp
      obtain ⟨hne, hline⟩ := hx capture (by simp)
      refine ⟨capture, others, piece, _, rfl, hne, hline, ha, ⟨?_, ?_, pieces, hps, rfl⟩, ?_⟩
      · simpa using hlen
      · exact fun x hmem => hx x (by simp [hmem])
      · simp
  · rintro ⟨capture, others, piece, rest, rfl, hne, hline, ha, ⟨hlen, hx, pieces, hp, rfl⟩, rfl⟩
    refine ⟨by simp [hlen], ?_, piece :: pieces, .cons ha hp, by simp⟩
    intro x hmem
    rcases List.mem_cons.mp hmem with rfl | hmem
    · exact ⟨hne, hline⟩
    · exact hx x hmem

/-! The search for the longest success. -/

section Longest

variable {α : Type} {attempt : Nat → Option α}

theorem longest_eq_some {bound : Nat} {a : α} (h : longest attempt bound = some a) :
    ∃ n, 1 ≤ n ∧ n ≤ bound ∧ attempt n = some a := by
  induction bound with
  | zero => cases h
  | succ bound ih =>
    unfold longest at h
    cases ha : attempt (bound + 1) with
    | some b =>
      rw [ha] at h
      exact ⟨bound + 1, by omega, by omega, ha.trans h⟩
    | none =>
      rw [ha] at h
      obtain ⟨n, hn, hb, hs⟩ := ih h
      exact ⟨n, hn, by omega, hs⟩

theorem exists_longest {bound n : Nat} (hn : 1 ≤ n) (hb : n ≤ bound)
    (hs : (attempt n).isSome = true) :
    ∃ m a, n ≤ m ∧ m ≤ bound ∧ attempt m = some a ∧ longest attempt bound = some a := by
  induction bound with
  | zero => omega
  | succ bound ih =>
    cases ha : attempt (bound + 1) with
    | some b => exact ⟨bound + 1, b, hb, Nat.le_refl _, ha, by simp [longest, ha]⟩
    | none =>
      have hne : n ≠ bound + 1 := by
        rintro rfl
        simp [ha] at hs
      obtain ⟨m, a, hnm, hmb, hma, hl⟩ := ih (by omega)
      exact ⟨m, a, hnm, by omega, hma, by simp [longest, ha, hl]⟩

end Longest

/-! The captures of a text. -/

def tryCapture (literal : List Char) (literals : List (List Char)) (text : List Char) (n : Nat) :
    Option (List (List Char)) :=
  (dropAgreeing literal (text.drop n)).bind fun rest =>
    (captureAll literals rest).map (text.take n :: ·)

/-- The number of characters before the first line feed. -/
def lineLength (text : List Char) : Nat := (text.takeWhile (· ≠ '\n')).length

theorem captureAll_cons (literal : List Char) (literals : List (List Char)) (text : List Char) :
    captureAll (literal :: literals) text =
      longest (tryCapture literal literals text) (lineLength text) := rfl

theorem tryCapture_eq_some_iff {literal : List Char} {literals : List (List Char)}
    {text : List Char} {n : Nat} {captures : List (List Char)} :
    tryCapture literal literals text n = some captures ↔
      ∃ piece rest others, text.drop n = piece ++ rest ∧ Agree literal piece ∧
        captureAll literals rest = some others ∧ captures = text.take n :: others := by
  unfold tryCapture
  simp only [Option.bind_eq_some_iff, Option.map_eq_some_iff, dropAgreeing_iff]
  constructor
  · rintro ⟨rest, ⟨piece, hd, ha⟩, others, hc, rfl⟩
    exact ⟨piece, rest, others, hd, ha, hc, rfl⟩
  · rintro ⟨piece, rest, others, hd, ha, hc, rfl⟩
    exact ⟨rest, ⟨piece, hd, ha⟩, others, hc, rfl⟩

theorem capture_take {text : List Char} {n : Nat} (hn : 1 ≤ n) (hb : n ≤ lineLength text) :
    text.take n ≠ [] ∧ '\n' ∉ text.take n := by
  have htake : text.take n = (text.takeWhile (· ≠ '\n')).take n := by
    have hsplit : text = text.takeWhile (· ≠ '\n') ++ text.dropWhile (· ≠ '\n') :=
      List.takeWhile_append_dropWhile.symm
    rw [hsplit, List.take_append_of_le_length hb, ← hsplit]
  rw [htake]
  constructor
  · intro h
    have hlen := congrArg List.length h
    unfold lineLength at hb
    rw [List.length_take, Nat.min_eq_left hb, List.length_nil] at hlen
    omega
  · intro h
    have hmem := List.all_eq_true.mp List.all_takeWhile '\n' (List.mem_of_mem_take h)
    simp at hmem

theorem length_le_lineLength {capture : List Char} (h : '\n' ∉ capture) (rest : List Char) :
    capture.length ≤ lineLength (capture ++ rest) := by
  have hall : ∀ c ∈ capture, decide (c ≠ '\n') = true :=
    fun c hc => decide_eq_true fun heq => h (heq ▸ hc)
  unfold lineLength
  rw [List.takeWhile_append_of_pos hall, List.length_append]
  omega

theorem fits_of_captureAll {literals : List (List Char)} {text : List Char}
    {captures : List (List Char)} (h : captureAll literals text = some captures) :
    Fits literals text captures := by
  induction literals generalizing text captures with
  | nil =>
    unfold captureAll at h
    split at h
    · rename_i he
      cases h
      exact fits_nil_iff.mpr ⟨List.isEmpty_iff.mp he, rfl⟩
    · cases h
  | cons literal literals ih =>
    rw [captureAll_cons] at h
    obtain ⟨n, hn, hb, hs⟩ := longest_eq_some h
    obtain ⟨piece, rest, others, hd, ha, hc, rfl⟩ := tryCapture_eq_some_iff.mp hs
    obtain ⟨hne, hline⟩ := capture_take hn hb
    refine fits_cons_iff.mpr ⟨_, others, piece, rest, rfl, hne, hline, ha, ih hc, ?_⟩
    rw [← hd, List.take_append_drop]

theorem exists_captureAll {literals : List (List Char)} {text : List Char}
    {captures : List (List Char)} (h : Fits literals text captures) :
    ∃ found, captureAll literals text = some found ∧ AsLongAs found captures := by
  induction literals generalizing text captures with
  | nil =>
    obtain ⟨rfl, rfl⟩ := fits_nil_iff.mp h
    exact ⟨[], rfl, trivial⟩
  | cons literal literals ih =>
    obtain ⟨capture, others, piece, rest, rfl, hne, hline, ha, hf, rfl⟩ := fits_cons_iff.mp h
    obtain ⟨found, hfound, hle⟩ := ih hf
    have htry : tryCapture literal literals (capture ++ (piece ++ rest)) capture.length =
        some (capture :: found) := by
      rw [tryCapture_eq_some_iff]
      exact ⟨piece, rest, found, List.drop_left, ha, hfound, by rw [List.take_left]⟩
    have hsome := Option.isSome_of_eq_some htry
    obtain ⟨m, captures, hlm, hmb, hm, hl⟩ :=
      exists_longest (List.length_pos_of_ne_nil hne) (length_le_lineLength hline _) hsome
    refine ⟨captures, (captureAll_cons _ _ _).trans hl, ?_⟩
    rcases Nat.eq_or_lt_of_le hlm with rfl | hlt
    · rw [htry] at hm
      cases hm
      exact .inr ⟨rfl, hle⟩
    · obtain ⟨-, -, later, -, -, -, rfl⟩ := tryCapture_eq_some_iff.mp hm
      have hlen : ((capture ++ (piece ++ rest)).take m).length = m := by
        rw [List.length_take, Nat.min_eq_left]
        exact Nat.le_trans hmb (List.takeWhile_sublist _).length_le
      exact .inl (by rwa [hlen])

theorem Fits.eq_of_lengths_eq {literals : List (List Char)} {text : List Char}
    {captures captures' : List (List Char)} (h : Fits literals text captures)
    (h' : Fits literals text captures')
    (hlen : captures.map List.length = captures'.map List.length) : captures = captures' := by
  induction literals generalizing text captures captures' with
  | nil => rw [(fits_nil_iff.mp h).2, (fits_nil_iff.mp h').2]
  | cons literal literals ih =>
    obtain ⟨capture, others, piece, rest, rfl, -, -, ha, hf, rfl⟩ := fits_cons_iff.mp h
    obtain ⟨capture', others', piece', rest', rfl, -, -, ha', hf', ht⟩ := fits_cons_iff.mp h'
    obtain ⟨hhead, htail⟩ := List.cons.inj hlen
    obtain ⟨rfl, hrest⟩ := List.append_inj ht hhead
    obtain ⟨rfl, rfl⟩ := List.append_inj hrest (ha.length_eq.symm.trans ha'.length_eq)
    rw [ih hf hf' htail]

theorem captureAll_eq_some_iff {literals : List (List Char)} {text : List Char}
    {captures : List (List Char)} :
    captureAll literals text = some captures ↔ Fits literals text captures ∧
      ∀ others, Fits literals text others → AsLongAs captures others := by
  constructor
  · intro h
    refine ⟨fits_of_captureAll h, fun others ho => ?_⟩
    obtain ⟨found, hfound, hle⟩ := exists_captureAll ho
    rw [h] at hfound
    exact Option.some.inj hfound ▸ hle
  · rintro ⟨hf, hmax⟩
    obtain ⟨found, hfound, hle⟩ := exists_captureAll hf
    have hfits := fits_of_captureAll hfound
    have hlen : captures.length = found.length := hf.1.trans hfits.1.symm
    rw [hfound, hf.eq_of_lengths_eq hfits ((hmax found hfits).lengths_eq hle hlen)]

/-! The captures of a pattern. -/

theorem Cut.captures?_eq_some_iff {c : Cut} {text : List Char} {captures : List (List Char)} :
    c.captures? text = some captures ↔ Decomposes c text captures ∧
      ∀ others, Decomposes c text others → AsLongAs captures others := by
  unfold Cut.captures? Decomposes
  simp only [Option.bind_eq_some_iff, dropAgreeing_iff, captureAll_eq_some_iff]
  constructor
  · rintro ⟨rest, ⟨first, rfl, ha⟩, hf, hmax⟩
    refine ⟨⟨first, rest, ha, hf, rfl⟩, ?_⟩
    rintro others ⟨first', rest', ha', hf', ht⟩
    obtain ⟨rfl, rfl⟩ := List.append_inj ht (ha.length_eq.symm.trans ha'.length_eq)
    exact hmax others hf'
  · rintro ⟨⟨first, rest, ha, hf, rfl⟩, hmax⟩
    exact ⟨rest, ⟨first, rfl, ha⟩, hf, fun others ho => hmax others ⟨first, rest, ha, ho, rfl⟩⟩

theorem Cut.isSome_captures?_iff {c : Cut} {text : List Char} :
    (c.captures? text).isSome = true ↔ ∃ captures, Decomposes c text captures := by
  constructor
  · intro h
    obtain ⟨captures, hc⟩ := Option.isSome_iff_exists.mp h
    exact ⟨captures, (Cut.captures?_eq_some_iff.mp hc).1⟩
  · rintro ⟨captures, first, rest, ha, hf, ht⟩
    obtain ⟨found, hfound, -⟩ := exists_captureAll hf
    have hdrop : dropAgreeing c.head text = some rest := dropAgreeing_iff.mpr ⟨first, ht, ha⟩
    simp [Cut.captures?, hdrop, hfound]

theorem Decomposes.length_eq {c : Cut} {text : List Char} {captures : List (List Char)}
    (h : Decomposes c text captures) : captures.length = c.slots.length := by
  obtain ⟨_, _, _, hf, _⟩ := h
  simpa [Cut.slots] using hf.1

/-- A pattern has one leftmost cut, a text matches if it can be taken apart along this cut, and the
captures are the longest ones, the first one first. -/
theorem captures?_exact (pattern text : String) :
    ∃ c, LeftmostCut pattern.toList c ∧ (∀ c', LeftmostCut pattern.toList c' → c' = c) ∧
      (accepts pattern text = true ↔ ∃ captures, Decomposes c text.toList captures) ∧
      ∀ captures : List String, captures? pattern text = some captures ↔
        captures.length = c.slots.length ∧
        Decomposes c text.toList (captures.map String.toList) ∧
        ∀ others, Decomposes c text.toList others →
          AsLongAs (captures.map String.toList) others := by
  have hcut := leftmostCut_cut pattern.toList
  refine ⟨cut pattern.toList, hcut, fun c' h => h.unique hcut, ?_, fun captures => ?_⟩
  · unfold accepts captures?
    rw [Option.isSome_map]
    exact Cut.isSome_captures?_iff
  · have hstrings : captures? pattern text = some captures ↔
        (cut pattern.toList).captures? text.toList = some (captures.map String.toList) := by
      unfold captures?
      rw [Option.map_eq_some_iff]
      constructor
      · rintro ⟨found, hfound, rfl⟩
        simpa using hfound
      · intro hfound
        exact ⟨_, hfound, by simp⟩
    rw [hstrings, Cut.captures?_eq_some_iff]
    constructor
    · rintro ⟨hd, hmax⟩
      exact ⟨by simpa using hd.length_eq, hd, hmax⟩
    · rintro ⟨-, hd, hmax⟩
      exact ⟨hd, hmax⟩

example : captures? "\x7ba\x7d and \x7bb\x7d" "x and y and z" = some ["x and y", "z"] := by cbv

end ScenarioCheck.Pattern
