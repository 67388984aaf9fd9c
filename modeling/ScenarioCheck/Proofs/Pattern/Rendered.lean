import ScenarioCheck.Proofs.Pattern.Captures

/-! Rendered patterns. A pattern with values in its slots is matched by the pattern, and a text that is
matched is the pattern with the captures in its slots, up to case. The captures of a rendered pattern
are the values it was rendered with if the literals between slots keep them apart. -/
namespace ScenarioCheck.Pattern

open Text (agrees)

theorem agree_self (text : List Char) : Agree text text :=
  List.forall₂_same.mpr fun c _ => Text.agrees_refl c

theorem Agree.append {literal literal' piece piece' : List Char} (h : Agree literal piece)
    (h' : Agree literal' piece') : Agree (literal ++ literal') (piece ++ piece') :=
  List.rel_append h h'

theorem Agree.exists_agrees {literal piece : List Char} (h : Agree literal piece) {t : Char}
    (ht : t ∈ piece) : ∃ p ∈ literal, agrees p t = true := by
  induction h with
  | nil => cases ht
  | cons ha _ ih =>
    rcases List.mem_cons.mp ht with rfl | ht
    · exact ⟨_, .head _, ha⟩
    · obtain ⟨p, hp, hpt⟩ := ih ht
      exact ⟨p, .tail _ hp, hpt⟩

/-! Rendering what is matched, and matching what is rendered. -/

theorem agree_zip {literals pieces : List (List Char)} (h : List.Forall₂ Agree literals pieces)
    (captures : List (List Char)) :
    Agree ((captures.zip literals).flatMap fun (capture, literal) => capture ++ literal)
      ((captures.zip pieces).flatMap fun (capture, piece) => capture ++ piece) := by
  induction h generalizing captures with
  | nil => cases captures <;> exact .nil
  | cons ha _ ih =>
    cases captures with
    | nil => exact .nil
    | cons capture captures =>
      rw [List.zip_cons_cons, List.zip_cons_cons, List.flatMap_cons, List.flatMap_cons]
      exact ((agree_self capture).append ha).append (ih captures)

theorem agree_fill {c : Cut} {text : List Char} {captures : List (List Char)}
    (h : Decomposes c text captures) : Agree (c.fill captures) text := by
  obtain ⟨first, rest, ha, ⟨-, -, pieces, hp, rfl⟩, rfl⟩ := h
  exact ha.append (agree_zip hp captures)

theorem decomposes_fill {c : Cut} {values : List (List Char)}
    (hlen : values.length = c.slots.length) (hv : ∀ v ∈ values, v ≠ [] ∧ '\n' ∉ v) :
    Decomposes c (c.fill values) values := by
  have hpieces : List.Forall₂ Agree (c.tail.map (·.2)) (c.tail.map (·.2)) :=
    List.forall₂_same.mpr fun literal _ => agree_self literal
  exact ⟨c.head, _, agree_self c.head, ⟨by simpa [Cut.slots] using hlen, hv, _, hpieces, rfl⟩, rfl⟩

/-! Literals that keep values apart. -/

/-- No literal is empty, and no character of one agrees with a character of a value. -/
def KeepApart (literals values : List (List Char)) : Prop :=
  ∀ literal ∈ literals, literal ≠ [] ∧
    ∀ p ∈ literal, ∀ value ∈ values, ∀ t ∈ value, agrees p t = false

/-- A text as captures with a piece between any two of them that agrees with a literal. -/
inductive Between : List (List Char) → List Char → List (List Char) → Prop
  | last (capture : List Char) : Between [] capture [capture]
  | cons (capture : List Char) {literal piece rest : List Char} {literals captures : List (List Char)}
    (ha : Agree literal piece) (h : Between literals rest captures) :
    Between (literal :: literals) (capture ++ (piece ++ rest)) (capture :: captures)

theorem Fits.between {literals : List (List Char)} {last text : List Char}
    {captures : List (List Char)} (h : Fits (literals ++ [last]) text captures) :
    ∃ body piece, text = body ++ piece ∧ Agree last piece ∧ Between literals body captures := by
  induction literals generalizing text captures with
  | nil =>
    obtain ⟨capture, others, piece, rest, rfl, -, -, ha, hf, rfl⟩ := fits_cons_iff.mp h
    obtain ⟨rfl, rfl⟩ := fits_nil_iff.mp hf
    exact ⟨capture, piece, by rw [List.append_nil], ha, .last capture⟩
  | cons literal literals ih =>
    obtain ⟨capture, others, piece, rest, rfl, -, -, ha, hf, rfl⟩ := fits_cons_iff.mp h
    obtain ⟨body, piece', rfl, ha', hb⟩ := ih hf
    exact ⟨capture ++ (piece ++ body), piece', by simp, ha', .cons capture ha hb⟩

def separates (literals : List (List Char)) (t : Char) : Bool :=
  literals.any fun literal => literal.any (agrees · t)

theorem separates_of_agree {all : List (List Char)} {literal piece : List Char}
    (hl : literal ∈ all) (ha : Agree literal piece) : ∀ t ∈ piece, separates all t = true := by
  intro t ht
  obtain ⟨p, hp, hpt⟩ := ha.exists_agrees ht
  exact List.any_eq_true.mpr ⟨literal, hl, List.any_eq_true.mpr ⟨p, hp, hpt⟩⟩

theorem KeepApart.separates_eq_false {literals values : List (List Char)}
    (h : KeepApart literals values) : ∀ t ∈ values.flatten, separates literals t = false := by
  intro t ht
  obtain ⟨value, hvalue, ht⟩ := List.mem_flatten.mp ht
  refine List.any_eq_false.mpr fun literal hl => ?_
  rw [Bool.not_eq_true]
  refine List.any_eq_false.mpr fun p hp => ?_
  rw [(h literal hl).2 p hp value hvalue t ht]
  exact Bool.false_ne_true

namespace Between

variable {all literals captures captures' : List (List Char)} {body : List Char}

theorem countP_separates (h : Between literals body captures) (hl : ∀ l ∈ literals, l ∈ all) :
    body.countP (separates all) =
      literals.flatten.length + captures.flatten.countP (separates all) := by
  induction h with
  | last capture => simp
  | @cons capture literal piece rest literals captures ha _ ih =>
    have hpiece : piece.countP (separates all) = literal.length := by
      rw [List.countP_eq_length.mpr (separates_of_agree (hl literal (.head _)) ha), ha.length_eq]
    have hrest := ih fun l hmem => hl l (.tail _ hmem)
    simp only [List.countP_append, List.flatten_cons, List.length_append, hpiece, hrest]
    omega

theorem takeWhile_separates {capture piece : List Char} (rest : List Char)
    (hc : ∀ t ∈ capture, separates all t = false) (hp : ∀ t ∈ piece, separates all t = true)
    (hne : piece ≠ []) :
    (capture ++ (piece ++ rest)).takeWhile (!separates all ·) = capture := by
  obtain ⟨t, piece, rfl⟩ := List.exists_cons_of_ne_nil hne
  rw [List.takeWhile_append_of_pos (by simpa using hc), List.cons_append,
    List.takeWhile_cons_of_neg (by simp [hp t (.head _)]), List.append_nil]

theorem unique (h : Between literals body captures) (h' : Between literals body captures')
    (hl : ∀ l ∈ literals, l ∈ all ∧ l ≠ [])
    (hc : ∀ t ∈ captures.flatten, separates all t = false)
    (hc' : ∀ t ∈ captures'.flatten, separates all t = false) : captures = captures' := by
  induction h generalizing captures' with
  | last capture =>
    cases h'
    rfl
  | @cons capture literal piece rest literals captures ha _ ih =>
    generalize hbody : capture ++ (piece ++ rest) = body at h'
    cases h' with
    | @cons capture' _ piece' rest' _ captures' ha' h' =>
      obtain ⟨hall, hne⟩ := hl literal (.head _)
      have hne' {p : List Char} (hp : Agree literal p) : p ≠ [] := fun hnil => by
        rw [hnil] at hp
        exact hne (List.forall₂_nil_right_iff.mp hp)
      rw [List.flatten_cons, List.forall_mem_append] at hc hc'
      have hfirst := takeWhile_separates rest hc.1 (separates_of_agree hall ha) (hne' ha)
      have hfirst' := takeWhile_separates rest' hc'.1 (separates_of_agree hall ha') (hne' ha')
      obtain rfl : capture = capture' := by rw [← hfirst, hbody, hfirst']
      obtain ⟨-, rfl⟩ := List.append_inj (List.append_cancel_left hbody)
        (ha.length_eq.symm.trans ha'.length_eq)
      rw [ih h' (fun l hmem => hl l (.tail _ hmem)) hc.2 hc'.2]

end Between

theorem Fits.eq_of_keepApart {literals : List (List Char)} {text : List Char}
    {values captures : List (List Char)} (hv : Fits literals text values)
    (hc : Fits literals text captures) (hapart : KeepApart literals.dropLast values) :
    values = captures := by
  rcases literals.eq_nil_or_concat with rfl | ⟨inner, last, rfl⟩
  · rw [(fits_nil_iff.mp hv).2, (fits_nil_iff.mp hc).2]
  · rw [List.concat_eq_append] at hv hc hapart
    rw [List.dropLast_concat] at hapart
    obtain ⟨body, piece, rfl, ha, hb⟩ := hv.between
    obtain ⟨body', piece', ht, ha', hb'⟩ := hc.between
    obtain ⟨rfl, -⟩ := List.append_inj' ht (ha.length_eq.symm.trans ha'.length_eq)
    -- the pieces take up all separating characters, so that none is left for the captures
    have hvalues := hapart.separates_eq_false
    have hnone : values.flatten.countP (separates inner) = 0 :=
      List.countP_eq_zero.mpr fun t ht => by simp [hvalues t ht]
    have hcount := hb.countP_separates fun l hl => hl
    rw [hb'.countP_separates fun l hl => hl, hnone, Nat.add_right_inj] at hcount
    have hcaptures := List.countP_eq_zero.mp hcount
    exact hb.unique hb' (fun l hl => ⟨hl, (hapart l hl).1⟩) hvalues
      fun t ht => by simpa using hcaptures t ht

/-! Patterns. -/

theorem AsLongAs.refl (captures : List (List Char)) : AsLongAs captures captures := by
  induction captures with
  | nil => trivial
  | cons capture captures ih => exact .inr ⟨rfl, ih⟩

def Cut.inner (c : Cut) : List (List Char) := (c.tail.map (·.2)).dropLast

theorem Cut.inner_eq_nil {c : Cut} (h : c.slots.length ≤ 1) : c.inner = [] := by
  have hlen : c.inner.length = 0 := by
    simp only [inner, slots, List.length_dropLast, List.length_map] at h ⊢
    omega
  exact List.length_eq_zero_iff.mp hlen

theorem captures?_fill {c : Cut} {values : List (List Char)} (hlen : values.length = c.slots.length)
    (hv : ∀ v ∈ values, v ≠ [] ∧ '\n' ∉ v) (hapart : KeepApart c.inner values) :
    c.captures? (c.fill values) = some values := by
  have hd := decomposes_fill hlen hv
  refine Cut.captures?_eq_some_iff.mpr ⟨hd, fun others ho => ?_⟩
  obtain ⟨first, rest, ha, hf, ht⟩ := hd
  obtain ⟨first', rest', ha', hf', ht'⟩ := ho
  obtain ⟨rfl, rfl⟩ := List.append_inj (ht.symm.trans ht') (ha.length_eq.symm.trans ha'.length_eq)
  rw [hf.eq_of_keepApart hf' hapart]
  exact .refl others

@[simp] theorem length_slotsOf (pattern : String) :
    (slotsOf pattern).length = (cut pattern.toList).slots.length := List.length_map _

@[simp] theorem render_eq_ok {pattern : String} {values : List String}
    (h : values.length = (slotsOf pattern).length) : render pattern values =
      .ok (String.ofList ((cut pattern.toList).fill (values.map String.toList))) := by
  rw [length_slotsOf, Cut.slots, List.length_map] at h
  rw [render, if_pos h]

theorem captures?_eq_some_iff {pattern text : String} {captures : List String} :
    captures? pattern text = some captures ↔
      (cut pattern.toList).captures? text.toList = some (captures.map String.toList) := by
  unfold captures?
  rw [Option.map_eq_some_iff]
  constructor
  · rintro ⟨found, hfound, rfl⟩
    simpa using hfound
  · intro hfound
    exact ⟨_, hfound, by simp⟩

theorem accepts_fill {pattern : String} {values : List (List Char)}
    (hlen : values.length = (cut pattern.toList).slots.length)
    (hv : ∀ v ∈ values, v ≠ [] ∧ '\n' ∉ v) :
    accepts pattern (String.ofList ((cut pattern.toList).fill values)) = true := by
  rw [accepts, captures?, Option.isSome_map, String.toList_ofList]
  exact Cut.isSome_captures?_iff.mpr ⟨values, decomposes_fill hlen hv⟩

/-- A pattern that is rendered with values of one line each is matched, and the captures are the values
again if there is at most one or the literals between slots keep them apart. What is captured from a
text renders the text again, up to case. -/
theorem render_captures? (pattern : String) :
    (∀ values : List String, values.length = (slotsOf pattern).length →
      (∀ v ∈ values, v ≠ "" ∧ '\n' ∉ v.toList) →
        ∃ text, render pattern values = .ok text ∧ accepts pattern text = true ∧
          ((slotsOf pattern).length ≤ 1 ∨
              KeepApart (cut pattern.toList).inner (values.map String.toList) →
            captures? pattern text = some values)) ∧
    ∀ text captures, captures? pattern text = some captures →
      ∃ rendered, render pattern captures = .ok rendered ∧ rendered.length = text.length ∧
        Agree rendered.toList text.toList := by
  constructor
  · intro values hlen hv
    have hlen' : (values.map String.toList).length = (cut pattern.toList).slots.length := by
      rw [List.length_map, hlen, length_slotsOf]
    have hv' : ∀ v ∈ values.map String.toList, v ≠ [] ∧ '\n' ∉ v := by
      simpa using hv
    refine ⟨_, render_eq_ok hlen, accepts_fill hlen' hv', fun hapart => ?_⟩
    rw [captures?_eq_some_iff, String.toList_ofList]
    refine captures?_fill hlen' hv' (hapart.elim (fun hone => ?_) id)
    rw [Cut.inner_eq_nil (length_slotsOf pattern ▸ hone)]
    exact fun literal hl => by cases hl
  · intro text captures hc
    have hd := (Cut.captures?_eq_some_iff.mp (captures?_eq_some_iff.mp hc)).1
    have hlen : captures.length = (slotsOf pattern).length := by
      rw [length_slotsOf, ← hd.length_eq, List.length_map]
    have ha := agree_fill hd
    refine ⟨_, render_eq_ok hlen, ?_, by rwa [String.toList_ofList]⟩
    rw [String.length_ofList, ha.length_eq, String.length_toList]

theorem render_captures?_sample :
    let pattern := "I like \x7bfirst\x7d and \x7bsecond\x7d!"
    let values := ["Milk", "yoghurt"]
    values.length = (slotsOf pattern).length ∧ (∀ v ∈ values, v ≠ "" ∧ '\n' ∉ v.toList) ∧
      KeepApart (cut pattern.toList).inner (values.map String.toList) ∧
      ∃ text, render pattern values = .ok text ∧ accepts pattern text = true ∧
        captures? pattern text = some values := by
  intro pattern values
  have hcut : cut pattern.toList = ⟨"I like ".toList,
    [("first".toList, " and ".toList), ("second".toList, ['!'])]⟩ := by decide +kernel
  have hlen : values.length = (slotsOf pattern).length := by rw [length_slotsOf, hcut]; rfl
  have hv : ∀ v ∈ values, v ≠ "" ∧ '\n' ∉ v.toList := by decide
  have hapart : KeepApart (cut pattern.toList).inner (values.map String.toList) := by
    have hall : (" and ".toList.all fun p => (values.map String.toList).all fun value =>
        value.all fun t => !agrees p t) = true := by decide
    rw [hcut]
    intro literal hl
    obtain rfl := List.mem_singleton.mp hl
    exact ⟨by decide, by simpa only [List.all_eq_true, Bool.not_eq_true'] using hall⟩
  obtain ⟨text, hr, ha, hc⟩ := (render_captures? pattern).1 values hlen hv
  exact ⟨hlen, hv, hapart, text, hr, ha, hc (.inr hapart)⟩

end ScenarioCheck.Pattern
