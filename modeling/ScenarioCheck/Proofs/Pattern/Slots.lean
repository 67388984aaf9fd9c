import ScenarioCheck.Proofs.Pattern.Captures

/-! Patterns written with slots. Between literals without opening braces slots are cut off as they are
written, and what a slot says does not change where a pattern is cut, whatever its literals hold. -/
namespace ScenarioCheck.Pattern

def IsSlot (slot : List Char) : Prop := slot ≠ [] ∧ '}' ∉ slot

instance (slot : List Char) : Decidable (IsSlot slot) :=
  inferInstanceAs (Decidable (slot ≠ [] ∧ '}' ∉ slot))

theorem slot?_append {slot : List Char} (h : IsSlot slot) (after : List Char) :
    slot? (slot ++ '}' :: after) = some (slot, after) :=
  slot?_eq_some_iff.mpr ⟨rfl, h⟩

@[simp] theorem slot?_eq_none_of_notMem {text : List Char} (h : '}' ∉ text) :
    slot? text = none := by
  rw [Option.eq_none_iff_forall_ne_some]
  rintro ⟨slot, after⟩ hs
  have ht := (List.cons.inj (slot?_eq_some_iff.mp hs).1).2
  exact h (by rw [ht]; simp)

@[simp] theorem slot?_closing (text : List Char) : slot? ('}' :: text) = none := by
  simp [slot?]

theorem cut_of_slot?_eq_some {text slot after : List Char} (h : slot? text = some (slot, after)) :
    cut ('{' :: text) = ⟨[], (slot, (cut after).head) :: (cut after).tail⟩ := by
  rw [cut, if_pos rfl]
  split
  · rename_i slot' after' h'
    obtain ⟨rfl, rfl⟩ := Prod.mk.inj (Option.some.inj (h.symm.trans h'))
    rfl
  · rename_i h'
    rw [h] at h'
    cases h'

theorem cut_of_slot?_eq_none {text : List Char} (h : slot? text = none) :
    cut ('{' :: text) = (cut text).cons '{' := by
  rw [cut, if_pos rfl]
  split
  · rename_i h'
    rw [h] at h'
    cases h'
  · rfl

theorem cut_cons_of_ne {c : Char} (h : c ≠ '{') (text : List Char) :
    cut (c :: text) = (cut text).cons c := by
  rw [cut, if_neg h]

theorem cut_slot {slot : List Char} (h : IsSlot slot) (after : List Char) :
    cut ('{' :: (slot ++ '}' :: after)) = ⟨[], (slot, (cut after).head) :: (cut after).tail⟩ :=
  cut_of_slot?_eq_some (slot?_append h after)

@[simp] theorem cut_append {literal : List Char} (h : '{' ∉ literal) (text : List Char) :
    cut (literal ++ text) = ⟨literal ++ (cut text).head, (cut text).tail⟩ := by
  induction literal with
  | nil => rfl
  | cons c literal ih =>
    rw [List.mem_cons, not_or] at h
    rw [List.cons_append, cut_cons_of_ne (Ne.symm h.1), ih h.2]
    rfl

/-! What is cut and what was written. -/

namespace Cut

@[simp] theorem toText_cons (x : Char) (c : Cut) : (c.cons x).toText = x :: c.toText := rfl

@[simp] theorem toText_nil (head : List Char) : toText ⟨head, []⟩ = head := by simp [toText]

@[simp] theorem toText_slot (head slot literal : List Char) (tail : List (List Char × List Char)) :
    toText ⟨head, (slot, literal) :: tail⟩ =
      head ++ '{' :: (slot ++ '}' :: toText ⟨literal, tail⟩) := by
  simp [toText]

@[simp] theorem literals_cons (x : Char) (c : Cut) :
    (c.cons x).literals = (x :: c.head) :: c.tail.map (·.2) := rfl

end Cut

@[simp] theorem toText_cut (text : List Char) : (cut text).toText = text := by
  fun_induction cut text with
  | case1 => rfl
  | case2 rest slot after h hlt inner ih =>
    have hs := (slot?_eq_some_iff.mp h).1
    rw [Cut.toText_slot, List.nil_append, hs]
    congr 3
  | case3 rest h ih => rw [Cut.toText_cons, ih]
  | case4 c rest hc ih => rw [Cut.toText_cons, ih]

theorem isSlot_of_mem_slots_cut {text slot : List Char} (h : slot ∈ (cut text).slots) :
    IsSlot slot := by
  fun_induction cut text with
  | case1 => cases h
  | case2 rest slot' after hs hlt inner ih =>
    rcases List.mem_cons.mp h with rfl | h
    · exact (slot?_eq_some_iff.mp hs).2
    · exact ih h
  | case3 rest hs ih => exact ih h
  | case4 c rest hc ih => exact ih h

@[simp] theorem cut_toText {c : Cut} (hl : ∀ literal ∈ c.literals, '{' ∉ literal)
    (hs : ∀ slot ∈ c.slots, IsSlot slot) : cut c.toText = c := by
  obtain ⟨head, tail⟩ := c
  induction tail generalizing head with
  | nil =>
    have hcut := cut_append (hl head (by simp [Cut.literals])) []
    rw [List.append_nil] at hcut
    rw [Cut.toText_nil, hcut]
    simp [cut]
  | cons field tail ih =>
    obtain ⟨slot, literal⟩ := field
    have hrest := ih literal (fun l hmem => hl l (.tail _ hmem)) (fun s hmem => hs s (.tail _ hmem))
    rw [Cut.toText_slot, cut_append (hl head (by simp [Cut.literals])),
      cut_slot (hs slot (by simp [Cut.slots])), hrest, List.append_nil]

theorem Cut.count_toText (c : Cut) : c.toText.count '}' =
    c.slots.length + (c.literals.flatten.count '}' + c.slots.flatten.count '}') := by
  obtain ⟨head, tail⟩ := c
  induction tail generalizing head with
  | nil => simp [literals, slots]
  | cons field tail ih =>
    obtain ⟨slot, literal⟩ := field
    have hrest := ih literal
    simp only [literals, slots, List.map_cons, List.flatten_cons, List.count_append,
      List.length_cons] at hrest ⊢
    rw [toText_slot, List.count_append, List.count_cons_of_ne (by decide), List.count_append,
      List.count_cons_self, hrest]
    omega

theorem append_closing_inj {s s' t t' : List Char} (hs : '}' ∉ s) (hs' : '}' ∉ s')
    (h : s ++ '}' :: t = s' ++ '}' :: t') : s = s' ∧ t = t' := by
  induction s generalizing s' with
  | nil =>
    cases s' with
    | nil => exact ⟨rfl, (List.cons.inj h).2⟩
    | cons c s' => exact absurd (List.cons.inj h).1 fun hc => hs' (hc ▸ .head _)
  | cons c s ih =>
    cases s' with
    | nil => exact absurd (List.cons.inj h).1 fun hc => hs (hc ▸ .head _)
    | cons c' s' =>
      obtain ⟨rfl, hrest⟩ := List.cons.inj h
      obtain ⟨rfl, ht⟩ := ih (fun hmem => hs (.tail _ hmem)) (fun hmem => hs' (.tail _ hmem)) hrest
      exact ⟨rfl, ht⟩

theorem Cut.tail_eq_of_toText_eq {head : List Char} {tail tail' : List (List Char × List Char)}
    (ht : toText ⟨head, tail⟩ = toText ⟨head, tail'⟩) (hl : tail.map (·.2) = tail'.map (·.2))
    (hs : ∀ field ∈ tail, '}' ∉ field.1) (hs' : ∀ field ∈ tail', '}' ∉ field.1) : tail = tail' := by
  induction tail generalizing head tail' with
  | nil => exact (List.map_eq_nil_iff.mp hl.symm).symm
  | cons field tail ih =>
    cases tail' with
    | nil => cases hl
    | cons field' tail' =>
      obtain ⟨slot, literal⟩ := field
      obtain ⟨slot', literal'⟩ := field'
      simp only [List.map_cons, List.cons.injEq] at hl
      obtain ⟨rfl, hl⟩ := hl
      rw [toText_slot, toText_slot, List.append_cancel_left_eq] at ht
      obtain ⟨rfl, ht'⟩ := append_closing_inj (hs (slot, literal) (.head _))
        (hs' (slot', literal) (.head _)) (List.cons.inj ht).2
      rw [ih ht' hl (fun f hf => hs f (.tail _ hf)) (fun f hf => hs' f (.tail _ hf))]

theorem literals_cut_toText_iff {c : Cut}
    (hl : ∀ literal ∈ c.literals, '{' ∉ literal ∧ '}' ∉ literal) :
    (cut c.toText).literals = c.literals ↔ ∀ slot ∈ c.slots, IsSlot slot := by
  constructor
  · intro h
    have hcut : '}' ∉ (cut c.toText).slots.flatten := by
      rw [List.mem_flatten]
      rintro ⟨slot, hmem, hbrace⟩
      exact (isSlot_of_mem_slots_cut hmem).2 hbrace
    have hlength : (cut c.toText).slots.length = c.slots.length := by
      simpa [Cut.literals, Cut.slots] using congrArg List.length h
    -- both cuts have the closing braces of the same text, and as many slots
    have hslots : '}' ∉ c.slots.flatten := by
      have hcount := (cut c.toText).count_toText
      rw [toText_cut, Cut.count_toText, h, hlength, List.count_eq_zero.mpr hcut] at hcount
      exact List.count_eq_zero.mp (by omega)
    have heq : cut c.toText = c := by
      have ht := toText_cut c.toText
      generalize cut c.toText = d at h hcut ht
      obtain ⟨head, tail⟩ := c
      obtain ⟨head', tail'⟩ := d
      obtain ⟨rfl, hl⟩ := List.cons.inj h
      rw [Cut.tail_eq_of_toText_eq ht hl
        (fun f hf hb => hcut (List.mem_flatten.mpr ⟨f.1, List.mem_map_of_mem hf, hb⟩))
        (fun f hf hb => hslots (List.mem_flatten.mpr ⟨f.1, List.mem_map_of_mem hf, hb⟩))]
    rw [← heq]
    exact fun slot hmem => isSlot_of_mem_slots_cut hmem
  · intro h
    rw [cut_toText (fun literal hmem => (hl literal hmem).1) h]

/-! Slots that say something else. -/

/-- Texts that differ only in what their slots say. -/
inductive EqualUpToSlots : List Char → List Char → Prop
  | nil : EqualUpToSlots [] []
  | char (c : Char) {text text' : List Char} (h : EqualUpToSlots text text') :
    EqualUpToSlots (c :: text) (c :: text')
  | slot {slot slot' text text' : List Char} (hs : IsSlot slot) (hs' : IsSlot slot')
      (h : EqualUpToSlots text text') :
    EqualUpToSlots ('{' :: (slot ++ '}' :: text)) ('{' :: (slot' ++ '}' :: text'))

namespace EqualUpToSlots

theorem append_left {text text' : List Char} (h : EqualUpToSlots text text') (literal : List Char) :
    EqualUpToSlots (literal ++ text) (literal ++ text') := by
  induction literal with
  | nil => exact h
  | cons c literal ih => exact .char c ih

theorem closing {text text' : List Char} (h : EqualUpToSlots text text') :
    ('}' ∉ text ∧ '}' ∉ text') ∨
      ∃ front front' rest rest', text = front ++ '}' :: rest ∧ text' = front' ++ '}' :: rest' ∧
        '}' ∉ front ∧ '}' ∉ front' ∧ (front = [] ↔ front' = []) ∧ EqualUpToSlots rest rest' := by
  induction h with
  | nil => exact .inl ⟨by simp, by simp⟩
  | @char c text text' h ih =>
    by_cases hc : c = '}'
    · exact .inr ⟨[], [], text, text', by simp [hc], by simp [hc], by simp, by simp, .rfl, h⟩
    · rcases ih with ⟨hn, hn'⟩ | ⟨front, front', rest, rest', rfl, rfl, hf, hf', -, hr⟩
      · exact .inl ⟨by simp [Ne.symm hc, hn], by simp [Ne.symm hc, hn']⟩
      · exact .inr ⟨c :: front, c :: front', rest, rest', rfl, rfl, by simp [Ne.symm hc, hf],
          by simp [Ne.symm hc, hf'], by simp, hr⟩
  | @slot slot slot' text text' hs hs' h ih =>
    exact .inr ⟨'{' :: slot, '{' :: slot', text, text', rfl, rfl, by simp [hs.2], by simp [hs'.2],
      by simp, h⟩

theorem slot?_eq {text text' : List Char} (h : EqualUpToSlots text text') :
    (slot? text = none ∧ slot? text' = none) ∨
      ∃ slot slot' rest rest', slot? text = some (slot, rest) ∧ slot? text' = some (slot', rest') ∧
        EqualUpToSlots rest rest' := by
  rcases h.closing with ⟨hn, hn'⟩ | ⟨front, front', rest, rest', rfl, rfl, hf, hf', hempty, hr⟩
  · exact .inl ⟨slot?_eq_none_of_notMem hn, slot?_eq_none_of_notMem hn'⟩
  · by_cases hnil : front = []
    · obtain rfl := hnil
      obtain rfl := hempty.mp rfl
      exact .inl ⟨slot?_closing rest, slot?_closing rest'⟩
    · have hnil' : front' ≠ [] := fun h => hnil (hempty.mpr h)
      exact .inr ⟨front, front', rest, rest', slot?_append ⟨hnil, hf⟩ rest,
        slot?_append ⟨hnil', hf'⟩ rest', hr⟩

theorem literals_cut_eq {text text' : List Char} (h : EqualUpToSlots text text') :
    (cut text).literals = (cut text').literals := by
  induction hn : text.length using Nat.strongRecOn generalizing text text' with
  | ind n ih =>
    subst hn
    have hrest {rest rest' : List Char} (hr : EqualUpToSlots rest rest')
        (hlt : rest.length < text.length) : (cut rest).literals = (cut rest').literals :=
      ih rest.length hlt hr rfl
    cases h with
    | nil => rfl
    | @slot slot slot' text text' hs hs' h =>
      rw [cut_slot hs, cut_slot hs']
      exact congrArg ([] :: ·) (hrest h (by simp; omega))
    | @char c text text' h =>
      obtain ⟨hhead, htail⟩ := List.cons.inj (hrest h (by simp))
      have hcons : ((cut text).cons c).literals = ((cut text').cons c).literals := by
        rw [Cut.literals_cons, Cut.literals_cons, hhead, htail]
      by_cases hc : c = '{'
      · subst hc
        rcases h.slot?_eq with ⟨hn, hn'⟩ | ⟨slot, slot', rest, rest', hs, hs', hr⟩
        · rw [cut_of_slot?_eq_none hn, cut_of_slot?_eq_none hn', hcons]
        · rw [cut_of_slot?_eq_some hs, cut_of_slot?_eq_some hs']
          have hlt := slot?_length hs
          exact congrArg ([] :: ·) (hrest hr (by simp; omega))
      · rw [cut_cons_of_ne hc, cut_cons_of_ne hc, hcons]

end EqualUpToSlots

theorem Cut.captures?_eq_of_literals {c d : Cut} (h : c.literals = d.literals) :
    c.captures? = d.captures? := by
  obtain ⟨hhead, htail⟩ := List.cons.inj h
  funext text
  unfold captures?
  rw [hhead, htail]

theorem captures?_eq {pattern pattern' : String}
    (h : EqualUpToSlots pattern.toList pattern'.toList) : captures? pattern = captures? pattern' := by
  funext text
  unfold captures?
  rw [Cut.captures?_eq_of_literals h.literals_cut_eq]

end ScenarioCheck.Pattern
