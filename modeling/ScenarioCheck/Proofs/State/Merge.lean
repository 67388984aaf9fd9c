import Mathlib.Data.List.Basic
import ScenarioCheck.State.Merge

/-! What a merge that succeeds makes of a key and of two values. Each key is decided by what either
side has for it; dictionaries merge entry by entry and everything else is joined as a whole. -/
namespace ScenarioCheck.State

open Number (Double)

namespace Value

mutual

/-- In every dictionary inside a value each key comes once. -/
def Distinct : Value → Prop
  | list items | tuple items => DistinctItems items
  | dict entries => (Ordered.keys entries).Nodup ∧ DistinctEntries entries
  | _ => True

def DistinctItems : List Value → Prop
  | [] => True
  | item :: rest => Distinct item ∧ DistinctItems rest

def DistinctEntries : List (String × Value) → Prop
  | [] => True
  | (_, v) :: rest => Distinct v ∧ DistinctEntries rest

end

/-- Anything but nothing, lists and dictionaries. Tuples count as scalars. -/
def isScalar : Value → Bool
  | none | list _ | dict _ => false
  | _ => true

theorem distinct_of_get? {entries : Entries} (h : DistinctEntries entries) {key : String}
    {v : Value} (hv : Ordered.get? key entries = some v) : v.Distinct := by
  induction entries with
  | nil => simp at hv
  | cons e rest ih =>
    obtain ⟨k, x⟩ := e
    obtain ⟨hx, hrest⟩ := h
    rw [Ordered.get?] at hv
    split at hv
    · cases hv
      exact hx
    · exact ih hrest hv

/-! A value equals itself, unless it is a NaN outside of any container. -/

theorem sameNumber_self {inside : Bool} {x : Double}
    (h : inside = true ∨ ∀ label, x ≠ .nan label) : sameNumber inside x x = true := by
  cases x with
  | nan label =>
    rcases h with rfl | h
    · simp [sameNumber]
    · exact absurd rfl (h label)
  | infinite negative => simp [sameNumber, Double.equals]
  | finite negative mantissa exponent => simp [sameNumber, Double.equals]

theorem lookup_of_mem {entries : Entries} (hn : (Ordered.keys entries).Nodup) {key : String}
    {v : Value} (hm : (key, v) ∈ entries) : entries.lookup key = some v := by
  induction entries with
  | nil => simp at hm
  | cons e rest ih =>
    obtain ⟨k, x⟩ := e
    rw [Ordered.keys, List.map_cons, List.nodup_cons] at hn
    rcases List.mem_cons.mp hm with heq | hm
    · cases heq
      simp
    · have hne : key ≠ k := fun h => hn.1 (List.mem_map.mpr ⟨_, hm, h⟩)
      rw [List.lookup_cons, beq_false_of_ne hne]
      exact ih hn.2 hm

mutual

theorem same_self : ∀ v : Value, v.Distinct → same true v v = true
  | none, _ => rfl
  | bool b, _ => by simp [same]
  | int n, _ => by simp [same]
  | float x, _ => by rw [same]; exact sameNumber_self (.inl rfl)
  | text s, _ => by simp [same]
  | list items, h => by rw [same]; exact sameItems_self items h
  | tuple items, h => by rw [same]; exact sameItems_self items h
  | dict entries, h => by
    rw [same, sameEntries_self entries entries h.2 fun _ hm => lookup_of_mem h.1 hm]
    simp

theorem sameItems_self : ∀ items : List Value, DistinctItems items → sameItems items items = true
  | [], _ => rfl
  | item :: rest, h => by
    rw [sameItems, same_self item h.1, sameItems_self rest h.2]
    rfl

theorem sameEntries_self : ∀ rest whole : Entries, DistinctEntries rest →
    (∀ e ∈ rest, whole.lookup e.1 = some e.2) → sameEntries rest whole = true
  | [], _, _, _ => by rw [sameEntries]
  | (key, v) :: rest, whole, h, hl => by
    rw [sameEntries, hl (key, v) (by simp)]
    simp only [same_self v h.1, sameEntries_self rest whole h.2 fun e he => hl e (by simp [he])]
    rfl

end

theorem scalar_of_same {a b : Value} (ha : a.isScalar = true) (hb : b.Distinct)
    (h : a.same false b = true) : b.isScalar = true ∧ b.same false b = true := by
  cases b with
  | none => cases a <;> simp_all [same, isScalar]
  | list items => cases a <;> simp_all [same, isScalar]
  | dict entries => cases a <;> simp_all [same, isScalar]
  | bool b => simp [same, isScalar]
  | int n => simp [same, isScalar]
  | text s => simp [same, isScalar]
  | tuple items => exact ⟨rfl, by rw [same]; exact sameItems_self items hb⟩
  | float x =>
    refine ⟨rfl, ?_⟩
    rw [same]
    apply sameNumber_self (.inr ?_)
    -- a NaN outside of any container equals nothing
    rintro label rfl
    cases a with
    | float y => cases y <;> simp [same, sameNumber, Double.equals] at h
    | _ => simp [same, Double.equalsInt, Double.ratio?] at h

end Value

/-! Merging entries, key by key. -/

inductive Meets (path : String) : Option Value → Option Value → Option Value → Prop
  | kept (a : Option Value) : Meets path a none a
  | added (b : Value) : Meets path none (some b) (some b)
  | merged {a b v : Value} (h : mergeValue path a b = .ok v) : Meets path (some a) (some b) (some v)

section Entries

variable {path : String} {current update m : Entries}

theorem Meets.of_put {k key : String} {new v : Value} {rest : Entries} {result : Option Value}
    (hk : k ∉ Ordered.keys rest)
    (hown : Meets (below path k) (Ordered.get? k current) (some new) (some v))
    (h : Meets (below path key) (Ordered.get? key (Ordered.put k v current))
      (Ordered.get? key rest) result) :
    Meets (below path key) (Ordered.get? key current) (Ordered.get? key ((k, new) :: rest))
      result := by
  rw [Ordered.get?]
  by_cases hkey : k = key
  · subst hkey
    rw [Ordered.get?_put_self, Ordered.get?_eq_none_iff.mpr hk] at h
    cases h
    rwa [if_pos rfl]
  · rw [Ordered.get?_put_ne (Ne.symm hkey)] at h
    rwa [if_neg hkey]

theorem meets_of_mergeEntries (hn : (Ordered.keys update).Nodup)
    (h : mergeEntries path current update = .ok m) (key : String) :
    Meets (below path key) (Ordered.get? key current) (Ordered.get? key update)
      (Ordered.get? key m) := by
  -- each entry changes the state that the others are merged into
  induction update generalizing current with
  | nil =>
    rw [mergeEntries] at h
    cases h
    exact .kept _
  | cons e rest ih =>
    obtain ⟨k, new⟩ := e
    obtain ⟨hk, hn⟩ := List.nodup_cons.mp hn
    rw [mergeEntries] at h
    split at h
    · rename_i existing hget
      split at h
      · rename_i v hv
        exact .of_put hk (hget ▸ .merged hv) (ih hn h)
      · cases h
    · rename_i hget
      exact .of_put hk (hget ▸ .added new) (ih hn h)

theorem keys_mergeEntries (hn : (Ordered.keys update).Nodup)
    (h : mergeEntries path current update = .ok m) :
    Ordered.keys m = Ordered.keys current ++
      (Ordered.keys update).filter fun key => key ∉ Ordered.keys current := by
  induction update generalizing current with
  | nil =>
    rw [mergeEntries] at h
    cases h
    simp
  | cons e rest ih =>
    obtain ⟨k, new⟩ := e
    obtain ⟨hk, hn⟩ := List.nodup_cons.mp hn
    have hkeys : Ordered.keys ((k, new) :: rest) = k :: Ordered.keys rest := rfl
    rw [mergeEntries] at h
    split at h
    · rename_i existing hget
      have hin : k ∈ Ordered.keys current := by
        rw [← not_not (a := k ∈ _), ← Ordered.get?_eq_none_iff, hget]
        simp
      split at h
      · rw [ih hn h, Ordered.keys_put, if_pos hin, hkeys, List.filter_cons_of_neg (by simp [hin])]
      · cases h
    · rename_i hget
      have hout := Ordered.get?_eq_none_iff.mp hget
      have hrest : ((Ordered.keys rest).filter fun key => key ∉ Ordered.keys current ++ [k]) =
          (Ordered.keys rest).filter fun key => key ∉ Ordered.keys current := by
        apply List.filter_congr
        intro key hkey
        have hne : key ≠ k := fun heq => hk (heq ▸ hkey)
        simp [hne]
      rw [ih hn h, Ordered.keys_put, if_neg hout, hkeys, List.filter_cons_of_pos (by simp [hout]),
        hrest, List.append_assoc, List.singleton_append]

end Entries

/-! Merging values. -/

/-- What a merge makes of two values: lists grow at their end, nothing gives way, dictionaries have
the keys of both, and a scalar may be asserted again. -/
inductive Joined : Value → Value → Value → Prop
  | lists (xs ys : List Value) : Joined (.list xs) (.list ys) (.list (xs ++ ys))
  | appended (xs : List Value) {b : Value} (hb : ∀ ys, b ≠ .list ys) :
    Joined (.list xs) b (.list (xs ++ [b]))
  | unset (b : Value) : Joined .none b b
  | dicts {current update m : Entries}
    (h : Ordered.keys m = Ordered.keys current ++
      (Ordered.keys update).filter fun key => key ∉ Ordered.keys current) :
    Joined (.dict current) (.dict update) (.dict m)
  | scalars {a b : Value} (ha : a.isScalar = true) (hb : b.isScalar = true)
    (h : a.same false b = true) (h' : b.same false b = true) : Joined a b b

section Values

variable {path : String} {a b v : Value}

theorem mergeValue_list {xs : List Value} (h : mergeValue path (.list xs) b = .ok v) :
    Joined (.list xs) b v := by
  cases b with
  | list ys =>
    rw [mergeValue] at h
    cases h
    exact .lists xs ys
  | _ =>
    simp only [mergeValue] at h
    cases h
    exact .appended xs (by simp)

theorem mergeValue_none (h : mergeValue path .none b = .ok v) : v = b := by
  cases b <;> simp only [mergeValue] at h <;> cases h <;> rfl

theorem mergeValue_dict {current : Entries} (h : mergeValue path (.dict current) b = .ok v) :
    ∃ update m, b = .dict update ∧ mergeEntries path current update = .ok m ∧ v = .dict m := by
  cases b with
  | dict update =>
    rw [mergeValue] at h
    cases hm : mergeEntries path current update with
    | error e =>
      rw [hm] at h
      cases h
    | ok m =>
      rw [hm] at h
      cases h
      exact ⟨update, m, rfl, hm, rfl⟩
  | _ => simp [mergeValue] at h

theorem mergeValue_scalar (ha : a.isScalar = true) (h : mergeValue path a b = .ok v) :
    v = b ∧ a.same false b = true := by
  have taken (hif : (if a.same false b then .ok b else .error ⟨path, a, b⟩ :
      Except Conflict Value) = .ok v) : v = b ∧ a.same false b = true := by
    split at hif
    · cases hif
      exact ⟨rfl, ‹_›⟩
    · cases hif
  cases a with
  | none | list _ | dict _ => cases ha
  | _ => cases b <;> exact taken h

theorem joined_of_mergeValue (hb : b.Distinct) (h : mergeValue path a b = .ok v) :
    Joined a b v := by
  cases a with
  | list xs => exact mergeValue_list h
  | none =>
    obtain rfl := mergeValue_none h
    exact .unset _
  | dict current =>
    obtain ⟨update, m, rfl, hm, rfl⟩ := mergeValue_dict h
    exact .dicts (keys_mergeEntries hb.1 hm)
  | _ =>
    obtain ⟨rfl, hs⟩ := mergeValue_scalar rfl h
    obtain ⟨hscalar, hself⟩ := Value.scalar_of_same rfl hb hs
    exact .scalars rfl hscalar hs hself

end Values

end ScenarioCheck.State
