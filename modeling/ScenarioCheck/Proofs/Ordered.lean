import Mathlib.Data.List.Induction
import ScenarioCheck.Ordered

/-! Ordered maps of lists of entries: entries with distinct keys are a map already, and renaming keys
apart or replacing values goes through. Keys come in the order of their first appearance. -/
namespace ScenarioCheck.Ordered

variable {κ κ' α β : Type}

@[simp] theorem keys_map_id (g : α → β) (entries : List (κ × α)) :
    keys (entries.map (Prod.map id g)) = keys entries := by
  simp [keys, Function.comp_def]

variable [DecidableEq κ] [DecidableEq κ']

@[simp] theorem putAll_append (m updates updates' : List (κ × α)) :
    putAll m (updates ++ updates') = putAll (putAll m updates) updates' :=
  List.foldl_append

@[simp] theorem putAll_ofList (entries updates : List (κ × α)) :
    putAll (ofList entries) updates = ofList (entries ++ updates) :=
  (putAll_append [] entries updates).symm

theorem put_of_notMem {key : κ} {m : List (κ × α)} (h : key ∉ keys m) (value : α) :
    put key value m = m ++ [(key, value)] := by
  induction m with
  | nil => rfl
  | cons e m ih =>
    obtain ⟨k, v⟩ := e
    rw [keys, List.map_cons, List.mem_cons, not_or] at h
    rw [put, if_neg (Ne.symm h.1), ih h.2]
    rfl

theorem putAll_of_nodup {m updates : List (κ × α)} (h : (keys (m ++ updates)).Nodup) :
    putAll m updates = m ++ updates := by
  induction updates generalizing m with
  | nil => simp
  | cons e updates ih =>
    obtain ⟨k, v⟩ := e
    have hk : k ∉ keys m := fun hm =>
      List.nodup_append.mp (by simpa using h) |>.2.2 k hm k (by simp) rfl
    rw [List.append_cons] at h ⊢
    rw [← ih h, ← put_of_notMem hk]
    rfl

theorem ofList_eq_self {entries : List (κ × α)} (h : (keys entries).Nodup) :
    ofList entries = entries :=
  putAll_of_nodup h

@[simp] theorem mem_keys_put {key other : κ} {value : α} {m : List (κ × α)} :
    other ∈ keys (put key value m) ↔ other ∈ keys m ∨ other = key := by
  rw [keys_put]
  split
  · rename_i h
    constructor
    · exact .inl
    · rintro (hm | rfl)
      · exact hm
      · exact h
  · simp

@[simp] theorem mem_keys_putAll {key : κ} {m updates : List (κ × α)} :
    key ∈ keys (putAll m updates) ↔ key ∈ keys m ∨ key ∈ keys updates := by
  induction updates generalizing m with
  | nil => simp
  | cons e updates ih =>
    rw [putAll, List.foldl_cons, ← putAll, ih, mem_keys_put, or_assoc]
    exact or_congr .rfl List.mem_cons.symm

@[simp] theorem mem_keys_ofList {key : κ} {entries : List (κ × α)} :
    key ∈ keys (ofList entries) ↔ key ∈ keys entries := by
  rw [ofList, mem_keys_putAll]
  simp

section Map

variable {f : κ → κ'} (hf : Function.Injective f) (g : α → β)
include hf

@[simp] theorem map_put (key : κ) (value : α) (m : List (κ × α)) :
    (put key value m).map (Prod.map f g) = put (f key) (g value) (m.map (Prod.map f g)) := by
  induction m with
  | nil => rfl
  | cons e m ih =>
    obtain ⟨k, v⟩ := e
    by_cases h : k = key
    · simp [h]
    · simp [h, hf.ne h, ih]

@[simp] theorem map_putAll (m updates : List (κ × α)) :
    (putAll m updates).map (Prod.map f g) =
      putAll (m.map (Prod.map f g)) (updates.map (Prod.map f g)) := by
  induction updates generalizing m with
  | nil => rfl
  | cons e updates ih =>
    obtain ⟨k, v⟩ := e
    rw [List.map_cons, putAll, List.foldl_cons, ← putAll, ih, map_put hf]
    rfl

@[simp] theorem map_ofList (entries : List (κ × α)) :
    (ofList entries).map (Prod.map f g) = ofList (entries.map (Prod.map f g)) :=
  map_putAll hf g [] entries

end Map

theorem nodup_keys_put {key : κ} {value : α} {m : List (κ × α)} (h : (keys m).Nodup) :
    (keys (put key value m)).Nodup := by
  rw [keys_put]
  split
  · exact h
  · rename_i hk
    refine List.nodup_append.mpr ⟨h, by simp, fun k hmem k' hk' => ?_⟩
    rintro rfl
    exact hk (List.mem_singleton.mp hk' ▸ hmem)

theorem nodup_keys_putAll {m updates : List (κ × α)} (h : (keys m).Nodup) :
    (keys (putAll m updates)).Nodup := by
  induction updates generalizing m with
  | nil => exact h
  | cons e updates ih => exact ih (nodup_keys_put h)

theorem get?_putAll {key : κ} {m updates : List (κ × α)} (h : (keys updates).Nodup) :
    get? key (putAll m updates) = (get? key updates).or (get? key m) := by
  induction updates generalizing m with
  | nil => rfl
  | cons e updates ih =>
    obtain ⟨k, v⟩ := e
    obtain ⟨hk, hrest⟩ := List.nodup_cons.mp h
    rw [putAll, List.foldl_cons, ← putAll, ih hrest, get?]
    split
    · rename_i heq
      subst heq
      rw [get?_eq_none_iff.mpr hk, get?_put_self]
      rfl
    · rename_i hne
      rw [get?_put_ne (Ne.symm hne)]

@[simp] theorem get?_map {key : κ} (g : κ → α → β) (m : List (κ × α)) :
    get? key (m.map fun (k, v) => (k, g k v)) = (get? key m).map (g key) := by
  induction m with
  | nil => rfl
  | cons e m ih =>
    rw [List.map_cons, get?, get?]
    split
    · rename_i heq
      subst heq
      rfl
    · exact ih

theorem mem_of_get? {key : κ} {value : α} {m : List (κ × α)} (h : get? key m = some value) :
    (key, value) ∈ m := by
  induction m with
  | nil => cases h
  | cons e m ih =>
    obtain ⟨k, v⟩ := e
    rw [get?] at h
    split at h
    · rename_i hk
      cases h
      exact hk ▸ .head _
    · exact .tail _ (ih h)

theorem get?_of_mem {key : κ} {value : α} {m : List (κ × α)} (hn : (keys m).Nodup)
    (h : (key, value) ∈ m) : get? key m = some value := by
  induction m with
  | nil => cases h
  | cons e m ih =>
    obtain ⟨k, v⟩ := e
    obtain ⟨hk, hn⟩ := List.nodup_cons.mp hn
    rw [get?]
    rcases List.mem_cons.mp h with heq | h
    · cases heq
      rw [if_pos rfl]
    · have hne : k ≠ key := fun heq => hk (heq ▸ List.mem_map.mpr ⟨_, h, rfl⟩)
      rw [if_neg hne, ih hn h]

omit [DecidableEq κ] in
theorem filter_flatMap_of_mem {m : List (κ × α)} {e : κ × α} {f : κ × α → List β} {p : β → Bool}
    (hn : (keys m).Nodup) (he : e ∈ m) (hother : ∀ e' ∈ m, e'.1 ≠ e.1 → (f e').filter p = []) :
    (m.flatMap f).filter p = (f e).filter p := by
  obtain ⟨before, after, rfl⟩ := List.append_of_mem he
  simp only [keys, List.map_append, List.map_cons, List.nodup_append, List.nodup_cons, List.mem_map,
    List.mem_cons] at hn
  obtain ⟨-, ⟨hafter, -⟩, hbefore⟩ := hn
  have hnone {entries : List (κ × α)} (h : ∀ e' ∈ entries, (f e').filter p = []) :
      (entries.flatMap f).filter p = [] := by
    rw [List.filter_flatMap, List.flatMap_eq_nil_iff]
    exact h
  rw [List.flatMap_append, List.flatMap_cons, List.filter_append, List.filter_append,
    hnone fun e' h => hother e' (by simp [h]) (hbefore _ ⟨e', h, rfl⟩ _ (.inl rfl)),
    hnone fun e' h => hother e' (by simp [h]) fun heq => hafter ⟨e', h, heq⟩,
    List.nil_append, List.append_nil]

theorem put_eq_self {key : κ} {value : α} {m : List (κ × α)} (h : get? key m = some value) :
    put key value m = m := by
  induction m with
  | nil => cases h
  | cons e m ih =>
    obtain ⟨k, v⟩ := e
    rw [get?] at h
    rw [put]
    split at h
    · rename_i hk
      cases h
      rw [if_pos hk]
    · rename_i hk
      rw [if_neg hk, ih h]

@[simp] theorem mem_keys_erase {key other : κ} {m : List (κ × α)} :
    other ∈ keys (erase key m) ↔ other ∈ keys m ∧ other ≠ key := by
  simp only [keys, erase, List.mem_map, List.mem_filter, decide_eq_true_eq]
  constructor
  · rintro ⟨e, ⟨he, hne⟩, rfl⟩
    exact ⟨⟨e, he, rfl⟩, hne⟩
  · rintro ⟨⟨e, he, rfl⟩, hne⟩
    exact ⟨e, ⟨he, hne⟩, rfl⟩

theorem nodup_keys_erase {key : κ} {m : List (κ × α)} (h : (keys m).Nodup) :
    (keys (erase key m)).Nodup :=
  h.sublist (List.filter_sublist.map _)

theorem get?_erase_of_ne {key other : κ} (h : other ≠ key) (m : List (κ × α)) :
    get? other (erase key m) = get? other m := by
  induction m with
  | nil => rfl
  | cons e m ih =>
    obtain ⟨k, v⟩ := e
    unfold erase at ih ⊢
    rw [List.filter_cons]
    split
    · rw [get?, get?, ih]
    · rename_i hk
      have hk : k = key := by simpa using hk
      rw [get?, if_neg (hk ▸ Ne.symm h), ih]

/-! Keys in the order of their first appearance. -/

@[simp] theorem eraseDups_concat (l : List κ) (k : κ) :
    (l ++ [k]).eraseDups = if k ∈ l then l.eraseDups else l.eraseDups ++ [k] := by
  rw [List.eraseDups_append, List.cons_removeAll, List.nil_removeAll]
  by_cases hk : k ∈ l
  · simp [hk]
  · simp [hk, List.eraseDups_cons]

theorem eraseDups_append_congr {l l' : List κ} (h : l.eraseDups = l'.eraseDups) (m : List κ) :
    (l ++ m).eraseDups = (l' ++ m).eraseDups := by
  have hmem (k : κ) : k ∈ l ↔ k ∈ l' := by
    rw [← List.mem_eraseDups, h, List.mem_eraseDups]
  induction m using List.reverseRecOn with
  | nil => simpa using h
  | append_singleton m k ih =>
    rw [← List.append_assoc, ← List.append_assoc, eraseDups_concat, eraseDups_concat, ih]
    simp only [List.mem_append, hmem]

@[simp] theorem eraseDups_append_eraseDups (l m : List κ) :
    (l ++ m.eraseDups).eraseDups = (l ++ m).eraseDups := by
  induction m using List.reverseRecOn with
  | nil => rfl
  | append_singleton m k ih =>
    rw [eraseDups_concat, ← List.append_assoc, eraseDups_concat]
    split
    · rename_i hk
      rw [ih, if_pos (List.mem_append_right _ hk)]
    · rw [← List.append_assoc, eraseDups_concat, ih]
      simp only [List.mem_append, List.mem_eraseDups]

@[simp] theorem eraseDups_flatMap_eraseDups (f : α → List κ) (xs : List α) :
    (xs.flatMap fun x => (f x).eraseDups).eraseDups = (xs.flatMap f).eraseDups := by
  induction xs using List.reverseRecOn with
  | nil => rfl
  | append_singleton xs x ih =>
    simp only [List.flatMap_append, List.flatMap_singleton]
    rw [eraseDups_append_eraseDups, eraseDups_append_congr ih]

@[simp] theorem ofList_concat (entries : List (κ × α)) (key : κ) (value : α) :
    ofList (entries ++ [(key, value)]) = put key value (ofList entries) :=
  List.foldl_append ..

@[simp] theorem keys_ofList (entries : List (κ × α)) :
    keys (ofList entries) = (keys entries).eraseDups := by
  induction entries using List.reverseRecOn with
  | nil => rfl
  | append_singleton entries e ih =>
    have hkeys : keys (entries ++ [e]) = keys entries ++ [e.1] := List.map_append
    rw [hkeys, eraseDups_concat, ofList_concat, keys_put, ih]
    simp only [List.mem_eraseDups]

theorem keys_ofList_eq {entries : List (κ × α)} {entries' : List (κ × β)}
    (h : keys entries = keys entries') : keys (ofList entries) = keys (ofList entries') := by
  rw [keys_ofList, keys_ofList, h]

theorem exists_last_of_get?_ofList {key : κ} {value : α} {entries : List (κ × α)}
    (h : get? key (ofList entries) = some value) :
    ∃ first last, entries = first ++ (key, value) :: last ∧ key ∉ keys last := by
  induction entries using List.reverseRecOn with
  | nil => cases h
  | append_singleton entries e ih =>
    obtain ⟨k, v⟩ := e
    rw [ofList_concat] at h
    by_cases hk : key = k
    · subst hk
      rw [get?_put_self] at h
      cases h
      exact ⟨entries, [], rfl, List.not_mem_nil⟩
    · rw [get?_put_ne hk] at h
      obtain ⟨first, last, rfl, hlast⟩ := ih h
      refine ⟨first, last ++ [(k, v)], by simp, fun hmem => ?_⟩
      rw [keys, List.map_append, List.mem_append] at hmem
      rcases hmem with hmem | hmem
      · exact hlast hmem
      · exact hk (List.mem_singleton.mp hmem)

theorem foldl_put_new (g : κ → α) (names : List κ) :
    names.foldl (fun m k => if (get? k m).isSome then m else put k (g k) m) [] =
      names.eraseDups.map fun k => (k, g k) := by
  induction names using List.reverseRecOn with
  | nil => rfl
  | append_singleton names k ih =>
    have hkeys : keys (names.eraseDups.map fun k => (k, g k)) = names.eraseDups := by
      simp [keys, Function.comp_def]
    have hset : (get? k (names.eraseDups.map fun k => (k, g k))).isSome = true ↔ k ∈ names := by
      rw [← Option.ne_none_iff_isSome, ne_eq, get?_eq_none_iff, hkeys, not_not, List.mem_eraseDups]
    rw [List.foldl_append, ih, List.foldl_cons, List.foldl_nil, eraseDups_concat]
    simp only [hset]
    split
    · rfl
    · rename_i hk
      rw [put_of_notMem (by rwa [hkeys, List.mem_eraseDups]), List.map_append]
      rfl

/-! Items that are gathered under their keys, each changing what its key has so far. -/

section Gathered

variable (key : α → κ) (next : Option β → α → β)

def gathered (items : List α) : List (κ × β) :=
  items.foldl (fun m x => put (key x) (next (get? (key x) m) x) m) []

@[simp] theorem gathered_concat (items : List α) (x : α) : gathered key next (items ++ [x]) =
    put (key x) (next (get? (key x) (gathered key next items)) x) (gathered key next items) :=
  List.foldl_append

theorem nodup_keys_gathered (items : List α) : (keys (gathered key next items)).Nodup := by
  induction items using List.reverseRecOn with
  | nil => exact List.nodup_nil
  | append_singleton items x ih =>
    rw [gathered_concat]
    exact nodup_keys_put ih

@[simp] theorem get?_gathered (items : List α) (k : κ) : get? k (gathered key next items) =
    (items.filter fun x => key x = k).foldl (fun value x => some (next value x)) none := by
  induction items using List.reverseRecOn with
  | nil => rfl
  | append_singleton items x ih =>
    rw [gathered_concat, List.filter_append, List.foldl_append, ← ih]
    by_cases hk : key x = k
    · subst hk
      rw [get?_put_self]
      simp
    · rw [get?_put_ne (Ne.symm hk)]
      simp [hk]

theorem mem_gathered_iff {items : List α} {k : κ} {value : β} :
    (k, value) ∈ gathered key next items ↔
      (items.filter fun x => key x = k).foldl (fun value x => some (next value x)) none =
        some value := by
  rw [← get?_gathered]
  exact ⟨get?_of_mem (nodup_keys_gathered key next items), mem_of_get?⟩

end Gathered

end ScenarioCheck.Ordered
