import Mathlib.Data.List.Find
import ScenarioCheck.Proofs.Ordered
import ScenarioCheck.Proofs.State.Paths

/-! Merges that fail. A merge fails exactly if some path leads to two values that cannot be joined, and
it tells the first such path in the order in which the update is gone through. -/
namespace ScenarioCheck.State

namespace Value

mutual

/-- The paths of a value, depth first: a dictionary comes before its entries, and these in order. -/
def paths : Value → List (List String)
  | dict entries => [] :: pathsOf entries
  | _ => [[]]

def pathsOf : List (String × Value) → List (List String)
  | [] => []
  | (key, v) :: rest => (paths v).map (key :: ·) ++ pathsOf rest

end

/-- A new value cannot be joined to the existing one. Nothing and lists take every value, dictionaries
take dictionaries, and anything else takes what equals it. -/
def clashes : Value → Value → Bool
  | none, _ | list _, _ | dict _, dict _ => false
  | dict _, _ => true
  | existing, new => !existing.same false new

theorem pathsOf_eq (entries : Entries) :
    pathsOf entries = entries.flatMap fun e => e.2.paths.map (e.1 :: ·) := by
  induction entries with
  | nil => rw [pathsOf, List.flatMap_nil]
  | cons e rest ih => rw [pathsOf, ih, List.flatMap_cons]

@[simp] theorem mem_pathsOf {entries : Entries} {path : List String} :
    path ∈ pathsOf entries ↔ ∃ key v front, (key, v) ∈ entries ∧ front ∈ v.paths ∧
      path = key :: front := by
  rw [pathsOf_eq, List.mem_flatMap]
  constructor
  · rintro ⟨⟨key, v⟩, hmem, hpath⟩
    obtain ⟨front, hfront, rfl⟩ := List.mem_map.mp hpath
    exact ⟨key, v, front, hmem, hfront, rfl⟩
  · rintro ⟨key, v, front, hmem, hfront, rfl⟩
    exact ⟨(key, v), hmem, List.mem_map_of_mem hfront⟩

theorem mem_paths_of_at? {v : Value} {path : List String} (h : (v.at? path).isSome) :
    path ∈ v.paths := by
  induction path generalizing v with
  | nil => cases v <;> simp [paths]
  | cons key rest ih =>
    cases v with
    | dict entries =>
      rw [at?_dict_cons] at h
      obtain ⟨x, hx⟩ := Option.isSome_iff_exists.mp h
      obtain ⟨v, hv, hrest⟩ := Option.bind_eq_some_iff.mp hx
      rw [paths]
      exact .tail _ (mem_pathsOf.mpr ⟨key, v, rest, Ordered.mem_of_get? hv, ih (by simp [hrest]), rfl⟩)
    | _ => cases h

end Value

def clashesAt (a b : Value) (path : List String) : Bool :=
  match a.at? path, b.at? path with
  | some x, some y => x.clashes y
  | _, _ => false

def firstClash? (a b : Value) : Option (List String) := b.paths.find? (clashesAt a b)

structure Conflict.TellsOf (c : Conflict) (name : String) (a b : Value) (path : List String) :
    Prop where
  path_eq : c.path = path.foldl below name
  existing_eq : a.at? path = some c.existing
  new_eq : b.at? path = some c.new

theorem Conflict.TellsOf.unique {c c' : Conflict} {name : String} {a b : Value}
    {path : List String} (h : c.TellsOf name a b path) (h' : c'.TellsOf name a b path) : c = c' := by
  obtain ⟨hpath, hexisting, hnew⟩ := h
  obtain ⟨hpath', hexisting', hnew'⟩ := h'
  cases c
  cases c'
  simp_all

/-- A merge of two values ends as their first clash says: it succeeds if there is none, and else it
tells of that one. -/
def EndsAtClash {α : Type} (name : String) (a b : Value) : Except Conflict α → Prop
  | .ok _ => firstClash? a b = none
  | .error c => ∃ path, firstClash? a b = some path ∧ c.TellsOf name a b path

section Whole

variable {name : String} {a b : Value}

@[simp] theorem clashesAt_nil (a b : Value) : clashesAt a b [] = a.clashes b := by
  rw [clashesAt, at?_nil, at?_nil]

theorem clashesAt_of_at?_eq_none {path : List String} (h : a.at? path = none) :
    clashesAt a b path = false := by
  rw [clashesAt, h]

theorem firstClash?_of_not_dicts
    (h : (∀ entries, a ≠ .dict entries) ∨ ∀ entries, b ≠ .dict entries) :
    firstClash? a b = if a.clashes b then some [] else none := by
  have hpaths : ∃ others, b.paths = [] :: others ∧ ∀ path ∈ others, clashesAt a b path = false := by
    cases b with
    | dict entries =>
      refine ⟨Value.pathsOf entries, by rw [Value.paths], fun path hpath => ?_⟩
      obtain ⟨key, v, front, -, -, rfl⟩ := Value.mem_pathsOf.mp hpath
      have ha : ∀ entries, a ≠ .dict entries := h.resolve_right fun hb => hb entries rfl
      exact clashesAt_of_at?_eq_none (at?_cons_of_ne ha key front)
    | _ => exact ⟨[], by rw [Value.paths]; simp, by simp⟩
  obtain ⟨others, hb, hothers⟩ := hpaths
  have hnone : others.find? (clashesAt a b) = none := by
    rw [List.find?_eq_none]
    intro path hpath
    simp [hothers path hpath]
  rw [firstClash?, hb, List.find?_cons, clashesAt_nil, hnone]
  cases a.clashes b <;> rfl

theorem mergeValue_eq_of_isScalar (ha : a.isScalar = true) (name : String) (b : Value) :
    mergeValue name a b = if a.same false b then .ok b else .error ⟨name, a, b⟩ := by
  cases a with
  | none | list _ | dict _ => cases ha
  | _ => cases b <;> rfl

@[simp] theorem Value.clashes_of_isScalar (ha : a.isScalar = true) (b : Value) :
    a.clashes b = !a.same false b := by
  cases a with
  | none | list _ | dict _ => cases ha
  | _ => cases b <;> rfl

theorem EndsAtClash.of_not_dicts
    (h : (∀ entries, a ≠ .dict entries) ∨ ∀ entries, b ≠ .dict entries) :
    EndsAtClash name a b (mergeValue name a b) := by
  have tells : Conflict.TellsOf ⟨name, a, b⟩ name a b [] := ⟨rfl, at?_nil a, at?_nil b⟩
  have hfirst := firstClash?_of_not_dicts h
  have hscalar (ha : a.isScalar = true) : EndsAtClash name a b (mergeValue name a b) := by
    rw [mergeValue_eq_of_isScalar ha]
    rw [Value.clashes_of_isScalar ha] at hfirst
    split
    · rename_i hs
      simpa [EndsAtClash, hs] using hfirst
    · rename_i hs
      exact ⟨[], by simpa [hs] using hfirst, tells⟩
  cases a with
  | none =>
    have hok : mergeValue name .none b = .ok b := by cases b <;> rfl
    rw [hok]
    exact hfirst
  | list items =>
    obtain ⟨v, hok⟩ : ∃ v, mergeValue name (.list items) b = .ok v := by cases b <;> exact ⟨_, rfl⟩
    rw [hok]
    exact hfirst
  | dict current =>
    have hb : ∀ entries, b ≠ .dict entries := h.resolve_left fun ha => ha current rfl
    cases b with
    | dict entries => exact absurd rfl (hb entries)
    | _ => exact ⟨[], hfirst, tells⟩
  | _ => exact hscalar rfl

end Whole

/-! Dictionaries clash first where the first of their entries do. -/

section Entries

variable {name : String} {current update rest : Entries} {k : String} {new : Value}

@[simp] theorem firstClash?_dicts (current update : Entries) :
    firstClash? (.dict current) (.dict update) =
      (Value.pathsOf update).find? (clashesAt (.dict current) (.dict update)) := by
  rw [firstClash?, Value.paths, List.find?_cons, clashesAt_nil]
  rfl

@[simp] theorem clashesAt_own (front : List String) :
    clashesAt (.dict current) (.dict ((k, new) :: rest)) (k :: front) =
      match Ordered.get? k current with
      | some x => clashesAt x new front
      | none => false := by
  rw [clashesAt, at?_dict_cons, at?_dict_cons, Ordered.get?, if_pos rfl]
  cases Ordered.get? k current <;> rfl

@[simp] theorem at?_dict_put {key : String} (h : key ≠ k) (value : Value) (front : List String) :
    (Value.dict (Ordered.put k value current)).at? (key :: front) =
      (Value.dict current).at? (key :: front) := by
  rw [at?_dict_cons, at?_dict_cons, Ordered.get?_put_ne h]

@[simp] theorem at?_dict_tail {key : String} (h : key ≠ k) (front : List String) :
    (Value.dict ((k, new) :: rest)).at? (key :: front) = (Value.dict rest).at? (key :: front) := by
  rw [at?_dict_cons, at?_dict_cons, Ordered.get?, if_neg (Ne.symm h)]

theorem exists_of_mem_pathsOf (hk : k ∉ Ordered.keys rest) {path : List String}
    (h : path ∈ Value.pathsOf rest) : ∃ key front, path = key :: front ∧ key ≠ k := by
  obtain ⟨key, v, front, hmem, -, rfl⟩ := Value.mem_pathsOf.mp h
  refine ⟨key, front, rfl, ?_⟩
  rintro rfl
  exact hk (List.mem_map_of_mem hmem)

theorem firstClash?_cons (hk : k ∉ Ordered.keys rest) (value : Value) :
    firstClash? (.dict current) (.dict ((k, new) :: rest)) =
      (((Ordered.get? k current).bind (firstClash? · new)).map (k :: ·)).or
        (firstClash? (.dict (Ordered.put k value current)) (.dict rest)) := by
  have hown : ((new.paths.map (k :: ·)).find?
      (clashesAt (.dict current) (.dict ((k, new) :: rest)))) =
        ((Ordered.get? k current).bind (firstClash? · new)).map (k :: ·) := by
    rw [List.find?_map]
    congr 1
    cases hget : Ordered.get? k current with
    | none =>
      rw [Option.bind_none, List.find?_eq_none]
      intro front _
      rw [Function.comp_apply, clashesAt_own, hget]
      exact Bool.false_ne_true
    | some x =>
      rw [Option.bind_some, firstClash?]
      congr 1
      funext front
      rw [Function.comp_apply, clashesAt_own, hget]
  have hothers : (Value.pathsOf rest).find?
      (clashesAt (.dict current) (.dict ((k, new) :: rest))) =
        firstClash? (.dict (Ordered.put k value current)) (.dict rest) := by
    rw [firstClash?_dicts]
    apply List.find?_congr
    intro path hpath
    obtain ⟨key, front, rfl, hkey⟩ := exists_of_mem_pathsOf hk hpath
    rw [clashesAt, clashesAt, at?_dict_put hkey, at?_dict_tail hkey]
  rw [firstClash?_dicts, Value.pathsOf, List.find?_append, hown, hothers]

theorem EndsAtClash.cons {α : Type} {r : Except Conflict α} {value : Value}
    (hk : k ∉ Ordered.keys rest) (hown : (Ordered.get? k current).bind (firstClash? · new) = none)
    (h : EndsAtClash name (.dict (Ordered.put k value current)) (.dict rest) r) :
    EndsAtClash name (.dict current) (.dict ((k, new) :: rest)) r := by
  have hfirst : firstClash? (.dict current) (.dict ((k, new) :: rest)) =
      firstClash? (.dict (Ordered.put k value current)) (.dict rest) := by
    rw [firstClash?_cons hk value, hown, Option.map_none, Option.none_or]
  cases r with
  | ok _ => exact hfirst.trans h
  | error c =>
    obtain ⟨path, hpath, htells⟩ := h
    have hmem : path ∈ Value.pathsOf rest := by
      rw [firstClash?_dicts] at hpath
      exact List.mem_of_find?_eq_some hpath
    obtain ⟨key, front, rfl, hkey⟩ := exists_of_mem_pathsOf hk hmem
    refine ⟨key :: front, hfirst.trans hpath, htells.path_eq, ?_, ?_⟩
    · rw [← at?_dict_put hkey]
      exact htells.existing_eq
    · rw [at?_dict_tail hkey]
      exact htells.new_eq

theorem EndsAtClash.of_own {α : Type} {x : Value} {c : Conflict} (hk : k ∉ Ordered.keys rest)
    (hget : Ordered.get? k current = some x)
    (h : EndsAtClash (below name k) x new (.error c : Except Conflict Value)) :
    EndsAtClash name (.dict current) (.dict ((k, new) :: rest)) (.error c : Except Conflict α) := by
  obtain ⟨front, hfront, htells⟩ := h
  refine ⟨k :: front, ?_, htells.path_eq, ?_, ?_⟩
  · rw [firstClash?_cons hk new, hget, Option.bind_some, hfront]
    rfl
  · rw [at?_dict_cons, hget]
    exact htells.existing_eq
  · rw [at?_dict_cons, Ordered.get?, if_pos rfl]
    exact htells.new_eq

end Entries

mutual

theorem endsAtClash_mergeValue (name : String) (a : Value) :
    ∀ b : Value, b.Distinct → EndsAtClash name a b (mergeValue name a b)
  | .dict update, hb => by
    cases a with
    | dict current =>
      have h := endsAtClash_mergeEntries name update hb.1 hb.2 current
      rw [mergeValue]
      cases hm : mergeEntries name current update with
      | ok m =>
        rw [hm] at h
        exact h
      | error c =>
        rw [hm] at h
        exact h
    | _ => exact .of_not_dicts (.inl (by simp))
  | .none, _ | .bool _, _ | .int _, _ | .float _, _ | .text _, _ | .list _, _ | .tuple _, _ =>
    .of_not_dicts (.inr (by simp))

theorem endsAtClash_mergeEntries (name : String) :
    ∀ update : Entries, (Ordered.keys update).Nodup → Value.DistinctEntries update →
      ∀ current, EndsAtClash name (.dict current) (.dict update) (mergeEntries name current update)
  | [], _, _, current => by
    rw [mergeEntries]
    exact firstClash?_dicts current []
  | (k, new) :: rest, hn, hd, current => by
    obtain ⟨hk, hn⟩ := List.nodup_cons.mp hn
    rw [mergeEntries]
    cases hget : Ordered.get? k current with
    | none => exact (endsAtClash_mergeEntries name rest hn hd.2 _).cons hk (by rw [hget]; rfl)
    | some x =>
      have hown := endsAtClash_mergeValue (below name k) x new hd.1
      dsimp only
      cases hv : mergeValue (below name k) x new with
      | ok v =>
        rw [hv] at hown
        exact (endsAtClash_mergeEntries name rest hn hd.2 _).cons hk (by rw [hget]; exact hown)
      | error c =>
        rw [hv] at hown
        exact .of_own hk hget hown

end

/-! The path that a conflict tells. -/

theorem foldl_below_of_ne {name : String} (h : name ≠ "") (keys : List String) :
    keys.foldl below name = ".".intercalate (name :: keys) := by
  induction keys generalizing name with
  | nil => rfl
  | cons key rest ih =>
    have hbelow : below name key = name ++ "." ++ key := by
      rw [below, if_neg (by simpa using h)]
    rw [List.foldl_cons, hbelow, ih (by simp)]
    rfl

theorem foldl_below_empty {keys : List String} (h : "" ∉ keys) :
    keys.foldl below "" = ".".intercalate keys := by
  cases keys with
  | nil => rfl
  | cons key rest => exact foldl_below_of_ne (List.ne_of_not_mem_cons h).symm rest

theorem endsAtClash_merge (current : Entries) {update : Entries}
    (hu : (Value.dict update).Distinct) :
    EndsAtClash "" (.dict current) (.dict update) (merge current update) :=
  endsAtClash_mergeEntries "" update hu.1 hu.2 current

@[simp] theorem exists_firstClash?_iff {a b : Value} :
    (∃ path, firstClash? a b = some path) ↔ ∃ path, clashesAt a b path = true := by
  rw [← Option.isSome_iff_exists, firstClash?, List.find?_isSome]
  refine exists_congr fun path => and_iff_right_of_imp fun hpath => Value.mem_paths_of_at? ?_
  unfold clashesAt at hpath
  split at hpath
  · rename_i hb
    rw [hb]
    rfl
  · cases hpath

theorem merge_eq_error_iff_firstClash? {current update : Entries}
    (hu : (Value.dict update).Distinct) {c : Conflict} :
    merge current update = .error c ↔
      ∃ path, firstClash? (.dict current) (.dict update) = some path ∧
        c.TellsOf "" (.dict current) (.dict update) path := by
  have h := endsAtClash_merge current hu
  constructor
  · intro hc
    rwa [hc] at h
  · rintro ⟨path, hpath, htells⟩
    cases hm : merge current update with
    | ok m =>
      rw [hm] at h
      cases hpath.symm.trans h
    | error c' =>
      rw [hm] at h
      obtain ⟨path', hpath', htells'⟩ := h
      cases hpath.symm.trans hpath'
      exact congrArg Except.error (htells'.unique htells)

theorem exists_merge_eq_error_iff {current update : Entries} (hu : (Value.dict update).Distinct) :
    (∃ c, merge current update = .error c) ↔
      ∃ path, clashesAt (.dict current) (.dict update) path = true := by
  rw [← exists_firstClash?_iff]
  constructor
  · rintro ⟨c, hc⟩
    obtain ⟨path, hpath, -⟩ := (merge_eq_error_iff_firstClash? hu).mp hc
    exact ⟨path, hpath⟩
  · rintro ⟨path, hpath⟩
    have h := endsAtClash_merge current hu
    cases hm : merge current update with
    | ok m =>
      rw [hm] at h
      cases hpath.symm.trans h
    | error c => exact ⟨c, rfl⟩

/-- A merge fails exactly if the state and the update clash at some path. The conflict then tells of
the first such path of the update, its keys joined by dots, and of what either side has there. -/
theorem merge_eq_error_iff {current update : Entries} (hu : (Value.dict update).Distinct)
    (hkeys : ∀ path ∈ (Value.dict update).paths, "" ∉ path) :
    ((∃ c, merge current update = .error c) ↔
      ∃ path, clashesAt (.dict current) (.dict update) path = true) ∧
    ∀ c, merge current update = .error c ↔
      ∃ path, firstClash? (.dict current) (.dict update) = some path ∧
        c.path = ".".intercalate path ∧ (Value.dict current).at? path = some c.existing ∧
        (Value.dict update).at? path = some c.new := by
  refine ⟨exists_merge_eq_error_iff hu, fun c => ?_⟩
  rw [merge_eq_error_iff_firstClash? hu]
  refine exists_congr fun path => and_congr_right fun hpath => ?_
  rw [← foldl_below_empty (hkeys path (List.mem_of_find?_eq_some hpath))]
  exact ⟨fun h => ⟨h.path_eq, h.existing_eq, h.new_eq⟩, fun ⟨h, h', h''⟩ => ⟨h, h', h''⟩⟩

theorem merge_eq_error_iff_sample :
    let current : Entries := [("id", .int 1), ("user", .dict [("tags", .none), ("name", .text "a")])]
    let update : Entries := [("user", .dict [("tags", .list []), ("name", .text "b")]), ("id", .text "1")]
    (Value.dict update).Distinct ∧ (∀ path ∈ (Value.dict update).paths, "" ∉ path) ∧
      clashesAt (.dict current) (.dict update) ["id"] = true ∧
      merge current update = .error ⟨"user.name", .text "a", .text "b"⟩ := by
  intro current update
  have hu : (Value.dict update).Distinct := by
    simp [update, Value.Distinct, Value.DistinctEntries, Value.DistinctItems]
  have hkeys : ∀ path ∈ (Value.dict update).paths, "" ∉ path := by
    simp [update, Value.paths, Value.pathsOf]
  exact ⟨hu, hkeys, rfl, ((merge_eq_error_iff hu hkeys).2 _).mpr ⟨["user", "name"], rfl, rfl, rfl, rfl⟩⟩

end ScenarioCheck.State
