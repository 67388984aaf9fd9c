import ScenarioCheck.Proofs.State.Merge

/-! Merged states seen path by path. At each path a merge keeps what only one side has and joins
what both have; it removes nothing and makes nothing up. -/
namespace ScenarioCheck.State

/-- The value at a path of keys. A path descends through dictionaries only. -/
def Value.at? : Value → List String → Option Value
  | v, [] => some v
  | .dict entries, key :: path => (Ordered.get? key entries).bind (at? · path)
  | _, _ :: _ => Option.none

/-- No list stands on the way along a path. -/
def OpenTo (a : Value) (path : List String) : Prop :=
  ∀ front, front <+: path → ∀ items, a.at? front ≠ some (.list items)

structure MergedAt (a b v : Value) (path : List String) : Prop where
  /-- What only the state has stays. -/
  kept : ∀ x, a.at? path = some x → b.at? path = none → v.at? path = some x
  /-- What only the update has is added, except below a list. -/
  added : ∀ y, b.at? path = some y → a.at? path = none → OpenTo a path → v.at? path = some y
  /-- What both have is joined. -/
  joined : ∀ x y, a.at? path = some x → b.at? path = some y →
    ∃ z, v.at? path = some z ∧ Joined x y z
  /-- There is nothing else. -/
  only : (v.at? path).isSome → (a.at? path).isSome ∨ (b.at? path).isSome ∧ OpenTo a path

section Paths

open Value (at?)

@[simp] theorem at?_nil (v : Value) : v.at? [] = some v := by
  cases v <;> rfl

@[simp] theorem at?_dict_cons (entries : Entries) (key : String) (path : List String) :
    (Value.dict entries).at? (key :: path) = (Ordered.get? key entries).bind (at? · path) := rfl

theorem at?_cons_of_ne {v : Value} (h : ∀ entries, v ≠ .dict entries) (key : String)
    (path : List String) : v.at? (key :: path) = none := by
  cases v with
  | dict entries => exact absurd rfl (h entries)
  | _ => rfl

theorem openTo_of_isNone {a : Value} {path : List String} (hl : ∀ items, a ≠ .list items)
    (h : ∀ key rest, a.at? (key :: rest) = none) : OpenTo a path := by
  intro front _ items heq
  cases front with
  | nil => exact hl items (by simpa using heq)
  | cons key rest =>
    rw [h key rest] at heq
    cases heq

@[simp] theorem openTo_dict_cons {entries : Entries} {key : String} {path : List String} :
    OpenTo (.dict entries) (key :: path) ↔
      ∀ x, Ordered.get? key entries = some x → OpenTo x path := by
  constructor
  · intro h x hx front hf items heq
    apply h (key :: front) (List.cons_prefix_cons.mpr ⟨rfl, hf⟩) items
    rw [at?_dict_cons, hx]
    exact heq
  · intro h front hf items heq
    cases front with
    | nil => simp at heq
    | cons k front =>
      obtain ⟨rfl, hfront⟩ := List.cons_prefix_cons.mp hf
      rw [at?_dict_cons] at heq
      obtain ⟨x, hx, hitems⟩ := Option.bind_eq_some_iff.mp heq
      exact h x hx front hfront items hitems

theorem mergedAt_nil {a b v : Value} (h : Joined a b v) : MergedAt a b v [] where
  kept _ _ hb := by simp at hb
  added _ _ ha := by simp at ha
  joined x y hx hy := by
    rw [at?_nil, Option.some.injEq] at hx hy
    exact ⟨v, at?_nil v, hx ▸ hy ▸ h⟩
  only _ := .inl (by simp)

section Below

variable {a b v : Value} {path : List String}

theorem mergedAt_of_none (ha : a.at? path = none) (hv : v.at? path = none)
    (hb : b.at? path = none ∨ ¬OpenTo a path) : MergedAt a b v path where
  kept x hx _ := by simp [ha] at hx
  added y hy _ ho := by
    rcases hb with hb | hb
    · simp [hb] at hy
    · exact absurd ho hb
  joined x y hx _ := by simp [ha] at hx
  only hs := by simp [hv] at hs

theorem mergedAt_of_left_none (ha : a.at? path = none) (ho : OpenTo a path)
    (hv : v.at? path = b.at? path) : MergedAt a b v path where
  kept x hx _ := by simp [ha] at hx
  added y hy _ _ := hv.trans hy
  joined x y hx _ := by simp [ha] at hx
  only hs := .inr ⟨hv ▸ hs, ho⟩

theorem mergedAt_of_right_none (hb : b.at? path = none) (hv : v.at? path = a.at? path) :
    MergedAt a b v path where
  kept x hx _ := hv.trans hx
  added y hy _ _ := by simp [hb] at hy
  joined x y _ hy := by simp [hb] at hy
  only hs := .inl (hv ▸ hs)

theorem mergedAt_cons_of_joined (h : Joined a b v) (ha : ∀ current, a ≠ .dict current)
    (key : String) (rest : List String) : MergedAt a b v (key :: rest) := by
  cases h with
  | lists xs ys =>
    exact mergedAt_of_none rfl rfl (.inl rfl)
  | appended xs hb =>
    exact mergedAt_of_none rfl rfl (.inr fun ho => ho [] List.nil_prefix xs (at?_nil _))
  | unset b =>
    exact mergedAt_of_left_none rfl (openTo_of_isNone (by simp) fun _ _ => rfl) rfl
  | dicts h => exact absurd rfl (ha _)
  | scalars _ hb =>
    have hnone : b.at? (key :: rest) = none := by
      apply at?_cons_of_ne
      rintro entries rfl
      cases hb
    exact mergedAt_of_none (at?_cons_of_ne ha key rest) hnone (.inl hnone)

theorem mergedAt_dict_cons {current update m : Entries} {key name : String} {rest : List String}
    (hmeets : Meets name (Ordered.get? key current) (Ordered.get? key update)
      (Ordered.get? key m))
    (ih : ∀ x y z, Ordered.get? key update = some y → mergeValue name x y = .ok z →
      MergedAt x y z rest) :
    MergedAt (.dict current) (.dict update) (.dict m) (key :: rest) := by
  generalize hc : Ordered.get? key current = c at hmeets
  generalize hu : Ordered.get? key update = u at hmeets
  generalize hm : Ordered.get? key m = r at hmeets
  cases hmeets with
  | kept a =>
    apply mergedAt_of_right_none
    · rw [at?_dict_cons, hu, Option.bind_none]
    · rw [at?_dict_cons, at?_dict_cons, hm, hc]
  | added b =>
    apply mergedAt_of_left_none
    · rw [at?_dict_cons, hc, Option.bind_none]
    · rw [openTo_dict_cons, hc]
      simp
    · rw [at?_dict_cons, at?_dict_cons, hm, hu]
  | @merged x y z h =>
    have hbelow := ih x y z hu h
    have ha : (Value.dict current).at? (key :: rest) = x.at? rest := by rw [at?_dict_cons, hc]; rfl
    have hb : (Value.dict update).at? (key :: rest) = y.at? rest := by rw [at?_dict_cons, hu]; rfl
    have hv : (Value.dict m).at? (key :: rest) = z.at? rest := by rw [at?_dict_cons, hm]; rfl
    have ho : OpenTo (.dict current) (key :: rest) ↔ OpenTo x rest := by
      rw [openTo_dict_cons, hc]
      simp
    constructor
    · rw [ha, hb, hv]
      exact hbelow.kept
    · rw [ha, hb, hv, ho]
      exact hbelow.added
    · rw [ha, hb, hv]
      exact hbelow.joined
    · rw [ha, hb, hv, ho]
      exact hbelow.only

theorem mergedAt_of_mergeValue {name : String} (hb : b.Distinct)
    (h : mergeValue name a b = .ok v) (path : List String) : MergedAt a b v path := by
  induction path generalizing name a b v with
  | nil => exact mergedAt_nil (joined_of_mergeValue hb h)
  | cons key rest ih =>
    cases a with
    | dict current =>
      obtain ⟨update, m, rfl, hm, rfl⟩ := mergeValue_dict h
      apply mergedAt_dict_cons (meets_of_mergeEntries hb.1 hm key)
      intro x y z hy hz
      exact ih (Value.distinct_of_get? hb.2 hy) hz
    | _ => exact mergedAt_cons_of_joined (joined_of_mergeValue hb h) (by simp) key rest

end Below

theorem mergedAt_of_merge {current update m : Entries} (hu : (Value.dict update).Distinct)
    (h : merge current update = .ok m) (path : List String) :
    MergedAt (.dict current) (.dict update) (.dict m) path := by
  have hv : mergeValue "" (.dict current) (.dict update) = .ok (.dict m) := by
    unfold merge at h
    rw [mergeValue, h]
    rfl
  exact mergedAt_of_mergeValue hu hv path

end Paths

/-! Merging one update after the other. -/

def mergeAll (current : Entries) (updates : List Entries) : Except Conflict Entries :=
  updates.foldlM merge current

/-- Paths stay present, and lists change at their end only. -/
def Grows (v v' : Value) : Prop :=
  ∀ path x, v.at? path = some x → ∃ x', v'.at? path = some x' ∧
    ∀ items, x = .list items → ∃ more, x' = .list (items ++ more)

theorem Grows.refl (v : Value) : Grows v v :=
  fun _ x hx => ⟨x, hx, fun _ h => ⟨[], by simpa using h⟩⟩

theorem Grows.trans {v v' v'' : Value} (h : Grows v v') (h' : Grows v' v'') : Grows v v'' := by
  intro path x hx
  obtain ⟨x', hx', hitems⟩ := h path x hx
  obtain ⟨x'', hx'', hitems'⟩ := h' path x' hx'
  refine ⟨x'', hx'', fun items hl => ?_⟩
  obtain ⟨more, hmore⟩ := hitems items hl
  obtain ⟨more', hmore'⟩ := hitems' _ hmore
  exact ⟨more ++ more', by rw [hmore', List.append_assoc]⟩

theorem Joined.exists_append {x y z : Value} (h : Joined x y z) {items : List Value}
    (hx : x = .list items) : ∃ more, z = .list (items ++ more) := by
  subst hx
  cases h with
  | lists _ ys => exact ⟨ys, rfl⟩
  | appended _ hb => exact ⟨[y], rfl⟩
  | scalars hs => cases hs

theorem grows_of_mergedAt {a b v : Value} (h : ∀ path, MergedAt a b v path) : Grows a v := by
  intro path x hx
  cases hb : b.at? path with
  | none => exact ⟨x, (h path).kept x hx hb, fun items hl => ⟨[], by simpa using hl⟩⟩
  | some y =>
    obtain ⟨z, hz, hj⟩ := (h path).joined x y hx hb
    exact ⟨z, hz, fun items hl => hj.exists_append hl⟩

theorem grows_of_mergeAll {current m : Entries} {updates : List Entries}
    (hu : ∀ update ∈ updates, (Value.dict update).Distinct)
    (h : mergeAll current updates = .ok m) : Grows (.dict current) (.dict m) := by
  induction updates generalizing current with
  | nil =>
    cases h
    exact .refl _
  | cons update rest ih =>
    unfold mergeAll at h
    rw [List.foldlM_cons] at h
    cases hm : merge current update with
    | error e =>
      rw [hm] at h
      cases h
    | ok next =>
      rw [hm] at h
      have hfirst := grows_of_mergedAt (mergedAt_of_merge (hu update (by simp)) hm)
      exact hfirst.trans (ih (fun x hx => hu x (by simp [hx])) h)

/-- A merge that succeeds loses nothing and makes nothing up: at every path it has what `MergedAt`
says. So a state only grows under merges. -/
theorem merge_lossless (current : Entries) :
    (∀ update m, (Value.dict update).Distinct → merge current update = .ok m →
      ∀ path, MergedAt (.dict current) (.dict update) (.dict m) path) ∧
    ∀ updates m, (∀ update ∈ updates, (Value.dict update).Distinct) →
      mergeAll current updates = .ok m → Grows (.dict current) (.dict m) :=
  ⟨fun _ _ hu h => mergedAt_of_merge hu h, fun _ _ hu h => grows_of_mergeAll hu h⟩

theorem merge_lossless_sample :
    let current : Entries := [("ids", .list [.int 1]), ("user", .dict [("name", .text "a")])]
    let update : Entries := [("user", .dict [("age", .int 3)]), ("ids", .text "b")]
    ∃ m, merge current update = .ok m ∧
      (∀ path, MergedAt (.dict current) (.dict update) (.dict m) path) ∧
      Grows (.dict current) (.dict m) := by
  intro current update
  have hu : (Value.dict update).Distinct := by
    simp [update, Value.Distinct, Value.DistinctEntries]
  let merged : Entries :=
    [("ids", .list [.int 1, .text "b"]), ("user", .dict [("name", .text "a"), ("age", .int 3)])]
  have hm : merge current update = .ok merged := rfl
  have hall : mergeAll current [update] = .ok merged := rfl
  exact ⟨merged, hm, (merge_lossless current).1 _ _ hu hm,
    (merge_lossless current).2 [update] _ (by simpa using hu) hall⟩

end ScenarioCheck.State
