import ScenarioCheck.Proofs.State.Conflicts

/-! Merging an update again. A state that has taken an update in takes it in once more without changing,
as long as there are no lists, which grow every time, and no NaN, which cannot be asserted again. -/
namespace ScenarioCheck.State

namespace Value

mutual

/-- No list and no NaN, as far as dictionaries lead. A tuple is compared as a whole, and there a NaN is
the same as itself. -/
def Steady : Value → Prop
  | list _ => False
  | float x => ∀ label, x ≠ .nan label
  | dict entries => SteadyEntries entries
  | _ => True

def SteadyEntries : List (String × Value) → Prop
  | [] => True
  | (_, v) :: rest => Steady v ∧ SteadyEntries rest

end

theorem steady_of_get? {entries : Entries} (h : SteadyEntries entries) {key : String} {v : Value}
    (hv : Ordered.get? key entries = some v) : v.Steady := by
  induction entries with
  | nil => cases hv
  | cons e rest ih =>
    obtain ⟨k, x⟩ := e
    obtain ⟨hx, hrest⟩ := h
    rw [Ordered.get?] at hv
    split at hv
    · cases hv
      exact hx
    · exact ih hrest hv

theorem same_self_of_steady {v : Value} (hs : v.isScalar = true) (h : v.Steady) (hd : v.Distinct) :
    v.same false v = true := by
  cases v with
  | none | list _ | dict _ => cases hs
  | float x =>
    rw [same]
    exact sameNumber_self (.inr h)
  | tuple items =>
    rw [same]
    exact sameItems_self items hd
  | bool _ | int _ | text _ => simp [same]

end Value

/-- A value takes another one in without changing. -/
def Absorbs (v new : Value) : Prop := ∀ name, mergeValue name v new = .ok v

section Absorbs

variable {name : String} {v new : Value} {m update : Entries}

theorem absorbs_self (hd : ∀ entries, new ≠ .dict entries) (h : new.Steady) (hn : new.Distinct) :
    Absorbs new new := by
  intro name
  cases new with
  | none => rfl
  | list _ => exact h.elim
  | dict entries => exact absurd rfl (hd entries)
  | _ => rw [mergeValue_eq_of_isScalar rfl, if_pos (Value.same_self_of_steady rfl h hn)]

theorem mergeEntries_of_absorbs
    (h : ∀ e ∈ update, ∃ v, Ordered.get? e.1 m = some v ∧ Absorbs v e.2) :
    mergeEntries name m update = .ok m := by
  induction update with
  | nil => rw [mergeEntries]
  | cons e rest ih =>
    obtain ⟨key, new⟩ := e
    obtain ⟨v, hget, hv⟩ := h (key, new) (.head _)
    rw [mergeEntries, hget]
    dsimp only
    rw [hv (below name key)]
    dsimp only
    rw [Ordered.put_eq_self hget]
    exact ih fun e he => h e (.tail _ he)

theorem absorbs_dict (h : ∀ e ∈ update, ∃ v, Ordered.get? e.1 m = some v ∧ Absorbs v e.2) :
    Absorbs (.dict m) (.dict update) := by
  intro name
  rw [mergeValue, mergeEntries_of_absorbs h]
  rfl

@[simp] theorem mergeValue_none_left (name : String) (new : Value) :
    mergeValue name .none new = .ok new := by
  cases new <;> rfl

theorem eq_of_mergeValue {a : Value} (ha : a.Steady) (hd : ∀ entries, new ≠ .dict entries)
    (h : mergeValue name a new = .ok v) : v = new := by
  cases a with
  | none => exact mergeValue_none h
  | list _ => exact ha.elim
  | dict current =>
    obtain ⟨update, -, rfl, -⟩ := mergeValue_dict h
    exact absurd rfl (hd update)
  | _ => exact (mergeValue_scalar rfl h).1

theorem absorbs_of_mergeEntries {current : Entries} (hs : Value.SteadyEntries current)
    (hn : (Ordered.keys update).Nodup) (hm : mergeEntries name current update = .ok m)
    (hvalues : ∀ e ∈ update, ∀ (name : String) (a v : Value), a.Steady →
      mergeValue name a e.2 = .ok v → Absorbs v e.2) :
    Absorbs (.dict m) (.dict update) := by
  apply absorbs_dict
  rintro ⟨key, new⟩ he
  have hmeets := meets_of_mergeEntries hn hm key
  rw [Ordered.get?_of_mem hn he] at hmeets
  generalize hc : Ordered.get? key current = c at hmeets
  generalize hr : Ordered.get? key m = r at hmeets
  cases hmeets with
  | added =>
    exact ⟨new, rfl, hvalues _ he "" .none new trivial (mergeValue_none_left "" new)⟩
  | @merged a _ v h =>
    exact ⟨v, rfl, hvalues _ he _ a v (Value.steady_of_get? hs hc) h⟩

end Absorbs

mutual

theorem absorbs_of_mergeValue : ∀ new : Value, new.Steady → new.Distinct →
    ∀ (name : String) (a v : Value), a.Steady → mergeValue name a new = .ok v → Absorbs v new
  | .dict update, hs, hd, name, a, v, ha, h => by
    have hvalues := absorbs_of_mem update hs hd.2
    cases a with
    | none =>
      obtain rfl := mergeValue_none h
      refine absorbs_dict fun e he => ⟨e.2, Ordered.get?_of_mem hd.1 he, ?_⟩
      exact hvalues e he "" .none e.2 trivial (mergeValue_none_left "" e.2)
    | list _ => exact ha.elim
    | dict current =>
      obtain ⟨_, m, heq, hm, rfl⟩ := mergeValue_dict h
      cases heq
      exact absorbs_of_mergeEntries ha hd.1 hm hvalues
    | _ => cases h
  | .none, hs, hd, _, a, v, ha, h | .bool _, hs, hd, _, a, v, ha, h
  | .int _, hs, hd, _, a, v, ha, h | .float _, hs, hd, _, a, v, ha, h
  | .text _, hs, hd, _, a, v, ha, h | .list _, hs, hd, _, a, v, ha, h
  | .tuple _, hs, hd, _, a, v, ha, h => by
    rw [eq_of_mergeValue ha (by simp) h]
    exact absorbs_self (by simp) hs hd

theorem absorbs_of_mem : ∀ update : Entries, Value.SteadyEntries update →
    Value.DistinctEntries update → ∀ e ∈ update, ∀ (name : String) (a v : Value), a.Steady →
      mergeValue name a e.2 = .ok v → Absorbs v e.2
  | [], _, _, e, he, _, _, _, _, _ => by cases he
  | (key, new) :: rest, hs, hd, e, he, name, a, v, ha, h => by
    rcases List.mem_cons.mp he with rfl | he
    · exact absorbs_of_mergeValue new hs.1 hd.1 name a v ha h
    · exact absorbs_of_mem rest hs.2 hd.2 e he name a v ha h

end

/-- Where there are no lists and no NaN, merging an update again changes nothing. -/
theorem merge_again {current update m : Entries} (hc : (Value.dict current).Steady)
    (hu : (Value.dict update).Steady) (hd : (Value.dict update).Distinct)
    (hm : merge current update = .ok m) : merge m update = .ok m := by
  have habsorbs := absorbs_of_mergeEntries hc hd.1 hm (absorbs_of_mem update hu hd.2)
  obtain ⟨_, m', heq, hm', hv⟩ := mergeValue_dict (habsorbs "")
  cases heq
  cases hv
  exact hm'

theorem merge_again_sample :
    let current : Entries := [("done", .bool true), ("user", .none), ("id", .int 7)]
    let update : Entries :=
      [("user", .dict [("at", .tuple [.float (.nan 0), .list []]), ("name", .none)]), ("done", .int 1)]
    ∃ m, merge current update = .ok m ∧ m ≠ current ∧ merge m update = .ok m := by
  intro current update
  have hc : (Value.dict current).Steady := by
    simp [current, Value.Steady, Value.SteadyEntries]
  have hu : (Value.dict update).Steady := by
    simp [update, Value.Steady, Value.SteadyEntries]
  have hd : (Value.dict update).Distinct := by
    simp [update, Value.Distinct, Value.DistinctEntries, Value.DistinctItems]
  refine ⟨_, rfl, ?_, merge_again hc hu hd rfl⟩
  simp [current]

end ScenarioCheck.State
