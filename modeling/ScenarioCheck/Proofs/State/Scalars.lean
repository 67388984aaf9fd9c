import ScenarioCheck.Proofs.State.Conflicts

/-! Scalars under merges. A scalar that is set gives way to nothing but a value that equals it, and
this one takes its place. Values can be equal without being the same, such as a truth value and a
number. -/
namespace ScenarioCheck.State

variable {current update m : Entries} {path : List String} {x y : Value}

/-! A scalar and what an update has in its place. -/

theorem Joined.of_isScalar {z : Value} (h : Joined x y z) (hx : x.isScalar = true) :
    z = y ∧ x.same false y = true := by
  cases h with
  | lists _ _ | appended _ _ | unset _ | dicts _ => cases hx
  | scalars _ _ hs _ => exact ⟨rfl, hs⟩

theorem at?_merge_of_isScalar (hu : (Value.dict update).Distinct)
    (hm : merge current update = .ok m) (hx : (Value.dict current).at? path = some x)
    (hs : x.isScalar = true) :
    (Value.dict m).at? path = some (((Value.dict update).at? path).getD x) ∧
      ∀ y, (Value.dict update).at? path = some y → x.same false y = true := by
  have hmerged := mergedAt_of_merge hu hm path
  cases hy : (Value.dict update).at? path with
  | none => exact ⟨hmerged.kept x hx hy, nofun⟩
  | some y =>
    obtain ⟨z, hz, hjoined⟩ := hmerged.joined x y hx hy
    obtain ⟨rfl, hsame⟩ := hjoined.of_isScalar hs
    refine ⟨hz, fun y' hy' => ?_⟩
    cases hy'
    exact hsame

theorem exists_conflict_of_not_same (hu : (Value.dict update).Distinct)
    (hx : (Value.dict current).at? path = some x) (hs : x.isScalar = true)
    (hy : (Value.dict update).at? path = some y) (hne : x.same false y = false) :
    ∃ c, merge current update = .error c := by
  rw [exists_merge_eq_error_iff hu]
  refine ⟨path, ?_⟩
  rw [clashesAt, hx, hy]
  dsimp only
  rw [Value.clashes_of_isScalar hs, hne]
  rfl

/-! Asserting again. -/

mutual

/-- The new value only asserts what is there: a dictionary stands below a dictionary, and all else is
the scalar itself. A NaN equals nothing and cannot be asserted again. -/
def Reasserts (existing : Value) : Value → Prop
  | .dict update => ∃ current, existing = .dict current ∧ ReassertsEntries current update
  | new => new.isScalar = true ∧ new.same false new = true ∧ existing = new

def ReassertsEntries (current : Entries) : List (String × Value) → Prop
  | [] => True
  | (key, new) :: rest =>
    (∃ existing, Ordered.get? key current = some existing ∧ Reasserts existing new) ∧
      ReassertsEntries current rest

end

mutual

theorem mergeValue_of_reasserts (name : String) (a : Value) :
    ∀ b : Value, Reasserts a b → mergeValue name a b = .ok a
  | .dict update, h => by
    rw [Reasserts] at h
    obtain ⟨current, rfl, hentries⟩ := h
    rw [mergeValue, mergeEntries_of_reasserts name current update hentries]
    rfl
  | .none, h | .list _, h | .bool _, h | .int _, h | .float _, h | .text _, h | .tuple _, h => by
    simp only [Reasserts] at h
    obtain ⟨hs, hsame, rfl⟩ := h
    rw [mergeValue_eq_of_isScalar hs, if_pos hsame]

theorem mergeEntries_of_reasserts (name : String) (current : Entries) :
    ∀ update : Entries, ReassertsEntries current update →
      mergeEntries name current update = .ok current
  | [], _ => by rw [mergeEntries]
  | (key, new) :: rest, h => by
    rw [ReassertsEntries] at h
    obtain ⟨⟨x, hget, hnew⟩, hrest⟩ := h
    rw [mergeEntries, hget]
    dsimp only
    rw [mergeValue_of_reasserts (below name key) x new hnew]
    dsimp only
    rw [Ordered.put_eq_self hget]
    exact mergeEntries_of_reasserts name current rest hrest

end

/-- Where equal values are the same, a scalar stays what it is: a merge that succeeds keeps it, and one
that has another value for it fails. To assert scalars again changes nothing. Without that, a scalar
is overwritten by a value that equals it. -/
theorem merge_keeps_scalars (current : Entries) :
    (∀ update, (Value.dict update).Distinct → ∀ path x,
      (Value.dict current).at? path = some x → x.isScalar = true →
      (∀ y, (Value.dict update).at? path = some y → x.same false y = true → y = x) →
        (∀ m, merge current update = .ok m → (Value.dict m).at? path = some x) ∧
        ∀ y, (Value.dict update).at? path = some y → y ≠ x → ∃ c, merge current update = .error c) ∧
    (∀ update, ReassertsEntries current update → merge current update = .ok current) ∧
    ∀ update m, (Value.dict update).Distinct → merge current update = .ok m → ∀ path x,
      (Value.dict current).at? path = some x → x.isScalar = true →
      (Value.dict m).at? path ≠ some x →
        ∃ y, (Value.dict update).at? path = some y ∧ y ≠ x ∧ x.same false y = true ∧
          (Value.dict m).at? path = some y := by
  refine ⟨fun update hu path x hx hs hsame => ⟨fun m hm => ?_, fun y hy hne => ?_⟩,
    fun update h => mergeEntries_of_reasserts "" current update h,
    fun update m hu hm path x hx hs hne => ?_⟩
  · obtain ⟨hat, hequal⟩ := at?_merge_of_isScalar hu hm hx hs
    cases hy : (Value.dict update).at? path with
    | none => rw [hat, hy, Option.getD_none]
    | some y => rw [hat, hy, Option.getD_some, hsame y hy (hequal y hy)]
  · apply exists_conflict_of_not_same hu hx hs hy
    rw [Bool.eq_false_iff]
    exact fun hequal => hne (hsame y hy hequal)
  · obtain ⟨hat, hequal⟩ := at?_merge_of_isScalar hu hm hx hs
    cases hy : (Value.dict update).at? path with
    | none =>
      rw [hy, Option.getD_none] at hat
      exact absurd hat hne
    | some y =>
      rw [hy, Option.getD_some] at hat
      exact ⟨y, rfl, fun heq => hne (heq ▸ hat), hequal y hy, hat⟩

theorem merge_keeps_scalars_sample :
    let current : Entries := [("id", .int 1), ("user", .dict [("name", .text "a")])]
    let again : Entries := [("user", .dict [("name", .text "a")]), ("id", .int 1)]
    let more : Entries := [("user", .dict [("age", .int 3)])]
    let other : Entries := [("user", .dict [("name", .text "b")])]
    merge current again = .ok current ∧ (∃ c, merge current other = .error c) ∧
      ∃ m, merge current more = .ok m ∧ (Value.dict m).at? ["user", "name"] = some (.text "a") := by
  intro current again more other
  have hagain : ReassertsEntries current again := by
    simp [current, again, ReassertsEntries, Reasserts, Value.isScalar, Value.same]
  have hother : (Value.dict other).Distinct := by
    simp [other, Value.Distinct, Value.DistinctEntries]
  have hmore : (Value.dict more).Distinct := by
    simp [more, Value.Distinct, Value.DistinctEntries]
  obtain ⟨hkept, hunchanged, -⟩ := merge_keeps_scalars current
  obtain ⟨-, hrefused⟩ := hkept other hother ["user", "name"] (.text "a") rfl rfl
    fun y hy hsame => by cases hy; cases hsame
  have habsent : (Value.dict more).at? ["user", "name"] = none := rfl
  obtain ⟨hstays, -⟩ := hkept more hmore ["user", "name"] (.text "a") rfl rfl fun y hy => by
    rw [habsent] at hy
    cases hy
  exact ⟨hunchanged again hagain, hrefused (.text "b") rfl (by simp), _, rfl, hstays _ rfl⟩

/-- A truth value is overwritten by the number that equals it. -/
theorem merge_overwrites_truth :
    ¬ ∀ (current update m : Entries) (path : List String) (x : Value),
      (Value.dict update).Distinct → merge current update = .ok m →
      (Value.dict current).at? path = some x → x.isScalar = true →
      (Value.dict m).at? path = some x := by
  intro h
  have hkept := h [("done", .bool true)] [("done", .int 1)] [("done", .int 1)] ["done"] (.bool true)
    (by simp [Value.Distinct, Value.DistinctEntries]) rfl rfl rfl
  cases hkept

end ScenarioCheck.State
