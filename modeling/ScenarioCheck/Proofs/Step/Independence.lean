import ScenarioCheck.Proofs.Step.Isolation
import ScenarioCheck.Proofs.Step.Run

/-! Steps that do not meet. What a run does is settled by the properties its step declares and by what
is there for the keys it returns, and it writes these keys only. So two steps of which neither declares
what the other returns, and which do not return the same keys to one phase, can change places. -/
namespace ScenarioCheck

namespace State

/-! Merging, key by key. -/

theorem mergeEntries_alike {path : String} {same : String → Prop} {update current current' : Entries}
    (hkeys : ∀ key ∈ Ordered.keys update, same key)
    (h : ∀ key, same key → Ordered.get? key current = Ordered.get? key current') :
    (∃ c, mergeEntries path current update = .error c ∧
      mergeEntries path current' update = .error c) ∨
    ∃ m m', mergeEntries path current update = .ok m ∧ mergeEntries path current' update = .ok m' ∧
      ∀ key, same key → Ordered.get? key m = Ordered.get? key m' := by
  induction update generalizing current current' with
  | nil => exact .inr ⟨current, current', by rw [mergeEntries], by rw [mergeEntries], h⟩
  | cons e rest ih =>
    obtain ⟨k, new⟩ := e
    have hrest : ∀ key ∈ Ordered.keys rest, same key := fun key hkey => hkeys key (.tail _ hkey)
    have put (v : Value) : ∀ key, same key → Ordered.get? key (Ordered.put k v current) =
        Ordered.get? key (Ordered.put k v current') := by
      intro key hkey
      by_cases hk : key = k
      · rw [hk, Ordered.get?_put_self, Ordered.get?_put_self]
      · rw [Ordered.get?_put_ne hk, Ordered.get?_put_ne hk, h key hkey]
    rw [mergeEntries, mergeEntries, ← h k (hkeys k (.head _))]
    cases Ordered.get? k current with
    | none => exact ih hrest (put new)
    | some x =>
      dsimp only
      cases mergeValue (below path k) x new with
      | ok v => exact ih hrest (put v)
      | error c => exact .inl ⟨c, rfl, rfl⟩

theorem get?_mergeEntries_of_notMem {path key : String} {update current m : Entries}
    (hm : mergeEntries path current update = .ok m) (hk : key ∉ Ordered.keys update) :
    Ordered.get? key m = Ordered.get? key current := by
  induction update generalizing current with
  | nil =>
    rw [mergeEntries] at hm
    cases hm
    rfl
  | cons e rest ih =>
    obtain ⟨k, new⟩ := e
    obtain ⟨hne, hrest⟩ : key ≠ k ∧ key ∉ Ordered.keys rest := by simpa using hk
    rw [mergeEntries] at hm
    split at hm
    · split at hm
      · rw [ih hm hrest, Ordered.get?_put_ne hne]
      · cases hm
    · rw [ih hm hrest, Ordered.get?_put_ne hne]

namespace World

open Step (Kind)

variable {w w' v : World} {phase other : Kind} {update : Entries} {key : String}

@[simp] theorem value?_withBucket_self (entries : Entries) :
    (w.withBucket phase entries).value? phase key = Ordered.get? key entries := by
  rw [value?, bucket_withBucket_self]

theorem value?_withBucket_ne (h : other ≠ phase) (entries : Entries) :
    (w.withBucket phase entries).value? other key = w.value? other key := by
  rw [value?, value?, bucket_withBucket_ne w entries h]

theorem merge_alike (h : ∀ key ∈ Ordered.keys update, w.value? phase key = w'.value? phase key) :
    (∃ c, w.merge phase update = .error c ∧ w'.merge phase update = .error c) ∨
    ∃ v v', w.merge phase update = .ok v ∧ w'.merge phase update = .ok v' ∧
      ∀ other key, w.value? other key = w'.value? other key →
        v.value? other key = v'.value? other key := by
  unfold merge State.merge
  rcases mergeEntries_alike h fun _ h => h with ⟨c, hc, hc'⟩ | ⟨m, m', hm, hm', hsame⟩
  · rw [hc, hc']
    exact .inl ⟨c, rfl, rfl⟩
  · rw [hm, hm']
    refine .inr ⟨_, _, rfl, rfl, fun other key heq => ?_⟩
    by_cases ho : other = phase
    · subst ho
      rw [value?_withBucket_self, value?_withBucket_self, hsame key heq]
    · rw [value?_withBucket_ne ho, value?_withBucket_ne ho, heq]

theorem value?_merge_of_notMem (hm : w.merge phase update = .ok v)
    (hk : other = phase → key ∉ Ordered.keys update) : v.value? other key = w.value? other key := by
  obtain ⟨m, hmerged, rfl⟩ := merge_ok hm
  by_cases ho : other = phase
  · subst ho
    rw [value?_withBucket_self, get?_mergeEntries_of_notMem hmerged (hk rfl)]
    rfl
  · exact value?_withBucket_ne ho m

end World
end State

namespace Step

open State (World Value Entries)

namespace Call

variable {w w' : World} {c d : Call} {phase : Kind} {key : String}

/-- The keys of the dictionary that the body of a call returns; none if the call fails before. -/
def returned (c : Call) (w : World) : List String :=
  match c.step.output w c.captures with
  | .ok (.dict update) => Ordered.keys update
  | _ => []

theorem returned_congr (h : c.step.ReadsAlike w w') : c.returned w = c.returned w' := by
  unfold returned
  rw [Runnable.output_congr h]

theorem apply_of_dict {update : Entries} (h : c.step.output w c.captures = .ok (.dict update)) :
    c.apply w = match w.merge c.step.kind update with
      | .ok w' => (w', none)
      | .error e => (w, some (.conflict e)) := by
  rw [apply, Runnable.run_eq_bind, h]
  simp only [bind, Except.bind, Runnable.mergeResult]
  cases w.merge c.step.kind update <;> rfl

theorem exists_apply_of_not_dict (h : ∀ update, c.step.output w c.captures ≠ .ok (.dict update)) :
    ∃ outcome, ∀ w', c.step.output w' c.captures = c.step.output w c.captures →
      c.apply w' = (w', outcome) := by
  cases hout : c.step.output w c.captures with
  | error e => exact ⟨some e, fun w' h' => by rw [apply, Runnable.run_eq_bind, h']; rfl⟩
  | ok v =>
    cases v with
    | dict update => exact absurd hout (h update)
    | none => exact ⟨none, fun w' h' => by rw [apply, Runnable.run_eq_bind, h']; rfl⟩
    | _ => exact ⟨some _, fun w' h' => by rw [apply, Runnable.run_eq_bind, h']; rfl⟩

theorem value?_apply_of_notMem (h : phase = c.step.kind → key ∉ c.returned w) :
    (c.apply w).1.value? phase key = w.value? phase key := by
  by_cases hout : ∃ update, c.step.output w c.captures = .ok (.dict update)
  · obtain ⟨update, hout⟩ := hout
    rw [returned, hout] at h
    rw [apply_of_dict hout]
    cases hm : w.merge c.step.kind update with
    | error e => rfl
    | ok v => exact World.value?_merge_of_notMem hm h
  · obtain ⟨outcome, happly⟩ := exists_apply_of_not_dict (not_exists.mp hout)
    rw [happly w rfl]

theorem apply_alike (hr : c.step.ReadsAlike w w')
    (hk : ∀ key ∈ c.returned w, w.value? c.step.kind key = w'.value? c.step.kind key) :
    (c.apply w).2 = (c.apply w').2 ∧ ∀ phase key, w.value? phase key = w'.value? phase key →
      (c.apply w).1.value? phase key = (c.apply w').1.value? phase key := by
  have hsame := Runnable.output_congr hr c.captures
  by_cases hout : ∃ update, c.step.output w c.captures = .ok (.dict update)
  · obtain ⟨update, hout⟩ := hout
    rw [returned, hout] at hk
    rw [apply_of_dict hout, apply_of_dict (hsame.symm.trans hout)]
    rcases World.merge_alike hk with ⟨e, he, he'⟩ | ⟨v, v', hv, hv', hvalues⟩
    · rw [he, he']
      exact ⟨rfl, fun _ _ h => h⟩
    · rw [hv, hv']
      exact ⟨rfl, hvalues⟩
  · obtain ⟨outcome, happly⟩ := exists_apply_of_not_dict (not_exists.mp hout)
    rw [happly w rfl, happly w' hsame.symm]
    exact ⟨rfl, fun _ _ h => h⟩

/-- Neither of two calls declares a key that the other returns, in the phase it returns it to, and
calls of one phase return different keys. -/
structure Independent (w : World) (c d : Call) : Prop where
  unread : ∀ key ∈ c.returned w, key ∉ (d.step.declared c.step.kind).map (·.1)
  unread' : ∀ key ∈ d.returned w, key ∉ (c.step.declared d.step.kind).map (·.1)
  apart : c.step.kind ≠ d.step.kind ∨ ∀ key ∈ c.returned w, key ∉ d.returned w

namespace Independent

theorem symm (h : Independent w c d) : Independent w d c where
  unread := h.unread'
  unread' := h.unread
  apart := h.apart.imp Ne.symm fun hd key hkey hmem => hd key hmem hkey

theorem readsAlike (h : Independent w c d) : d.step.ReadsAlike w (c.apply w).1 := by
  intro phase e he
  symm
  apply value?_apply_of_notMem
  rintro rfl hmem
  exact h.unread e.1 hmem (List.mem_map_of_mem he)

theorem apply_alike (h : Independent w c d) :
    (d.apply w).2 = (d.apply (c.apply w).1).2 ∧ ∀ phase key,
      w.value? phase key = (c.apply w).1.value? phase key →
        (d.apply w).1.value? phase key = (d.apply (c.apply w).1).1.value? phase key := by
  apply Call.apply_alike h.readsAlike
  intro key hkey
  symm
  apply value?_apply_of_notMem
  intro hkind hmem
  rcases h.apart with hne | hd
  · exact hne hkind.symm
  · exact hd key hmem hkey

theorem value?_eq_of_notMem (h : Independent w c d) (hk : phase = c.step.kind → key ∉ c.returned w) :
    (d.apply (c.apply w).1).1.value? phase key = (d.apply w).1.value? phase key ∧
      (c.apply (d.apply w).1).1.value? phase key = (d.apply w).1.value? phase key := by
  constructor
  · exact (h.apply_alike.2 phase key (value?_apply_of_notMem hk).symm).symm
  · apply value?_apply_of_notMem
    rwa [← returned_congr h.symm.readsAlike]

theorem value?_eq (h : Independent w c d) (phase : Kind) (key : String) :
    (d.apply (c.apply w).1).1.value? phase key = (c.apply (d.apply w).1).1.value? phase key := by
  by_cases hk : phase = c.step.kind → key ∉ c.returned w
  · obtain ⟨hfirst, hsecond⟩ := h.value?_eq_of_notMem hk
    rw [hfirst, hsecond]
  · -- what the one call writes the other does not
    have hk' : phase = d.step.kind → key ∉ d.returned w := by
      intro hd
      obtain ⟨hc, hmem⟩ : phase = c.step.kind ∧ key ∈ c.returned w := by simpa using hk
      exact h.apart.resolve_left (fun hne => hne (hc.symm.trans hd)) key hmem
    obtain ⟨hfirst, hsecond⟩ := h.symm.value?_eq_of_notMem hk'
    rw [hfirst, hsecond]

end Independent
end Call

/-- Independent calls can change places: each has the outcome that it has alone, and in the end the
world holds the same for every key of every phase. -/
theorem runCalls_swap {w : World} {c d : Call} (h : c.Independent w d) :
    (runCalls w [c, d]).2 = [(c, (c.apply w).2), (d, (d.apply w).2)] ∧
    (runCalls w [d, c]).2 = [(d, (d.apply w).2), (c, (c.apply w).2)] ∧
    ∀ phase key, Ordered.get? key ((runCalls w [c, d]).1.bucket phase) =
      Ordered.get? key ((runCalls w [d, c]).1.bucket phase) := by
  have hd := h.apply_alike.1
  have hc := h.symm.apply_alike.1
  refine ⟨?_, ?_, h.value?_eq⟩
  · rw [hd]
    rfl
  · rw [hc]
    rfl

def sampleCall (required returned : String) (value : Value) : Call where
  step := ⟨.given, .text returned, [(.given, [(required, .required)])],
    ⟨false, fun _ => .ok (.dict [(returned, value)])⟩, none⟩
  built := by
    let root : Builder := { kind := .given, statement := .text returned }
    let declared : Declared := [("given", some [(required, "required")])]
    let staged : Builder := { root with dependencies := [(.given, [(required, .required)])] }
    have hb : root.withDependencies declared [] = .ok staged := rfl
    exact ⟨staged, some _, .dependencies declared [] (.root .given (.text returned)) hb, rfl⟩
  captures := []

theorem runCalls_swap_sampleCall :
    let w : World := { ofGiven := [("id", .int 1)] }
    let c := sampleCall "id" "name" (.text "a")
    let d := sampleCall "id" "age" (.int 3)
    c.Independent w d ∧
      (runCalls w [c, d]).1.ofGiven = [("id", .int 1), ("name", .text "a"), ("age", .int 3)] ∧
      (runCalls w [d, c]).1.ofGiven = [("id", .int 1), ("age", .int 3), ("name", .text "a")] ∧
      ∀ phase key, Ordered.get? key ((runCalls w [c, d]).1.bucket phase) =
        Ordered.get? key ((runCalls w [d, c]).1.bucket phase) := by
  intro w c d
  have hc : c.returned w = ["name"] := rfl
  have hd : d.returned w = ["age"] := rfl
  have h : c.Independent w d := {
    unread := by rw [hc]; decide
    unread' := by rw [hd]; decide
    apart := .inr (by rw [hc, hd]; decide) }
  exact ⟨h, rfl, rfl, (runCalls_swap h).2.2⟩

end Step
end ScenarioCheck
