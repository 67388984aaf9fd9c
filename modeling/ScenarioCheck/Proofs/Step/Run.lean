import ScenarioCheck.Proofs.Ordered
import ScenarioCheck.Step.Run

/-! What a run that succeeds has done: every required property was there, and only what the body
returned was merged into the bucket of the step's kind. -/
namespace ScenarioCheck

/-! Merging keeps keys and adds those of the update. -/

namespace State

theorem mem_keys_mergeEntries {path key : String} {current merged : Entries}
    {update : List (String × Value)} (h : mergeEntries path current update = .ok merged) :
    key ∈ Ordered.keys merged ↔ key ∈ Ordered.keys current ∨ key ∈ Ordered.keys update := by
  induction update generalizing current with
  | nil =>
    rw [mergeEntries] at h
    cases h
    simp [Ordered.keys]
  | cons e rest ih =>
    obtain ⟨k, new⟩ := e
    have hkeys : key ∈ Ordered.keys ((k, new) :: rest) ↔ key = k ∨ key ∈ Ordered.keys rest := by
      simp
    rw [mergeEntries] at h
    rw [hkeys, ← or_assoc]
    split at h
    · split at h
      · rw [ih h, Ordered.mem_keys_put]
      · cases h
    · rw [ih h, Ordered.mem_keys_put]

namespace World

variable {w w' : World} {phase : Step.Kind}

theorem merge_ok {update : Entries} (h : w.merge phase update = .ok w') :
    ∃ merged, State.merge (w.bucket phase) update = .ok merged ∧ w' = w.withBucket phase merged := by
  unfold merge at h
  cases hm : State.merge (w.bucket phase) update with
  | error e =>
    rw [hm] at h
    cases h
  | ok merged =>
    rw [hm] at h
    cases h
    exact ⟨merged, rfl, rfl⟩

theorem mem_keys_of_require {key : String} {v : Value} (h : w.require phase key = .ok v) :
    key ∈ Ordered.keys (w.bucket phase) := by
  unfold require at h
  apply Classical.byContradiction
  intro hk
  rw [Ordered.get?_eq_none_iff.mpr hk] at h
  cases h

theorem mem_keys_merge {update : Entries} (h : w.merge phase update = .ok w')
    {other : Step.Kind} {key : String} :
    key ∈ Ordered.keys (w'.bucket other) ↔ key ∈ Ordered.keys (w.bucket other) ∨
      other = phase ∧ key ∈ Ordered.keys update := by
  obtain ⟨merged, hm, rfl⟩ := merge_ok h
  by_cases ho : other = phase
  · subst ho
    rw [bucket_withBucket_self, mem_keys_mergeEntries hm]
    simp
  · rw [bucket_withBucket_ne w merged ho]
    simp [ho]

end World
end State

namespace Step

open State (Value World Entries)

namespace Runnable

variable {st : Runnable} {w w' : World}

theorem require_of_contextOf {phase : Kind} {entries : Entries}
    (h : st.contextOf w phase = .ok entries) {name : String}
    (hr : (name, .required) ∈ st.declared phase) : ∃ v, w.require phase name = .ok v := by
  unfold contextOf at h
  dsimp only at h
  split at h
  · cases h
  · rename_i hnone
    rw [List.findSome?_eq_none_iff] at hnone
    have hname := hnone _ hr
    cases hv : w.require phase name with
    | ok v => exact ⟨v, rfl⟩
    | error e => simp [hv] at hname

theorem require_of_context {captures : List String} {ctx : Context}
    (h : st.context w captures = .ok ctx) {phase : Kind} {name : String}
    (hr : (name, .required) ∈ st.declared phase) : ∃ v, w.require phase name = .ok v := by
  unfold context at h
  simp only [bind, Except.bind] at h
  split at h
  · cases h
  · rename_i hgiven
    split at h
    · cases h
    · rename_i hwhen
      split at h
      · cases h
      · rename_i hthen
        cases phase with
        | given => exact require_of_contextOf hgiven hr
        | when => exact require_of_contextOf hwhen hr
        | «then» => exact require_of_contextOf hthen hr

theorem mergeResult_ok {v : Value} (h : st.mergeResult w v = .ok w') :
    v = .none ∧ w' = w ∨ ∃ update, v = .dict update ∧ w.merge st.kind update = .ok w' := by
  unfold mergeResult at h
  split at h
  · cases h
    exact .inl ⟨rfl, rfl⟩
  · rename_i update
    split at h
    · rename_i hm
      cases h
      exact .inr ⟨update, rfl, hm⟩
    · cases h
  · cases h

theorem run_ok {captures : List String} (h : st.run w captures = .ok w') :
    ∃ ctx v, st.context w captures = .ok ctx ∧ st.body.run ctx = .ok v ∧
      st.mergeResult w v = .ok w' := by
  unfold run at h
  cases hctx : st.context w captures with
  | error e =>
    rw [hctx] at h
    cases h
  | ok ctx =>
    simp only [hctx, bind, Except.bind] at h
    split at h
    · cases h
    · split at h
      · rename_i v hv
        exact ⟨ctx, v, rfl, hv, h⟩
      · cases h

end Runnable

namespace Collection

variable {c : Collection} {w w' : World} {kind : Kind} {text : String}

theorem runText_ok {st : Runnable} (h : c.runText w kind text = .ok (st, w')) :
    c.find kind text = [st] ∧ ∃ captures, st.run w captures = .ok w' := by
  unfold runText at h
  split at h
  · rename_i s hs
    cases hr : s.run w ((Pattern.captures? s.statement.pattern text).getD []) with
    | error e =>
      rw [hr] at h
      cases h
    | ok w₁ =>
      rw [hr] at h
      cases h
      exact ⟨hs, _, hr⟩
  · cases h

def runAll (c : Collection) (w : World) : List (Kind × String) → Except RunError World
  | [] => .ok w
  | (kind, text) :: rest =>
    match c.runText w kind text with
    | .ok (_, w') => runAll c w' rest
    | .error e => .error e

theorem runAll_cons_ok {rest : List (Kind × String)}
    (h : c.runAll w ((kind, text) :: rest) = .ok w') :
    ∃ st w₁, c.runText w kind text = .ok (st, w₁) ∧ c.runAll w₁ rest = .ok w' := by
  unfold runAll at h
  split at h
  · rename_i st w₁ hr
    exact ⟨st, w₁, hr, h⟩
  · cases h

end Collection
end Step
end ScenarioCheck
