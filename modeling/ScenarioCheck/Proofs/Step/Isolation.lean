import Mathlib.Data.List.Basic
import ScenarioCheck.Proofs.Step.Declared
import ScenarioCheck.Step.Run

/-! Later phases never reach back. What a run reads and what it writes belongs to phases up to the
kind of its step, so the buckets of the earlier phases and the outcomes of their runs do not depend
on the runs of later phases. -/
namespace ScenarioCheck

namespace State.World

open Step (Kind Requirement)

/-- The buckets of the phases up to a rank are the same. -/
def AgreeUpTo (r : Nat) (w w' : World) : Prop :=
  ∀ phase : Kind, phase.rank ≤ r → w.bucket phase = w'.bucket phase

theorem AgreeUpTo.refl (r : Nat) (w : World) : AgreeUpTo r w w := fun _ _ => rfl

theorem AgreeUpTo.trans {r : Nat} {w w' w'' : World} (h : AgreeUpTo r w w')
    (h' : AgreeUpTo r w' w'') : AgreeUpTo r w w'' :=
  fun phase hp => (h phase hp).trans (h' phase hp)

theorem AgreeUpTo.mono {r r' : Nat} {w w' : World} (h : AgreeUpTo r w w') (hr : r' ≤ r) :
    AgreeUpTo r' w w' :=
  fun phase hp => h phase (Nat.le_trans hp hr)

@[simp] theorem withBucket_bucket (w : World) (phase : Kind) :
    w.withBucket phase (w.bucket phase) = w := by
  cases phase <;> rfl

theorem AgreeUpTo.withBucket {r : Nat} {w w' : World} (h : AgreeUpTo r w w') (phase : Kind)
    (entries : Entries) :
    AgreeUpTo r (w.withBucket phase entries) (w'.withBucket phase entries) := by
  intro other hr
  by_cases ho : other = phase
  · rw [ho, bucket_withBucket_self, bucket_withBucket_self]
  · rw [bucket_withBucket_ne w entries ho, bucket_withBucket_ne w' entries ho]
    exact h other hr

theorem agreeUpTo_withBucket {r : Nat} (w : World) {phase : Kind} (h : r < phase.rank)
    (entries : Entries) : AgreeUpTo r (w.withBucket phase entries) w := by
  intro other hr
  apply bucket_withBucket_ne w entries
  rintro rfl
  omega

def value? (w : World) (phase : Kind) (key : String) : Option Value :=
  Ordered.get? key (w.bucket phase)

theorem value?_congr {w w' : World} {phase : Kind} (h : w.bucket phase = w'.bucket phase)
    (key : String) : w.value? phase key = w'.value? phase key := by
  unfold value?
  rw [h]

theorem require_congr {w w' : World} {phase : Kind} {key : String}
    (h : w.value? phase key = w'.value? phase key) : w.require phase key = w'.require phase key := by
  unfold value? at h
  unfold require
  rw [h]

def missing? (w : World) (phase : Kind) (e : String × Requirement) : Option Missing :=
  if e.2 = .required then
    match w.require phase e.1 with
    | .error m => some m
    | .ok _ => none
  else none

theorem missing?_congr {w w' : World} {phase : Kind} {e : String × Requirement}
    (h : w.value? phase e.1 = w'.value? phase e.1) : w.missing? phase e = w'.missing? phase e := by
  unfold missing?
  rw [require_congr h]

theorem narrowed_congr {w w' : World} {phase : Kind} {keys : List String}
    (h : ∀ key ∈ keys, w.value? phase key = w'.value? phase key) :
    w.narrowed phase keys = w'.narrowed phase keys :=
  congrArg Ordered.ofList
    (List.filterMap_congr fun key hkey => congrArg (Option.map (key, ·)) (h key hkey))

end State.World

namespace Step

open State (World Value Entries)

/-! Steps that are built declare no later phases. -/

/-- A builder after some stages, each of which succeeded. -/
inductive Builder.Staged : Builder → Prop
  | root (kind : Kind) (statement : Statement) : Staged { kind, statement }
  | dependencies {b b' : Builder} (declared phases : Declared) (h : b.Staged)
    (hb : b.withDependencies declared phases = .ok b') : Staged b'
  | produces {b : Builder} (schema fields : List (String × Value)) (h : b.Staged) :
    Staged (b.withProduces schema fields)

def Runnable.Built (st : Runnable) : Prop :=
  ∃ (b : Builder) (body : Option Body), b.Staged ∧ b.step body = .ok st

theorem mayDependOn_of_readDependencies {kind : Kind} {declared : Declared}
    {dependencies : Dependencies} (h : readDependencies kind declared = .ok dependencies) :
    ∀ e ∈ dependencies, kind.mayDependOn e.1 = true := by
  induction declared generalizing dependencies with
  | nil =>
    rw [readDependencies] at h
    cases h
    simp
  | cons d rest ih =>
    obtain ⟨name, entries?⟩ := d
    cases entries? with
    | none =>
      rw [readDependencies] at h
      exact ih h
    | some entries =>
      rw [readDependencies] at h
      split at h
      · cases h
      · rename_i phase _
        split at h
        · rename_i hallowed
          simp only [bind, Except.bind] at h
          split at h
          · cases h
          · split at h
            · cases h
            · rename_i hothers
              cases h
              intro e he
              rcases List.mem_cons.mp he with rfl | he
              · exact hallowed
              · exact ih hothers e he
        · cases h

theorem Builder.Staged.mayDependOn {b : Builder} (h : b.Staged) :
    ∀ e ∈ b.dependencies, b.kind.mayDependOn e.1 = true := by
  induction h with
  | root kind statement => simp
  | dependencies declared phases _ hb _ =>
    obtain ⟨dependencies, hd, rfl⟩ := Builder.withDependencies_eq_ok_iff.mp hb
    exact mayDependOn_of_readDependencies hd
  | produces schema fields _ ih => exact ih

namespace Runnable

variable {st : Runnable}

theorem Built.declared_eq_nil (h : st.Built) {phase : Kind} (hp : st.kind.rank < phase.rank) :
    st.declared phase = [] := by
  obtain ⟨b, body, hb, hst⟩ := h
  cases body with
  | none => cases hst
  | some body =>
    cases hst
    have hnone : Ordered.get? phase b.dependencies = none := by
      rw [Ordered.get?_eq_none_iff]
      intro hm
      obtain ⟨e, he, rfl⟩ := List.mem_map.mp hm
      have hle := hb.mayDependOn e he
      simp only [Kind.mayDependOn, decide_eq_true_eq] at hle
      exact absurd hp (Nat.not_lt.mpr hle)
    simp [declared, hnone]

/-! What a run reads and writes. -/

variable {w w' : World}

/-- Two worlds hold the same for every property that a step declares. -/
def ReadsAlike (st : Runnable) (w w' : World) : Prop :=
  ∀ phase, ∀ e ∈ st.declared phase, w.value? phase e.1 = w'.value? phase e.1

theorem contextOf_eq (st : Runnable) (w : World) (phase : Kind) : st.contextOf w phase =
    match ((st.declared phase).filterMap (w.missing? phase)).head? with
    | some e => .error (.missing e)
    | none => .ok (w.narrowed phase ((st.declared phase).map (·.1))) := by
  rw [List.head?_filterMap]
  rfl

theorem contextOf_congr (h : st.ReadsAlike w w') (phase : Kind) :
    st.contextOf w phase = st.contextOf w' phase := by
  have hnarrowed : w.narrowed phase ((st.declared phase).map (·.1)) =
      w'.narrowed phase ((st.declared phase).map (·.1)) := by
    apply World.narrowed_congr
    intro key hkey
    obtain ⟨e, he, rfl⟩ := List.mem_map.mp hkey
    exact h phase e he
  rw [contextOf_eq, contextOf_eq, hnarrowed,
    List.filterMap_congr fun e he => World.missing?_congr (h phase e he)]

theorem context_congr (h : st.ReadsAlike w w') (captures : List String) :
    st.context w captures = st.context w' captures := by
  unfold context
  rw [contextOf_congr h, contextOf_congr h, contextOf_congr h]

/-- What the body of a step gives in a world. Nothing is merged yet. -/
def output (st : Runnable) (w : World) (captures : List String) : Except RunError Value := do
  let ctx ← st.context w captures
  if st.body.isAsync then .error (.asynchronous st.statement.pattern)
  else (st.body.run ctx).mapError .body

theorem run_eq_bind (st : Runnable) (w : World) (captures : List String) :
    st.run w captures = st.output w captures >>= st.mergeResult w := by
  unfold run output
  cases st.context w captures with
  | error e => rfl
  | ok ctx =>
    simp only [bind, Except.bind, Bool.not_false, Bool.and_true]
    split
    · rfl
    · cases st.body.run ctx <;> rfl

theorem output_congr (h : st.ReadsAlike w w') (captures : List String) :
    st.output w captures = st.output w' captures := by
  unfold output
  rw [context_congr h]

theorem Built.readsAlike (hb : st.Built) (h : w.AgreeUpTo st.kind.rank w') :
    st.ReadsAlike w w' := by
  intro phase e he
  rcases Nat.lt_or_ge st.kind.rank phase.rank with hp | hp
  · rw [hb.declared_eq_nil hp] at he
    cases he
  · exact World.value?_congr (h phase hp) e.1

/-- Two runs that fail alike, or replace the bucket of a phase alike. -/
def Alike (phase : Kind) (w w' : World) (x x' : Except RunError World) : Prop :=
  (∃ e, x = .error e ∧ x' = .error e) ∨
    ∃ entries, x = .ok (w.withBucket phase entries) ∧ x' = .ok (w'.withBucket phase entries)

theorem alike_error {phase : Kind} (e : RunError) : Alike phase w w' (.error e) (.error e) :=
  .inl ⟨e, rfl, rfl⟩

theorem mergeResult_alike (h : w.bucket st.kind = w'.bucket st.kind) (v : Value) :
    Alike st.kind w w' (st.mergeResult w v) (st.mergeResult w' v) := by
  cases v with
  | none =>
    -- nothing is merged, which is to put the bucket back as it is
    have hw : w'.withBucket st.kind (w.bucket st.kind) = w' := by rw [h, World.withBucket_bucket]
    exact .inr ⟨w.bucket st.kind, by rw [World.withBucket_bucket]; rfl, by rw [hw]; rfl⟩
  | dict update =>
    simp only [mergeResult, World.merge, ← h]
    cases State.merge (w.bucket st.kind) update with
    | error e => exact alike_error _
    | ok merged => exact .inr ⟨merged, rfl, rfl⟩
  | _ => exact alike_error _

theorem run_alike (hb : st.Built) (h : w.AgreeUpTo st.kind.rank w') (captures : List String) :
    Alike st.kind w w' (st.run w captures) (st.run w' captures) := by
  rw [run_eq_bind, run_eq_bind, output_congr (hb.readsAlike h)]
  cases st.output w' captures with
  | error e => exact alike_error e
  | ok v => exact mergeResult_alike (h st.kind (Nat.le_refl _)) v

end Runnable

/-! Runs one after the other. -/

structure Call where
  step : Runnable
  built : step.Built
  captures : List String

namespace Call

def rank (c : Call) : Nat := c.step.kind.rank

/-- The world after a call and the error it ends with, if any. A call that fails leaves the world
as it was. -/
def apply (c : Call) (w : World) : World × Option RunError :=
  match c.step.run w c.captures with
  | .ok w' => (w', none)
  | .error e => (w, some e)

variable {r : Nat} {w w' : World} {c : Call}

theorem apply_of_rank_le (hc : c.rank ≤ r) (h : w.AgreeUpTo r w') :
    (c.apply w).2 = (c.apply w').2 ∧ (c.apply w).1.AgreeUpTo r (c.apply w').1 := by
  unfold apply
  rcases Runnable.run_alike c.built (h.mono hc) c.captures with ⟨e, hw, hw'⟩ | ⟨entries, hw, hw'⟩
  · rw [hw, hw']
    exact ⟨rfl, h⟩
  · rw [hw, hw']
    exact ⟨rfl, h.withBucket c.step.kind entries⟩

theorem apply_of_lt_rank (hc : r < c.rank) : (c.apply w).1.AgreeUpTo r w := by
  unfold apply
  rcases Runnable.run_alike c.built (.refl _ w) c.captures with ⟨e, hw, -⟩ | ⟨entries, hw, -⟩
  · rw [hw]
    exact .refl r w
  · rw [hw]
    exact w.agreeUpTo_withBucket hc entries

end Call

/-- Makes calls one after the other, whether they fail or not: the last world, and each call with
its outcome. -/
def runCalls (w : World) : List Call → World × List (Call × Option RunError)
  | [] => (w, [])
  | c :: rest =>
    ((runCalls (c.apply w).1 rest).1, (c, (c.apply w).2) :: (runCalls (c.apply w).1 rest).2)

def callsUpTo (r : Nat) (calls : List Call) : List Call := calls.filter fun c => c.rank ≤ r

theorem runCalls_alike {r : Nat} {w w' : World} (h : w.AgreeUpTo r w') (calls : List Call) :
    (runCalls w calls).1.AgreeUpTo r (runCalls w' (callsUpTo r calls)).1 ∧
      (runCalls w calls).2.filter (fun x => x.1.rank ≤ r) =
        (runCalls w' (callsUpTo r calls)).2 := by
  induction calls generalizing w w' with
  | nil => exact ⟨h, rfl⟩
  | cons c rest ih =>
    unfold callsUpTo
    by_cases hc : c.rank ≤ r
    · obtain ⟨houtcome, hagree⟩ := Call.apply_of_rank_le hc h
      obtain ⟨hworld, hrest⟩ := ih hagree
      rw [List.filter_cons_of_pos (by simpa using hc), runCalls, runCalls,
        List.filter_cons_of_pos (by simpa using hc), houtcome]
      exact ⟨hworld, congrArg _ hrest⟩
    · -- only the run of all calls makes this one, and it stays in agreement with the other run
      have hagree := (Call.apply_of_lt_rank (Nat.not_le.mp hc)).trans h
      rw [List.filter_cons_of_neg (by simpa using hc), runCalls,
        List.filter_cons_of_neg (by simpa using hc)]
      exact ih hagree

/-- Leaving out the calls of later phases changes neither the buckets of the phases up to a rank
nor the outcome of any call up to it. -/
theorem runCalls_upTo (w : World) (calls : List Call) (r : Nat) :
    (∀ phase : Kind, phase.rank ≤ r →
      (runCalls w calls).1.bucket phase = (runCalls w (callsUpTo r calls)).1.bucket phase) ∧
    (runCalls w calls).2.filter (fun x => x.1.rank ≤ r) = (runCalls w (callsUpTo r calls)).2 :=
  runCalls_alike (.refl r w) calls

end Step
end ScenarioCheck
