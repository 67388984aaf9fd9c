import Mathlib.Data.Finset.Card
import Mathlib.Data.List.Induction
import ScenarioCheck.Chain.Message

/-! Repeated patterns over a whole run. A chain is told that its pattern was declared before exactly if
an earlier chain of the run, in its module or in one before it, defines a step of the same kind and
pattern; the first one is cited. Disabled rules only take messages away. -/
namespace ScenarioCheck.Chain

open Scope Step

/-- Each element of a list with those before it, after some others. -/
def withEarlier {α : Type} (before : List α) : List α → List (List α × α)
  | [] => []
  | x :: rest => (before, x) :: withEarlier (before ++ [x]) rest

@[simp] theorem withEarlier_append {α : Type} (before xs ys : List α) :
    withEarlier before (xs ++ ys) = withEarlier before xs ++ withEarlier (before ++ xs) ys := by
  induction xs generalizing before with
  | nil => simp [withEarlier]
  | cons x rest ih => simp [withEarlier, ih]

/-- A chain that a run comes to, with the file it is in. -/
structure Visit where
  file : String
  analysis : Analysis

def keyOf (d : Definition) : Kind × String := (d.kind, d.pattern)

namespace Visit

def definition? (v : Visit) : Option Definition := v.analysis.definition? v.file

def faults (v : Visit) : List Message :=
  v.analysis.issues.map fun i => ⟨i.position, .fault i.cause⟩

end Visit

def definitionsOf (visits : List Visit) : List Definition := visits.filterMap Visit.definition?

/-- What is declared after some chains. -/
def declaredAfter (earlier : List Visit) : Declared :=
  earlier.foldl (fun declared v => (messagesOf v.file declared v.analysis).2) []

def Visit.messages (earlier : List Visit) (v : Visit) : List Message :=
  (messagesOf v.file (declaredAfter earlier) v.analysis).1

def Message.isRepeated (m : Message) : Bool :=
  match m.finding with
  | .duplicate .. => true
  | .fault _ => false

/-! One chain. -/

section One

variable {v : Visit} {declared : Declared} {d : Definition} {first : Location}

theorem messagesOf_of_none (h : v.definition? = none) :
    messagesOf v.file declared v.analysis = (v.faults, declared) := by
  rw [Visit.definition?] at h
  rw [messagesOf, h]
  rfl

theorem messagesOf_of_new (h : v.definition? = some d)
    (hnew : Ordered.get? (keyOf d) declared = none) :
    messagesOf v.file declared v.analysis =
      (v.faults, Ordered.put (keyOf d) d.location declared) := by
  rw [Visit.definition?] at h
  rw [keyOf] at hnew
  rw [messagesOf, h]
  dsimp only
  rw [hnew]
  rfl

theorem messagesOf_of_repeated (h : v.definition? = some d)
    (hfirst : Ordered.get? (keyOf d) declared = some first) :
    messagesOf v.file declared v.analysis =
      (v.faults ++ [⟨v.analysis.position, .duplicate d.kind d.pattern first⟩], declared) := by
  rw [Visit.definition?] at h
  rw [keyOf] at hfirst
  rw [messagesOf, h]
  dsimp only
  rw [hfirst]
  rfl

end One

/-! What is declared. -/

@[simp] theorem definitionsOf_append (visits others : List Visit) :
    definitionsOf (visits ++ others) = definitionsOf visits ++ definitionsOf others :=
  List.filterMap_append

@[simp] theorem definitionsOf_singleton (v : Visit) : definitionsOf [v] = v.definition?.toList := by
  cases h : v.definition? <;> simp [definitionsOf, h]

@[simp] theorem mem_definitionsOf {visits : List Visit} {d : Definition} :
    d ∈ definitionsOf visits ↔ ∃ v ∈ visits, v.definition? = some d :=
  List.mem_filterMap

@[simp] theorem declaredAfter_concat (earlier : List Visit) (v : Visit) :
    declaredAfter (earlier ++ [v]) = (messagesOf v.file (declaredAfter earlier) v.analysis).2 :=
  List.foldl_append

theorem get?_declaredAfter (earlier : List Visit) (key : Kind × String) :
    Ordered.get? key (declaredAfter earlier) =
      ((definitionsOf earlier).find? fun d => keyOf d = key).map (·.location) := by
  -- chains are taken off at the end, where the last one is read with what the others declared
  induction earlier using List.reverseRecOn generalizing key with
  | nil => rfl
  | append_singleton earlier v ih =>
    rw [declaredAfter_concat, definitionsOf_append, definitionsOf_singleton, List.find?_append]
    cases hv : v.definition? with
    | none =>
      rw [messagesOf_of_none hv]
      simpa using ih key
    | some d =>
      cases hget : Ordered.get? (keyOf d) (declaredAfter earlier) with
      | none =>
        rw [messagesOf_of_new hv hget]
        by_cases hkey : key = keyOf d
        · subst hkey
          have hnone := (ih (keyOf d)).symm.trans hget
          rw [Option.map_eq_none_iff] at hnone
          rw [Ordered.get?_put_self, hnone]
          simp
        · rw [Ordered.get?_put_ne hkey, ih key]
          simp [Ne.symm hkey]
      | some first =>
        rw [messagesOf_of_repeated hv hget, ih key]
        by_cases hkey : key = keyOf d
        · subst hkey
          obtain ⟨e, he, -⟩ := Option.map_eq_some_iff.mp ((ih (keyOf d)).symm.trans hget)
          rw [he, Option.some_or]
        · simp [Ne.symm hkey]

/-! What a chain is told. -/

section Messages

variable {earlier : List Visit} {v : Visit} {d first : Definition}

@[simp] theorem messages_of_none (h : v.definition? = none) : v.messages earlier = v.faults := by
  rw [Visit.messages, messagesOf_of_none h]

theorem messages_of_new (h : v.definition? = some d)
    (hnew : (definitionsOf earlier).find? (keyOf · = keyOf d) = none) :
    v.messages earlier = v.faults := by
  rw [Visit.messages, messagesOf_of_new h (by rw [get?_declaredAfter, hnew]; rfl)]

theorem messages_of_repeated (h : v.definition? = some d)
    (hfirst : (definitionsOf earlier).find? (keyOf · = keyOf d) = some first) :
    v.messages earlier =
      v.faults ++ [⟨v.analysis.position, .duplicate d.kind d.pattern first.location⟩] := by
  rw [Visit.messages, messagesOf_of_repeated h (by rw [get?_declaredAfter, hfirst]; rfl)]

theorem isRepeated_of_mem_faults {m : Message} (h : m ∈ v.faults) : m.isRepeated = false := by
  obtain ⟨i, -, rfl⟩ := List.mem_map.mp h
  rfl

@[simp] theorem countP_faults (v : Visit) : v.faults.countP Message.isRepeated = 0 := by
  rw [List.countP_eq_zero]
  intro m hm
  simp [isRepeated_of_mem_faults hm]

theorem messages_congr {others : List Visit} (h : definitionsOf earlier = definitionsOf others) :
    v.messages earlier = v.messages others := by
  cases hv : v.definition? with
  | none => rw [messages_of_none hv, messages_of_none hv]
  | some d =>
    cases hfind : (definitionsOf earlier).find? (keyOf · = keyOf d) with
    | none => rw [messages_of_new hv hfind, messages_of_new hv (h ▸ hfind)]
    | some first => rw [messages_of_repeated hv hfind, messages_of_repeated hv (h ▸ hfind)]

theorem find?_definitionsOf_eq_none_iff :
    (definitionsOf earlier).find? (keyOf · = keyOf d) = none ↔
      ∀ e ∈ earlier, ∀ d', e.definition? = some d' → keyOf d' ≠ keyOf d := by
  simp only [List.find?_eq_none, mem_definitionsOf, decide_eq_true_eq]
  constructor
  · exact fun h e he d' hd' => h d' ⟨e, he, hd'⟩
  · rintro h d' ⟨e, he, hd'⟩
    exact h e he d' hd'

structure Visit.Told (earlier : List Visit) (v : Visit) : Prop where
  /-- It is told that the pattern is repeated exactly if an earlier chain defines a step with it. -/
  repeated_iff : (∃ m ∈ v.messages earlier, m.isRepeated = true) ↔
    ∃ d, v.definition? = some d ∧
      ∃ e ∈ earlier, ∃ d', e.definition? = some d' ∧ keyOf d' = keyOf d
  /-- It is told once, and the first of these chains is cited. -/
  cites_first : ∀ before e after d d', earlier = before ++ e :: after → v.definition? = some d →
    e.definition? = some d' → keyOf d' = keyOf d →
    (∀ x ∈ before, ∀ d'', x.definition? = some d'' → keyOf d'' ≠ keyOf d) →
    v.messages earlier =
      v.faults ++ [⟨v.analysis.position, .duplicate d.kind d.pattern d'.location⟩]
  /-- A chain without a definition is told of its own faults only. -/
  of_none : v.definition? = none → v.messages earlier = v.faults
  /-- Nothing that is told goes back to such a chain. -/
  causes : v.messages earlier = v.messages (earlier.filter fun e => e.definition?.isSome)

theorem exists_repeated_iff : (∃ m ∈ v.messages earlier, m.isRepeated = true) ↔
    ∃ d, v.definition? = some d ∧
      ∃ e ∈ earlier, ∃ d', e.definition? = some d' ∧ keyOf d' = keyOf d := by
  have hfaults : ¬ ∃ m ∈ v.faults, m.isRepeated = true := by
    rintro ⟨m, hm, hrepeated⟩
    rw [isRepeated_of_mem_faults hm] at hrepeated
    cases hrepeated
  cases hv : v.definition? with
  | none => simpa [messages_of_none hv] using hfaults
  | some d =>
    cases hfind : (definitionsOf earlier).find? (keyOf · = keyOf d) with
    | none =>
      have hnone := find?_definitionsOf_eq_none_iff.mp hfind
      rw [messages_of_new hv hfind]
      refine iff_of_false hfaults ?_
      rintro ⟨_, hd, e, he, d', hd', hkey⟩
      cases hd
      exact hnone e he d' hd' hkey
    | some first =>
      obtain ⟨e, he, hfirst⟩ := mem_definitionsOf.mp (List.mem_of_find?_eq_some hfind)
      have hkey : keyOf first = keyOf d := by simpa using List.find?_some hfind
      rw [messages_of_repeated hv hfind]
      exact iff_of_true ⟨_, List.mem_append_right _ (.head _), rfl⟩ ⟨d, rfl, e, he, first, hfirst, hkey⟩

theorem find?_definitionsOf_of_first {before after : List Visit} {e : Visit} {d' : Definition}
    (he : e.definition? = some d') (hkey : keyOf d' = keyOf d)
    (hbefore : ∀ x ∈ before, ∀ d'', x.definition? = some d'' → keyOf d'' ≠ keyOf d) :
    (definitionsOf (before ++ e :: after)).find? (keyOf · = keyOf d) = some d' := by
  rw [List.append_cons, definitionsOf_append, definitionsOf_append, definitionsOf_singleton, he,
    List.find?_append, List.find?_append, find?_definitionsOf_eq_none_iff.mpr hbefore]
  simp [hkey]

theorem told (earlier : List Visit) (v : Visit) : v.Told earlier where
  repeated_iff := exists_repeated_iff
  cites_first := by
    rintro before e after d d' rfl hv he hkey hbefore
    exact messages_of_repeated hv (find?_definitionsOf_of_first he hkey hbefore)
  of_none := messages_of_none
  causes := messages_congr (by
    rw [definitionsOf, definitionsOf, List.filterMap_filter]
    apply List.filterMap_congr
    intro e _
    cases e.definition? <;> rfl)

end Messages

/-! Runs. -/

def visitsIn (r : Resolver) (modules : List String) (file : String) (m : Module) : List Visit :=
  (analyses r modules m).map (⟨file, ·⟩)

def visits (r : Resolver) (modules : List String) (run : List (String × Module)) : List Visit :=
  run.flatMap fun (file, m) => visitsIn r modules file m

/-- The messages that some chains get one after the other, after some earlier ones. -/
def messagesOfAll (earlier visits : List Visit) : List Message :=
  (withEarlier earlier visits).flatMap fun (before, v) => v.messages before

theorem messagesFrom_declaredAfter (file : String) (earlier : List Visit) (as : List Analysis) :
    messagesFrom file (declaredAfter earlier) as =
      (messagesOfAll earlier (as.map (⟨file, ·⟩)), declaredAfter (earlier ++ as.map (⟨file, ·⟩))) := by
  induction as generalizing earlier with
  | nil => simp [messagesFrom, messagesOfAll, withEarlier]
  | cons a rest ih =>
    have hnext := declaredAfter_concat earlier ⟨file, a⟩
    rw [messagesFrom]
    dsimp only at hnext ⊢
    rw [← hnext, ih]
    simp [messagesOfAll, withEarlier, Visit.messages]

theorem runMessages_declaredAfter (r : Resolver) (modules disabled : List String)
    (before run : List (String × Module)) :
    runMessages r modules disabled (declaredAfter (visits r modules before)) run =
      (withEarlier before run).map fun (before, file, m) =>
        enabled disabled (messagesOfAll (visits r modules before) (visitsIn r modules file m)) := by
  induction run generalizing before with
  | nil => rfl
  | cons e rest ih =>
    obtain ⟨file, m⟩ := e
    have hvisits : visits r modules (before ++ [(file, m)]) =
        visits r modules before ++ (analyses r modules m).map (⟨file, ·⟩) := by
      simp [visits, visitsIn]
    rw [runMessages, messagesFrom_declaredAfter, ← hvisits]
    dsimp only
    rw [ih]
    rfl

@[simp] theorem enabled_nil (messages : List Message) : enabled [] messages = messages := by
  simp [enabled]

theorem flatten_runMessages (r : Resolver) (modules : List String)
    (before run : List (String × Module)) :
    (runMessages r modules [] (declaredAfter (visits r modules before)) run).flatten =
      messagesOfAll (visits r modules before) (visits r modules run) := by
  rw [runMessages_declaredAfter]
  simp only [enabled_nil]
  induction run generalizing before with
  | nil => rfl
  | cons e rest ih =>
    obtain ⟨file, m⟩ := e
    have hvisits : visits r modules (before ++ [(file, m)]) =
        visits r modules before ++ visitsIn r modules file m := by
      simp [visits]
    rw [withEarlier, List.map_cons, List.flatten_cons, ih, hvisits]
    simp [messagesOfAll, visits]

@[simp] theorem length_dedup_concat (keys : List (Kind × String)) (key : Kind × String) :
    (keys ++ [key]).dedup.length =
      if key ∈ keys then keys.dedup.length else keys.dedup.length + 1 := by
  have hinsert : (keys ++ [key]).toFinset = insert key keys.toFinset := by
    ext
    simp
  rw [← List.card_toFinset, ← List.card_toFinset, hinsert]
  split
  · rename_i h
    exact Finset.card_insert_of_mem (List.mem_toFinset.mpr h)
  · rename_i h
    exact Finset.card_insert_of_notMem (by simpa using h)

@[simp] theorem messagesOfAll_concat (earlier vs : List Visit) (v : Visit) :
    messagesOfAll earlier (vs ++ [v]) =
      messagesOfAll earlier vs ++ v.messages (earlier ++ vs) := by
  simp [messagesOfAll, withEarlier]

theorem countP_messagesOfAll (vs : List Visit) :
    (messagesOfAll [] vs).countP Message.isRepeated + ((definitionsOf vs).map keyOf).dedup.length =
      (definitionsOf vs).length := by
  induction vs using List.reverseRecOn with
  | nil => rfl
  | append_singleton vs v ih =>
    rw [messagesOfAll_concat, List.nil_append, List.countP_append, definitionsOf_append,
      definitionsOf_singleton]
    cases hv : v.definition? with
    | none =>
      rw [messages_of_none hv, countP_faults]
      simpa using ih
    | some d =>
      have hkeys : (definitionsOf vs ++ (some d).toList).map keyOf =
          (definitionsOf vs).map keyOf ++ [keyOf d] := by simp
      rw [hkeys, length_dedup_concat, List.length_append]
      cases hfind : (definitionsOf vs).find? (keyOf · = keyOf d) with
      | none =>
        have hnew : keyOf d ∉ (definitionsOf vs).map keyOf := by
          simpa [List.find?_eq_none] using hfind
        rw [messages_of_new hv hfind, countP_faults, if_neg hnew, Option.toList_some,
          List.length_singleton]
        omega
      | some first =>
        have hmem : keyOf d ∈ (definitionsOf vs).map keyOf :=
          List.mem_map.mpr ⟨first, List.mem_of_find?_eq_some hfind, by simpa using List.find?_some hfind⟩
        rw [messages_of_repeated hv hfind, List.countP_append, countP_faults, if_pos hmem]
        simp only [Message.isRepeated, List.countP_singleton, if_true, Option.toList_some,
          List.length_singleton]
        omega

/-- In a run every chain gets its messages after all chains before it, and is told what it has to be
told about its pattern; so there are as many repetitions as definitions beyond the first of their
kind and pattern. Disabled rules take their messages away and no others. -/
theorem repetitions_of_run (r : Resolver) (modules : List String) (run : List (String × Module)) :
    (runMessages r modules [] [] run =
      (withEarlier [] run).map fun (before, file, m) =>
        messagesOfAll (visits r modules before) (visitsIn r modules file m)) ∧
    (∀ earlier v, Visit.Told earlier v) ∧
    (runMessages r modules [] [] run).flatten.countP Message.isRepeated +
        ((definitionsOf (visits r modules run)).map keyOf).dedup.length =
      (definitionsOf (visits r modules run)).length ∧
    ∀ disabled, runMessages r modules disabled [] run =
      (runMessages r modules [] [] run).map fun messages =>
        messages.filter fun m => m.finding.symbol ∉ disabled := by
  have hstart : declaredAfter (visits r modules []) = [] := rfl
  have hrun := fun disabled => hstart ▸ runMessages_declaredAfter r modules disabled [] run
  have hflatten := hstart ▸ flatten_runMessages r modules [] run
  refine ⟨?_, told, ?_, fun disabled => ?_⟩
  · simpa only [enabled_nil] using hrun []
  · rw [hflatten]
    exact countP_messagesOfAll _
  · rw [hrun disabled, hrun [], List.map_map]
    apply List.map_congr_left
    intro e _
    simp [enabled]

end ScenarioCheck.Chain
