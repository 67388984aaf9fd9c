import ScenarioCheck.Proofs.Ordered
import ScenarioCheck.Step.Build

/-! The dependencies that a builder takes: those written by the names of phases and requirements, of
phases that its kind may depend on. It keeps each phase and property once, as it was last written. -/
namespace ScenarioCheck

namespace Step

@[simp] theorem Kind.ofName?_eq_some_iff {text : String} {k : Kind} :
    Kind.ofName? text = some k ↔ k.name = text := by
  constructor
  · intro h
    simpa using List.find?_some h
  · rintro rfl
    cases k <;> rfl

@[simp] theorem Kind.ofName?_name (k : Kind) : Kind.ofName? k.name = some k :=
  Kind.ofName?_eq_some_iff.mpr rfl

theorem Kind.name_injective : Function.Injective Kind.name := fun k k' h =>
  Option.some.inj (by rw [← Kind.ofName?_name k, h, Kind.ofName?_name])

@[simp] theorem Requirement.ofName?_eq_some_iff {text : String} {r : Requirement} :
    Requirement.ofName? text = some r ↔ r.name = text := by
  constructor
  · intro h
    simpa using List.find?_some h
  · rintro rfl
    cases r <;> rfl

@[simp] theorem Requirement.ofName?_name (r : Requirement) : Requirement.ofName? r.name = some r :=
  Requirement.ofName?_eq_some_iff.mpr rfl

/-- Dependencies as they are written: for each phase its properties, with the texts of their
requirements. -/
abbrev Written := List (String × List (String × String))

namespace Written

def value (w : Written) : Declared := w.map (Prod.map id fun entries => some (Ordered.ofList entries))

def HasNoRepeats (w : Written) : Prop :=
  (Ordered.keys w).Nodup ∧ ∀ phase ∈ w, (Ordered.keys phase.2).Nodup

def ofRequirements (rs : List (String × Requirement)) : List (String × String) :=
  rs.map (Prod.map id Requirement.name)

def ofDependencies (ds : Dependencies) : Written := ds.map (Prod.map Kind.name ofRequirements)

@[simp] theorem ofList_value (w : Written) : Ordered.ofList w.value = value (Ordered.ofList w) :=
  (Ordered.map_ofList Function.injective_id _ w).symm

@[simp] theorem value_ofDependencies (ds : Dependencies) :
    value (ofDependencies ds) =
      (ofDependencies (ds.map (Prod.map id Ordered.ofList))).map (Prod.map id some) := by
  simp [value, ofDependencies, ofRequirements, Function.comp_def, Prod.map,
    ← Ordered.map_ofList Function.injective_id]

@[simp] theorem ofList_ofDependencies (ds : Dependencies) :
    Ordered.ofList (ofDependencies ds) = ofDependencies (Ordered.ofList ds) :=
  (Ordered.map_ofList Kind.name_injective _ ds).symm

theorem HasNoRepeats.ofList_value {w : Written} (h : w.HasNoRepeats) :
    Ordered.ofList w.value = w.map (Prod.map id some) := by
  rw [Written.ofList_value, Ordered.ofList_eq_self h.1]
  exact List.map_congr_left fun phase hmem => by
    simp [Prod.map, Ordered.ofList_eq_self (h.2 phase hmem)]

end Written

/-! What a builder takes. -/

theorem exists_of_bind_eq_ok {ε α β : Type} {x : Except ε α} {f : α → Except ε β} {b : β}
    (h : x >>= f = .ok b) : ∃ a, x = .ok a ∧ f a = .ok b := by
  cases x with
  | error e => cases h
  | ok a => exact ⟨a, rfl, h⟩

@[simp] theorem readRequirements_ofRequirements (rs : List (String × Requirement)) :
    readRequirements (Written.ofRequirements rs) = .ok rs := by
  induction rs with
  | nil => rfl
  | cons r rs ih =>
    unfold readRequirements Written.ofRequirements at ih ⊢
    rw [List.map_cons, List.mapM_cons, ih]
    simp [bind, Except.bind, pure, Except.pure]

theorem eq_ofRequirements_of_readRequirements {entries : List (String × String)}
    {rs : List (String × Requirement)} (h : readRequirements entries = .ok rs) :
    entries = Written.ofRequirements rs := by
  induction entries generalizing rs with
  | nil =>
    cases h
    rfl
  | cons e entries ih =>
    obtain ⟨name, text⟩ := e
    unfold readRequirements at h
    rw [List.mapM_cons] at h
    obtain ⟨first, hfirst, h⟩ := exists_of_bind_eq_ok h
    obtain ⟨rest, hrest, h⟩ := exists_of_bind_eq_ok h
    cases h
    dsimp only at hfirst
    split at hfirst
    · rename_i r hr
      cases hfirst
      rw [ih hrest, ← Requirement.ofName?_eq_some_iff.mp hr]
      rfl
    · cases hfirst

theorem readDependencies_ofDependencies {kind : Kind} {ds : Dependencies}
    (h : ∀ phase ∈ Ordered.keys ds, kind.mayDependOn phase = true) :
    readDependencies kind ((Written.ofDependencies ds).map (Prod.map id some)) = .ok ds := by
  induction ds with
  | nil => rfl
  | cons d ds ih =>
    obtain ⟨phase, rs⟩ := d
    have hallowed : kind.mayDependOn phase = true := h phase (.head _)
    have hrest := ih fun phase hphase => h phase (.tail _ hphase)
    unfold Written.ofDependencies at hrest ⊢
    simp only [List.map_cons, Prod.map_apply, id, readDependencies,
      Kind.ofName?_name, if_pos hallowed, readRequirements_ofRequirements, hrest,
      bind, Except.bind]
    rfl

theorem eq_ofDependencies_of_readDependencies {kind : Kind} {w : Written} {ds : Dependencies}
    (h : readDependencies kind (w.map (Prod.map id some)) = .ok ds) :
    w = Written.ofDependencies ds ∧ ∀ phase ∈ Ordered.keys ds, kind.mayDependOn phase = true := by
  induction w generalizing ds with
  | nil =>
    cases h
    exact ⟨rfl, nofun⟩
  | cons p w ih =>
    obtain ⟨name, entries⟩ := p
    simp only [List.map_cons, Prod.map_apply, id, readDependencies] at h
    split at h
    · cases h
    · rename_i phase hphase
      split at h
      · rename_i hallowed
        obtain ⟨rs, hrs, h⟩ := exists_of_bind_eq_ok h
        obtain ⟨others, hothers, h⟩ := exists_of_bind_eq_ok h
        cases h
        obtain ⟨hw, hall⟩ := ih hothers
        refine ⟨?_, List.forall_mem_cons.mpr ⟨hallowed, hall⟩⟩
        rw [hw, eq_ofRequirements_of_readRequirements hrs, ← Kind.ofName?_eq_some_iff.mp hphase]
        rfl
      · cases h

namespace Builder

@[simp] theorem repeated?_eq_none_iff {α : Type} {given : List String} {named : List (String × α)} :
    repeated? given named = none ↔ ∀ key ∈ Ordered.keys named, key ∉ given := by
  simp [repeated?, Ordered.keys, List.find?_eq_none]

theorem withDependencies_eq_ok_iff {b b' : Builder} {declared phases : Declared} :
    b.withDependencies declared phases = .ok b' ↔
      ∃ ds, readDependencies b.kind (Ordered.putAll (Ordered.ofList declared) phases) = .ok ds ∧
        { b with dependencies := ds } = b' := by
  constructor
  · intro h
    obtain ⟨ds, hds, h⟩ := exists_of_bind_eq_ok h
    exact ⟨ds, hds, Except.ok.inj h⟩
  · rintro ⟨ds, hds, rfl⟩
    unfold withDependencies
    rw [hds]
    rfl

theorem withDependencies_value_ofDependencies {b : Builder} {ds : Dependencies}
    (h : ∀ phase ∈ Ordered.keys ds, b.kind.mayDependOn phase = true) :
    b.withDependencies (Written.ofDependencies ds).value [] = .ok
      { b with dependencies := Ordered.ofList (ds.map (Prod.map id Ordered.ofList)) } := by
  rw [withDependencies_eq_ok_iff]
  refine ⟨_, ?_, rfl⟩
  rw [Written.ofList_value, Written.ofList_ofDependencies, Written.value_ofDependencies,
    Ordered.map_ofList Function.injective_id]
  refine readDependencies_ofDependencies fun phase hphase => h phase ?_
  simpa using hphase

end Builder
end Step
end ScenarioCheck
