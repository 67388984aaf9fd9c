import ScenarioCheck.Proofs.Chain.Statement
import ScenarioCheck.Proofs.Registry.Writes
import ScenarioCheck.Project.Extraction

/-! Passes over files of steps: what is read from a file is listed under that file, so a registry takes
every pass. -/
namespace ScenarioCheck

namespace Write

theorem Placed.put {entries : List (String × List Step.Definition)} (h : Placed entries)
    {file : String} {definitions : List Step.Definition}
    (hd : ∀ d ∈ definitions, d.location.file = file) :
    Placed (Ordered.put file definitions entries) := by
  induction entries with
  | nil => simpa [Placed] using hd
  | cons e entries ih =>
    obtain ⟨k, v⟩ := e
    obtain ⟨hv, hrest⟩ := List.forall_mem_cons.mp h
    rw [Ordered.put]
    split
    · rename_i hk
      exact List.forall_mem_cons.mpr ⟨hk ▸ hd, hrest⟩
    · exact List.forall_mem_cons.mpr ⟨hv, ih hrest⟩

theorem Placed.putAll {entries updates : List (String × List Step.Definition)} (h : Placed entries)
    (hu : Placed updates) : Placed (Ordered.putAll entries updates) := by
  induction updates generalizing entries with
  | nil => exact h
  | cons e updates ih =>
    obtain ⟨he, hrest⟩ := List.forall_mem_cons.mp hu
    exact ih (h.put he) hrest

end Write

namespace Project

open Write (Placed)

theorem location_of_mem_definitions {r : Chain.Resolver} {modules : List String} {file : String}
    {m : Scope.Module} {d : Step.Definition} (h : d ∈ Chain.definitions r modules file m) :
    d.location.file = file := by
  obtain ⟨a, -, ha⟩ := List.mem_filterMap.mp h
  exact (Chain.Analysis.definition?_eq_some ha).2.2

theorem Pass.location_of_mem_stepsOf {p : Pass} {file : Path} {d : Step.Definition}
    (h : d ∈ (p.stepsOf file).2.1) : d.location.file = file.shown := by
  unfold Pass.stepsOf at h
  split at h
  · cases h
  · split at h
    · cases h
    · exact location_of_mem_definitions h

theorem Pass.placed_stepsOfAll (current : Path) (p : Pass)
    {met : List (String × List Step.Definition)} (hm : Placed met) (notices : List Notice)
    (paths : List Path) : Placed (p.stepsOfAll current met notices paths).1 := by
  induction paths generalizing p met notices with
  | nil => exact hm
  | cons path rest ih => exact ih _ (hm.put fun d hd => p.location_of_mem_stepsOf hd) _

theorem placed_extractSteps (w : Workplace) (c : Configuration) (paths : List Path) :
    Placed (extractSteps w c paths).1 :=
  Pass.placed_stepsOfAll w.current _ (by simp [Placed]) [] paths

end Project

end ScenarioCheck
