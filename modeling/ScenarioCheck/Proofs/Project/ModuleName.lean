import ScenarioCheck.Proofs.Chain.Relative
import ScenarioCheck.Proofs.Text.Lines

/-! Membership of modules, component by component: a module lies within another if its components start
with those of the other, whatever the names hold. So names that only begin with the same characters do
not count, while an empty component counts like any other. -/
namespace ScenarioCheck.ModuleName

theorem components_prefix_iff {module name : String} :
    components module <+: components name ↔
      name = module ∨ (module ++ ".").toList <+: name.toList := by
  have hmap : components module <+: components name ↔
      Text.splitOn '.' module.toList <+: Text.splitOn '.' name.toList := by
    refine ⟨fun h => ?_, fun h => h.map _⟩
    simpa [components, Function.comp_def] using h.map String.toList
  rw [hmap, Text.splitOn_prefix_iff, String.toList_inj, String.toList_append]
  rfl

/-- A module is within some modules exactly if its components start with those of one of them. So it is
within more modules too, and what lies below it is within the same modules. -/
theorem isWithin_iff_components (name : String) (modules : List String) :
    (isWithin name modules = true ↔ ∃ m ∈ modules, components m <+: components name) ∧
      (∀ more, modules ⊆ more → isWithin name modules = true → isWithin name more = true) ∧
      ∀ below, isWithin name modules = true → isWithin (name ++ "." ++ below) modules = true := by
  have hiff (name : String) (modules : List String) :
      isWithin name modules = true ↔ ∃ m ∈ modules, components m <+: components name := by
    simp only [Chain.isWithin_iff, components_prefix_iff]
  refine ⟨hiff name modules, fun more hmore h => ?_, fun below h => ?_⟩
  · rw [hiff] at h ⊢
    obtain ⟨m, hm, hprefix⟩ := h
    exact ⟨m, hmore hm, hprefix⟩
  · rw [hiff] at h ⊢
    obtain ⟨m, hm, hprefix⟩ := h
    have hbelow : components name <+: components (name ++ "." ++ below) :=
      components_prefix_iff.mpr (.inr (by simp))
    exact ⟨m, hm, hprefix.trans hbelow⟩

theorem isWithin_iff_components_emptyComponent :
    components "shop." = ["shop", ""] ∧ components "shop..cart" = ["shop", "", "cart"] ∧
      isWithin "shop..cart" ["shop."] = true ∧ isWithin "shop.cart" ["shop."] = false ∧
      isWithin "shop..cart" ["shopping", "shop."] = true ∧
      isWithin ("shop..cart" ++ "." ++ "items") ["shop."] = true := by
  obtain ⟨hiff, hmore, hbelow⟩ := isWithin_iff_components "shop..cart" ["shop."]
  have hwithin : isWithin "shop..cart" ["shop."] = true :=
    hiff.mpr ⟨"shop.", .head _, by decide +kernel⟩
  exact ⟨by decide +kernel, by decide +kernel, hwithin, by decide +kernel,
    hmore _ (by simp) hwithin, hbelow "items" hwithin⟩

end ScenarioCheck.ModuleName
