import ScenarioCheck.Proofs.Chain.Returned
import ScenarioCheck.Proofs.Scope.Run

/-! Required properties and the runs of a body. Every dictionary that a run returns has the keys that
are required by the returns of the body; a run that reaches the end of the body returns none. -/
namespace ScenarioCheck.Chain

open Source Scope Step

/-- A run that ends so ends without an exception. -/
def Completes : Exit → Prop
  | .passes | .returns _ => True
  | _ => False

/-- A run that ends so returns a dictionary with a key. -/
def GivesKey (name : String) : Exit → Prop
  | .returns (some (.dict _ entries)) => ∃ p e, (some (.constant p (.text name)), e) ∈ entries
  | _ => False

theorem eq_of_named? {entry : Option Expr × Expr} {name : String} {e : Expr}
    (h : named? entry = some (name, e)) : ∃ p, entry = (some (.constant p (.text name)), e) := by
  obtain ⟨key?, value⟩ := entry
  obtain ⟨text, htext, heq⟩ := Option.map_eq_some_iff.mp h
  obtain ⟨rfl, rfl⟩ := Prod.mk.inj heq
  obtain ⟨key, rfl, hkey⟩ := Option.bind_eq_some_iff.mp htext
  unfold text? at hkey
  split at hkey
  · cases hkey
    exact ⟨_, rfl⟩
  · cases hkey

theorem givesKey_of_mem_writtenKeys {x : Located (Option Expr)} {name : String}
    (h : name ∈ writtenKeys x) : GivesKey name (.returns x.value) := by
  obtain ⟨⟨_, e⟩, hwritten, rfl⟩ := List.mem_map.mp h
  unfold written at hwritten
  split at hwritten
  · rename_i hvalue
    obtain ⟨entry, hentry, hnamed⟩ := List.mem_filterMap.mp hwritten
    obtain ⟨p, rfl⟩ := eq_of_named? hnamed
    rw [hvalue]
    exact ⟨p, e, hentry⟩
  · cases hwritten

theorem exists_mem_ownReturns {f : Located Function} {value? : Option Expr}
    (h : Runs f.value.body (.returns value?)) : ∃ x ∈ f.ownReturns, x.value = value? := by
  rw [← f.returns_eq_ownReturns]
  exact h.hasReturn f.bodySite .body

/-- What is required by the returns of a body is in every dictionary that a run of it returns: no run
returns anything else. So it is produced by all runs that complete exactly if none of them reaches the
end of the body. -/
theorem required_given_unless_passes {r : Resolver} {root : Root} {argument : Expr}
    {f : Located Function} (h : ReadsReturns r root argument f) (kind : Kind)
    (hplain : ∀ x ∈ f.ownReturns, isPlain x.value = true) {shapes : Shapes}
    (hshapes : (root.analyze r kind).produces? = some shapes) {name : String} {shape : Shape}
    (hmem : (name, shape) ∈ shapes) (hrequired : shape.isOptional = false) :
    (∀ value?, Runs f.value.body (.returns value?) → GivesKey name (.returns value?)) ∧
    ((∀ e, Runs f.value.body e → Completes e → GivesKey name e) ↔ ¬ Runs f.value.body .passes) := by
  obtain ⟨_, hread, -, hshaped⟩ := returnedShapes?_of_isPlain r hplain
  rw [h.produces?_analyze, hread] at hshapes
  cases hshapes
  have hall : ∀ x ∈ f.ownReturns, name ∈ writtenKeys x := by
    intro x hx
    by_contra hlacks
    have hoptional := (hshaped name shape hmem).isOptional.mpr ⟨x, hx, hlacks⟩
    exact Bool.false_ne_true (hrequired.symm.trans hoptional)
  have hreturns (value? : Option Expr) (hruns : Runs f.value.body (.returns value?)) :
      GivesKey name (.returns value?) := by
    obtain ⟨x, hx, rfl⟩ := exists_mem_ownReturns hruns
    exact givesKey_of_mem_writtenKeys (hall x hx)
  refine ⟨hreturns, fun hgives hpasses => hgives .passes hpasses trivial, fun hpasses e hruns he => ?_⟩
  cases e with
  | passes => exact absurd hruns hpasses
  | returns value? => exact hreturns value? hruns
  | breaks | continues | raises => cases he

def branchOnly : List Stmt := [.if ⟨2, 4⟩ sampleArgument [returnOf [textEntry "a" (.int 1)]] []]

def bothBranches : List Stmt :=
  branchOnly ++ [returnOf [textEntry "b" (.int 2), textEntry "a" (.int 3)]]

theorem required_given_unless_passes_bothBranches :
    (functionChain.analyze (functionOnly (sampleFunction bothBranches)) .given).produces? =
      some [("a", ⟨"int", false⟩), ("b", ⟨"int", true⟩)] ∧
    ∀ e, Runs bothBranches e → Completes e → GivesKey "a" e := by
  have hshapes : (functionChain.analyze (functionOnly (sampleFunction bothBranches)) .given).produces? =
      some [("a", ⟨"int", false⟩), ("b", ⟨"int", true⟩)] := rfl
  refine ⟨hshapes, ?_⟩
  exact (required_given_unless_passes (readsReturns_functionChain bothBranches) .given (by decide)
    hshapes (.head _) rfl).2.mpr (Runs.not_passes_concat (Runs.not_passes_return _ _) branchOnly)

/-- The end of the body is no return, so the property is required, and a run comes to the end without
it. A return of nothing there makes it optional. -/
theorem required_lost_at_end :
    (functionChain.analyze (functionOnly (sampleFunction branchOnly)) .given).produces? =
      some [("a", ⟨"int", false⟩)] ∧
    (∃ e, Runs branchOnly e ∧ Completes e ∧ ¬ GivesKey "a" e) ∧
    (functionChain.analyze (functionOnly (sampleFunction (branchOnly ++ [.return ⟨4, 4⟩ none])))
      .given).produces? = some [("a", ⟨"int", true⟩)] :=
  ⟨rfl, ⟨.passes, .ifNo rfl .nil, trivial, id⟩, rfl⟩

end ScenarioCheck.Chain
