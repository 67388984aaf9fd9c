import Mathlib.Data.List.Basic
import ScenarioCheck.Chain.Analysis
import ScenarioCheck.Proofs.Ordered
import ScenarioCheck.Proofs.Scope.Return

/-! The state that is read off the returns of a body. If all of them are plain, their keys are the
properties, in the order of first appearance; a property is optional if some return lacks it, and has
the type of the last value in the first return with it. -/
namespace ScenarioCheck.Chain

open Source Scope Infer Step

def named? (entry : Option Expr × Expr) : Option (String × Expr) :=
  (entry.1.bind text?).map (·, entry.2)

/-- A return of nothing, or of a dictionary that is written out with texts for keys. -/
def isPlain : Option Expr → Bool
  | none | some (.constant _ .none) => true
  | some (.dict _ entries) => entries.all fun entry => (named? entry).isSome
  | some _ => false

def written : Option Expr → List (String × Expr)
  | some (.dict _ entries) => entries.filterMap named?
  | _ => []

def writtenKeys (x : Located (Option Expr)) : List String := (written x.value).map (·.1)

def writtenItems (x : Located (Option Expr)) : List (String × Item) :=
  Ordered.ofList ((written x.value).map fun (name, e) => (name, .expr ⟨x.site, e⟩))

@[simp] theorem textEntries?_cons (entry : Option Expr × Expr)
    (entries : List (Option Expr × Expr)) :
    textEntries? (entry :: entries) =
      (named? entry).bind fun first => (textEntries? entries).map (first :: ·) := by
  obtain ⟨key?, value⟩ := entry
  rw [textEntries?, named?]
  cases key?.bind text? <;> cases textEntries? entries <;> rfl

theorem textEntries?_of_named {entries : List (Option Expr × Expr)}
    (h : entries.all (fun entry => (named? entry).isSome) = true) :
    textEntries? entries = some (entries.filterMap named?) := by
  induction entries with
  | nil => rfl
  | cons entry entries ih =>
    rw [List.all_cons, Bool.and_eq_true] at h
    obtain ⟨first, hfirst⟩ := Option.isSome_iff_exists.mp h.1
    rw [textEntries?_cons, hfirst, ih h.2, List.filterMap_cons_some hfirst]
    rfl

theorem textEntries?_of_unnamed {entries : List (Option Expr × Expr)} {entry : Option Expr × Expr}
    (hentry : entry ∈ entries) (h : named? entry = none) : textEntries? entries = none := by
  induction entries with
  | nil => cases hentry
  | cons first entries ih =>
    rw [textEntries?_cons]
    rcases List.mem_cons.mp hentry with rfl | hentry
    · rw [h]
      rfl
    · rw [ih hentry]
      cases named? first <;> rfl

theorem returnedKeys?_of_isPlain (r : Resolver) {x : Located (Option Expr)}
    (h : isPlain x.value = true) : returnedKeys? r x = some (writtenItems x) := by
  obtain ⟨s, value?⟩ := x
  unfold isPlain at h
  split at h
  · rename_i hvalue
    cases hvalue
    rfl
  · rename_i hvalue
    cases hvalue
    rfl
  · rename_i hvalue
    cases hvalue
    simp only [returnedKeys?, textEntries?_of_named h, Option.map_some]
    rfl
  · cases h

theorem returnedKeys?_of_unnamed (r : Resolver) {x : Located (Option Expr)} {p : Position}
    {entries : List (Option Expr × Expr)} (hvalue : x.value = some (.dict p entries))
    {entry : Option Expr × Expr} (hentry : entry ∈ entries) (h : named? entry = none) :
    returnedKeys? r x = none := by
  unfold returnedKeys?
  simp only [hvalue, textEntries?_of_unnamed hentry h, Option.map_none]

/-! All returns together. -/

theorem mapM_eq_some_map {α β : Type} {g : α → Option β} {f : α → β} {xs : List α}
    (h : ∀ x ∈ xs, g x = some (f x)) : xs.mapM g = some (xs.map f) := by
  induction xs with
  | nil => rfl
  | cons x xs ih =>
    rw [List.mapM_cons, h x (.head _), ih fun y hy => h y (.tail _ hy)]
    rfl

theorem mapM_eq_none {α β : Type} {g : α → Option β} {xs : List α} {x : α} (hx : x ∈ xs)
    (h : g x = none) : xs.mapM g = none := by
  induction xs with
  | nil => cases hx
  | cons y xs ih =>
    rw [List.mapM_cons]
    rcases List.mem_cons.mp hx with rfl | hx
    · rw [h]
      rfl
    · rw [ih hx]
      cases g y <;> rfl

theorem mergedKeys_eq (r : Resolver) (returned : List (List (String × Item))) :
    mergedKeys r returned = (returned.flatMap Ordered.keys).eraseDups.map fun name =>
      (name, keyShape r returned name) := by
  rw [← Ordered.foldl_put_new (keyShape r returned), List.foldl_flatMap]
  simp only [Ordered.keys, List.foldl_map]
  rfl

@[simp] theorem keys_writtenItems (x : Located (Option Expr)) :
    Ordered.keys (writtenItems x) = (writtenKeys x).eraseDups := by
  rw [writtenItems, Ordered.keys_ofList, Ordered.keys, List.map_map]
  rfl

@[simp] theorem get?_writtenItems_eq_none_iff {x : Located (Option Expr)} {name : String} :
    Ordered.get? name (writtenItems x) = none ↔ name ∉ writtenKeys x := by
  rw [Ordered.get?_eq_none_iff, keys_writtenItems, List.mem_eraseDups]

theorem exists_last_of_get?_writtenItems {x : Located (Option Expr)} {name : String} {item : Item}
    (h : Ordered.get? name (writtenItems x) = some item) :
    ∃ first e last, written x.value = first ++ (name, e) :: last ∧ name ∉ last.map (·.1) ∧
      item = .expr ⟨x.site, e⟩ := by
  obtain ⟨first, last, hentries, hlast⟩ := Ordered.exists_last_of_get?_ofList h
  obtain ⟨before, rest, hwritten, rfl, hrest⟩ := List.map_eq_append_iff.mp hentries
  obtain ⟨⟨key, e⟩, after, rfl, hhead, rfl⟩ := List.map_eq_cons_iff.mp hrest
  obtain ⟨rfl, rfl⟩ := Prod.mk.inj hhead
  refine ⟨before, e, after, hwritten, ?_, rfl⟩
  rwa [Ordered.keys, List.map_map] at hlast

structure ShapedBy (r : Resolver) (returns : List (Located (Option Expr))) (name : String)
    (shape : Shape) : Prop where
  isOptional : shape.isOptional = true ↔ ∃ x ∈ returns, name ∉ writtenKeys x
  type : ∃ before x after, returns = before ++ x :: after ∧ (∀ y ∈ before, name ∉ writtenKeys y) ∧
    ∃ first e last, written x.value = first ++ (name, e) :: last ∧ name ∉ last.map (·.1) ∧
      shape.type = valueType r (.expr ⟨x.site, e⟩)

theorem shapedBy_keyShape (r : Resolver) {returns : List (Located (Option Expr))} {name : String}
    (h : ∃ x ∈ returns, name ∈ writtenKeys x) :
    ShapedBy r returns name (keyShape r (returns.map writtenItems) name) := by
  constructor
  · rw [keyShape, decide_eq_true_iff, List.length_filterMap_lt_length_iff_exists]
    simp only [List.mem_map, exists_prop, exists_exists_and_eq_and, get?_writtenItems_eq_none_iff]
  · obtain ⟨item, hitem⟩ : ∃ item,
        returns.findSome? (fun x => Ordered.get? name (writtenItems x)) = some item := by
      rw [← Option.isSome_iff_exists, List.findSome?_isSome_iff]
      obtain ⟨x, hx, hname⟩ := h
      refine ⟨x, hx, Option.isSome_iff_ne_none.mpr fun hnone => ?_⟩
      exact get?_writtenItems_eq_none_iff.mp hnone hname
    obtain ⟨before, x, after, hreturns, hget, hbefore⟩ := List.findSome?_eq_some_iff.mp hitem
    obtain ⟨first, e, last, hwritten, hlast, rfl⟩ := exists_last_of_get?_writtenItems hget
    refine ⟨before, x, after, hreturns, fun y hy => get?_writtenItems_eq_none_iff.mp (hbefore y hy),
      first, e, last, hwritten, hlast, ?_⟩
    rw [keyShape, List.filterMap_map, List.head?_filterMap]
    exact congrArg (fun i? => ((i?.map (valueType r)).getD "Any")) hitem

theorem returnedShapes?_of_isPlain (r : Resolver) {f : Located Function}
    (h : ∀ x ∈ f.ownReturns, isPlain x.value = true) :
    ∃ shapes, returnedShapes? r (.function f) = some shapes ∧
      Ordered.keys shapes = (f.ownReturns.flatMap writtenKeys).eraseDups ∧
      ∀ name shape, (name, shape) ∈ shapes → ShapedBy r f.ownReturns name shape := by
  have hkeys : ((f.ownReturns.map writtenItems).flatMap Ordered.keys).eraseDups =
      (f.ownReturns.flatMap writtenKeys).eraseDups := by
    rw [List.flatMap_map]
    simp only [keys_writtenItems]
    exact Ordered.eraseDups_flatMap_eraseDups writtenKeys f.ownReturns
  refine ⟨mergedKeys r (f.ownReturns.map writtenItems), ?_, ?_, fun name shape hmem => ?_⟩
  · rw [returnedShapes?, Body.returns, f.returns_eq_ownReturns,
      mapM_eq_some_map fun x hx => returnedKeys?_of_isPlain r (h x hx)]
    rfl
  · rw [mergedKeys_eq, hkeys, Ordered.keys, List.map_map]
    exact List.map_id _
  · rw [mergedKeys_eq, hkeys] at hmem
    obtain ⟨_, hname, heq⟩ := List.mem_map.mp hmem
    obtain ⟨rfl, rfl⟩ := Prod.mk.inj heq
    exact shapedBy_keyShape r (List.mem_flatMap.mp (List.mem_eraseDups.mp hname))

/-! The chain around the body. -/

/-- The body of a chain is a function, and nothing but its returns says what the step produces. -/
structure ReadsReturns (r : Resolver) (root : Root) (argument : Expr) (f : Located Function) :
    Prop where
  unbroken : (stagesOf root.outward).break? = none
  undeclared : (stagesOf root.outward).call? .produces = none
  body : Root.body? (stagesOf root.outward) = some argument
  function : r.function? ⟨root.site, argument⟩ = some (.function f)
  unannotated : (Body.function f).typeShapes? r = none

namespace ReadsReturns

variable {r : Resolver} {root : Root} {argument : Expr} {f : Located Function}

theorem readProduced_eq (h : ReadsReturns r root argument f) :
    root.readProduced r (stagesOf root.outward) = match returnedShapes? r (.function f) with
      | some shapes => ⟨some shapes, []⟩
      | none => ⟨none, [⟨argument.position, .state .returned⟩]⟩ := by
  unfold Root.readProduced bodyShapes
  simp only [h.undeclared, h.body, h.function, h.unannotated, Option.none_or]
  cases returnedShapes? r (.function f) <;> rfl

theorem produces?_analyze (h : ReadsReturns r root argument f) (kind : Kind) :
    (root.analyze r kind).produces? = returnedShapes? r (.function f) := by
  unfold Root.analyze
  simp only [h.unbroken, h.readProduced_eq]
  cases returnedShapes? r (.function f) <;> rfl

theorem mem_issues_analyze (h : ReadsReturns r root argument f) (kind : Kind)
    (hnone : returnedShapes? r (.function f) = none) :
    ⟨argument.position, .state .returned⟩ ∈ (root.analyze r kind).issues := by
  unfold Root.analyze
  simp only [h.unbroken, h.readProduced_eq, hnone]
  simp

end ReadsReturns

/-- Where only its returns say what a body produces and all of its own ones are plain, their keys are
the properties, each once and in the order of first appearance, with the shapes that the returns give
them. If one of its own returns is a dictionary with an entry that has no text for its key, nothing is
known of what it produces, whatever the others are. -/
theorem produces_union {r : Resolver} {root : Root} {argument : Expr} {f : Located Function}
    (h : ReadsReturns r root argument f) (kind : Kind) :
    ((∀ x ∈ f.ownReturns, isPlain x.value = true) → ∃ shapes,
      (root.analyze r kind).produces? = some shapes ∧
      Ordered.keys shapes = (f.ownReturns.flatMap writtenKeys).eraseDups ∧
      ∀ name shape, (name, shape) ∈ shapes → ShapedBy r f.ownReturns name shape) ∧
    ((∃ x ∈ f.ownReturns, ∃ p entries, x.value = some (.dict p entries) ∧
      ∃ entry ∈ entries, named? entry = none) →
        (root.analyze r kind).produces? = none ∧
        ⟨argument.position, .state .returned⟩ ∈ (root.analyze r kind).issues) := by
  rw [h.produces?_analyze]
  refine ⟨returnedShapes?_of_isPlain r, ?_⟩
  rintro ⟨x, hx, p, entries, hvalue, entry, hentry, hunnamed⟩
  have hnone : returnedShapes? r (.function f) = none := by
    rw [returnedShapes?, Body.returns, f.returns_eq_ownReturns,
      mapM_eq_none hx (returnedKeys?_of_unnamed r hvalue hentry hunnamed)]
    rfl
  exact ⟨hnone, h.mem_issues_analyze kind hnone⟩

/-- The names of a module are known to be one function, and its literals to be themselves. -/
def functionOnly (f : Located Function) : Resolver where
  infer? x := match x.value with
    | .name .. => some (.callable (.function f))
    | .constant _ c => some (.constant c)
    | _ => none
  ancestors _ := []
  lookup _ _ := []

def sampleFunction (body : List Stmt) : Located Function where
  site := default
  value := {
    position := ⟨1, 0⟩
    isAsync := false
    name := "body"
    parameters := {}
    returns? := none
    decorators := []
    body }

def sampleArgument : Expr := .name ⟨9, 19⟩ "body"

def functionChain : Root where
  site := default
  position := ⟨9, 0⟩
  callee := .name ⟨9, 0⟩ "GivenBuilder"
  arguments := [.constant ⟨9, 13⟩ (.text "p")]
  keywords := []
  outward := [
    ⟨"step", ⟨9, 0⟩, some ⟨⟨9, 0⟩, [sampleArgument], []⟩⟩,
    ⟨"register", ⟨9, 0⟩, some ⟨⟨9, 0⟩, [], []⟩⟩]

theorem readsReturns_functionChain (body : List Stmt) :
    ReadsReturns (functionOnly (sampleFunction body)) functionChain sampleArgument
      (sampleFunction body) :=
  ⟨rfl, rfl, rfl, rfl, rfl⟩

def textEntry (name : String) (value : Constant) : Option Expr × Expr :=
  (some (.constant ⟨3, 15⟩ (.text name)), .constant ⟨3, 20⟩ value)

def returnOf (entries : List (Option Expr × Expr)) : Stmt :=
  .return ⟨3, 8⟩ (some (.dict ⟨3, 15⟩ entries))

def sampleReturns : List Stmt :=
  [.while ⟨2, 4⟩ sampleArgument
    [returnOf [textEntry "a" (.int 1), textEntry "b" (.int 2), textEntry "a" (.text "x")]] [],
  .function ⟨4, 4⟩ false "inner" {} none [] [returnOf [textEntry "c" (.int 3)]],
  .return ⟨6, 4⟩ none]

theorem produces_union_sampleReturns :
    let r (body : List Stmt) := functionOnly (sampleFunction body)
    (∃ shapes, (functionChain.analyze (r sampleReturns) .given).produces? = some shapes ∧
      Ordered.keys shapes = ["a", "b"]) ∧
    (functionChain.analyze (r (returnOf [(none, sampleArgument)] :: sampleReturns)) .given).produces? =
      none := by
  intro r
  obtain ⟨shapes, hshapes, hkeys, -⟩ :=
    (produces_union (readsReturns_functionChain sampleReturns) .given).1 (by decide)
  refine ⟨⟨shapes, hshapes, hkeys.trans (by decide)⟩, ?_⟩
  exact ((produces_union (readsReturns_functionChain _) .given).2
    ⟨_, .head _, _, _, rfl, _, .head _, rfl⟩).1

end ScenarioCheck.Chain
