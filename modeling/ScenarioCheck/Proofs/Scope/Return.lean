import ScenarioCheck.Scope.Return

/-! The returns of a function among all returns in its body: they are its own ones, those that stand in
no scope inside it, whatever statements are around them. -/
namespace ScenarioCheck.Scope

open Source

mutual

/-- The values of all returns in the statement at a site, nested definitions included. -/
def allReturns (s : Site) : Stmt → List (Located (Option Expr))
  | .return _ value? => [⟨s, value?⟩]
  | .if _ _ body orelse => allReturnsOfBlock s .yes body ++ allReturnsOfBlock s .no orelse
  | .while _ _ body orelse => allReturnsOfBlock s .body body ++ allReturnsOfBlock s .body orelse
  | .for _ _ _ _ body orelse => allReturnsOfBlock s .body body ++ allReturnsOfBlock s .body orelse
  | .try _ body handlers orelse final =>
    allReturnsOfBlock s .tried body ++ allReturnsOfHandlers s 0 handlers ++
      allReturnsOfBlock s .unfailed orelse ++ allReturnsOfBlock s .final final
  | .with _ _ _ body => allReturnsOfBlock s .body body
  | .match _ _ cases => allReturnsOfCases s 0 cases
  | .function p isAsync name parameters returns? decorators body =>
    allReturnsOfBlock (s.enter (.function ⟨p, isAsync, name, parameters, returns?, decorators, body⟩))
      .body body
  | .class p name bases keywords decorators body =>
    allReturnsOfBlock (s.enter (.class ⟨p, name, bases, keywords, decorators, body⟩)) .body body
  | _ => []

def allReturnsOfBlock (s : Site) (b : Branch) : List Stmt → List (Located (Option Expr))
  | [] => []
  | st :: rest =>
    allReturns (s.inner b st.position (lineOf st)) st ++ allReturnsOfBlock s b rest

def allReturnsOfHandlers (s : Site) (i : Nat) :
    List (Handler Stmt) → List (Located (Option Expr))
  | [] => []
  | ⟨p, _, _, body⟩ :: rest =>
    allReturnsOfBlock (s.inner (.handler i) p p.line) .body body ++
      allReturnsOfHandlers s (i + 1) rest

def allReturnsOfCases (s : Site) (i : Nat) : List (Case Stmt) → List (Located (Option Expr))
  | [] => []
  | ⟨_, _, body⟩ :: rest =>
    allReturnsOfBlock s (.case i) body ++ allReturnsOfCases s (i + 1) rest

end

def Site.depth (s : Site) : Nat := s.levels.length

def within {α : Type} (n : Nat) (xs : List (Located α)) : List (Located α) :=
  xs.filter (·.site.depth ≤ n)

@[simp] theorem within_append {α : Type} (n : Nat) (xs ys : List (Located α)) :
    within n (xs ++ ys) = within n xs ++ within n ys :=
  List.filter_append ..

/-- The returns in the body of a function that stand in no scope inside it. -/
def Located.ownReturns (f : Located Function) : List (Located (Option Expr)) :=
  within f.bodySite.depth (allReturnsOfBlock f.bodySite .body f.value.body)

def foundWithin {α : Type} (n : Nat) (s : Site) (xs : List (Located α)) : List (Located α) :=
  if s.depth ≤ n then xs else []

@[simp] theorem foundWithin_append {α : Type} (n : Nat) (s : Site) (xs ys : List (Located α)) :
    foundWithin n s (xs ++ ys) = foundWithin n s xs ++ foundWithin n s ys := by
  unfold foundWithin
  split <;> rfl

@[simp] theorem foundWithin_nil {α : Type} (n : Nat) (s : Site) :
    foundWithin n s ([] : List (Located α)) = [] := ite_self []

theorem foundWithin_enter {α : Type} {n : Nat} {s : Site} (h : n ≤ s.depth) (o : Opening)
    (xs : List (Located α)) : foundWithin n (s.enter o) xs = [] :=
  if_neg (Nat.not_le_of_lt (Nat.lt_succ_of_le h))

-- The bound is the depth of the function's body; below it the induction goes on in nested scopes,
-- where all returns are left out.
mutual

theorem within_allReturns {n : Nat} {s : Site} (h : n ≤ s.depth) : (st : Stmt) →
    within n (allReturns s st) = foundWithin n s (returns s st)
  | .return .. => by
    simp only [allReturns, returns, within, foundWithin, List.filter_cons, List.filter_nil,
      decide_eq_true_eq]
  | .if _ _ body orelse => by
    simp only [allReturns, returns, within_append, foundWithin_append, within_block h .yes body,
      within_block h .no orelse]
  | .while _ _ body orelse => by
    simp only [allReturns, returns, within_append, foundWithin_append, within_block h .body body,
      within_block h .body orelse]
  | .for _ _ _ _ body orelse => by
    simp only [allReturns, returns, within_append, foundWithin_append, within_block h .body body,
      within_block h .body orelse]
  | .try _ body handlers orelse final => by
    simp only [allReturns, returns, within_append, foundWithin_append, within_block h .tried body,
      within_handlers h 0 handlers, within_block h .unfailed orelse, within_block h .final final]
  | .with _ _ _ body => within_block h .body body
  | .match _ _ cases => within_cases h 0 cases
  | .function _ _ _ _ _ _ body => by
    rw [allReturns, within_block (Nat.le_succ_of_le h) .body body, foundWithin_enter h]
    exact (foundWithin_nil n s).symm
  | .class _ _ _ _ _ body => by
    rw [allReturns, within_block (Nat.le_succ_of_le h) .body body, foundWithin_enter h]
    exact (foundWithin_nil n s).symm
  | .expr .. | .assign .. | .augmented .. | .annotated .. | .delete .. | .raise .. | .assert ..
  | .global .. | .nonlocal .. | .pass _ | .break _ | .continue _ | .import .. | .importFrom .. =>
    (foundWithin_nil n s).symm

theorem within_block {n : Nat} {s : Site} (h : n ≤ s.depth) (b : Branch) : (body : List Stmt) →
    within n (allReturnsOfBlock s b body) = foundWithin n s (returnsOfBlock s b body)
  | [] => (foundWithin_nil n s).symm
  | st :: rest => by
    rw [allReturnsOfBlock, returnsOfBlock, within_append, foundWithin_append,
      within_allReturns (s := s.inner b st.position (lineOf st)) h st, within_block h b rest]
    rfl

theorem within_handlers {n : Nat} {s : Site} (h : n ≤ s.depth) (i : Nat) :
    (handlers : List (Handler Stmt)) →
      within n (allReturnsOfHandlers s i handlers) = foundWithin n s (returnsOfHandlers s i handlers)
  | [] => (foundWithin_nil n s).symm
  | ⟨p, _, _, body⟩ :: rest => by
    rw [allReturnsOfHandlers, returnsOfHandlers, within_append, foundWithin_append,
      within_block (s := s.inner (.handler i) p p.line) h .body body, within_handlers h (i + 1) rest]
    rfl

theorem within_cases {n : Nat} {s : Site} (h : n ≤ s.depth) (i : Nat) :
    (cases : List (Case Stmt)) →
      within n (allReturnsOfCases s i cases) = foundWithin n s (returnsOfCases s i cases)
  | [] => (foundWithin_nil n s).symm
  | ⟨_, _, body⟩ :: rest => by
    rw [allReturnsOfCases, returnsOfCases, within_append, foundWithin_append,
      within_block h (.case i) body, within_cases h (i + 1) rest]

end

theorem Located.returns_eq_ownReturns (f : Located Function) : f.returns = f.ownReturns := by
  rw [ownReturns, within_block (Nat.le_refl _), foundWithin, if_pos (Nat.le_refl _)]
  rfl

end ScenarioCheck.Scope
