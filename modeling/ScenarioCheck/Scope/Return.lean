import ScenarioCheck.Scope.Node

/-! The return statements of a body, those of nested definitions apart. -/
namespace ScenarioCheck.Scope

open Source

mutual

def returns (s : Site) : Stmt → List (Located (Option Expr))
  | .return _ value? => [⟨s, value?⟩]
  | .if _ _ body orelse => returnsOfBlock s .yes body ++ returnsOfBlock s .no orelse
  | .while _ _ body orelse => returnsOfBlock s .body body ++ returnsOfBlock s .body orelse
  | .for _ _ _ _ body orelse => returnsOfBlock s .body body ++ returnsOfBlock s .body orelse
  | .try _ body handlers orelse final =>
    returnsOfBlock s .tried body ++ returnsOfHandlers s 0 handlers ++
      returnsOfBlock s .unfailed orelse ++ returnsOfBlock s .final final
  | .with _ _ _ body => returnsOfBlock s .body body
  | .match _ _ cases => returnsOfCases s 0 cases
  | _ => []

def returnsOfBlock (s : Site) (b : Branch) : List Stmt → List (Located (Option Expr))
  | [] => []
  | st :: rest => returns (s.inner b st.position (lineOf st)) st ++ returnsOfBlock s b rest

def returnsOfHandlers (s : Site) (i : Nat) :
    List (Handler Stmt) → List (Located (Option Expr))
  | [] => []
  | ⟨p, _, _, body⟩ :: rest =>
    returnsOfBlock (s.inner (.handler i) p p.line) .body body ++ returnsOfHandlers s (i + 1) rest

def returnsOfCases (s : Site) (i : Nat) : List (Case Stmt) → List (Located (Option Expr))
  | [] => []
  | ⟨_, _, body⟩ :: rest => returnsOfBlock s (.case i) body ++ returnsOfCases s (i + 1) rest

end

def Located.returns (f : Located Function) : List (Located (Option Expr)) :=
  returnsOfBlock f.bodySite .body f.value.body

/-- A function that yields runs as a generator. -/
def Located.yields (f : Located Function) : Bool :=
  let depth := f.bodySite.levels.length
  (nodesOfBlock f.bodySite .body f.value.body).any fun n =>
    match n.expr with
    | .yield .. | .yieldFrom .. => (frame n.site.levels).length == depth
    | _ => false

end ScenarioCheck.Scope
