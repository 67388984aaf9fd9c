import ScenarioCheck.Scope.Site

/-! Every expression of a module, in the order of reading: an expression before its parts, the
function of a call before its arguments. With each comes where it stands and what is written
outward on it. -/
namespace ScenarioCheck.Scope

open Source

structure Application where
  position : Position
  arguments : List Expr
  keywords : List (Keyword Expr)
  deriving Inhabited, Repr

/-- An attribute taken outward of an expression, and the call of it if it is called. -/
structure Access where
  name : String
  position : Position
  call? : Option Application
  deriving Inhabited, Repr

/-- How an expression is used: the call it is the function of, and the accesses that follow. -/
structure Use where
  call? : Option Application := none
  after : List Access := []
  deriving Inhabited, Repr

namespace Use

/-- The accesses on the expression itself: none if it is called, since they belong to the call. -/
def outward (u : Use) : List Access := if u.call?.isSome then [] else u.after

def called (u : Use) (a : Application) : Use := ⟨some a, u.outward⟩

def owner (u : Use) (name : String) (p : Position) : Use := ⟨none, ⟨name, p, u.call?⟩ :: u.after⟩

end Use

structure Node where
  site : Site
  expr : Expr
  outward : List Access
  deriving Inhabited, Repr

mutual

def nodes (s : Site) (u : Use) : Expr → List Node
  | e@(.name ..) => [⟨s, e, u.outward⟩]
  | e@(.constant ..) => [⟨s, e, u.outward⟩]
  | e@(.joined _ parts) => ⟨s, e, u.outward⟩ :: nodesOfAll s parts
  | e@(.formatted _ value _ spec?) => ⟨s, e, []⟩ :: (nodes s {} value ++ nodesOfOption s spec?)
  | e@(.list _ items) => ⟨s, e, u.outward⟩ :: nodesOfAll s items
  | e@(.tuple _ items) => ⟨s, e, u.outward⟩ :: nodesOfAll s items
  | e@(.set _ items) => ⟨s, e, u.outward⟩ :: nodesOfAll s items
  | e@(.dict _ entries) => ⟨s, e, u.outward⟩ :: nodesOfEntries s entries
  | e@(.starred _ value) => ⟨s, e, []⟩ :: nodes s {} value
  | e@(.attribute p value name) => ⟨s, e, u.outward⟩ :: nodes s (u.owner name p) value
  | e@(.call p function arguments keywords) =>
    ⟨s, e, u.outward⟩ :: (nodes s (u.called ⟨p, arguments, keywords⟩) function ++
      nodesOfAll s arguments ++ nodesOfKeywords s keywords)
  | e@(.subscript _ value index) => ⟨s, e, u.outward⟩ :: (nodes s {} value ++ nodes s {} index)
  | e@(.slice _ lower? upper? step?) =>
    ⟨s, e, []⟩ :: (nodesOfOption s lower? ++ nodesOfOption s upper? ++ nodesOfOption s step?)
  | e@(.unary _ _ operand) => ⟨s, e, u.outward⟩ :: nodes s {} operand
  | e@(.binary _ _ left right) => ⟨s, e, u.outward⟩ :: (nodes s {} left ++ nodes s {} right)
  | e@(.boolean _ _ operands) => ⟨s, e, u.outward⟩ :: nodesOfAll s operands
  | e@(.compare _ left rest) => ⟨s, e, u.outward⟩ :: (nodes s {} left ++ nodesOfComparisons s rest)
  | e@(.conditional _ test yes no) =>
    ⟨s, e, u.outward⟩ :: (nodes s {} test ++ nodes s {} yes ++ nodes s {} no)
  | e@(.lambda p parameters body) =>
    let inside := Opening.lambda ⟨p, parameters, body⟩
    ⟨s, e, u.outward⟩ ::
      (nodesOfParameters s (s.enter inside) parameters ++ nodes (s.enter inside) {} body)
  | e@(.comprehension _ _ element clauses) =>
    let inside := s.enter (.comprehension clauses)
    ⟨s, e, u.outward⟩ :: (nodes inside {} element ++ nodesOfClauses inside clauses)
  | e@(.dictComprehension _ key value clauses) =>
    let inside := s.enter (.comprehension clauses)
    ⟨s, e, u.outward⟩ ::
      (nodes inside {} key ++ nodes inside {} value ++ nodesOfClauses inside clauses)
  | e@(.await _ value) => ⟨s, e, u.outward⟩ :: nodes s {} value
  | e@(.yield _ value?) => ⟨s, e, u.outward⟩ :: nodesOfOption s value?
  | e@(.yieldFrom _ value) => ⟨s, e, u.outward⟩ :: nodes s {} value
  | e@(.bind _ _ value) => ⟨s, e, u.outward⟩ :: nodes s {} value

/-- The parts of a target: a name or an attribute that is assigned is not itself read. -/
def nodesOfTarget (s : Site) : Expr → List Node
  | .attribute _ value _ => nodes s {} value
  | .subscript _ value index => nodes s {} value ++ nodes s {} index
  | .tuple _ items => nodesOfTargets s items
  | .list _ items => nodesOfTargets s items
  | .starred _ value => nodesOfTarget s value
  | _ => []

def nodesOfTargets (s : Site) : List Expr → List Node
  | [] => []
  | e :: rest => nodesOfTarget s e ++ nodesOfTargets s rest

def nodesOfAll (s : Site) : List Expr → List Node
  | [] => []
  | e :: rest => nodes s {} e ++ nodesOfAll s rest

def nodesOfOption (s : Site) : Option Expr → List Node
  | none => []
  | some e => nodes s {} e

def nodesOfEntries (s : Site) : List (Option Expr × Expr) → List Node
  | [] => []
  | (key?, value) :: rest =>
    nodesOfOption s key? ++ nodes s {} value ++ nodesOfEntries s rest

def nodesOfKeywords (s : Site) : List (Keyword Expr) → List Node
  | [] => []
  | ⟨_, _, value⟩ :: rest => nodes s {} value ++ nodesOfKeywords s rest

def nodesOfComparisons (s : Site) : List (Comparison × Expr) → List Node
  | [] => []
  | (_, e) :: rest => nodes s {} e ++ nodesOfComparisons s rest

def nodesOfClauses (s : Site) : List (Clause Expr) → List Node
  | [] => []
  | ⟨_, target, source, conditions⟩ :: rest =>
    nodesOfTarget s target ++ nodes s {} source ++ nodesOfAll s conditions ++ nodesOfClauses s rest

/-- A default: a bare name in it is bound before the function is. -/
def nodesOfDefault (outer inside : Site) : Option Expr → List Node
  | none => []
  | some e => match e with
    | .name .. => nodes outer.before {} e
    | _ => nodes inside {} e

def nodesOfDefaults (outer inside : Site) : List (Parameter Expr) → List Node
  | [] => []
  | ⟨_, _, _, default?⟩ :: rest =>
    nodesOfDefault outer inside default? ++ nodesOfDefaults outer inside rest

def nodesOfHints (inside : Site) : List (Parameter Expr) → List Node
  | [] => []
  | ⟨_, _, hint?, _⟩ :: rest =>
    nodesOfOption inside hint? ++ nodesOfHints inside rest

def nodesOfHint (inside : Site) : Option (Parameter Expr) → List Node
  | none => []
  | some ⟨_, _, hint?, _⟩ => nodesOfOption inside hint?

/-- The annotations of positional-only parameters, all defaults, the other annotations. -/
def nodesOfParameters (outer inside : Site) : Parameters Expr → List Node
  | ⟨positionalOnly, positional, rest?, keywordOnly, keywords?⟩ =>
    nodesOfHints inside positionalOnly ++ nodesOfDefaults outer inside positionalOnly ++
      nodesOfDefaults outer inside positional ++ nodesOfDefaults outer inside keywordOnly ++
      nodesOfHints inside positional ++ nodesOfHint inside rest? ++
      nodesOfHint inside keywords? ++ nodesOfHints inside keywordOnly

end

def nodesOfDecorators (s : Site) (ds : List Decorator) : List Node :=
  nodesOfAll s.decorator (ds.map (·.value))

/-- The keywords of a class are its children but for the one that names its metaclass. -/
def nodesOfClassKeywords (s : Site) (keywords : List (Keyword Expr)) : List Node :=
  nodesOfKeywords s (keywords.filter (·.name? != some "metaclass"))

def nodesOfResources (s : Site) : List Resource → List Node
  | [] => []
  | r :: rest =>
    nodes s {} r.value ++ (r.target?.map (nodesOfTarget s)).getD [] ++ nodesOfResources s rest

mutual

def nodesOfStmt (s : Site) : Stmt → List Node
  | .expr _ value => nodes s {} value
  | .assign _ targets value => nodesOfTargets s targets ++ nodes s {} value
  | .augmented _ target _ value => nodesOfTarget s target ++ nodes s {} value
  | .annotated _ target hint value? =>
    nodesOfTarget s target ++ nodes s {} hint ++ nodesOfOption s value?
  | .return _ value? => nodesOfOption s value?
  | .delete _ targets => nodesOfTargets s targets
  | .raise _ exception? cause? => nodesOfOption s exception? ++ nodesOfOption s cause?
  | .assert _ test message? => nodes s {} test ++ nodesOfOption s message?
  | .global .. | .nonlocal .. | .pass _ | .break _ | .continue _ | .import .. | .importFrom .. => []
  | .if _ test body orelse =>
    nodes (s.part .test) {} test ++ nodesOfBlock s .yes body ++ nodesOfBlock s .no orelse
  | .while _ test body orelse =>
    nodes s {} test ++ nodesOfBlock s .body body ++ nodesOfBlock s .body orelse
  | .for _ _ target source body orelse =>
    nodesOfTarget s target ++ nodes s {} source ++ nodesOfBlock s .body body ++
      nodesOfBlock s .body orelse
  | .try _ body handlers orelse final =>
    nodesOfBlock s .tried body ++ nodesOfHandlers s 0 handlers ++ nodesOfBlock s .unfailed orelse ++
      nodesOfBlock s .final final
  | .with _ _ resources body => nodesOfResources s resources ++ nodesOfBlock s .body body
  | .match _ subject cases => nodes s {} subject ++ nodesOfCases s 0 cases
  | .function p isAsync name parameters returns? decorators body =>
    let inside := Opening.function ⟨p, isAsync, name, parameters, returns?, decorators, body⟩
    nodesOfDecorators s decorators ++ nodesOfParameters s (s.header inside) parameters ++
      nodesOfOption (s.header inside) returns? ++ nodesOfBlock (s.enter inside) .body body
  | .class p name bases keywords decorators body =>
    let inside := Opening.class ⟨p, name, bases, keywords, decorators, body⟩
    nodesOfDecorators s decorators ++ nodesOfAll s.before bases ++
      nodesOfClassKeywords (s.header inside) keywords ++ nodesOfBlock (s.enter inside) .body body

def nodesOfBlock (s : Site) (b : Branch) : List Stmt → List Node
  | [] => []
  | st :: rest => nodesOfStmt (s.inner b st.position (lineOf st)) st ++ nodesOfBlock s b rest

def nodesOfHandlers (s : Site) (i : Nat) : List (Handler Stmt) → List Node
  | [] => []
  | ⟨p, type?, _, body⟩ :: rest =>
    let here := s.inner (.handler i) p p.line
    nodesOfOption here type? ++ nodesOfBlock here .body body ++ nodesOfHandlers s (i + 1) rest

def nodesOfCases (s : Site) (i : Nat) : List (Case Stmt) → List Node
  | [] => []
  | ⟨_, guard?, body⟩ :: rest =>
    nodesOfOption (s.part (.case i)) guard? ++ nodesOfBlock s (.case i) body ++
      nodesOfCases s (i + 1) rest

end

def Module.nodes (m : Module) : List Node := nodesOfBlock (.ofModule m) .whole m.body

end ScenarioCheck.Scope
