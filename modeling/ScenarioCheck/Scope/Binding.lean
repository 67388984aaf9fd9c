import ScenarioCheck.Scope.Node

/-! The names that a scope binds, in the order of its statements, and what each is bound to. -/
namespace ScenarioCheck.Scope

open Source

inductive Passed where
  | positional (index : Nat)
  | keyword
  | rest
  | keywords
  deriving DecidableEq, Inhabited, Repr

/-- What a name is bound to. A path leads through nested tuples to the part that is meant. -/
inductive Origin where
  | value (e : Expr) (path : List Nat)
  /-- A starred target takes what the targets before and after it leave over. -/
  | remainder (e : Expr) (before after : Nat)
  | annotated (value? : Option Expr)
  | augmented (target : Expr) (operator : BinaryOperator) (value : Expr)
  | element (isAsync : Bool) (source : Expr) (path : List Nat)
  | drawn (isAsync : Bool) (source : Expr) (path : List Nat)
  | entered (value : Expr) (path : List Nat)
  | caught (type? : Option Expr)
  | captured (subject : Expr)
  | named (value : Expr)
  | parameter (how : Passed) (default? : Option Expr)
  | function (f : Function)
  | class (c : ClassDecl)
  | module (name : String)
  /-- A name of a module; a star stands for all of its public names. -/
  | member (module? : Option String) (level : Nat) (name : String)
  | deleted
  deriving Inhabited, Repr

/-- A name, the statement that binds it, and the line the name is on. -/
structure Binding where
  name : String
  site : Site
  line : Nat
  origin : Origin
  deriving Inhabited, Repr

namespace Binding

/-- Loops may run not at all and so bind nothing. -/
def isOptional (b : Binding) : Bool := match b.origin with
  | .element .. | .drawn .. => true
  | _ => false

/-- The whole statement assigns; otherwise the name is defined by a part of it. -/
def isAssignment (b : Binding) : Bool := match b.origin with
  | .value .. | .remainder .. | .annotated .. | .augmented .. | .element .. | .entered .. | .caught ..
  | .deleted => true
  | _ => false

def isTarget (b : Binding) : Bool := match b.origin with
  | .function .. | .class .. | .module .. | .member .. | .deleted => false
  | _ => true

def isClass (b : Binding) : Bool := match b.origin with
  | .class .. => true
  | _ => false

def isCaught (b : Binding) : Bool := match b.origin with
  | .caught .. => true
  | _ => false

def isMember (b : Binding) : Bool := match b.origin with
  | .member .. => true
  | _ => false

/-- The block it belongs to: parameters belong to the block of their function. -/
def block (b : Binding) : List (Position × Option Nat) := match b.origin with
  | .parameter .. => b.site.place.map fun t => (t.position, none)
  | _ => b.site.place.block

end Binding

def unstarred (items : List Expr) : Nat :=
  (items.takeWhile fun
    | .starred .. => false
    | _ => true).length

mutual

/-- The names in a target, each with the path to its part of the value. -/
def targetNames (make : List Nat → Origin) (s : Site) (path : List Nat) : Expr → List Binding
  | .name p id => [⟨id, s, p.line, make path⟩]
  | .tuple _ items => targetNamesOfAll make s path 0 items
  | .list _ items => targetNamesOfAll make s path 0 items
  | .starred _ value => targetNames (fun _ => .annotated none) s path value
  | _ => []

def targetNamesOfAll (make : List Nat → Origin) (s : Site) (path : List Nat) (i : Nat) :
    List Expr → List Binding
  | [] => []
  | e :: rest => targetNames make s (path ++ [i]) e ++ targetNamesOfAll make s path (i + 1) rest

end

/-- The names a statement assigns to: a star directly in the target takes the remainder. -/
def assignedNames (s : Site) (value target : Expr) : List Binding :=
  let names := targetNames (.value value) s [] target
  let items := match target with
    | .tuple _ items | .list _ items => items
    | _ => []
  match items.drop (unstarred items) with
  | .starred _ (.name p id) :: after =>
    names.map fun b =>
      if b.name == id && b.line == p.line then
        { b with origin := .remainder value (unstarred items) after.length }
      else b
  | _ => names

def importedNames (s : Site) (p : Position) (modules : List Alias) : List Binding :=
  modules.map fun a =>
    let first := String.ofList (a.name.toList.takeWhile (· != '.'))
    ⟨a.asName?.getD first, s, p.line, .module (if a.asName?.isSome then a.name else first)⟩

def positionalParameters (s : Site) (i : Nat) : List (Parameter Expr) → List Binding
  | [] => []
  | p :: rest =>
    ⟨p.name, s, p.position.line, .parameter (.positional i) p.default?⟩ ::
      positionalParameters s (i + 1) rest

def parameterNames (s : Site) (ps : Parameters Expr) : List Binding :=
  let one (how : Passed) (p : Parameter Expr) : Binding :=
    ⟨p.name, s, p.position.line, .parameter how p.default?⟩
  positionalParameters s 0 (ps.positionalOnly ++ ps.positional) ++ ps.keywordOnly.map (one .keyword) ++
    (ps.rest?.map (one .rest)).toList ++ (ps.keywords?.map (one .keywords)).toList

mutual

/-- The names declared global in a block, nested definitions apart. -/
def globalNames : Stmt → List String
  | .global _ names => names
  | .if _ _ body orelse => globalNamesOfAll body ++ globalNamesOfAll orelse
  | .while _ _ body orelse => globalNamesOfAll body ++ globalNamesOfAll orelse
  | .for _ _ _ _ body orelse => globalNamesOfAll body ++ globalNamesOfAll orelse
  | .try _ body handlers orelse final =>
    globalNamesOfAll body ++ globalNamesOfHandlers handlers ++ globalNamesOfAll orelse ++
      globalNamesOfAll final
  | .with _ _ _ body => globalNamesOfAll body
  | .match _ _ cases => globalNamesOfCases cases
  | _ => []

def globalNamesOfAll : List Stmt → List String
  | [] => []
  | st :: rest => globalNames st ++ globalNamesOfAll rest

def globalNamesOfHandlers : List (Handler Stmt) → List String
  | [] => []
  | ⟨_, _, _, body⟩ :: rest => globalNamesOfAll body ++ globalNamesOfHandlers rest

def globalNamesOfCases : List (Case Stmt) → List String
  | [] => []
  | ⟨_, _, body⟩ :: rest => globalNamesOfAll body ++ globalNamesOfCases rest

end

/-- A binding, and whether it escapes to the module from a function that declares it global. -/
abbrev Found := Bool × Binding

/-- What functions declare global escapes; all else stays with them. -/
def escaping (globals : List String) (found : List Found) : List Found :=
  found.filterMap fun (escaped, b) =>
    if escaped then some (true, b)
    else if globals.contains b.name && (b.isTarget || b.isMember) then some (true, b)
    else none

mutual

def found (s : Site) : Stmt → List Found
  | .assign _ targets value => (targets.flatMap (assignedNames s value)).map (false, ·)
  | .augmented _ target operator value => match target with
    | .name p id => [(false, ⟨id, s, p.line, .augmented target operator value⟩)]
    | _ => []
  | .annotated _ target _ value? => match target with
    | .name p id => [(false, ⟨id, s, p.line, .annotated value?⟩)]
    | _ => []
  | .delete p targets =>
    (targets.flatMap (targetNames (fun _ => .deleted) s [])).map fun b =>
      (false, { b with line := p.line })
  | .import p modules => (importedNames s p modules).map (false, ·)
  | .importFrom p module? level names =>
    names.map fun a => (false, ⟨a.asName?.getD a.name, s, p.line, .member module? level a.name⟩)
  | .if _ _ body orelse => foundInBlock s .yes body ++ foundInBlock s .no orelse
  | .while _ _ body orelse => foundInBlock s .body body ++ foundInBlock s .body orelse
  | .for _ isAsync target source body orelse =>
    (targetNames (.element isAsync source) s [] target).map (false, ·) ++
      foundInBlock s .body body ++ foundInBlock s .body orelse
  | .try _ body handlers orelse final =>
    foundInBlock s .tried body ++ foundInHandlers s 0 handlers ++ foundInBlock s .unfailed orelse ++
      foundInBlock s .final final
  | .with _ _ resources body =>
    (resources.flatMap fun r => match r.target? with
      | some t => (targetNames (.entered r.value) s [] t).map (false, ·)
      | none => []) ++ foundInBlock s .body body
  | .match _ subject cases => foundInCases s subject 0 cases
  | .function p isAsync name parameters returns? decorators body =>
    let f : Function := ⟨p, isAsync, name, parameters, returns?, decorators, body⟩
    (false, ⟨name, s, f.line, .function f⟩) ::
      escaping (globalNamesOfAll body) (foundInBlock (s.enter (.function f)) .body body)
  | .class p name bases keywords decorators body =>
    let c : ClassDecl := ⟨p, name, bases, keywords, decorators, body⟩
    (false, ⟨name, s, p.line, .class c⟩) ::
      escaping [] (foundInBlock (s.enter (.class c)) .body body)
  | _ => []

def foundInBlock (s : Site) (b : Branch) : List Stmt → List Found
  | [] => []
  | st :: rest => found (s.inner b st.position (lineOf st)) st ++ foundInBlock s b rest

def foundInHandlers (s : Site) (i : Nat) : List (Handler Stmt) → List Found
  | [] => []
  | ⟨p, type?, name?, body⟩ :: rest =>
    let here := s.inner (.handler i) p p.line
    (match name? with
      | some (id, at_) => [(false, ⟨id, here, at_.line, .caught type?⟩)]
      | none => []) ++
      foundInBlock here .body body ++ foundInHandlers s (i + 1) rest

def foundInCases (s : Site) (subject : Expr) (i : Nat) : List (Case Stmt) → List Found
  | [] => []
  | ⟨captures, _, body⟩ :: rest =>
    (captures.map fun (id, p) => (false, ⟨id, s, p.line, .captured subject⟩)) ++
      foundInBlock s (.case i) body ++ foundInCases s subject (i + 1) rest

end

def namedInside (levels : List Level) (all : List Node) : List Binding :=
  all.filterMap fun n => match n.expr with
    | .bind _ (.name p id) value =>
      if (frame n.site.levels).length == levels.length then some ⟨id, n.site, p.line, .named value⟩
      else none
    | _ => none

def blockSite (home : Module) (l : Level) (outer : List Level) : Site :=
  ⟨home, l :: outer, l.place, l.line, false, false, false⟩

def bindings (home : Module) : List Level → List Binding
  | [] => []
  | l :: outer =>
    let s := blockSite home l outer
    match l.opening with
    | .module =>
      (foundInBlock s .whole home.body).map (·.2) ++
        namedInside (l :: outer) (nodesOfBlock s .whole home.body)
    | .function f =>
      let globals := globalNamesOfAll f.body
      let own := (foundInBlock s .body f.body).filterMap fun (escaped, b) =>
        if escaped || (globals.contains b.name && (b.isTarget || b.isMember)) then none else some b
      parameterNames { s with isHeader := true } f.parameters ++ own ++
        namedInside (l :: outer) (nodesOfBlock s .body f.body)
    | .lambda f => parameterNames s f.parameters ++ namedInside (l :: outer) (nodes s {} f.body)
    | .class c =>
      ((foundInBlock s .body c.body).filter (!·.1)).map (·.2) ++
        namedInside (l :: outer) (nodesOfBlock s .body c.body)
    | .comprehension clauses =>
      clauses.flatMap fun clause =>
        targetNames (.drawn clause.isAsync clause.source) s [] clause.target

end ScenarioCheck.Scope
