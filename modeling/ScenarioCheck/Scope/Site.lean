import ScenarioCheck.Scope.Place

/-! The scopes around an expression. A site knows the scopes innermost first, the statement it
belongs to, and whether it stands in the header of a definition. -/
namespace ScenarioCheck.Scope

open Source

/-- A module: its dotted name, whether it is a package, and its statements. A module whose directory
is no package knows what lies beside its file. -/
structure Module where
  name : String
  isPackage : Bool
  body : List Stmt
  beside? : Option (List String) := none
  deriving Inhabited, Repr

structure Function where
  position : Position
  isAsync : Bool
  name : String
  parameters : Parameters Expr
  returns? : Option Expr
  decorators : List Decorator
  body : List Stmt
  deriving Inhabited, Repr

structure ClassDecl where
  position : Position
  name : String
  bases : List Expr
  keywords : List (Keyword Expr)
  decorators : List Decorator
  body : List Stmt
  deriving Inhabited, Repr

structure Lambda where
  position : Position
  parameters : Parameters Expr
  body : Expr
  deriving Inhabited, Repr

/-- A text at the head of a body documents it and is no statement of it. -/
def withoutDocument : List Stmt → List Stmt
  | .expr _ (.constant _ (.text _)) :: rest => rest
  | body => body

namespace Function

/-- The line a definition counts as: one below its decorators, as if they followed one another. -/
def line (f : Function) : Nat :=
  match f.decorators with
  | [] => f.position.line
  | d :: _ =>
    f.decorators.foldl (fun n d => n + (d.lastLine - d.value.position.line + 1)) d.value.position.line

/-- A decorator is known by the name it is written with. -/
def isDecorated (f : Function) (names : List String) : Bool :=
  f.decorators.any fun d => match d.value with
    | .name _ id => names.contains id
    | .attribute _ (.name _ owner) id => owner == "builtins" && names.contains id
    | _ => false

end Function

inductive Opening where
  | module
  | function (f : Function)
  | lambda (l : Lambda)
  | class (c : ClassDecl)
  | comprehension (clauses : List (Clause Expr))
  deriving Inhabited, Repr

structure Level where
  opening : Opening
  place : Place
  line : Nat
  deriving Inhabited, Repr

namespace Level

def isClass (l : Level) : Bool := match l.opening with
  | .class _ => true
  | _ => false

/-- A comprehension has names of its own but belongs to the run of its surroundings. -/
def isFrame (l : Level) : Bool := match l.opening with
  | .comprehension _ => false
  | _ => true

end Level

structure Site where
  /-- The module. -/
  home : Module
  /-- The scopes whose names it sees, innermost first. -/
  levels : List Level
  /-- The statement it belongs to. -/
  place : Place
  line : Nat
  /-- In the header of a definition, and so seeing only what is bound before it. -/
  isBefore : Bool := false
  /-- In the header of a definition, inside its scope. -/
  isHeader : Bool := false
  /-- In a decorator. -/
  isDecorator : Bool := false
  deriving Inhabited, Repr

def frame : List Level → List Level
  | [] => []
  | l :: outer => if l.isFrame then l :: outer else frame outer

namespace Site

/-- The frame that runs the expression: a header is run by what surrounds the definition. -/
def frame (s : Site) : List Level :=
  Scope.frame (if s.isHeader then s.levels.drop 1 else s.levels)

def ofModule (m : Module) : Site := ⟨m, [⟨.module, [], 0⟩], [], 0, false, false, false⟩

def enter (s : Site) (o : Opening) : Site :=
  { s with levels := ⟨o, s.place, s.line⟩ :: s.levels, isBefore := false, isHeader := false }

def header (s : Site) (o : Opening) : Site := { s.enter o with isHeader := true }

/-- A header that sees only what is bound before. -/
def before (s : Site) : Site := { s with isBefore := true }

def decorator (s : Site) : Site := { s with isDecorator := true }

def inner (s : Site) (b : Branch) (p : Position) (line : Nat) : Site :=
  { s with
    place := s.place.dropLast ++ (s.place.getLast?.map fun t => { t with branch := b }).toList ++
      [⟨p, .whole⟩]
    line := line }

def part (s : Site) (b : Branch) : Site :=
  { s with place := s.place.dropLast ++ (s.place.getLast?.map fun t => { t with branch := b }).toList }

end Site

structure Located (α : Type) where
  site : Site
  value : α
  deriving Inhabited, Repr

def Located.bodySite (f : Located Function) : Site := f.site.enter (.function f.value)

def Located.classSite (c : Located ClassDecl) : Site := c.site.enter (.class c.value)

def lineOf : Stmt → Nat
  | .function p a n ps r ds body => (Function.mk p a n ps r ds body).line
  | s => s.position.line

end ScenarioCheck.Scope
