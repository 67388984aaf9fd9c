import ScenarioCheck.Scope.Lookup

/-! What an expression may evaluate to, as far as the text of the program tells: a value keeps its
parts as expressions where they stand. -/
namespace ScenarioCheck.Infer

open Source Scope

inductive Row where
  | list
  | tuple
  | set
  | frozenset
  deriving DecidableEq, Inhabited, Repr

def Row.typeName : Row → String
  | .list => "list"
  | .tuple => "tuple"
  | .set => "set"
  | .frozenset => "frozenset"

inductive Callable where
  | function (f : Located Function)
  | lambda (l : Located Lambda)
  deriving Inhabited, Repr

mutual

inductive Value where
  | constant (c : Constant)
  | row (kind : Row) (items : List Item)
  | dict (entries : List (Item × Item))
  | callable (f : Callable)
  /-- A function taken from a class, and what it is bound to. -/
  | method (f : Callable) (owner? : Option Value)
  /-- A function that is called when it is taken from an instance. -/
  | property (f : Located Function)
  | class (c : Located ClassDecl)
  | instance (c : Located ClassDecl)
  | generator (isAsync : Bool)
  | module (m : Module)
  /-- An alternative of types. -/
  | union
  | slice (start stop step : Option Int)

/-- A part of a value: an expression where it stands, or a value that is known. -/
inductive Item where
  | expr (e : Located Expr)
  | value (v : Value)

end

instance : Inhabited Value := ⟨.union⟩
instance : Inhabited Item := ⟨.value .union⟩

namespace Callable

def home : Callable → Module
  | function f => f.site.home
  | lambda l => l.site.home

def position : Callable → Position
  | function f => f.value.position
  | lambda l => l.value.position

def name : Callable → String
  | function f => f.value.name
  | lambda _ => "<lambda>"

def parameters : Callable → Parameters Expr
  | function f => f.value.parameters
  | lambda l => l.value.parameters

end Callable

/-- A class is known by where it is defined. -/
def sameClass (a b : Located ClassDecl) : Bool :=
  a.site.home.name == b.site.home.name && a.value.position == b.value.position &&
    a.value.name == b.value.name

inductive Binding.Mode where
  | plain
  | onInstance
  | onClass
  | static
  deriving DecidableEq, Inhabited, Repr

/-- Decorators decide first; in a class a function is a method, and three names always take the
class. -/
def mode (f : Located Function) : Binding.Mode :=
  let inClass := match f.site.levels with
    | l :: _ => l.isClass
    | [] => false
  if f.value.isDecorated ["staticmethod"] then .static
  else if f.value.isDecorated ["classmethod"] then .onClass
  else if !inClass then .plain
  else if ["__new__", "__init_subclass__", "__class_getitem__"].contains f.value.name then .onClass
  else .onInstance

def firstParameter? (ps : Parameters Expr) : Option (Parameter Expr) := ps.inOrder.head?

/-- A lambda in the body of a class counts as a method if it takes an instance. -/
def isMethodLambda (l : Located Lambda) : Bool :=
  (firstParameter? l.value.parameters).any (·.name == "self") &&
    match l.site.levels with
    | l :: _ => l.isClass
    | [] => false

namespace Callable

def site : Callable → Site
  | function f => f.site
  | lambda l => l.site

def mode : Callable → Binding.Mode
  | function f => Infer.mode f
  | lambda l => if isMethodLambda l then .onInstance else .plain

end Callable

namespace Value

def typeName : Value → String
  | constant c => match c with
    | .none => "None"
    | .ellipsis => "ellipsis"
    | .bool _ => "bool"
    | .int _ => "int"
    | .float _ => "float"
    | .imaginary _ => "complex"
    | .text _ => "str"
    | .bytes _ => "bytes"
  | row kind _ => kind.typeName
  | dict _ => "dict"
  | callable (.function f) => if mode f == .plain then "function" else "instancemethod"
  | callable (.lambda l) => if isMethodLambda l then "instancemethod" else "function"
  | method .. => "instancemethod"
  | property _ => "property"
  | .class _ => "type"
  | .instance c => c.value.name
  | generator isAsync => if isAsync then "async_generator" else "generator"
  | module _ => "module"
  | union => "UnionType"
  | slice .. => "slice"

end Value

/-- How a list of answers ends: with the last of them, or with a failure after it. A name without a
binding is a failure of its own, because alternatives skip it. -/
inductive Ending where
  | complete
  | failed
  | unbound
  deriving DecidableEq, Inhabited, Repr

structure Answers where
  values : List (Option Value)
  ending : Ending := .complete
  deriving Inhabited

namespace Answers

def one (v : Value) : Answers := ⟨[some v], .complete⟩
def unknown : Answers := ⟨[none], .complete⟩
def failed : Answers := ⟨[], .failed⟩
def unbound : Answers := ⟨[], .unbound⟩
def none : Answers := ⟨[], .complete⟩

/-- No answer at all is a failure. -/
def orFailed (a : Answers) : Answers :=
  if a.values.isEmpty && a.ending == .complete then failed else a

/-- The answers of one, then those of another; a failure ends them. -/
def append (a : Answers) (b : Answers) : Answers :=
  match a.ending with
  | .complete => ⟨a.values ++ b.values, b.ending⟩
  | _ => a

instance : Append Answers := ⟨append⟩

def join (all : List Answers) : Answers := all.foldr append none

/-- Goes on with every value; gaps stay. -/
def bind (a : Answers) (f : Value → Answers) : Answers :=
  join (a.values.map fun v? => (v?.map f).getD unknown) ++ ⟨[], a.ending⟩

/-- Alternatives: what is unbound is left out, another failure is a gap, and none at all is a
failure. -/
def settle (all : List Answers) : Answers :=
  let values := all.flatMap fun a =>
    a.values ++ (if a.ending == .failed then [Option.none] else [])
  if values.isEmpty then failed else ⟨values, .complete⟩

def first? (a : Answers) : Option Value := a.values.findSome? id

def only? (a : Answers) : Option Value :=
  match a.values, a.ending with
  | [some v], .complete => some v
  | _, _ => .none

end Answers

end ScenarioCheck.Infer
