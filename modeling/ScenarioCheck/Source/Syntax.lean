import ScenarioCheck.Number.Double

/-! Syntax trees of the Python modules that declare steps. A node knows the position of its first
token; expressions hold no statements. -/
namespace ScenarioCheck.Source

open Number (Double)

/-- Lines count from 1, columns from 0 and in bytes of UTF-8. -/
structure Position where
  line : Nat
  column : Nat
  deriving DecidableEq, Inhabited, Repr

inductive Constant where
  | none
  | ellipsis
  | bool (b : Bool)
  | int (n : Int)
  | float (x : Double)
  | imaginary (x : Double)
  | text (s : String)
  | bytes (content : List Nat)
  deriving DecidableEq, Inhabited, Repr

inductive UnaryOperator where
  | plus
  | minus
  | invert
  | not
  deriving DecidableEq, Inhabited, Repr

inductive BinaryOperator where
  | add
  | subtract
  | multiply
  | matrixMultiply
  | divide
  | modulo
  | power
  | shiftLeft
  | shiftRight
  | bitOr
  | bitXor
  | bitAnd
  | floorDivide
  deriving DecidableEq, Inhabited, Repr

inductive BooleanOperator where
  | and
  | or
  deriving DecidableEq, Inhabited, Repr

inductive Comparison where
  | equal
  | notEqual
  | less
  | lessEqual
  | greater
  | greaterEqual
  | is
  | isNot
  | isIn
  | notIn
  deriving DecidableEq, Inhabited, Repr

/-- A keyword argument; without a name it spreads a mapping over several. -/
structure Keyword (ε : Type) where
  position : Position
  name? : Option String
  value : ε
  deriving Inhabited, Repr

structure Parameter (ε : Type) where
  position : Position
  name : String
  hint? : Option ε
  default? : Option ε
  deriving Inhabited, Repr

structure Parameters (ε : Type) where
  positionalOnly : List (Parameter ε) := []
  positional : List (Parameter ε) := []
  rest? : Option (Parameter ε) := none
  keywordOnly : List (Parameter ε) := []
  keywords? : Option (Parameter ε) := none
  deriving Inhabited, Repr

def Parameters.inOrder {ε : Type} (ps : Parameters ε) : List (Parameter ε) :=
  ps.positionalOnly ++ ps.positional ++ ps.rest?.toList ++ ps.keywordOnly ++ ps.keywords?.toList

structure Clause (ε : Type) where
  isAsync : Bool
  target : ε
  source : ε
  conditions : List ε
  deriving Inhabited, Repr

inductive Collected where
  | list
  | set
  | generator
  deriving DecidableEq, Inhabited, Repr

inductive Expr where
  | name (position : Position) (id : String)
  | constant (position : Position) (value : Constant)
  /-- A text with embedded expressions: its parts are texts and `formatted` nodes. -/
  | joined (position : Position) (parts : List Expr)
  | formatted (position : Position) (value : Expr) (conversion? : Option Char) (spec? : Option Expr)
  | list (position : Position) (items : List Expr)
  | tuple (position : Position) (items : List Expr)
  | set (position : Position) (items : List Expr)
  /-- Entries of a dictionary; without a key an entry spreads another mapping. -/
  | dict (position : Position) (entries : List (Option Expr × Expr))
  | starred (position : Position) (value : Expr)
  | attribute (position : Position) (value : Expr) (name : String)
  | call (position : Position) (function : Expr) (arguments : List Expr)
      (keywords : List (Keyword Expr))
  | subscript (position : Position) (value : Expr) (index : Expr)
  | slice (position : Position) (lower? upper? step? : Option Expr)
  | unary (position : Position) (operator : UnaryOperator) (operand : Expr)
  | binary (position : Position) (operator : BinaryOperator) (left right : Expr)
  | boolean (position : Position) (operator : BooleanOperator) (operands : List Expr)
  | compare (position : Position) (left : Expr) (rest : List (Comparison × Expr))
  | conditional (position : Position) (test yes no : Expr)
  | lambda (position : Position) (parameters : Parameters Expr) (body : Expr)
  | comprehension (position : Position) (kind : Collected) (element : Expr)
      (clauses : List (Clause Expr))
  | dictComprehension (position : Position) (key value : Expr) (clauses : List (Clause Expr))
  | await (position : Position) (value : Expr)
  | yield (position : Position) (value? : Option Expr)
  | yieldFrom (position : Position) (value : Expr)
  | bind (position : Position) (target : Expr) (value : Expr)
  deriving Inhabited, Repr

def Expr.position : Expr → Position
  | .name p .. | .constant p .. | .joined p .. | .formatted p .. | .list p .. | .tuple p ..
  | .set p .. | .dict p .. | .starred p .. | .attribute p .. | .call p .. | .subscript p ..
  | .slice p .. | .unary p .. | .binary p .. | .boolean p .. | .compare p .. | .conditional p ..
  | .lambda p .. | .comprehension p .. | .dictComprehension p .. | .await p .. | .yield p ..
  | .yieldFrom p .. | .bind p .. => p

structure Decorator where
  value : Expr
  lastLine : Nat
  deriving Inhabited, Repr

structure Alias where
  name : String
  asName? : Option String
  deriving DecidableEq, Inhabited, Repr

structure Handler (σ : Type) where
  position : Position
  type? : Option Expr
  name? : Option (String × Position)
  body : List σ
  deriving Inhabited, Repr

/-- One case of a `match` statement: its pattern is known by the names it binds. -/
structure Case (σ : Type) where
  captures : List (String × Position)
  guard? : Option Expr
  body : List σ
  deriving Inhabited, Repr

structure Resource where
  value : Expr
  target? : Option Expr
  deriving Inhabited, Repr

inductive Stmt where
  | expr (position : Position) (value : Expr)
  | assign (position : Position) (targets : List Expr) (value : Expr)
  | augmented (position : Position) (target : Expr) (operator : BinaryOperator) (value : Expr)
  | annotated (position : Position) (target hint : Expr) (value? : Option Expr)
  | return (position : Position) (value? : Option Expr)
  | delete (position : Position) (targets : List Expr)
  | raise (position : Position) (exception? cause? : Option Expr)
  | assert (position : Position) (test : Expr) (message? : Option Expr)
  | global (position : Position) (names : List String)
  | nonlocal (position : Position) (names : List String)
  | pass (position : Position)
  | break (position : Position)
  | continue (position : Position)
  | import (position : Position) (modules : List Alias)
  /-- Names from a module; the level counts the leading dots, and a star stands for all names. -/
  | importFrom (position : Position) (module? : Option String) (level : Nat) (names : List Alias)
  | if (position : Position) (test : Expr) (body orelse : List Stmt)
  | while (position : Position) (test : Expr) (body orelse : List Stmt)
  | for (position : Position) (isAsync : Bool) (target source : Expr) (body orelse : List Stmt)
  | try (position : Position) (body : List Stmt) (handlers : List (Handler Stmt))
      (orelse final : List Stmt)
  | with (position : Position) (isAsync : Bool) (resources : List Resource) (body : List Stmt)
  | match (position : Position) (subject : Expr) (cases : List (Case Stmt))
  | function (position : Position) (isAsync : Bool) (name : String) (parameters : Parameters Expr)
      (returns? : Option Expr) (decorators : List Decorator) (body : List Stmt)
  | class (position : Position) (name : String) (bases : List Expr)
      (keywords : List (Keyword Expr)) (decorators : List Decorator) (body : List Stmt)
  deriving Inhabited, Repr

/-- Where a statement starts; a definition starts behind its decorators. -/
def Stmt.position : Stmt → Position
  | .expr p .. | .assign p .. | .augmented p .. | .annotated p .. | .return p .. | .delete p ..
  | .raise p .. | .assert p .. | .global p .. | .nonlocal p .. | .pass p | .break p | .continue p
  | .import p .. | .importFrom p .. | .if p .. | .while p .. | .for p .. | .try p .. | .with p ..
  | .match p .. | .function p .. | .class p .. => p

end ScenarioCheck.Source
