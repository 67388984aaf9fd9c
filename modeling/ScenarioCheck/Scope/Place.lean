import ScenarioCheck.Source.Syntax

/-! Where a statement stands: the branches of the compound statements around it, outermost first.
Two places are exclusive if no run passes through both. -/
namespace ScenarioCheck.Scope

open Source (Position)

inductive Branch where
  | whole
  | header
  | body
  | test
  | yes
  | no
  | tried
  | handler (index : Nat)
  | unfailed
  | final
  | case (index : Nat)
  deriving DecidableEq, Inhabited, Repr

namespace Branch

/-- Of two branches of one statement at most one runs to its end. -/
def isExclusive : Branch → Branch → Bool
  | yes, no | no, yes => true
  | tried, handler _ | handler _, tried => true
  | unfailed, handler _ | handler _, unfailed => true
  | handler i, handler j => i != j
  | _, _ => false

end Branch

structure Turn where
  position : Position
  branch : Branch
  deriving DecidableEq, Inhabited, Repr

abbrev Place := List Turn

namespace Place

/-- Places part at the first statement where they differ: they are exclusive if that is one
statement left through exclusive branches. -/
def isExclusive : Place → Place → Bool
  | a :: as, b :: bs =>
    a.position == b.position &&
      if a.branch == b.branch then isExclusive as bs else a.branch.isExclusive b.branch
  | _, _ => false

def statement? (p : Place) : Option Position := p.getLast?.map (·.position)

/-- What encloses the statement: a case of a match is a block of its own, the other branches belong
to their statement. -/
def block (p : Place) : List (Position × Option Nat) :=
  p.dropLast.map fun t => match t.branch with
    | .case i => (t.position, some i)
    | _ => (t.position, none)

def statements (p : Place) : List Position := p.map (·.position)

/-- A statement encloses what stands in it, its own header included. -/
def encloses (outer inner : Place) : Bool := outer.statements.isPrefixOf inner.statements

end Place

end ScenarioCheck.Scope
