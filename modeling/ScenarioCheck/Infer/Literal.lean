import ScenarioCheck.Infer.Arithmetic
import ScenarioCheck.Infer.Value

/-! Values that are literal through and through, and their comparison. Order is defined between
numbers, texts, rows of one kind and sets; asking for another order is an error. -/
namespace ScenarioCheck.Infer

open Source Number

inductive Literal where
  | constant (c : Constant)
  | row (kind : Row) (items : List Literal)
  | dict (entries : List (Literal × Literal))
  deriving Inhabited, Repr

mutual

/-- The literal that an expression is: displays of literals, and numbers with a sign. -/
def literal? : Expr → Option Literal
  | .constant _ c => some (.constant c)
  | .list _ items => (literals? items).map (.row .list)
  | .tuple _ items => (literals? items).map (.row .tuple)
  | .set _ items => (literals? items).map (.row .set)
  | .dict _ entries => (literalEntries? entries).map .dict
  | .unary _ .minus (.constant _ c) => signed? (constantSign .minus c) c
  | .unary _ .plus (.constant _ c) => signed? (constantSign .plus c) c
  | _ => none

def literals? : List Expr → Option (List Literal)
  | [] => some []
  | e :: rest => do return (← literal? e) :: (← literals? rest)

def literalEntries? : List (Option Expr × Expr) → Option (List (Literal × Literal))
  | [] => some []
  | (key?, value) :: rest => do
    let key ← literalKey? key?
    return (key, ← literal? value) :: (← literalEntries? rest)

def literalKey? : Option Expr → Option Literal
  | none => none
  | some e => literal? e

/-- Truth values take no sign here. -/
def signed? (o : Outcome) (c : Constant) : Option Literal :=
  match c, o with
  | .bool _, _ => none
  | _, .value r => some (.constant r)
  | _, _ => none

end

mutual

def Value.literal? : Value → Option Literal
  | .constant c => some (.constant c)
  | .row .frozenset _ => none
  | .row .set [] => some (.dict [])
  | .row kind items => (Item.literals? items).map (.row kind)
  | .dict entries => (Item.literalEntries? entries).map .dict
  | _ => none

def Item.literal? : Item → Option Literal
  | .expr e => Infer.literal? e.value
  | .value v => v.literal?

def Item.literals? : List Item → Option (List Literal)
  | [] => some []
  | i :: rest => do return (← i.literal?) :: (← Item.literals? rest)

def Item.literalEntries? : List (Item × Item) → Option (List (Literal × Literal))
  | [] => some []
  | (key, value) :: rest => do
    let k ← key.literal?
    return (k, ← value.literal?) :: (← Item.literalEntries? rest)

end

/-- Equality of literal values: numbers of all kinds are compared by value. -/
def sameConstant : Constant → Constant → Bool
  | .text s, .text t => s == t
  | .bytes s, .bytes t => s == t
  | .none, .none | .ellipsis, .ellipsis => true
  | .float x, .float y | .imaginary x, .imaginary y => x.equals y
  | .imaginary x, .float y | .float y, .imaginary x => x.isZero && y.isZero
  | .float x, c | c, .float x => (asInt? c).any x.equalsInt
  | .imaginary x, c | c, .imaginary x => x.isZero && asInt? c == some 0
  | a, b => (asInt? a).isSome && asInt? a == asInt? b

mutual

def Literal.same : Literal → Literal → Bool
  | .constant a, .constant b => sameConstant a b
  | .row .list a, .row .list b => Literal.sameAll a b
  | .row .tuple a, .row .tuple b => Literal.sameAll a b
  | .row .set a, .row .set b => Literal.within a b && b.length ≤ a.length
  | .dict a, .dict b => Literal.entriesWithin a b && b.length ≤ a.length
  | _, _ => false

def Literal.sameAll : List Literal → List Literal → Bool
  | [], [] => true
  | a :: as, b :: bs => a.same b && Literal.sameAll as bs
  | _, _ => false

def Literal.within : List Literal → List Literal → Bool
  | [], _ => true
  | a :: as, bs => bs.any a.same && Literal.within as bs

def Literal.entriesWithin : List (Literal × Literal) → List (Literal × Literal) → Bool
  | [], _ => true
  | (k, v) :: rest, bs =>
    (bs.any fun b => k.same b.1 && v.same b.2) && Literal.entriesWithin rest bs

end

/-- Lists in the order of their first difference; `less` orders the items where it can. -/
def listOrder? (less : Literal → Literal → Option Ordering) :
    List Literal → List Literal → Option Ordering
  | [], [] => some .eq
  | [], _ => some .lt
  | _, [] => some .gt
  | a :: as, b :: bs => if a.same b then listOrder? less as bs else less a b

def numberOrder? (a b : Constant) : Option Ordering :=
  match a, b with
  | .float x, .float y => some (order x y)
  | .float x, c => (asInt? c).map fun n => order x (.ofInt n)
  | c, .float y => (asInt? c).map fun n => order (.ofInt n) y
  | a, b => do return compare (← asInt? a) (← asInt? b)
where
  order (x y : Double) : Ordering := if x.less y then .lt else if y.less x then .gt else .eq

def bytesOrder : List Nat → List Nat → Ordering
  | [], [] => .eq
  | [], _ => .lt
  | _, [] => .gt
  | a :: as, b :: bs => if a = b then bytesOrder as bs else compare a b

def order? : Nat → Literal → Literal → Option Ordering
  | 0, _, _ => none
  | _ + 1, .constant (.text s), .constant (.text t) =>
    some (if s < t then .lt else if t < s then .gt else .eq)
  | _ + 1, .constant (.bytes s), .constant (.bytes t) => some (bytesOrder s t)
  | _ + 1, .constant a, .constant b => numberOrder? a b
  | n + 1, .row .list a, .row .list b => listOrder? (order? n) a b
  | n + 1, .row .tuple a, .row .tuple b => listOrder? (order? n) a b
  | _, _, _ => none

def isPart (part : List Char) : List Char → Bool
  | [] => part.isEmpty
  | c :: rest => part.isPrefixOf (c :: rest) || isPart part rest

def isIn? (a b : Literal) : Option Bool :=
  match b with
  | .row _ items => some (items.any a.same)
  | .dict entries => some (entries.any fun e => a.same e.1)
  | .constant (.text t) => match a with
    | .constant (.text s) => some (isPart s.toList t.toList)
    | _ => none
  | .constant (.bytes t) => match a with
    | .constant (.bytes s) => some (isPart (s.map Char.ofNat) (t.map Char.ofNat))
    | .constant c => (asInt? c).bind fun n =>
        if 0 ≤ n && n < 256 then some (t.contains n.toNat) else none
    | _ => none
  | _ => none

/-- Nesting deeper than this has no order. -/
def maxNesting : Nat := 100

/-- A comparison of literals; identity is not decided. -/
def compare? (o : Comparison) (a b : Literal) : Option Bool :=
  let ordered (accept : Ordering → Bool) (subset : List Literal → List Literal → Bool) :
      Option Bool :=
    match a, b with
    | .row .set x, .row .set y => some (subset x y)
    | _, _ => (order? maxNesting a b).map accept
  let proper (x y : List Literal) : Bool := Literal.within x y && !Literal.within y x
  match o with
  | .equal => some (a.same b)
  | .notEqual => some !a.same b
  | .less => ordered (· == .lt) proper
  | .lessEqual => ordered (· != .gt) Literal.within
  | .greater => ordered (· == .gt) fun x y => proper y x
  | .greaterEqual => ordered (· != .lt) fun x y => Literal.within y x
  | .isIn => isIn? a b
  | .notIn => (isIn? a b).map (!·)
  | .is | .isNot => none

end ScenarioCheck.Infer
