import ScenarioCheck.Number.Arithmetic
import ScenarioCheck.Source.Printer

/-! Operators on literal values. An operation may give a value, be unknown to its operands, or break
down while it runs. -/
namespace ScenarioCheck.Infer

open Source Number

inductive Outcome where
  | value (c : Constant)
  | unsupported
  | broken
  deriving DecidableEq, Inhabited, Repr

namespace Outcome

def ofOption (c? : Option Constant) : Outcome := (c?.map value).getD broken

end Outcome

/-- A truth value counts as a number. -/
def asInt? : Constant → Option Int
  | .bool b => some (if b then 1 else 0)
  | .int n => some n
  | _ => none

/-- A whole number beyond the greatest double is not one. -/
def asDouble? (c : Constant) : Option Double :=
  match c with
  | .float x => some x
  | c => (asInt? c).bind fun n => match Double.ofInt n with
    | .infinite _ => none
    | x => some x

def isTrue : Constant → Bool
  | .none => false
  | .ellipsis => true
  | .bool b => b
  | .int n => n != 0
  | .float x | .imaginary x => !x.isZero
  | .text s => !s.isEmpty
  | .bytes content => !content.isEmpty

/-- Enough binary digits for two whole numbers and a sign. -/
def width (a b : Int) : Nat := max a.natAbs.log2 b.natAbs.log2 + 2

/-- An operation on the binary digits of two whole numbers in two's complement. -/
def bitwise (f : Nat → Nat → Nat) (a b : Int) : Int :=
  let w := width a b
  let m : Int := Int.pow 2 w
  let r : Int := (f (a % m).toNat (b % m).toNat % Nat.pow 2 w : Nat)
  if r < Int.pow 2 (w - 1) then r else r - m

/-- Shifts beyond this width are not carried out. -/
def maxShift : Int := 10000000

/-- Powers with an operand beyond this are left alone. -/
def maxPowerOperand : Int := 100000

def intPower (a b : Int) : Outcome :=
  if a > maxPowerOperand || b > maxPowerOperand then .unsupported
  else if b ≥ 0 then .value (.int (Int.pow a b.toNat))
  else if a = 0 then .broken
  else
    let den := Int.pow a b.natAbs
    .value (.float (.ofRatio (den < 0) 1 den.natAbs))

def intOperation (o : BinaryOperator) (a b : Int) : Outcome :=
  match o with
  | .add => .value (.int (a + b))
  | .subtract => .value (.int (a - b))
  | .multiply => .value (.int (a * b))
  | .matrixMultiply => .unsupported
  | .divide =>
    if b = 0 then .broken
    else match Double.ofRatio ((a < 0) != (b < 0)) a.natAbs b.natAbs with
      | .infinite _ => .broken
      | x => .value (.float x)
  | .floorDivide => if b = 0 then .broken else .value (.int (Int.fdiv a b))
  | .modulo => if b = 0 then .broken else .value (.int (Int.fmod a b))
  | .power => intPower a b
  | .shiftLeft =>
    if b < 0 || b > maxShift then .broken else .value (.int (a * Int.pow 2 b.toNat))
  | .shiftRight =>
    if b < 0 then .broken
    else .value (.int (if b > maxShift then if a < 0 then -1 else 0 else Int.fdiv a (Int.pow 2 b.toNat)))
  | .bitAnd => .value (.int (bitwise Nat.land a b))
  | .bitOr => .value (.int (bitwise Nat.lor a b))
  | .bitXor => .value (.int (bitwise Nat.xor a b))

/-- Truth values stay truth values under the operations on binary digits. -/
def boolOperation? (o : BinaryOperator) (a b : Bool) : Option Bool :=
  match o with
  | .bitAnd => some (a && b)
  | .bitOr => some (a || b)
  | .bitXor => some (a != b)
  | _ => none

def floatOperation (o : BinaryOperator) (x y : Double) : Outcome :=
  match o with
  | .add => .value (.float (x.add y))
  | .subtract => .value (.float (x.add y.negate))
  | .multiply => .value (.float (x.multiply y))
  | .divide => .ofOption ((x.divide? y).map .float)
  | .floorDivide => .ofOption ((x.divideFloor? y).map fun q => .float q.1)
  | .modulo => .ofOption ((x.divideFloor? y).map fun q => .float q.2)
  | .power =>
    let beyond (x : Double) : Bool := (Double.ofInt maxPowerOperand).less x
    if beyond x || beyond y then .unsupported
    else match y.ratio? with
      | some (_, 1) => .ofOption ((x.power? y).map .float)
      | _ =>
        if x.isNegative && !x.isZero then .value (.imaginary (Double.ofInt 1))
        else .ofOption ((x.power? y).map .float)
  | _ => .unsupported

def asComplex? (c : Constant) : Option (Double × Double) :=
  match c with
  | .imaginary x => some (.zero false, x)
  | c => (asDouble? c).map fun x => (x, .zero false)

/-- Of a complex result only the imaginary part is kept. -/
def complexOperation (o : BinaryOperator) (x y : Double × Double) : Outcome :=
  match o with
  | .add => .value (.imaginary (x.2.add y.2))
  | .subtract => .value (.imaginary (x.2.add y.2.negate))
  | .multiply => .value (.imaginary ((x.1.multiply y.2).add (x.2.multiply y.1)))
  | .divide =>
    if y.1.isZero then .ofOption ((x.1.divide? y.2).map fun q => .imaginary q.negate)
    else .ofOption ((x.2.divide? y.1).map .imaginary)
  | .power => .value (.imaginary x.2)
  | _ => .unsupported

/-- Longer repetitions are cut. -/
def maxRepetition : Nat := 100000

def repeated (n : Int) (α : List Nat) : List Nat :=
  (List.replicate (min n.toNat maxRepetition) α).flatten

def repeatedText (n : Int) (s : String) : String :=
  String.join (List.replicate (min n.toNat maxRepetition) s)

def converted? (kind : Char) (c : Constant) : Option String :=
  let isNumber := (asInt? c).isSome || (match c with
    | .float _ => true
    | _ => false)
  let plain := match c with
    | .text s => s
    | c => c.shown
  match kind with
  | 's' => some plain
  | 'r' | 'a' => some c.shown
  | 'd' | 'i' | 'u' | 'e' | 'E' | 'f' | 'F' | 'g' | 'G' => if isNumber then some plain else none
  | 'x' | 'X' | 'o' => (asInt? c).map toString
  | 'c' => match c with
    | .text s => if s.length = 1 then some s else none
    | c => (asInt? c).bind fun n =>
        if 0 ≤ n && n < 0x110000 then some (String.singleton (Char.ofNat n.toNat)) else none
  | _ => none

inductive Formatted where
  | text (s : List Char)
  | mismatch
  | malformed

def isFlag (c : Char) : Bool := c == '#' || c == '0' || c == '-' || c == ' ' || c == '+'

def afterPrecision : List Char → List Char
  | '.' :: rest => rest.dropWhile Char.isDigit
  | rest => rest

def afterLength : List Char → List Char
  | 'l' :: rest | 'h' :: rest | 'L' :: rest => rest
  | rest => rest

def conversionKind (text : List Char) : List Char :=
  afterLength (afterPrecision ((text.dropWhile isFlag).dropWhile Char.isDigit))

theorem length_dropWhile_le (p : Char → Bool) (l : List Char) :
    (l.dropWhile p).length ≤ l.length := (List.dropWhile_suffix p).length_le

theorem length_afterPrecision_le (l : List Char) : (afterPrecision l).length ≤ l.length := by
  unfold afterPrecision
  split
  · exact Nat.le_succ_of_le (length_dropWhile_le _ _)
  · exact Nat.le_refl _

theorem length_afterLength_le (l : List Char) : (afterLength l).length ≤ l.length := by
  unfold afterLength
  split <;> simp

theorem length_conversionKind_le (text : List Char) :
    (conversionKind text).length ≤ text.length :=
  calc (conversionKind text).length
    _ ≤ _ := length_afterLength_le _
    _ ≤ _ := length_afterPrecision_le _
    _ ≤ _ := length_dropWhile_le _ _
    _ ≤ _ := length_dropWhile_le _ _

/-- What a format draws its values from: a row that has to be used up, or a mapping. -/
inductive Supply where
  | row (values : List Constant)
  | mapping (entries : List (Constant × Constant))
  deriving Repr

def Supply.named? (key : String) : Supply → Option Constant
  | row _ => none
  | mapping entries => (entries.find? (·.1 == .text key)).map (·.2)

def afterKey (text : List Char) : List Char := (text.dropWhile (· != ')')).drop 1

theorem length_afterKey_le (l : List Char) : (afterKey l).length ≤ l.length := by
  have := length_dropWhile_le (· != ')') l
  simp only [afterKey, List.length_drop]
  omega

def format (supply : Supply) (out : List Char) : List Char → Formatted
  | [] => match supply with
    | .row (_ :: _) => .mismatch
    | _ => .text out.reverse
  | '%' :: '%' :: rest => format supply ('%' :: out) rest
  | '%' :: '(' :: rest =>
    match supply.named? (String.ofList (rest.takeWhile (· != ')'))) with
    | none => .mismatch
    | some c =>
      match h : conversionKind (afterKey rest) with
      | [] => .malformed
      | kind :: after =>
        have : after.length < rest.length + 2 := by
          have h1 := length_conversionKind_le (afterKey rest)
          have h2 := length_afterKey_le rest
          simp [h] at h1
          omega
        match converted? kind c with
        | some s => format supply (s.toList.reverse ++ out) after
        | none => if kind.isAlpha then .mismatch else .malformed
  | '%' :: rest =>
    match h : conversionKind rest with
    | [] => .malformed
    | kind :: after =>
      have : after.length < rest.length + 1 := by
        have := length_conversionKind_le rest
        simp [h] at this
        omega
      match supply with
      | .mapping _ => .text out.reverse
      | .row [] => .mismatch
      | .row (c :: left) =>
        match converted? kind c with
        | some s => format (.row left) (s.toList.reverse ++ out) after
        | none => if kind.isAlpha then .mismatch else .malformed
  | c :: rest => format supply (c :: out) rest
termination_by text => text.length

def formatted (s : String) (supply : Supply) : Outcome :=
  match format supply [] s.toList with
  | .text t => .value (.text (String.ofList t))
  | .mismatch => .unsupported
  | .malformed => .broken

def constantOperation (o : BinaryOperator) (a b : Constant) : Outcome :=
  match a, b with
  | .text s, .text t =>
    match o with
    | .add => .value (.text (s ++ t))
    | .modulo => formatted s (.row [.text t])
    | _ => .unsupported
  | .bytes s, .bytes t => if o == .add then .value (.bytes (s ++ t)) else .unsupported
  | .text s, c =>
    match o, asInt? c with
    | .multiply, some n => .value (.text (repeatedText n s))
    | .modulo, _ => formatted s (.row [c])
    | _, _ => .unsupported
  | .bytes s, c =>
    match o, asInt? c with
    | .multiply, some n => .value (.bytes (repeated n s))
    | _, _ => .unsupported
  | c, .text s =>
    match o, asInt? c with
    | .multiply, some n => .value (.text (repeatedText n s))
    | _, _ => .unsupported
  | c, .bytes s =>
    match o, asInt? c with
    | .multiply, some n => .value (.bytes (repeated n s))
    | _, _ => .unsupported
  | .bool x, .bool y =>
    match boolOperation? o x y with
    | some r => .value (.bool r)
    | none => intOperation o (if x then 1 else 0) (if y then 1 else 0)
  | a, b =>
    match asInt? a, asInt? b with
    | some x, some y => intOperation o x y
    | _, _ =>
      if isNumber a && isNumber b then
        match isComplex a || isComplex b, asDouble? a, asDouble? b with
        | false, some x, some y => floatOperation o x y
        | false, _, _ => .broken
        | true, _, _ =>
          match asComplex? a, asComplex? b with
          | some x, some y => complexOperation o x y
          | _, _ => .broken
      else .unsupported
where
  isComplex : Constant → Bool
    | .imaginary _ => true
    | _ => false
  isNumber : Constant → Bool
    | .bool _ | .int _ | .float _ | .imaginary _ => true
    | _ => false

def constantSign (o : UnaryOperator) (c : Constant) : Outcome :=
  match o with
  | .not => .value (.bool !isTrue c)
  | .invert => match asInt? c with
    | some n => .value (.int (-n - 1))
    | none => .unsupported
  | .plus => signed id id
  | .minus => signed (- ·) Double.negate
where
  signed (f : Int → Int) (g : Double → Double) : Outcome :=
    match c with
    | .float x => .value (.float (g x))
    | .imaginary x => .value (.imaginary (g x))
    | c => match asInt? c with
      | some n => .value (.int (f n))
      | none => .unsupported

end ScenarioCheck.Infer
