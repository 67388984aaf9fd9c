import ScenarioCheck.Number.Double

/-! Arithmetic on double precision numbers: the exact result, rounded once. -/
namespace ScenarioCheck.Number.Double

/-- The label of every NaN that arises in a computation. -/
def notANumber : Double := .nan 0

def isNegative : Double → Bool
  | .nan _ => false
  | .infinite s => s
  | .finite s _ _ => s

def isZero : Double → Bool
  | .finite _ m _ => m == 0
  | _ => false

def negate : Double → Double
  | .nan l => .nan l
  | .infinite s => .infinite !s
  | .finite s m e => .finite (!s) m e

/-- The rounded quotient of two whole numbers; the sign of a zero is given. -/
def ofQuotient (zeroSign : Bool) (num : Int) (den : Nat) : Double :=
  if num = 0 then zero zeroSign else ofRatio (num < 0) num.natAbs den

def add (x y : Double) : Double :=
  match x, y with
  | .nan l, _ | _, .nan l => .nan l
  | .infinite s, .infinite t => if s == t then x else notANumber
  | .infinite _, _ => x
  | _, .infinite _ => y
  | x, y =>
    match x.ratio?, y.ratio? with
    | some (n, d), some (n', d') =>
      ofQuotient (x.isNegative && y.isNegative) (n * d' + n' * d) (d * d')
    | _, _ => notANumber

def multiply (x y : Double) : Double :=
  let sign := x.isNegative != y.isNegative
  match x, y with
  | .nan l, _ | _, .nan l => .nan l
  | .infinite _, _ | _, .infinite _ =>
    if x.isZero || y.isZero then notANumber else .infinite sign
  | x, y =>
    match x.ratio?, y.ratio? with
    | some (n, d), some (n', d') => ofQuotient sign (n * n') (d * d')
    | _, _ => notANumber

/-- A divisor of zero has no quotient. -/
def divide? (x y : Double) : Option Double :=
  let sign := x.isNegative != y.isNegative
  if y.isZero then none
  else match x, y with
    | .nan l, _ | _, .nan l => some (.nan l)
    | .infinite _, .infinite _ => some notANumber
    | .infinite _, _ => some (.infinite sign)
    | _, .infinite _ => some (zero sign)
    | x, y =>
      match x.ratio?, y.ratio? with
      | some (n, d), some (n', d') =>
        some (ofQuotient sign (if n' < 0 then -(n * d') else n * d') (d * n'.natAbs))
      | _, _ => none

/-- The quotient rounded down, and the remainder that takes the sign of the divisor. -/
def divideFloor? (x y : Double) : Option (Double × Double) :=
  if y.isZero then none
  else match x.ratio?, y.ratio?, y with
    | some (n, d), some (n', d'), _ =>
      let q := Int.fdiv (n * d') (n' * d)
      let rest := n * d' - q * (n' * d)
      some (ofQuotient (x.isNegative != y.isNegative) q 1,
        ofQuotient y.isNegative rest (d * d'))
    | some _, none, .infinite s =>
      if x.isZero || x.isNegative == s then some (zero (x.isNegative != s), x)
      else some (ofInt (-1), y)
    | _, _, _ => some (notANumber, notANumber)

def toFloat : Double → Float
  | .nan _ => 0.0 / 0.0
  | .infinite s => if s then -1.0 / 0.0 else 1.0 / 0.0
  | .finite s m e =>
    let x := (Float.ofNat m).scaleB e
    if s then -x else x

def ofFloat (x : Float) : Double :=
  let bits := x.toBits.toNat
  let sign := decide (Nat.pow 2 63 ≤ bits)
  let exponent : Nat := bits / Nat.pow 2 52 % Nat.pow 2 11
  let fraction : Nat := bits % Nat.pow 2 52
  if exponent = 2047 then if fraction = 0 then .infinite sign else notANumber
  else if exponent = 0 then .finite sign fraction minExponent
  else .finite sign (fraction + Nat.pow 2 52) ((exponent : Int) - 1075)

/-- Zero has no negative power; roots of negative numbers are not real. -/
def power? (x y : Double) : Option Double :=
  if x.isZero && y.isNegative && !y.isZero then none
  else
    let r := ofFloat (x.toFloat.pow y.toFloat)
    match x, y, r with
    | .finite .., .finite .., .infinite _ => none
    | _, _, r => some r

end ScenarioCheck.Number.Double
