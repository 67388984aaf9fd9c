/-! Double precision numbers as exact data: a sign, a mantissa and a binary exponent. Reading
rounds a ratio to the nearest number, half to even. -/
namespace ScenarioCheck.Number

/-- A binary number of 53 significant bits. A finite value is `mantissa * 2 ^ exponent`; it is kept
with `exponent` at least `-1074` and, above that, with a mantissa of exactly 53 bits. A NaN carries
a label: two computations that are not numbers are told apart. -/
inductive Double where
  | nan (label : Nat)
  | infinite (negative : Bool)
  | finite (negative : Bool) (mantissa : Nat) (exponent : Int)
  deriving DecidableEq, Inhabited, Repr

namespace Double

def minExponent : Int := -1074

def maxExponent : Int := 971

def zero (negative : Bool) : Double := .finite negative 0 minExponent

def roundHalfEven (num den : Nat) : Nat :=
  let q := num / den
  let r := num % den
  if 2 * r < den then q else if den < 2 * r then q + 1 else if q % 2 = 0 then q else q + 1

def scaled (num den : Nat) (exponent : Int) : Nat :=
  if exponent < 0 then roundHalfEven (num * Nat.pow 2 exponent.natAbs) den
  else roundHalfEven num (den * Nat.pow 2 exponent.natAbs)

def scaledFloor (num den : Nat) (exponent : Int) : Nat :=
  if exponent < 0 then num * Nat.pow 2 exponent.natAbs / den else num / (den * Nat.pow 2 exponent.natAbs)

/-- The exponent at which `num / den` has a mantissa of 53 bits, never below the least one. -/
def exponentOf (num den : Nat) : Int :=
  let guess : Int := (num.log2 : Int) - den.log2 - 52
  let fitted :=
    if Nat.pow 2 53 ≤ scaledFloor num den guess then guess + 1
    else if scaledFloor num den guess < Nat.pow 2 52 then guess - 1 else guess
  max fitted minExponent

/-- The number nearest to `± num / den`. -/
def ofRatio (negative : Bool) (num den : Nat) : Double :=
  if num = 0 then zero negative
  else
    let exponent := exponentOf num den
    let mantissa := scaled num den exponent
    let (mantissa, exponent) := if mantissa = Nat.pow 2 53 then (Nat.pow 2 52, exponent + 1) else (mantissa, exponent)
    if maxExponent < exponent then .infinite negative else .finite negative mantissa exponent

/-- The number nearest to `± digits * 10 ^ exponent`. -/
def ofDecimal (negative : Bool) (digits : Nat) (exponent : Int) : Double :=
  if digits = 0 then zero negative
  else
    let magnitude : Int := (Nat.log2 digits : Int) / 3 + exponent
    if 500 < magnitude then .infinite negative
    else if exponent < -1000 ∧ (Nat.log2 digits : Int) < 3 * (-exponent - 500) then zero negative
    else if exponent < 0 then ofRatio negative digits (Nat.pow 10 exponent.natAbs)
    else ofRatio negative (digits * Nat.pow 10 exponent.natAbs) 1

def ofInt (n : Int) : Double := ofRatio (n < 0) n.natAbs 1

/-- Exact order and equality of a finite value with a whole number need its value as a ratio. -/
def ratio? : Double → Option (Int × Nat)
  | .finite negative mantissa exponent =>
    let sign : Int := if negative then -1 else 1
    if exponent < 0 then some (sign * mantissa, Nat.pow 2 exponent.natAbs)
    else some (sign * (mantissa * Nat.pow 2 exponent.natAbs : Nat), 1)
  | _ => none

/-- Equality of values: zeros of either sign are equal, a NaN equals nothing. -/
def equals : Double → Double → Bool
  | .nan _, _ | _, .nan _ => false
  | .infinite a, .infinite b => a == b
  | .finite s m e, .finite s' m' e' => m == m' && (m == 0 || (s == s' && e == e'))
  | _, _ => false

def equalsInt (x : Double) (n : Int) : Bool :=
  match x.ratio? with
  | some (num, den) => num == n * den
  | none => false

/-- Exact comparison `x < y`; false if either is a NaN. -/
def less (x y : Double) : Bool :=
  match x, y with
  | .nan _, _ | _, .nan _ => false
  | .infinite a, .infinite b => a && !b
  | .infinite a, _ => a
  | _, .infinite b => !b
  | x, y =>
    match x.ratio?, y.ratio? with
    | some (n, d), some (n', d') => n * d' < n' * d
    | _, _ => false

end Double
end ScenarioCheck.Number
