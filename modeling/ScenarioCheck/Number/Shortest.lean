import ScenarioCheck.Number.Double

/-! The shortest decimal that reads back as a given number, and its text. -/
namespace ScenarioCheck.Number
namespace Double

structure Decimal where
  digits : List Char
  point : Int
  deriving Repr

/-- How often `num / den < 1` has to be multiplied by ten to reach 1. -/
def leadingZeros (den : Nat) : Nat → Nat → Nat
  | 0, _ => 0
  | fuel + 1, num => if den ≤ num then 0 else leadingZeros den fuel (num * 10) + 1

/-- The decimal point of `num / den`: the count of digits before it, negative or zero if the value
is below a tenth. -/
def pointOf (num den : Nat) : Int :=
  if den ≤ num then (Nat.toDigits 10 (num / den)).length
  else 1 - (leadingZeros den 400 num : Int)

/-- `num / den` on the grid of decimals with `count` digits: the neighbour below. -/
def gridFloor (num den : Nat) (point : Int) (count : Nat) : Nat :=
  let shift := (count : Int) - point
  if shift < 0 then num / (den * Nat.pow 10 shift.natAbs) else num * Nat.pow 10 shift.natAbs / den

/-- Twice the distance of `num / den` from the middle between `below` and its upper neighbour is
negative below the middle and positive above it. -/
def overMiddle (num den : Nat) (point : Int) (count below : Nat) : Int :=
  let shift := (count : Int) - point
  if shift < 0 then 2 * (num : Int) - (2 * below + 1) * (den * Nat.pow 10 shift.natAbs : Nat)
  else 2 * ((num * Nat.pow 10 shift.natAbs : Nat) : Int) - (2 * below + 1) * (den : Int)

/-- The neighbours of a value with `count` digits that read back as the value, nearest first; of
two equally near the even one is first. -/
def candidate? (x : Double) (num den : Nat) (point : Int) (count : Nat) : Option Nat :=
  let below := gridFloor num den point count
  let reads (n : Nat) : Bool := ofDecimal false n (point - count) == x
  let side := overMiddle num den point count below
  let upFirst := 0 < side || (side == 0 && below % 2 == 1)
  let order := if upFirst then [below + 1, below] else [below, below + 1]
  order.find? reads

/-- The first count of digits, from `count` on, for which a neighbour reads back. -/
def shortestFrom (x : Double) (num den : Nat) (point : Int) : Nat → Nat → Decimal
  | 0, _ => ⟨['0'], 1⟩
  | fuel + 1, count =>
    match candidate? x num den point count with
    | some n =>
      let digits := Nat.toDigits 10 n
      let kept := (digits.reverse.dropWhile (· == '0')).reverse
      ⟨kept, point + digits.length - count⟩
    | none => shortestFrom x num den point fuel (count + 1)

/-- The fewest digits that read back, and of those the nearest. -/
def shortest (mantissa : Nat) (exponent : Int) : Decimal :=
  if mantissa = 0 then ⟨['0'], 1⟩
  else
    let (num, den) :=
      if exponent < 0 then (mantissa, Nat.pow 2 exponent.natAbs) else (mantissa * Nat.pow 2 exponent.natAbs, 1)
    shortestFrom (.finite false mantissa exponent) num den (pointOf num den) 17 1

/-- How a decimal is written: positionally while the point lies in the window, else with one digit
before the point and an exponent of at least two digits. A whole number ends in `wholeEnd`. -/
structure Style where
  least : Int
  greatest : Int
  wholeEnd : String

/-- Values are written positionally from `0.0001` below `1e16`, whole ones with `.0`. -/
def valueStyle : Style := ⟨-3, 16, ".0"⟩

/-- The imaginary unit follows a number without `.0`. -/
def imaginaryStyle : Style := ⟨-3, 16, ""⟩

def Decimal.write (style : Style) (d : Decimal) : String :=
  let n : Int := d.digits.length
  if style.least ≤ d.point ∧ d.point ≤ style.greatest then
    if d.point ≤ 0 then "0." ++ String.ofList (List.replicate d.point.natAbs '0' ++ d.digits)
    else if n ≤ d.point then
      String.ofList (d.digits ++ List.replicate (d.point - n).toNat '0') ++ style.wholeEnd
    else String.ofList (d.digits.take d.point.toNat ++ '.' :: d.digits.drop d.point.toNat)
  else
    let e := d.point - 1
    let mark := if e < 0 then "e-" else "e+"
    let text := toString e.natAbs
    let text := if text.length < 2 then "0" ++ text else text
    let lead := match d.digits with
      | [] => "0"
      | [c] => String.singleton c
      | c :: rest => String.ofList (c :: '.' :: rest)
    lead ++ mark ++ text

def write (style : Style) : Double → String
  | .nan _ => "nan"
  | .infinite negative => if negative then "-inf" else "inf"
  | .finite negative mantissa exponent =>
    (if negative then "-" else "") ++ (shortest mantissa exponent).write style

def shown (x : Double) : String := x.write valueStyle

end Double
end ScenarioCheck.Number
